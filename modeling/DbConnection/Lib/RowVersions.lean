import Mathlib.Order.Defs.Unbundled
import DbConnection.Lib.ReadModifyWrite

/-!
# The versions of a row

What holds of every version of a row that concurrent transactions leave, whatever the order of
their statements. A property that each transaction's writes have, as long as what it reads has it
(`Prog.Writes`), holds of all versions (`Versions.of_reaches`). A preorder that each transaction's
updates go up in, as long as the versions it read are below the row it updates (`Prog.Climbs`),
relates the committed row of a key to every later one (`climbs_of_reaches`).

Two kinds of transactions have both by what they write: read-modify-write transactions, and those
that read and then insert at most one row (`Prog.Inserting`).
-/

namespace ReadCommitted

variable {ι K R E α β : Type} [Keyed R K]

section Rows

variable [DecidableEq K]

/-- A row of a table after a write is the written one or was there. -/
theorem mem_put {rows : List R} {r x : R} (h : x ∈ put rows r) : x = r ∨ x ∈ rows := by
  induction rows with
  | nil => exact .inl (List.mem_singleton.mp h)
  | cons y rows ih =>
    unfold put at h
    split at h
    · rcases List.mem_cons.mp h with rfl | h
      · exact .inl rfl
      · exact .inr (List.mem_cons_of_mem _ h)
    · rcases List.mem_cons.mp h with rfl | h
      · exact .inr List.mem_cons_self
      · exact (ih h).imp_right (List.mem_cons_of_mem _)

/-- A row that a transaction sees is a version of its own or a committed one. -/
theorem mem_overlay {committed pend : List R} {x : R} (h : x ∈ overlay committed pend) :
    x ∈ pend ∨ x ∈ committed := by
  induction pend generalizing committed with
  | nil => exact .inr h
  | cons r pend ih =>
    rcases ih h with hx | hx
    · exact .inl (List.mem_cons_of_mem _ hx)
    · rcases mem_put hx with rfl | hx
      · exact .inl List.mem_cons_self
      · exact .inr hx

end Rows

/-! ## Transactions that insert -/

/-- A transaction that only reads before it commits, and ends there. -/
def Prog.Finishes : Prog R E α → Prop
  | .pure _ => True
  | .throw _ => True
  | .select _ next => ∀ rows, (next rows).Finishes
  | .insert _ _ _ => False
  | .update _ _ _ => False
  | .commit next => next.outcome.isSome

/-- A transaction that reads, and ends or inserts one row that satisfies `P` and finishes. -/
def Prog.Inserting (P : R → Prop) : Prog R E α → Prop
  | .pure _ => True
  | .throw _ => True
  | .select _ next => ∀ rows, (next rows).Inserting P
  | .insert row _ next => P row ∧ next.Finishes
  | .update _ _ _ => False
  | .commit _ => False

/-- A result computed at the end does not change that a transaction finishes. -/
theorem Prog.Finishes.map {prog : Prog R E α} (h : prog.Finishes) (f : α → β) :
    (prog.bind fun a => .pure (f a)).Finishes := by
  induction prog with
  | pure a => trivial
  | throw e => trivial
  | select q next ih => exact fun rows => ih rows (h rows)
  | insert row dup next ih => exact h
  | update k set next ih => exact h
  | commit next ih =>
    cases next with
    | pure a => rfl
    | throw e => rfl
    | _ => cases h

/-- Nor what it inserts. -/
theorem Prog.Inserting.map {P : R → Prop} {prog : Prog R E α} (h : prog.Inserting P) (f : α → β) :
    (prog.bind fun a => .pure (f a)).Inserting P := by
  induction prog with
  | pure a => trivial
  | throw e => trivial
  | select q next ih => exact fun rows => ih rows (h rows)
  | insert row dup next ih => exact ⟨h.1, h.2.map f⟩
  | update k set next ih => exact h
  | commit next ih => exact h

/-! ## A property of all versions -/

/-- A transaction whose writes satisfy `P`, as long as the rows it reads and the row it updates
do. -/
def Prog.Writes (P : R → Prop) : Prog R E α → Prop
  | .pure _ => True
  | .throw _ => True
  | .select q next => ∀ rows, (∀ r ∈ rows, q r = true ∧ P r) → (next rows).Writes P
  | .insert row _ next => P row ∧ next.Writes P
  | .update k set next =>
    (∀ r r', key r = k → P r → set.apply r = .ok r' → P r') ∧ next.Writes P
  | .commit next => next.Writes P

section Writes

variable {P : R → Prop}

/-- A transaction that has ended writes nothing. -/
theorem Prog.Writes.of_outcome {prog : Prog R E α} (h : prog.outcome.isSome) : prog.Writes P := by
  cases prog <;> simp_all [Prog.outcome, Prog.Writes]

theorem Prog.Finishes.writes {prog : Prog R E α} (h : prog.Finishes) : prog.Writes P := by
  induction prog with
  | pure a => trivial
  | throw e => trivial
  | select q next ih => exact fun rows _ => ih rows (h rows)
  | insert row dup next ih => cases h
  | update k set next ih => cases h
  | commit next ih =>
    have hnext : next.Writes P := Prog.Writes.of_outcome h
    exact hnext

theorem Prog.Inserting.writes {prog : Prog R E α} (h : prog.Inserting P) : prog.Writes P := by
  induction prog with
  | pure a => trivial
  | throw e => trivial
  | select q next ih => exact fun rows _ => ih rows (h rows)
  | insert row dup next ih => exact ⟨h.1, h.2.writes⟩
  | update k set next ih => cases h
  | commit next ih => cases h

/-- A result computed at the end does not change what a transaction writes. -/
theorem Prog.Writes.map {prog : Prog R E α} (h : prog.Writes P) (f : α → β) :
    (prog.bind fun a => .pure (f a)).Writes P := by
  induction prog with
  | pure a => trivial
  | throw e => trivial
  | select q next ih => exact fun rows hrows => ih rows (h rows hrows)
  | insert row dup next ih => exact ⟨h.1, ih h.2⟩
  | update k set next ih => exact ⟨h.1, ih h.2⟩
  | commit next ih => exact ih h

/-- A read-modify-write transaction writes rows that satisfy `P` if each change it decides on a row
that satisfies `P` keeps `P`. -/
theorem Rmw.writes_prog [DecidableEq K] (m : Rmw R E α)
    (h : ∀ row u, (∀ r ∈ row, key r = m.row ∧ P r) → m.decide row = .ok u →
      ∀ r r', key r = m.row → P r → u.apply r = .ok r' → P r') : m.prog.Writes P := by
  intro rows hrows
  dsimp only
  have hhead : ∀ r ∈ rows.head?, key r = m.row ∧ P r := fun r hr =>
    (hrows r (List.mem_of_mem_head? hr)).imp_left of_decide_eq_true
  cases hd : m.decide rows.head? with
  | error e => trivial
  | ok u =>
    intro rows' _
    dsimp only
    cases rows'.head? with
    | none => trivial
    | some row =>
      refine ⟨h _ u hhead hd, fun rows'' _ => ?_⟩
      dsimp only
      cases rows''.head? with
      | none => trivial
      | some r => trivial

/-- All versions satisfy `P`, and what is left of each transaction writes such ones. -/
structure Versions (P : R → Prop) (σ : Sys ι R E α) : Prop where
  committed : ∀ r ∈ σ.committed, P r
  pend : ∀ i, ∀ r ∈ (σ.tx i).pend, P r
  prog : ∀ i, (σ.tx i).prog.Writes P

variable [DecidableEq ι]

/-- A transaction in another state, whose versions and program are as they should be. -/
theorem Versions.set {σ : Sys ι R E α} (h : Versions P σ) {i : ι} {t : Tx R E α}
    (hpend : ∀ r ∈ t.pend, P r) (hprog : t.prog.Writes P) : Versions P (σ.set i t) := by
  refine ⟨h.committed, fun j => ?_, fun j => ?_⟩
  · by_cases hj : j = i
    · subst hj
      simpa [Sys.set] using hpend
    · simpa [Sys.set, hj] using h.pend j
  · by_cases hj : j = i
    · subst hj
      simpa [Sys.set] using hprog
    · simpa [Sys.set, hj] using h.prog j

variable [DecidableEq K]

omit [DecidableEq ι] in
/-- What a transaction sees satisfies `P`. -/
theorem Versions.overlay {σ : Sys ι R E α} (h : Versions P σ) (i : ι) {r : R}
    (hr : r ∈ overlay σ.committed (σ.tx i).pend) : P r :=
  (mem_overlay hr).elim (h.pend i r) (h.committed r)

/-- A step leaves versions that satisfy `P`. -/
theorem versions_step {σ σ' : Sys ι R E α} {i : ι} (h : Versions P σ) (hs : Step σ i σ') :
    Versions P σ' := by
  have hprog := h.prog i
  cases hs with
  | select hp =>
    rw [hp] at hprog
    refine h.set (h.pend i) (hprog _ fun r hr => ?_)
    exact ⟨(List.mem_filter.mp hr).2, h.overlay i (List.mem_of_mem_filter hr)⟩
  | insert hp hl hf =>
    rw [hp] at hprog
    refine h.set (fun r hr => ?_) hprog.2
    rcases mem_put hr with rfl | hr
    · exact hprog.1
    · exact h.pend i r hr
  | insertDup hp hl hf => exact h.set (h.pend i) trivial
  | update hp hl hf ha =>
    rw [hp] at hprog
    refine h.set (fun r hr => ?_) hprog.2
    rcases mem_put hr with rfl | hr
    · exact hprog.1 _ _ (find_eq_some hf).2 (h.overlay i (find_eq_some hf).1) ha
    · exact h.pend i r hr
  | updateFails hp hl hf ha => exact h.set (h.pend i) trivial
  | updateNone hp hl hf =>
    rw [hp] at hprog
    exact h.set (h.pend i) hprog.2
  | commit hp =>
    rw [hp] at hprog
    refine ⟨fun r hr => h.overlay i hr, fun j => ?_, fun j => ?_⟩
    · by_cases hj : j = i
      · subst hj
        simp
      · simpa [hj] using h.pend j
    · by_cases hj : j = i
      · subst hj
        simpa [Prog.Writes] using hprog
      · simpa [hj] using h.prog j
  | rollback hp hn => exact h.set (by simp) hprog

/-- In every run of transactions that write rows satisfying `P`, from a table of such rows, all
versions satisfy `P`. -/
theorem Versions.of_reaches {Good : Sys ι R E α → ι → Prop} {store : List R}
    {progs : ι → Prog R E α} (hstore : ∀ r ∈ store, P r) (hprogs : ∀ i, (progs i).Writes P)
    {σ : Sys ι R E α} (hr : Reaches Good (Sys.start store progs) σ) : Versions P σ :=
  hr.invariant (fun _ _ _ h _ hs => versions_step h hs)
    ⟨hstore, fun _ _ h => (by cases h), hprogs⟩

end Writes

/-! ## A preorder of versions -/

/-- A transaction whose updates go up in `le`, as long as the versions it read of the row, `read`
at first, are below the one it updates. -/
def Prog.Climbs (le : R → R → Prop) : Prog R E α → List R → Prop
  | .pure _, _ => True
  | .throw _, _ => True
  | .select q next, read =>
    ∀ rows, (∀ r ∈ rows, q r = true) → (next rows).Climbs le (read ++ rows)
  | .insert _ _ next, read => next.Climbs le read
  | .update k set next, read =>
    (∀ old new, key old = k → (∀ r ∈ read, key r = k → le r old) → set.apply old = .ok new →
      le old new) ∧ next.Climbs le read
  | .commit next, read => next.Climbs le read

section Climbs

variable {le : R → R → Prop}

/-- A transaction that has ended updates nothing. -/
theorem Prog.Climbs.of_outcome {prog : Prog R E α} {read : List R} (h : prog.outcome.isSome) :
    prog.Climbs le read := by
  cases prog <;> simp_all [Prog.outcome, Prog.Climbs]

theorem Prog.Finishes.climbs {prog : Prog R E α} {read : List R} (h : prog.Finishes) :
    prog.Climbs le read := by
  induction prog generalizing read with
  | pure a => trivial
  | throw e => trivial
  | select q next ih => exact fun rows _ => ih rows (h rows)
  | insert row dup next ih => cases h
  | update k set next ih => cases h
  | commit next ih =>
    have hnext : next.Climbs le read := Prog.Climbs.of_outcome h
    exact hnext

theorem Prog.Inserting.climbs {P : R → Prop} {prog : Prog R E α} {read : List R}
    (h : prog.Inserting P) : prog.Climbs le read := by
  induction prog generalizing read with
  | pure a => trivial
  | throw e => trivial
  | select q next ih => exact fun rows _ => ih rows (h rows)
  | insert row dup next ih => exact h.2.climbs
  | update k set next ih => cases h
  | commit next ih => cases h

/-- A result computed at the end does not change how a transaction updates. -/
theorem Prog.Climbs.map {prog : Prog R E α} {read : List R} (h : prog.Climbs le read) (f : α → β) :
    (prog.bind fun a => .pure (f a)).Climbs le read := by
  induction prog generalizing read with
  | pure a => trivial
  | throw e => trivial
  | select q next ih => exact fun rows hrows => ih rows (h rows hrows)
  | insert row dup next ih => exact ih h
  | update k set next ih => exact ⟨h.1, ih h.2⟩
  | commit next ih => exact ih h

/-- A read-modify-write transaction goes up if each change it decides on does, over rows that the
one it was decided on is below. -/
theorem Rmw.climbs_prog [DecidableEq K] (m : Rmw R E α)
    (h : ∀ row u, (∀ r ∈ row, key r = m.row) → m.decide row = .ok u → ∀ old new,
      key old = m.row → (∀ r ∈ row, le r old) → u.apply old = .ok new → le old new) :
    m.prog.Climbs le [] := by
  intro rows hrows
  dsimp only
  -- The row it decides on is one of its own.
  have hhead : ∀ r ∈ rows.head?, key r = m.row := fun r hr =>
    of_decide_eq_true (hrows r (List.mem_of_mem_head? hr))
  cases hd : m.decide rows.head? with
  | error e => trivial
  | ok u =>
    intro rows' _
    dsimp only
    cases rows'.head? with
    | none => trivial
    | some row =>
      refine ⟨fun old new hk hread => h _ u hhead hd old new hk fun r hr => ?_, fun rows'' _ => ?_⟩
      · have hmem := List.mem_append_right [] (List.mem_of_mem_head? hr)
        exact hread r (List.mem_append_left _ hmem) (hhead r hr)
      · dsimp only
        cases rows''.head? with
        | none => trivial
        | some r => trivial

variable [DecidableEq K]

/-- A pending version is above the committed row, and what is left of each transaction goes up from
versions it read that are below what it sees. -/
structure Climbing (le : R → R → Prop) (σ : Sys ι R E α) : Prop where
  pend : ∀ i, ∀ v ∈ (σ.tx i).pend, ∀ c, find (key v) σ.committed = some c → le c v
  prog : ∀ i, ∃ read, (σ.tx i).prog.Climbs le read ∧ ∀ r ∈ read, ∃ v,
    find (key r) (overlay σ.committed (σ.tx i).pend) = some v ∧ le r v

/-- Transactions that have run no statement. -/
theorem climbing_start {store : List R} {progs : ι → Prog R E α}
    (hprogs : ∀ i, (progs i).Climbs le []) : Climbing le (Sys.start store progs) where
  pend _ _ h := by cases h
  prog i := ⟨[], hprogs i, fun _ h => by cases h⟩

variable [DecidableEq ι] [IsPreorder R le] {σ σ' : Sys ι R E α} {i : ι}

omit [IsPreorder R le] in
/-- A transaction in another state over the same table. -/
theorem Climbing.set (h : Climbing le σ) {t : Tx R E α} (read : List R)
    (hpend : ∀ v ∈ t.pend, ∀ c, find (key v) σ.committed = some c → le c v)
    (hprog : t.prog.Climbs le read)
    (hread : ∀ r ∈ read, ∃ v, find (key r) (overlay σ.committed t.pend) = some v ∧ le r v) :
    Climbing le (σ.set i t) := by
  have hself : (σ.set i t).tx i = t := by simp [Sys.set]
  refine ⟨fun j => ?_, fun j => ?_⟩
  · by_cases hj : j = i
    · subst hj
      rw [hself]
      exact hpend
    · rw [σ.tx_set_of_ne hj]
      exact h.pend j
  · by_cases hj : j = i
    · subst hj
      rw [hself]
      exact ⟨read, hprog, hread⟩
    · rw [σ.tx_set_of_ne hj]
      exact h.prog j

omit [DecidableEq ι] in
/-- The committed row of a key is below the version of it that a transaction sees. -/
theorem Climbing.le_overlay (h : Climbing le σ) (hw : WellFormed σ) (i : ι) {k : K} {c : R}
    (hc : find k σ.committed = some c) :
    ∃ v, find k (overlay σ.committed (σ.tx i).pend) = some v ∧ le c v := by
  rw [find_overlay (hw.pend i)]
  cases hp : find k (σ.tx i).pend with
  | none => exact ⟨c, hc, refl_of le c⟩
  | some v =>
    obtain ⟨hmem, rfl⟩ := find_eq_some hp
    exact ⟨v, rfl, h.pend i v hmem c hc⟩

/-- A commit publishes versions that are above the rows they replace, and leaves the versions that
other transactions hold. -/
theorem Climbing.commit (h : Climbing le σ) (hw : WellFormed σ) {next : Prog R E α} {read : List R}
    (hprog : next.Climbs le read)
    (hread : ∀ r ∈ read, ∃ v, find (key r) (overlay σ.committed (σ.tx i).pend) = some v ∧ le r v)
    {reads : List (List R)} {log : List ι} :
    Climbing le (⟨overlay σ.committed (σ.tx i).pend,
      Function.update σ.tx i ⟨next, [], reads⟩, log⟩ : Sys ι R E α) := by
  refine ⟨fun j v hv c hc => ?_, fun j => ?_⟩
  · by_cases hj : j = i
    · subst hj
      simp at hv
    · simp only [Function.update_of_ne hj] at hv
      dsimp only at hc
      rw [hw.find_overlay_other hj (List.mem_map_of_mem hv)] at hc
      exact h.pend j v hv c hc
  · by_cases hj : j = i
    · subst hj
      exact ⟨read, by simpa using hprog, by simpa using hread⟩
    · obtain ⟨read', hprog', hread'⟩ := h.prog j
      simp only [Function.update_of_ne hj]
      refine ⟨read', hprog', fun r hr => ?_⟩
      obtain ⟨v, hv, hle⟩ := hread' r hr
      rw [find_overlay (hw.pend j)] at hv ⊢
      cases hp : find (key r) (σ.tx j).pend with
      | some w =>
        rw [hp] at hv
        exact ⟨v, hv, hle⟩
      | none =>
        -- What it saw was committed, and is below what is committed now.
        rw [hp, Option.none_or] at hv
        obtain ⟨w, hw', hvw⟩ := h.le_overlay hw i hv
        exact ⟨w, hw', trans_of le hle hvw⟩

omit [DecidableEq ι] [IsPreorder R le] in
/-- A version that a transaction writes leaves what it sees under other keys. -/
private theorem find_overlay_put_of_ne (hw : WellFormed σ) (i : ι) {k : K} {r : R}
    (hk : key r ≠ k) :
    find k (overlay σ.committed (put (σ.tx i).pend r)) =
      find k (overlay σ.committed (σ.tx i).pend) := by
  rw [find_overlay (nodup_put (hw.pend i) r), find_overlay (hw.pend i), find_put_of_ne _ _ hk]

omit [DecidableEq ι] [IsPreorder R le] in
/-- And is what it sees under its own. -/
private theorem find_overlay_put_self (hw : WellFormed σ) (i : ι) (r : R) :
    find (key r) (overlay σ.committed (put (σ.tx i).pend r)) = some r := by
  rw [find_overlay (nodup_put (hw.pend i) r), find_put_self, Option.some_or]

/-- A step keeps the order of the versions: one case per statement. -/
theorem climbing_step (hw : WellFormed σ) (h : Climbing le σ) (hs : Step σ i σ') :
    Climbing le σ' := by
  obtain ⟨read, hprog, hread⟩ := h.prog i
  cases hs with
  | select hp =>
    rw [hp] at hprog
    refine h.set _ (h.pend i) (hprog _ fun r hr => (List.mem_filter.mp hr).2) fun r hr => ?_
    rcases List.mem_append.mp hr with hr | hr
    · exact hread r hr
    · have hmem := List.mem_of_mem_filter hr
      exact ⟨r, find_of_mem (nodup_overlay hw.committed _) hmem, refl_of le r⟩
  | insert hp hl hf =>
    rw [hp] at hprog
    refine h.set _ (fun v hv c hc => ?_) hprog fun r hr => ?_
    -- No row of the inserted key is committed.
    · rcases mem_put hv with rfl | hv
      · obtain ⟨w, hw', -⟩ := h.le_overlay hw i hc
        rw [hf] at hw'
        cases hw'
      · exact h.pend i v hv c hc
    · obtain ⟨v, hv, hle⟩ := hread r hr
      refine ⟨v, ?_, hle⟩
      rwa [find_overlay_put_of_ne hw i fun hk => by rw [hk, hv] at hf; cases hf]
  | insertDup hp hl hf => exact h.set [] (h.pend i) trivial (by simp)
  | @update k set next old new hp hl hf ha =>
    rw [hp] at hprog
    obtain ⟨-, rfl⟩ := find_eq_some hf
    have hk : key new = key old := set.key_apply _ _ ha
    -- What it read of the row is below the row it updates.
    have hup : le old new := by
      refine hprog.1 old new rfl (fun r hr hkr => ?_) ha
      obtain ⟨v, hv, hle⟩ := hread r hr
      rw [hkr, hf] at hv
      cases hv
      exact hle
    refine h.set _ (fun v hv c hc => ?_) hprog.2 fun r hr => ?_
    · rcases mem_put hv with rfl | hv
      · rw [hk] at hc
        obtain ⟨w, hw', hle⟩ := h.le_overlay hw i hc
        rw [hf] at hw'
        cases hw'
        exact trans_of le hle hup
      · exact h.pend i v hv c hc
    · obtain ⟨v, hv, hle⟩ := hread r hr
      by_cases hkr : key r = key old
      · rw [hkr, hf] at hv
        cases hv
        exact ⟨new, by rw [hkr, ← hk]; exact find_overlay_put_self hw i new, trans_of le hle hup⟩
      · exact ⟨v, by rwa [find_overlay_put_of_ne hw i fun e => hkr (e.symm.trans hk)], hle⟩
  | updateFails hp hl hf ha => exact h.set [] (h.pend i) trivial (by simp)
  | updateNone hp hl hf =>
    rw [hp] at hprog
    exact h.set read (h.pend i) hprog.2 hread
  | commit hp =>
    rw [hp, Prog.Climbs] at hprog
    exact h.commit hw hprog hread
  | rollback hp hn =>
    exact h.set [] (by simp) (Prog.Climbs.of_outcome (by simp [hp])) (by simp)

/-- The committed row of a key is below the one after a step. -/
theorem Climbing.le_committed (h : Climbing le σ) (hw : WellFormed σ) (hs : Step σ i σ') {k : K}
    {c : R} (hc : find k σ.committed = some c) :
    ∃ c', find k σ'.committed = some c' ∧ le c c' := by
  rcases hs.shape with ⟨t, rfl, -⟩ | ⟨next, -, rfl⟩
  · exact ⟨c, hc, refl_of le c⟩
  · exact h.le_overlay hw i hc

/-- Along every run, the versions keep their order. -/
theorem Climbing.of_reaches {Good : Sys ι R E α → ι → Prop} {store : List R}
    {progs : ι → Prog R E α} (hstore : (store.map key).Nodup) (hprogs : ∀ i, (progs i).Climbs le [])
    {σ : Sys ι R E α} (hr : Reaches Good (Sys.start store progs) σ) :
    WellFormed σ ∧ Climbing le σ := by
  induction hr with
  | refl => exact ⟨wellFormed_start hstore _, climbing_start hprogs⟩
  | step _ _ hs ih => exact ⟨wellFormed_step ih.1 hs, climbing_step ih.1 ih.2 hs⟩

/-- In every run of transactions that go up in `le`, the committed row of a key stays, and is below
every later one. -/
theorem climbs_of_reaches {Good : Sys ι R E α → ι → Prop} {store : List R}
    {progs : ι → Prog R E α} (hstore : (store.map key).Nodup) (hprogs : ∀ i, (progs i).Climbs le [])
    {σ σ' : Sys ι R E α} (hr : Reaches Good (Sys.start store progs) σ) (hr' : Reaches Good σ σ')
    {k : K} {c : R} (hc : find k σ.committed = some c) :
    ∃ c', find k σ'.committed = some c' ∧ le c c' := by
  obtain ⟨hw, h⟩ := Climbing.of_reaches hstore hprogs hr
  have hinv : WellFormed σ' ∧ Climbing le σ' ∧ ∃ c', find k σ'.committed = some c' ∧ le c c' := by
    induction hr' with
    | refl => exact ⟨hw, h, c, hc, refl_of le c⟩
    | step _ _ hs ih =>
      obtain ⟨hw', h', c', hc', hle⟩ := ih
      obtain ⟨c'', hc'', hle'⟩ := h'.le_committed hw' hs hc'
      exact ⟨wellFormed_step hw' hs, climbing_step hw' h' hs, c'', hc'', trans_of le hle hle'⟩
  exact hinv.2.2

/-- A transaction that reads the row of `k` first, and fails with `e` where the row satisfies `Q`. -/
def Prog.Refuses (k : K) (Q : R → Prop) (e : E) (prog : Prog R E α) : Prop :=
  ∃ next, prog = .select (byKey k) next ∧
    ∀ rows r, rows.head? = some r → Q r → next rows = .throw e

omit [DecidableEq ι] [IsPreorder R le] in
/-- What a transaction goes on with does not change what it refuses. -/
theorem Prog.Refuses.bind {k : K} {Q : R → Prop} {e : E} {prog : Prog R E α}
    (h : prog.Refuses k Q e) (f : α → Prog R E β) : (prog.bind f).Refuses k Q e := by
  obtain ⟨next, rfl, hnext⟩ := h
  refine ⟨fun rows => (next rows).bind f, rfl, fun rows r hr hQ => ?_⟩
  dsimp only
  rw [hnext rows r hr hQ]
  rfl

omit [DecidableEq ι] [IsPreorder R le] in
/-- What a transaction read stays recorded. -/
theorem Step.reads_ne_nil [DecidableEq ι] (hs : Step σ i σ') {j : ι} (hj : (σ.tx j).reads ≠ []) :
    (σ'.tx j).reads ≠ [] := by
  by_cases hji : j = i
  · subst hji
    cases hs <;> simp_all [Sys.set]
  · rwa [hs.tx_of_ne hji]

omit [IsPreorder R le] in
/-- A transaction that begins with a SELECT and has read nothing has not begun. -/
theorem tx_eq_start_of_reads_eq_nil {Good : Sys ι R E α → ι → Prop} {store : List R}
    {progs : ι → Prog R E α} (hr : Reaches Good (Sys.start store progs) σ) {p : R → Bool}
    {next : List R → Prog R E α} (hi : progs i = .select p next) (hread : (σ.tx i).reads = []) :
    σ.tx i = Tx.start (progs i) := by
  have hcases : σ.tx i = Tx.start (progs i) ∨ (σ.tx i).reads ≠ [] := by
    clear hread
    induction hr with
    | refl => exact .inl rfl
    | @step τ τ' j _ _ hs ih =>
      by_cases hj : i = j
      · subst hj
        rcases ih with hstart | hne
        · have hp : (τ.tx i).prog = .select p next := by rw [hstart]; exact hi
          have hτ' := hs.of_select hp
          subst hτ'
          exact .inr (by simp [Sys.set])
        · exact .inr (hs.reads_ne_nil hne)
      · rw [hs.tx_of_ne hj]
        exact ih
  exact hcases.resolve_right (absurd hread)

/-- Once the committed row of `k` satisfies `Q`, which versions keep as they go up, a transaction
that refuses such a row and has read nothing yet is never more than refused. -/
theorem refused_of_reaches {Good : Sys ι R E α → ι → Prop} {store : List R}
    {progs : ι → Prog R E α} (hstore : (store.map key).Nodup) (hprogs : ∀ i, (progs i).Climbs le [])
    {Q : R → Prop} (hQ : ∀ r r', le r r' → Q r → Q r')
    (hr : Reaches Good (Sys.start store progs) σ) (hr' : Reaches Good σ σ') {k : K} {c : R}
    (hc : find k σ.committed = some c) (hQc : Q c) {e : E} (hprog : (progs i).Refuses k Q e)
    (hread : (σ.tx i).reads = []) {r : Except E α} (ho : (σ'.tx i).prog.outcome = some r) :
    r = .error e := by
  obtain ⟨next, hi, hnext⟩ := hprog
  have hcases : σ'.tx i = Tx.start (progs i) ∨
      ((σ'.tx i).prog = .throw e ∧ (σ'.tx i).pend = []) := by
    clear ho
    induction hr' with
    | refl => exact .inl (tx_eq_start_of_reads_eq_nil hr hi hread)
    | @step τ τ' j hτ _ hs ih =>
      by_cases hj : i = j
      · subst hj
        rcases ih with hstart | ⟨hthrow, hpend⟩
        -- Its SELECT reads a later version of the row.
        · obtain ⟨c', hc', hle⟩ := climbs_of_reaches hstore hprogs hr hτ hc
          have hrow : ((overlay τ.committed []).filter (byKey k)).head? = some c' :=
            (head?_filter_key _ k).trans hc'
          have hp : (τ.tx i).prog = .select (byKey k) next := by rw [hstart]; exact hi
          have hτ' := hs.of_select hp
          subst hτ'
          refine .inr ?_
          simp only [Sys.set, Function.update_self, hstart, Tx.start]
          exact ⟨hnext _ c' hrow (hQ c c' hle hQc), trivial⟩
        · exact absurd hpend (hs.of_outcome (r := .error e) (by rw [hthrow]; rfl)).1
      · rw [hs.tx_of_ne hj]
        exact ih
  rcases hcases with h | ⟨h, -⟩
  · simp [h, Tx.start, hi, Prog.outcome] at ho
  · simp only [h, Prog.outcome, Option.some.injEq] at ho
    exact ho.symm

end Climbs
end ReadCommitted
