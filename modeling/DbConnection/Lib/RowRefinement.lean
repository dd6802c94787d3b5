import DbConnection.Lib.ReadModifyWrite

/-!
# Systems over mapped rows

A map of rows that keeps their keys turns a table into another one. A transaction over the one
table refines a transaction over the other if it runs the same statements, where the statements
see of a row what the map leaves (`Prog.Refines`). Then every run of the one system is a run of the
other, with the table mapped and the same results, in any order of the statements
(`refines_of_reaches`).
-/

namespace ReadCommitted

variable {ι K R R' E α β : Type} [Keyed R K] [Keyed R' K]

/-- A transaction over rows runs the statements of one over the mapped rows. -/
def Prog.Refines (f : R → R') : Prog R E α → Prog R' E α → Prop
  | .pure a, .pure a' => a = a'
  | .throw e, .throw e' => e = e'
  | .select q next, .select q' next' =>
    (∀ r, q r = q' (f r)) ∧ ∀ rows, (next rows).Refines f (next' (rows.map f))
  | .insert row dup next, .insert row' dup' next' =>
    f row = row' ∧ dup = dup' ∧ next.Refines f next'
  | .update k set next, .update k' set' next' =>
    k = k' ∧ (∀ r, (set.apply r).map f = set'.apply (f r)) ∧ next.Refines f next'
  | .commit next, .commit next' => next.Refines f next'
  | _, _ => False

section Prog

variable {f : R → R'}

/-- A computation without statements is the same over both. -/
theorem Prog.refines_ofExcept (x : Except E α) :
    (Prog.ofExcept x : Prog R E α).Refines f (Prog.ofExcept x) := by
  cases x <;> rfl

/-- Transactions one after the other, and those over the mapped rows. -/
theorem Prog.Refines.bind {prog : Prog R E α} {prog' : Prog R' E α} {g : α → Prog R E β}
    {g' : α → Prog R' E β} (h : prog.Refines f prog') (hg : ∀ a, (g a).Refines f (g' a)) :
    (prog.bind g).Refines f (prog'.bind g') := by
  induction prog generalizing prog' with
  | pure a =>
    cases prog' with
    | pure a' =>
      cases h
      exact hg a
    | _ => cases h
  | throw e =>
    cases prog' with
    | throw e' => exact h
    | _ => cases h
  | select q next ih =>
    cases prog' with
    | select q' next' => exact ⟨h.1, fun rows => ih rows (h.2 rows)⟩
    | _ => cases h
  | insert row dup next ih =>
    cases prog' with
    | insert row' dup' next' => exact ⟨h.1, h.2.1, ih h.2.2⟩
    | _ => cases h
  | update k set next ih =>
    cases prog' with
    | update k' set' next' => exact ⟨h.1, h.2.1, ih h.2.2⟩
    | _ => cases h
  | commit next ih =>
    cases prog' with
    | commit next' => exact ih h
    | _ => cases h

/-- They end alike. -/
theorem Prog.Refines.outcome_eq {prog : Prog R E α} {prog' : Prog R' E α}
    (h : prog.Refines f prog') : prog'.outcome = prog.outcome := by
  cases prog <;> cases prog' <;> simp_all [Prog.Refines, Prog.outcome]

end Prog

/-- Two decisions fail alike, or on changes that are the same on a row and on the mapped row. -/
def Decides (f : R → R') :
    Except E (ColumnUpdate R E) → Except E (ColumnUpdate R' E) → Prop
  | .error e, .error e' => e = e'
  | .ok u, .ok u' => ∀ r, (u.apply r).map f = u'.apply (f r)
  | _, _ => False

/-- Decisions after a computation that is the same over both. -/
theorem Decides.bind {f : R → R'} {x : Except E β} {g : β → Except E (ColumnUpdate R E)}
    {g' : β → Except E (ColumnUpdate R' E)} (h : ∀ b, Decides f (g b) (g' b)) :
    Decides f (x >>= g) (x >>= g') := by
  cases x with
  | error e => rfl
  | ok b => exact h b

/-- A read-modify-write transaction decides alike over the mapped rows. -/
structure Rmw.Refines (f : R → R') (m : Rmw R E α) (m' : Rmw R' E α) : Prop where
  row : m.row = m'.row
  decide : ∀ row, Decides f (m.decide row) (m'.decide (row.map f))
  gone : m.gone = m'.gone
  lost : m.lost = m'.lost
  out : ∀ r, m.out r = m'.out (f r)

variable [DecidableEq K]

/-- Rows under the keys of the rows they are mapped from. -/
class KeepsKeys (f : R → R') : Prop where
  key_map : ∀ r, key (f r) = key r

section Tables

variable (f : R → R') [KeepsKeys f]

omit [DecidableEq K] in
/-- The keys of mapped rows. -/
theorem map_key_map (rows : List R) : (rows.map f).map key = rows.map key := by
  rw [List.map_map]
  exact List.map_congr_left fun r _ => KeepsKeys.key_map r

/-- The mapped row of a key. -/
theorem find_map (k : K) (rows : List R) : find k (rows.map f) = (find k rows).map f := by
  induction rows with
  | nil => rfl
  | cons x xs ih =>
    have hx : key (f x) = key x := KeepsKeys.key_map x
    unfold find at ih ⊢
    by_cases hk : key x = k
    · simp [hx, hk]
    · simpa [hx, hk] using ih

/-- Writing a mapped row. -/
theorem put_map (rows : List R) (r : R) : put (rows.map f) (f r) = (put rows r).map f := by
  induction rows with
  | nil => rfl
  | cons x xs ih =>
    have hx : key (f x) = key x := KeepsKeys.key_map x
    have hr : key (f r) = key r := KeepsKeys.key_map r
    simp only [List.map_cons, put, hx, hr, ih]
    split <;> rfl

/-- What a transaction sees of mapped rows. -/
theorem overlay_map (committed pend : List R) :
    overlay (committed.map f) (pend.map f) = (overlay committed pend).map f := by
  induction pend generalizing committed with
  | nil => rfl
  | cons r pend ih =>
    have hput := put_map f committed r
    have hstep := ih (put committed r)
    rw [← hput] at hstep
    exact hstep

omit [DecidableEq K] [Keyed R K] [Keyed R' K] [KeepsKeys f] in
/-- A SELECT over mapped rows. -/
theorem filter_map_of_eq {q : R → Bool} {q' : R' → Bool} (h : ∀ r, q r = q' (f r))
    (rows : List R) : (rows.map f).filter q' = (rows.filter q).map f := by
  rw [List.filter_map]
  congr 1
  exact List.filter_congr fun r _ => (h r).symm

end Tables

/-- A read-modify-write transaction runs the statements of one that decides alike. -/
theorem Rmw.Refines.prog {f : R → R'} [KeepsKeys f] {m : Rmw R E α} {m' : Rmw R' E α}
    (h : m.Refines f m') : m.prog.Refines f m'.prog := by
  have hkey : ∀ r, byKey m.row r = byKey m'.row (f r) := fun r => by
    have hr : key (f r) = key r := KeepsKeys.key_map r
    simp [byKey, h.row, hr]
  refine ⟨hkey, fun rows => ?_⟩
  dsimp only
  rw [List.head?_map]
  have hdecide := h.decide rows.head?
  cases hd : m.decide rows.head? with
  | error e =>
    cases hd' : m'.decide (rows.head?.map f) with
    | error e' =>
      rw [hd, hd'] at hdecide
      exact hdecide
    | ok u' => simp [hd, hd', Decides] at hdecide
  | ok u =>
    cases hd' : m'.decide (rows.head?.map f) with
    | error e' => simp [hd, hd', Decides] at hdecide
    | ok u' =>
      rw [hd, hd'] at hdecide
      refine ⟨hkey, fun rows' => ?_⟩
      dsimp only
      rw [List.head?_map]
      cases rows'.head? with
      | none => exact h.gone
      | some row =>
        refine ⟨h.row, hdecide, hkey, fun rows'' => ?_⟩
        dsimp only
        rw [List.head?_map]
        cases rows''.head? with
        | none => exact h.lost
        | some r => exact h.out r

/-- A system over rows stands for one over the mapped rows. -/
structure Sys.Refines (f : R → R') (σ : Sys ι R E α) (τ : Sys ι R' E α) : Prop where
  committed : τ.committed = σ.committed.map f
  prog : ∀ i, (σ.tx i).prog.Refines f (τ.tx i).prog
  pend : ∀ i, (τ.tx i).pend = (σ.tx i).pend.map f
  log : τ.log = σ.log

section System

variable [DecidableEq ι] {f : R → R'} [KeepsKeys f] {σ σ' : Sys ι R E α} {τ : Sys ι R' E α} {i : ι}

omit [DecidableEq ι] [DecidableEq K] in
/-- The same rows are held. -/
theorem Sys.Refines.locked_iff (h : σ.Refines f τ) (k : K) : τ.Locked i k ↔ σ.Locked i k := by
  unfold Sys.Locked
  simp only [h.pend, map_key_map]

omit [DecidableEq ι] in
/-- A transaction sees the mapped rows. -/
theorem Sys.Refines.overlay_eq (h : σ.Refines f τ) (i : ι) :
    overlay τ.committed (τ.tx i).pend = (overlay σ.committed (σ.tx i).pend).map f := by
  rw [h.committed, h.pend, overlay_map]

omit [DecidableEq K] [KeepsKeys f] in
/-- Transactions that go on alike. -/
theorem Sys.Refines.set (h : σ.Refines f τ) {t : Tx R E α} {t' : Tx R' E α}
    (hprog : t.prog.Refines f t'.prog) (hpend : t'.pend = t.pend.map f) :
    (σ.set i t).Refines f (τ.set i t') := by
  refine ⟨h.committed, fun j => ?_, fun j => ?_, h.log⟩
  · by_cases hj : j = i
    · subst hj
      simpa [Sys.set] using hprog
    · rw [σ.tx_set_of_ne hj, τ.tx_set_of_ne hj]
      exact h.prog j
  · by_cases hj : j = i
    · subst hj
      simpa [Sys.set] using hpend
    · rw [σ.tx_set_of_ne hj, τ.tx_set_of_ne hj]
      exact h.pend j

/-- A transaction that commits publishes the mapped versions. -/
theorem Sys.Refines.commit (h : σ.Refines f τ) {next : Prog R E α} {next' : Prog R' E α}
    (hnext : next.Refines f next') {reads : List (List R)} {reads' : List (List R')} :
    Sys.Refines f
      (⟨overlay σ.committed (σ.tx i).pend, Function.update σ.tx i ⟨next, [], reads⟩,
        σ.log ++ [i]⟩ : Sys ι R E α)
      (⟨overlay τ.committed (τ.tx i).pend, Function.update τ.tx i ⟨next', [], reads'⟩,
        τ.log ++ [i]⟩ : Sys ι R' E α) := by
  refine ⟨h.overlay_eq i, fun j => ?_, fun j => ?_, by rw [h.log]⟩
  · by_cases hj : j = i
    · subst hj
      simpa using hnext
    · simpa [hj] using h.prog j
  · by_cases hj : j = i
    · subst hj
      simp
    · simpa [hj] using h.pend j

/-- A step over the rows is a step over the mapped rows: one case per statement. -/
theorem Sys.Refines.step (h : σ.Refines f τ) (hs : Step σ i σ') :
    ∃ τ', Step τ i τ' ∧ σ'.Refines f τ' := by
  have hprog := h.prog i
  have hseen := h.overlay_eq i
  have hfind : ∀ k, find k (overlay τ.committed (τ.tx i).pend) =
      (find k (overlay σ.committed (σ.tx i).pend)).map f := fun k => by rw [hseen, find_map]
  cases hs with
  | select hp =>
    cases hp' : (τ.tx i).prog with
    | select q' next' =>
      rw [hp, hp'] at hprog
      refine ⟨_, .select hp', h.set ?_ (h.pend i)⟩
      rw [hseen, filter_map_of_eq f hprog.1]
      exact hprog.2 _
    | _ => simp [hp, hp', Prog.Refines] at hprog
  | insert hp hl hf =>
    cases hp' : (τ.tx i).prog with
    | insert row' dup' next' =>
      rw [hp, hp'] at hprog
      obtain ⟨rfl, rfl, hnext⟩ := hprog
      rw [← KeepsKeys.key_map (f := f)] at hl hf
      have hl' := fun hlock => hl ((h.locked_iff _).mp hlock)
      refine ⟨_, .insert hp' hl' (by rw [hfind, hf]; rfl), h.set hnext ?_⟩
      rw [h.pend i]
      exact put_map f _ _
    | _ => simp [hp, hp', Prog.Refines] at hprog
  | insertDup hp hl hf =>
    cases hp' : (τ.tx i).prog with
    | insert row' dup' next' =>
      rw [hp, hp'] at hprog
      obtain ⟨rfl, rfl, -⟩ := hprog
      rw [← KeepsKeys.key_map (f := f)] at hl hf
      have hl' := fun hlock => hl ((h.locked_iff _).mp hlock)
      exact ⟨_, .insertDup hp' hl' (by rw [hfind, hf]; rfl), h.set rfl (h.pend i)⟩
    | _ => simp [hp, hp', Prog.Refines] at hprog
  | @update k set next old new hp hl hf ha =>
    cases hp' : (τ.tx i).prog with
    | update k' set' next' =>
      rw [hp, hp'] at hprog
      obtain ⟨rfl, hset, hnext⟩ := hprog
      have hl' := fun hlock => hl ((h.locked_iff _).mp hlock)
      have ha' : set'.apply (f old) = .ok (f new) := by
        rw [← hset, ha]
        rfl
      refine ⟨_, .update hp' hl' (by rw [hfind, hf]; rfl) ha', h.set hnext ?_⟩
      rw [h.pend i]
      exact put_map f _ _
    | _ => simp [hp, hp', Prog.Refines] at hprog
  | @updateFails k set next old e hp hl hf ha =>
    cases hp' : (τ.tx i).prog with
    | update k' set' next' =>
      rw [hp, hp'] at hprog
      obtain ⟨rfl, hset, -⟩ := hprog
      have hl' := fun hlock => hl ((h.locked_iff _).mp hlock)
      have ha' : set'.apply (f old) = .error e := by
        rw [← hset, ha]
        rfl
      exact ⟨_, .updateFails hp' hl' (by rw [hfind, hf]; rfl) ha', h.set rfl (h.pend i)⟩
    | _ => simp [hp, hp', Prog.Refines] at hprog
  | updateNone hp hl hf =>
    cases hp' : (τ.tx i).prog with
    | update k' set' next' =>
      rw [hp, hp'] at hprog
      obtain ⟨rfl, -, hnext⟩ := hprog
      have hl' := fun hlock => hl ((h.locked_iff _).mp hlock)
      exact ⟨_, .updateNone hp' hl' (by rw [hfind, hf]; rfl), h.set hnext (h.pend i)⟩
    | _ => simp [hp, hp', Prog.Refines] at hprog
  | commit hp =>
    cases hp' : (τ.tx i).prog with
    | commit next' =>
      rw [hp, hp', Prog.Refines] at hprog
      exact ⟨_, .commit hp', h.commit hprog⟩
    | _ => simp [hp, hp', Prog.Refines] at hprog
  | rollback hp hn =>
    have hn' : (τ.tx i).pend ≠ [] := by
      rw [h.pend i]
      simpa using hn
    exact ⟨_, .rollback (hprog.outcome_eq.trans hp) hn', h.set hprog rfl⟩

omit [DecidableEq ι] [DecidableEq K] [KeepsKeys f] in
/-- Transactions that have run no statement. -/
theorem Sys.refines_start {store : List R} {progs : ι → Prog R E α} {progs' : ι → Prog R' E α}
    (h : ∀ i, (progs i).Refines f (progs' i)) :
    (Sys.start store progs).Refines f (Sys.start (store.map f) progs') :=
  ⟨rfl, h, fun _ => rfl, rfl⟩

/-- Every run over the rows is one over the mapped rows. -/
theorem refines_of_reaches {store : List R} {progs : ι → Prog R E α} {progs' : ι → Prog R' E α}
    (h : ∀ i, (progs i).Refines f (progs' i))
    (hr : Reaches (fun _ _ => True) (Sys.start store progs) σ) :
    ∃ τ, Reaches (fun _ _ => True) (Sys.start (store.map f) progs') τ ∧ σ.Refines f τ := by
  induction hr with
  | refl => exact ⟨_, .refl, Sys.refines_start h⟩
  | step _ _ hs ih =>
    obtain ⟨τ, hτ, hrefines⟩ := ih
    obtain ⟨τ', hs', hrefines'⟩ := hrefines.step hs
    exact ⟨τ', .step hτ trivial hs', hrefines'⟩

end System
end ReadCommitted
