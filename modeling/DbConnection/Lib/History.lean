import DbConnection.Lib.ReadModifyWrite

/-!
# The history of a run

The rows that the transactions of a run committed, in the order of the commits. A transaction of
`OneWrite` writes one row, reads it back and commits it; one of `OneRead` runs one SELECT at most.
The committed table is the starting one with the rows of the history put over it, one commit each
(`History.committed`). A transaction of the first kind returns when its row is in the history, and
what it returns is of that row; one of the second kind returns what it does alone over the table of
a prefix of the history, and of one that is no older than where it began (`History.of_reaches`).
-/

namespace ReadCommitted

variable {ι K R E α β : Type} [Keyed R K]

/-! ## Transactions that write or read once -/

section Programs

variable [DecidableEq K]

/-- Reads back the row of a key, and commits. -/
def Prog.ReadsRow (out : R → α) (k : K) : Prog R E α → Prop
  | .select q next => q = byKey k ∧
      ∀ rows r, rows.head? = some r → next rows = .commit (.pure (out r))
  | _ => False

/-- A transaction that writes one row after its SELECTs, reads it back, commits and returns what
`out` makes of it. An UPDATE is of a key that was read before. -/
def Prog.OneWrite (out : R → α) : Prog R E α → List K → Prop
  | .pure _, _ => False
  | .throw _, _ => True
  | .select q next, read => ∀ rows, (∀ r ∈ rows, q r = true) →
      (next rows).OneWrite out (rows.map key ++ read)
  | .insert row _ next, _ => next.ReadsRow out (key row)
  | .update k _ next, read => k ∈ read ∧ next.ReadsRow out k
  | .commit _, _ => False

/-- A transaction of one SELECT at most, which writes nothing. -/
def Prog.OneRead : Prog R E α → Prop
  | .pure _ => True
  | .throw _ => True
  | .select _ next => ∀ rows, (next rows).outcome.isSome
  | _ => False

/-- A result computed of the row. -/
theorem Prog.ReadsRow.map {prog : Prog R E α} {out : R → α} {k : K} (h : prog.ReadsRow out k)
    (f : α → β) : (prog.bind fun a => .pure (f a)).ReadsRow (f ∘ out) k := by
  cases prog with
  | select q next =>
    refine ⟨h.1, fun rows r hr => ?_⟩
    dsimp only
    rw [h.2 rows r hr]
    rfl
  | _ => cases h

theorem Prog.OneWrite.map {prog : Prog R E α} {out : R → α} {read : List K}
    (h : prog.OneWrite out read) (f : α → β) :
    (prog.bind fun a => .pure (f a)).OneWrite (f ∘ out) read := by
  induction prog generalizing read with
  | pure a => cases h
  | throw e => trivial
  | select q next ih => exact fun rows hrows => ih rows (h rows hrows)
  | insert row dup next ih => exact Prog.ReadsRow.map h f
  | update k set next ih => exact ⟨h.1, Prog.ReadsRow.map h.2 f⟩
  | commit next ih => cases h

omit [DecidableEq K] in
theorem Prog.OneRead.map {prog : Prog R E α} (h : prog.OneRead) (f : α → β) :
    (prog.bind fun a => .pure (f a)).OneRead := by
  cases prog with
  | pure a => trivial
  | throw e => trivial
  | select q next =>
    intro rows
    have hend := h rows
    dsimp only
    cases hnext : next rows <;> simp_all [Prog.bind, Prog.outcome]
  | _ => cases h

omit [DecidableEq K] in
/-- A computation without statements. -/
theorem Prog.oneRead_ofExcept (x : Except E α) : (Prog.ofExcept x : Prog R E α).OneRead := by
  cases x <;> trivial

/-- A read-modify-write transaction updates a row that it has read. -/
theorem Rmw.oneWrite_prog (m : Rmw R E α) : m.prog.OneWrite m.out [] := by
  intro rows _
  dsimp only
  cases m.decide rows.head? with
  | error e => trivial
  | ok u =>
    intro rows' hrows'
    dsimp only
    cases hhead : rows'.head? with
    | none => trivial
    | some row =>
      refine ⟨?_, rfl, fun rows'' r hr => by simp only [hr]⟩
      have hmem : row ∈ rows' := List.mem_of_mem_head? hhead
      have hkey : key row = m.row := of_decide_eq_true (hrows' row hmem)
      rw [← hkey]
      exact List.mem_append_left _ (List.mem_map_of_mem hmem)

end Programs

/-! ## Histories -/

variable [DecidableEq K]

/-- The table after commits of one row each. -/
def replay (store : List R) (rows : List R) : List R := rows.foldl put store

/-- Where a transaction of one write is before it commits. -/
inductive Writing (out : R → α) (committed : List R) (t : Tx R E α) : Prop where
  /-- It holds no row, and the keys it has read are there. -/
  | reading {read : List K} (hp : t.prog.OneWrite out read) (hn : t.pend = [])
      (hread : ∀ k ∈ read, k ∈ committed.map key)
  | written {r : R} (hp : t.prog.ReadsRow out (key r)) (hn : t.pend = [r])
  | readBack {r : R} (hp : t.prog = .commit (.pure (out r))) (hn : t.pend = [r])

/-- A transaction that failed before it wrote. -/
theorem Writing.failed {out : R → α} {committed : List R} {t : Tx R E α} {e : E}
    (hp : t.prog = .throw e) (hn : t.pend = []) : Writing out committed t := by
  have hone : t.prog.OneWrite out [] := by
    rw [hp]
    trivial
  exact .reading hone hn (by simp)

/-- The commits add keys, so a transaction that writes stays where it is. -/
theorem Writing.put {out : R → α} {committed : List R} {t : Tx R E α}
    (h : Writing out committed t) (r : R) : Writing out (ReadCommitted.put committed r) t := by
  cases h with
  | reading hp hn hread =>
    exact .reading hp hn fun k hk => mem_keys_put.mpr (.inr (hread k hk))
  | written hp hn => exact .written hp hn
  | readBack hp hn => exact .readBack hp hn

/-- The commits of a run of the transactions `progs`, of which those of `writes` write one row and
the others run one SELECT at most, and none of these before `since i` commits. -/
structure History (progs : ι → Prog R E α) (writes : ι → Bool) (out : R → α) (store : List R)
    (since : ι → Nat) (σ : Sys ι R E α) (history : List (ι × R)) : Prop where
  log : σ.log = history.map Prod.fst
  nodup : (history.map Prod.fst).Nodup
  committed : σ.committed = replay store (history.map Prod.snd)
  since_le : ∀ i, since i ≤ history.length
  /-- A transaction that writes has not committed, or has returned what `out` makes of its row. -/
  writer : ∀ i, writes i = true → (i ∉ σ.log ∧ Writing out σ.committed (σ.tx i)) ∨
    ∃ r, (i, r) ∈ history ∧ (σ.tx i).prog = .pure (out r) ∧ (σ.tx i).pend = []
  /-- A transaction that reads has not begun, or has returned what it does over a prefix. -/
  reader : ∀ i, writes i = false → i ∉ σ.log ∧ (σ.tx i).pend = [] ∧
    ((σ.tx i).prog = progs i ∨ ∃ n, since i ≤ n ∧ n ≤ history.length ∧
      (σ.tx i).prog.outcome =
        some ((progs i).run (replay store ((history.take n).map Prod.snd))).1)

section History

variable {progs : ι → Prog R E α} {writes : ι → Bool} {out : R → α} {store : List R}
  {since : ι → Nat} {σ σ' : Sys ι R E α} {history : List (ι × R)}

/-- At the start nothing is committed. -/
theorem history_start (hwriter : ∀ i, writes i = true → (progs i).OneWrite out []) :
    History progs writes out store (fun _ => 0) (Sys.start store progs) [] where
  log := rfl
  nodup := List.nodup_nil
  committed := rfl
  since_le _ := Nat.le_refl 0
  writer i hi := .inl ⟨by simp [Sys.start], .reading (hwriter i hi) rfl (by simp)⟩
  reader i _ := ⟨by simp [Sys.start], rfl, .inl rfl⟩

/-- A commit is of a transaction that writes, which returned what `out` makes of the row. -/
theorem History.outcome_of_mem (h : History progs writes out store since σ history) {i : ι} {r : R}
    (hr : (i, r) ∈ history) :
    writes i = true ∧ (σ.tx i).prog.outcome = some (.ok (out r)) := by
  have hi : i ∈ σ.log := by
    rw [h.log]
    exact List.mem_map_of_mem hr
  cases hw : writes i with
  | false => exact absurd hi (h.reader i hw).1
  | true =>
    refine ⟨rfl, ?_⟩
    rcases h.writer i hw with ⟨hni, -⟩ | ⟨r', hr', hprog, -⟩
    · exact absurd hi hni
    · have hsame : r' = r := by
        have hpairs := List.inj_on_of_nodup_map h.nodup hr' hr rfl
        exact congrArg Prod.snd hpairs
      rw [hprog, hsame]
      rfl

/-- A transaction that writes has committed a row when it has returned. -/
theorem History.mem_of_outcome (h : History progs writes out store since σ history) {i : ι} {a : α}
    (hw : writes i = true) (ho : (σ.tx i).prog.outcome = some (.ok a)) :
    ∃ r, (i, r) ∈ history := by
  rcases h.writer i hw with ⟨-, hwriting⟩ | ⟨r, hr, -⟩
  · cases hp : (σ.tx i).prog with
    | pure b =>
      cases hwriting with
      | reading hone => rw [hp] at hone; cases hone
      | written hrow => rw [hp] at hrow; cases hrow
      | readBack hcommit => rw [hp] at hcommit; cases hcommit
    | _ =>
      rw [hp] at ho
      cases ho
  · exact ⟨r, hr⟩

/-- A transaction that reads has returned what it does alone over the table of a prefix. -/
theorem History.read_of_outcome (h : History progs writes out store since σ history) {i : ι}
    {result : Except E α} (hw : writes i = false)
    (ho : (σ.tx i).prog.outcome = some result) :
    ∃ n ≤ history.length, since i ≤ n ∧
      result = ((progs i).run (replay store ((history.take n).map Prod.snd))).1 := by
  obtain ⟨-, -, hprog | ⟨n, hsince, hle, hend⟩⟩ := h.reader i hw
  · refine ⟨history.length, Nat.le_refl _, h.since_le i, ?_⟩
    -- It has no statement, and returned as it began.
    rw [hprog] at ho
    cases hp : progs i <;> simp_all [Prog.outcome, Prog.run, Prog.exec]
  · rw [hend] at ho
    exact ⟨n, hle, hsince, (Option.some.inj ho).symm⟩

/-- The transactions that have not begun read what is committed by now. -/
theorem History.resume (h : History progs writes out store (fun _ => 0) σ history)
    (hpend : ∀ i, writes i = false → since i ≠ 0 → (σ.tx i).prog = progs i)
    (hsince : ∀ i, since i ≤ history.length) :
    History progs writes out store since σ history := by
  refine ⟨h.log, h.nodup, h.committed, hsince, h.writer, fun i hi => ?_⟩
  obtain ⟨hlog, hn, hread⟩ := h.reader i hi
  refine ⟨hlog, hn, ?_⟩
  by_cases hzero : since i = 0
  · rw [hzero]
    exact hread
  · exact .inl (hpend i hi hzero)

variable [DecidableEq ι]

/-- A step without a commit. -/
theorem History.set (h : History progs writes out store since σ history) {i : ι} {t : Tx R E α}
    (hi : i ∉ σ.log) (hwriter : writes i = true → Writing out σ.committed t)
    (hreader : writes i = false → t.pend = [] ∧
      t.prog.outcome = some ((progs i).run σ.committed).1) :
    History progs writes out store since (σ.set i t) history := by
  refine ⟨h.log, h.nodup, h.committed, h.since_le, fun j hj => ?_, fun j hj => ?_⟩
  · by_cases hji : j = i
    · subst hji
      refine .inl ⟨hi, ?_⟩
      simpa [Sys.set] using hwriter hj
    · simpa [Sys.set, hji] using h.writer j hj
  · by_cases hji : j = i
    · subst hji
      obtain ⟨hpend, hend⟩ := hreader hj
      have hlength : history.take history.length = history := List.take_length
      -- It has read the table of the whole history.
      refine ⟨hi, by simpa [Sys.set] using hpend,
        .inr ⟨history.length, h.since_le j, Nat.le_refl _, ?_⟩⟩
      rw [hlength, ← h.committed]
      simpa [Sys.set] using hend
    · simpa [Sys.set, hji] using h.reader j hj

/-- A commit of a row. -/
theorem History.commit (h : History progs writes out store since σ history) {i : ι} {r : R}
    (hw : writes i = true) (hi : i ∉ σ.log) (hpend : (σ.tx i).pend = [r]) :
    History progs writes out store since
      ⟨overlay σ.committed (σ.tx i).pend,
        Function.update σ.tx i ⟨.pure (out r), [], (σ.tx i).reads⟩, σ.log ++ [i]⟩
      (history ++ [(i, r)]) := by
  have hcommitted : overlay σ.committed (σ.tx i).pend = put σ.committed r := by rw [hpend]; rfl
  refine ⟨?_, ?_, ?_, fun j => ?_, fun j hj => ?_, fun j hj => ?_⟩
  · rw [List.map_append, ← h.log]
    rfl
  · rw [List.map_append, List.nodup_append]
    refine ⟨h.nodup, by simp, fun a ha b hb hab => hi ?_⟩
    rw [h.log]
    simp_all
  · rw [hcommitted, h.committed, List.map_append, replay, replay, List.foldl_append]
    rfl
  · have hsince := h.since_le j
    rw [List.length_append]
    omega
  · by_cases hji : j = i
    · subst hji
      exact .inr ⟨r, by simp, by simp, by simp⟩
    · dsimp only
      rw [hcommitted, Function.update_of_ne hji]
      rcases h.writer j hj with ⟨hlog, hwriting⟩ | ⟨r', hr', hprog⟩
      · exact .inl ⟨by simp [hlog, hji], hwriting.put r⟩
      · exact .inr ⟨r', List.mem_append_left _ hr', hprog⟩
  · have hji : j ≠ i := fun e => by simp_all
    obtain ⟨hlog, hn, hread⟩ := h.reader j hj
    dsimp only
    rw [Function.update_of_ne hji]
    refine ⟨by simp [hlog, hji], hn, hread.imp_right ?_⟩
    rintro ⟨n, hsince, hle, hend⟩
    refine ⟨n, hsince, ?_, ?_⟩
    · rw [List.length_append]
      omega
    · rw [List.take_append_of_le_length hle]
      exact hend

/-- A step of a transaction that writes. -/
theorem History.step_writer (h : History progs writes out store since σ history) {i : ι}
    (hw : writes i = true) (hs : Step σ i σ') :
    ∃ added, History progs writes out store since σ' (history ++ added) := by
  have hset : ∀ {t : Tx R E α}, i ∉ σ.log → Writing out σ.committed t →
      ∃ added, History progs writes out store since (σ.set i t) (history ++ added) := by
    intro t hi ht
    refine ⟨[], ?_⟩
    rw [List.append_nil]
    exact h.set hi (fun _ => ht) (fun hr => by simp [hr] at hw)
  rcases h.writer i hw with ⟨hi, hwriting⟩ | ⟨r, -, hprog, hn⟩
  · cases hwriting with
    | @reading read hp hn hread =>
      cases hprog : (σ.tx i).prog with
      | pure a =>
        rw [hprog] at hp
        cases hp
      | throw e =>
        exact absurd hn (hs.of_outcome (r := .error e) (by rw [hprog]; rfl)).1
      | select q next =>
        rw [hprog] at hp
        rw [hs.of_select hprog]
        refine hset hi (.reading (hp _ fun r hr => (List.mem_filter.mp hr).2) hn fun k hk => ?_)
        rcases List.mem_append.mp hk with hk | hk
        · obtain ⟨r, hr, rfl⟩ := List.mem_map.mp hk
          rw [hn, overlay_nil] at hr
          exact List.mem_map_of_mem (List.mem_of_mem_filter hr)
        · exact hread k hk
      | insert row dup next =>
        rw [hprog] at hp
        obtain ⟨-, ⟨-, rfl⟩ | rfl⟩ := hs.of_insert hprog
        · exact hset hi (.written (r := row) hp (by rw [hn]; rfl))
        · exact hset hi (.failed rfl hn)
      | update k set next =>
        rw [hprog] at hp
        obtain ⟨-, ⟨old, new, hf, ha, rfl⟩ | ⟨e, rfl⟩ | ⟨hf, rfl⟩⟩ := hs.of_update hprog
        · have hkey : key new = k := (set.key_apply _ _ ha).trans (find_eq_some hf).2
          exact hset hi (.written (r := new) (hkey ▸ hp.2) (by rw [hn]; rfl))
        · exact hset hi (.failed rfl hn)
        · -- The key was read, so there is a row.
          have hsome := find_isSome_iff.mpr (hread k hp.1)
          rw [hn, overlay_nil] at hf
          rw [hf] at hsome
          cases hsome
      | commit next =>
        rw [hprog] at hp
        cases hp
    | @written r hp hn =>
      cases hprog : (σ.tx i).prog with
      | select q next =>
        rw [hprog] at hp
        obtain ⟨rfl, hnext⟩ := hp
        rw [hs.of_select hprog]
        -- It sees the row that it wrote.
        have hself : find (key r) (overlay σ.committed (σ.tx i).pend) = some r := by
          rw [hn]
          exact find_put_self σ.committed r
        exact hset hi (.readBack (hnext _ r ((head?_filter_key _ _).trans hself)) hn)
      | _ =>
        rw [hprog] at hp
        cases hp
    | @readBack r hp hn =>
      rw [hs.of_commit hp]
      exact ⟨[(i, r)], h.commit hw hi hn⟩
  · exact absurd hn (hs.of_outcome (r := .ok (out r)) (by rw [hprog]; rfl)).1

/-- A step of a transaction that reads. -/
theorem History.step_reader (h : History progs writes out store since σ history) {i : ι}
    (hw : writes i = false) (hone : (progs i).OneRead) (hs : Step σ i σ') :
    History progs writes out store since σ' history := by
  obtain ⟨hi, hn, hprog | ⟨n, -, -, hend⟩⟩ := h.reader i hw
  · cases hp : progs i with
    | pure a => exact absurd hn (hs.of_outcome (r := .ok a) (by rw [hprog, hp]; rfl)).1
    | throw e => exact absurd hn (hs.of_outcome (r := .error e) (by rw [hprog, hp]; rfl)).1
    | select q next =>
      rw [hp] at hone
      rw [hs.of_select (hprog.trans hp)]
      refine h.set hi (fun hr => by simp [hr] at hw) fun _ => ⟨hn, ?_⟩
      rw [hn, overlay_nil, hp, Prog.run, Prog.exec, overlay_nil]
      have hnext := hone (σ.committed.filter q)
      dsimp only
      cases hrest : next (σ.committed.filter q) <;> simp_all [Prog.outcome, Prog.exec]
    | _ =>
      rw [hp] at hone
      cases hone
  · exact absurd hn (hs.of_outcome hend).1

/-- A run goes on with the history. -/
theorem History.of_reaches (hreader : ∀ i, writes i = false → (progs i).OneRead)
    {Good : Sys ι R E α → ι → Prop} (h : History progs writes out store since σ history)
    (hr : Reaches Good σ σ') :
    ∃ added, History progs writes out store since σ' (history ++ added) := by
  induction hr with
  | refl => exact ⟨[], by rwa [List.append_nil]⟩
  | @step σ₁ σ₂ i _ _ hs ih =>
    obtain ⟨added, hadded⟩ := ih
    cases hw : writes i with
    | true =>
      obtain ⟨more, hmore⟩ := hadded.step_writer hw hs
      exact ⟨added ++ more, by rwa [List.append_assoc] at hmore⟩
    | false => exact ⟨added, hadded.step_reader hw (hreader i hw) hs⟩

end History

end ReadCommitted
