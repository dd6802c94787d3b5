import DbConnection.Lib.Progress

/-!
# Transactions on separate rows

A transaction is local to a key if it selects, inserts and updates no other row (`Prog.Local`).
Run alone, it depends on the committed row of its key and changes no other (`Prog.Local.exec_congr`,
`Prog.Local.find_exec_of_ne`). So transactions that are local to different keys do not notice each
other: in every run each ends with the result it has alone over the starting table
(`separateInv_of_reaches`), and when all are done the rows and the results are those of running the
transactions one after another, in any order (`SeparateInv.serial`).
-/

namespace ReadCommitted

variable {ι K R E α β : Type} [Keyed R K]

/-- A transaction that reads and writes the row of one key. -/
def Prog.Local (k : K) : Prog R E α → Prop
  | .pure _ => True
  | .throw _ => True
  | .select q next => (∀ r, q r = true → key r = k) ∧ ∀ rows, (next rows).Local k
  | .insert row _ next => key row = k ∧ next.Local k
  | .update k' _ next => k' = k ∧ next.Local k
  | .commit next => next.Local k

/-- A computation without statements is local. -/
theorem Prog.local_ofExcept (k : K) (x : Except E α) : (Prog.ofExcept x : Prog R E α).Local k := by
  cases x <;> trivial

/-- Transactions local to a key, one after the other, are local to it. -/
theorem Prog.Local.bind {k : K} {prog : Prog R E α} {f : α → Prog R E β} (h : prog.Local k)
    (hf : ∀ a, (f a).Local k) : (prog.bind f).Local k := by
  induction prog with
  | pure a => exact hf a
  | throw e => trivial
  | select q next ih => exact ⟨h.1, fun rows => ih rows (h.2 rows)⟩
  | insert row dup next ih => exact ⟨h.1, ih h.2⟩
  | update k' set next ih => exact ⟨h.1, ih h.2⟩
  | commit next ih => exact ih h

variable [DecidableEq K]

/-- A read-modify-write transaction is local to its row. -/
theorem Rmw.local_prog (m : Rmw R E α) : m.prog.Local m.row := by
  have hkey : ∀ r : R, byKey m.row r = true → key r = m.row := fun r => of_decide_eq_true
  refine ⟨hkey, fun rows => ?_⟩
  dsimp only
  cases m.decide rows.head? with
  | error e => trivial
  | ok u =>
    refine ⟨hkey, fun rows' => ?_⟩
    dsimp only
    cases rows'.head? with
    | none => trivial
    | some row =>
      refine ⟨rfl, hkey, fun rows'' => ?_⟩
      dsimp only
      cases rows''.head? with
      | none => trivial
      | some r => trivial

section Alone

variable {k : K} {committed committed' pend : List R}

/-- A SELECT of rows of one key depends on the row of that key. -/
theorem filter_eq_of_find_eq {q : R → Bool} (hq : ∀ r, q r = true → key r = k)
    {rows rows' : List R} (h : (rows.map key).Nodup) (h' : (rows'.map key).Nodup)
    (hf : find k rows = find k rows') : rows.filter q = rows'.filter q := by
  have hone : ∀ xs : List R, (xs.map key).Nodup → xs.filter q = (find k xs).toList.filter q := by
    intro xs hxs
    induction xs with
    | nil => rfl
    | cons x xs ih =>
      simp only [List.map_cons, List.nodup_cons] at hxs
      by_cases hx : key x = k
      · -- No other row has the key.
        have hrest : xs.filter q = [] := by
          refine List.filter_eq_nil_iff.mpr fun r hr hqr => hxs.1 ?_
          rw [hx, ← hq r hqr]
          exact List.mem_map_of_mem hr
        simp [find, hx, List.filter_cons, hrest]
      · have hqx : q x = false := by
          cases hqx : q x with
          | true => exact absurd (hq x hqx) hx
          | false => rfl
        have hfx : find k (x :: xs) = find k xs := by simp [find, hx]
        rw [List.filter_cons, hqx, hfx]
        exact ih hxs.2
  rw [hone rows h, hone rows' h', hf]

/-- What a transaction sees of a row depends on the committed row. -/
theorem find_overlay_congr (hp : (pend.map key).Nodup) (hf : find k committed = find k committed') :
    find k (overlay committed pend) = find k (overlay committed' pend) := by
  rw [find_overlay hp, find_overlay hp, hf]

/-- A version that is put for a key keeps the pending versions of that key. -/
theorem key_eq_of_mem_put {r : R} (hk : ∀ v ∈ pend, key v = k) (hr : key r = k) :
    ∀ v ∈ put pend r, key v = k := by
  intro v hv
  rcases mem_keys_put.mp (List.mem_map_of_mem hv) with hv' | hv'
  · exact hv'.trans hr
  · obtain ⟨w, hw, hkw⟩ := List.mem_map.mp hv'
    exact hkw.symm.trans (hk w hw)

/-- Pending versions of one key leave what is seen under the others. -/
theorem find_overlay_of_ne (hp : (pend.map key).Nodup) (hk : ∀ v ∈ pend, key v = k) {k' : K}
    (hne : k' ≠ k) : find k' (overlay committed pend) = find k' committed := by
  have hnone : find k' pend = none := by
    rw [← Option.not_isSome_iff_eq_none, find_isSome_iff]
    intro hmem
    obtain ⟨v, hv, hkv⟩ := List.mem_map.mp hmem
    exact hne (hkv.symm.trans (hk v hv))
  rw [find_overlay hp, hnone, Option.none_or]

/-- A local transaction run alone gives the same result over tables with the same row of its key,
and leaves the same row of it. -/
theorem Prog.Local.exec_congr {prog : Prog R E α} (h : prog.Local k)
    (hc : (committed.map key).Nodup) (hc' : (committed'.map key).Nodup)
    (hp : (pend.map key).Nodup) (hf : find k committed = find k committed') :
    (prog.exec committed pend).1 = (prog.exec committed' pend).1 ∧
      find k (prog.exec committed pend).2.1 = find k (prog.exec committed' pend).2.1 := by
  induction prog generalizing committed committed' pend with
  | pure a => exact ⟨rfl, hf⟩
  | throw e => exact ⟨rfl, hf⟩
  | select q next ih =>
    have hrows : (overlay committed pend).filter q = (overlay committed' pend).filter q :=
      filter_eq_of_find_eq h.1 (nodup_overlay hc _) (nodup_overlay hc' _) (find_overlay_congr hp hf)
    simp only [Prog.exec, hrows]
    exact ih _ (h.2 _) hc hc' hp hf
  | insert row dup next ih =>
    obtain ⟨rfl, hnext⟩ := h
    simp only [Prog.exec, find_overlay_congr hp hf]
    cases find (key row) (overlay committed' pend) with
    | some old => exact ⟨rfl, hf⟩
    | none => exact ih hnext hc hc' (nodup_put hp row) hf
  | update k' set next ih =>
    obtain ⟨rfl, hnext⟩ := h
    simp only [Prog.exec, find_overlay_congr hp hf]
    cases find k' (overlay committed' pend) with
    | none => exact ih hnext hc hc' hp hf
    | some old =>
      dsimp only
      cases set.apply old with
      | error e => exact ⟨rfl, hf⟩
      | ok new => exact ih hnext hc hc' (nodup_put hp new) hf
  | commit next ih =>
    exact ih h (nodup_overlay hc _) (nodup_overlay hc' _) List.nodup_nil (find_overlay_congr hp hf)

/-- A transaction run alone leaves distinct keys. -/
theorem Prog.nodup_exec (prog : Prog R E α) (hc : (committed.map key).Nodup) :
    ((prog.exec committed pend).2.1.map key).Nodup := by
  induction prog generalizing committed pend with
  | pure a => exact hc
  | throw e => exact hc
  | select q next ih => exact ih _ hc
  | insert row dup next ih =>
    simp only [Prog.exec]
    split
    · exact hc
    · exact ih hc
  | update k set next ih =>
    simp only [Prog.exec]
    split
    · exact ih hc
    · split
      · exact hc
      · exact ih hc
  | commit next ih => exact ih (nodup_overlay hc pend)

/-- A local transaction run alone leaves the rows of other keys. -/
theorem Prog.Local.find_exec_of_ne {prog : Prog R E α} (h : prog.Local k)
    (hp : (pend.map key).Nodup) (hk : ∀ v ∈ pend, key v = k) {k' : K} (hne : k' ≠ k) :
    find k' (prog.exec committed pend).2.1 = find k' committed := by
  induction prog generalizing committed pend with
  | pure a => rfl
  | throw e => rfl
  | select q next ih => exact ih _ (h.2 _) hp hk
  | insert row dup next ih =>
    simp only [Prog.exec]
    split
    · rfl
    · exact ih h.2 (nodup_put hp row) (key_eq_of_mem_put hk h.1)
  | update k₀ set next ih =>
    obtain ⟨rfl, hnext⟩ := h
    simp only [Prog.exec]
    split
    · exact ih hnext hp hk
    · rename_i old hf
      split
      · rfl
      · rename_i new ha
        have hnew : key new = k₀ := (set.key_apply _ _ ha).trans (find_eq_some hf).2
        exact ih hnext (nodup_put hp new) (key_eq_of_mem_put hk hnew)
  | commit next ih =>
    have hnil : (([] : List R).map key).Nodup := List.nodup_nil
    exact (ih h hnil fun _ hv => absurd hv (by simp)).trans (find_overlay_of_ne hp hk hne)

end Alone

section System

variable [DecidableEq ι] {σ σ' : Sys ι R E α} {i : ι}

/-- A step of a transaction does not change what it gives and leaves when it then runs alone. -/
theorem Step.exec_eq (hs : Step σ i σ') :
    ((σ'.tx i).prog.exec σ'.committed (σ'.tx i).pend).1 =
        ((σ.tx i).prog.exec σ.committed (σ.tx i).pend).1 ∧
      ((σ'.tx i).prog.exec σ'.committed (σ'.tx i).pend).2.1 =
        ((σ.tx i).prog.exec σ.committed (σ.tx i).pend).2.1 := by
  cases hs with
  | select hp => simp [Sys.set, hp, Prog.exec]
  | insert hp hl hf => simp [Sys.set, hp, Prog.exec, hf]
  | insertDup hp hl hf => simp [Sys.set, hp, Prog.exec, hf]
  | update hp hl hf ha => simp [Sys.set, hp, Prog.exec, hf, ha]
  | updateFails hp hl hf ha => simp [Sys.set, hp, Prog.exec, hf, ha]
  | updateNone hp hl hf => simp [Sys.set, hp, Prog.exec, hf]
  | commit hp => simp [hp, Prog.exec]
  | rollback hp hn =>
    simp only [Sys.set, Function.update_self]
    cases hprog : (σ.tx i).prog <;> simp_all [Prog.exec, Prog.outcome]

/-- A step of a local transaction leaves it local, with versions of its key alone. -/
theorem Step.local (hs : Step σ i σ') {k : K} (h : (σ.tx i).prog.Local k)
    (hk : ∀ v ∈ (σ.tx i).pend, key v = k) :
    (σ'.tx i).prog.Local k ∧ ∀ v ∈ (σ'.tx i).pend, key v = k := by
  cases hs with
  | select hp =>
    rw [hp] at h
    simpa [Sys.set] using ⟨h.2 _, hk⟩
  | insert hp hl hf =>
    rw [hp] at h
    simpa [Sys.set] using ⟨h.2, key_eq_of_mem_put hk h.1⟩
  | insertDup hp hl hf => simpa [Sys.set, Prog.Local] using hk
  | update hp hl hf ha =>
    rw [hp] at h
    obtain ⟨rfl, hnext⟩ := h
    have hnew := (ColumnUpdate.key_apply _ _ _ ha).trans (find_eq_some hf).2
    simpa [Sys.set] using ⟨hnext, key_eq_of_mem_put hk hnew⟩
  | updateFails hp hl hf ha => simpa [Sys.set, Prog.Local] using hk
  | updateNone hp hl hf =>
    rw [hp] at h
    simpa [Sys.set] using ⟨h.2, hk⟩
  | commit hp =>
    rw [hp, Prog.Local] at h
    simpa using h
  | rollback hp hn => simpa [Sys.set] using h

/-- In a state of transactions that are local to the keys `keyOf`, over the starting table `store`:
what each gives and leaves of its row if it then runs alone is what it does from the start, and
other rows are as they were. -/
structure SeparateInv (keyOf : ι → K) (progs : ι → Prog R E α) (store : List R)
    (σ : Sys ι R E α) : Prop where
  wf : WellFormed σ
  prog : ∀ i, (σ.tx i).prog.Local (keyOf i)
  pend : ∀ i, ∀ v ∈ (σ.tx i).pend, key v = keyOf i
  result : ∀ i, ((σ.tx i).prog.exec σ.committed (σ.tx i).pend).1 = ((progs i).run store).1
  row : ∀ i, find (keyOf i) ((σ.tx i).prog.exec σ.committed (σ.tx i).pend).2.1 =
    find (keyOf i) ((progs i).run store).2
  others : ∀ k, (∀ i, k ≠ keyOf i) → find k σ.committed = find k store

variable {keyOf : ι → K} {progs : ι → Prog R E α} {store : List R}

omit [DecidableEq ι] in
/-- The transactions at the start. -/
theorem separateInv_start (hstore : (store.map key).Nodup)
    (hlocal : ∀ i, (progs i).Local (keyOf i)) :
    SeparateInv keyOf progs store (Sys.start store progs) :=
  ⟨wellFormed_start hstore progs, hlocal, fun _ _ hv => absurd hv (by simp [Sys.start, Tx.start]),
    fun _ => rfl, fun _ => rfl, fun _ _ => rfl⟩

/-- The committed row of another key is left by a step of a local transaction. -/
theorem SeparateInv.find_committed (h : SeparateInv keyOf progs store σ) (hs : Step σ i σ') {k : K}
    (hk : k ≠ keyOf i) : find k σ'.committed = find k σ.committed := by
  rcases hs.shape with ⟨t, rfl, -⟩ | ⟨next, -, rfl⟩
  · rfl
  · exact find_overlay_of_ne (h.wf.pend i) (h.pend i) hk

/-- A step keeps the transactions apart. -/
theorem separateInv_step (hinj : Function.Injective keyOf) (h : SeparateInv keyOf progs store σ)
    (hs : Step σ i σ') : SeparateInv keyOf progs store σ' := by
  have hw := wellFormed_step h.wf hs
  obtain ⟨hprog, hpend⟩ := hs.local (h.prog i) (h.pend i)
  obtain ⟨hresult, hrow⟩ := hs.exec_eq
  -- The other transactions see no change of their rows.
  have hothers : ∀ j, j ≠ i →
      ((σ'.tx j).prog.exec σ'.committed (σ'.tx j).pend).1 =
          ((σ.tx j).prog.exec σ.committed (σ.tx j).pend).1 ∧
        find (keyOf j) ((σ'.tx j).prog.exec σ'.committed (σ'.tx j).pend).2.1 =
          find (keyOf j) ((σ.tx j).prog.exec σ.committed (σ.tx j).pend).2.1 := by
    intro j hj
    rw [hs.tx_of_ne hj]
    exact (h.prog j).exec_congr hw.committed h.wf.committed (h.wf.pend j)
      (h.find_committed hs fun e => hj (hinj e))
  refine ⟨hw, fun j => ?_, fun j => ?_, fun j => ?_, fun j => ?_, fun k hk => ?_⟩
  · by_cases hj : j = i
    · exact hj ▸ hprog
    · exact hs.tx_of_ne hj ▸ h.prog j
  · by_cases hj : j = i
    · exact hj ▸ hpend
    · exact hs.tx_of_ne hj ▸ h.pend j
  · by_cases hj : j = i
    · subst hj
      exact hresult.trans (h.result j)
    · exact (hothers j hj).1.trans (h.result j)
  · by_cases hj : j = i
    · subst hj
      rw [hrow]
      exact h.row j
    · exact (hothers j hj).2.trans (h.row j)
  · rw [h.find_committed hs (hk i)]
    exact h.others k hk

/-- Along every run of transactions that are local to different keys. -/
theorem separateInv_of_reaches (hstore : (store.map key).Nodup) (hinj : Function.Injective keyOf)
    (hlocal : ∀ i, (progs i).Local (keyOf i)) {Good : Sys ι R E α → ι → Prop}
    (hr : Reaches Good (Sys.start store progs) σ) : SeparateInv keyOf progs store σ :=
  hr.invariant (fun _ _ _ h _ hs => separateInv_step hinj h hs) (separateInv_start hstore hlocal)

omit [DecidableEq ι] in
/-- A transaction that has ended gave the result it gives alone over the starting table. -/
theorem SeparateInv.outcome_eq (h : SeparateInv keyOf progs store σ) {r : Except E α}
    (ho : (σ.tx i).prog.outcome = some r) : r = ((progs i).run store).1 := by
  rw [← h.result i]
  cases hp : (σ.tx i).prog <;> simp_all [Prog.outcome, Prog.exec]

omit [DecidableEq ι] in
/-- A transaction that is done left the row of its key that it leaves alone. -/
theorem SeparateInv.find_eq (h : SeparateInv keyOf progs store σ) (hd : (σ.tx i).Done) :
    find (keyOf i) σ.committed = find (keyOf i) ((progs i).run store).2 := by
  rw [← h.row i]
  obtain ⟨hend, -⟩ := hd
  cases hp : (σ.tx i).prog <;> simp_all [Prog.outcome, Prog.exec]

end System

section Serial

variable {keyOf : ι → K} {progs : ι → Prog R E α} {store : List R}

/-- Transactions local to different keys, run one after another over a table that has their rows as
`store` does: each gives the result, and leaves of its row what it does alone over `store`, and the
other rows stay. -/
theorem serialRun_of_local (hinj : Function.Injective keyOf)
    (hlocal : ∀ i, (progs i).Local (keyOf i)) (hstore : (store.map key).Nodup) (is : List ι)
    (his : is.Nodup) {table : List R} (htable : (table.map key).Nodup)
    (hsame : ∀ i ∈ is, find (keyOf i) table = find (keyOf i) store) :
    (serialRun (is.map progs) table).1 = is.map (fun i => ((progs i).run store).1) ∧
      (∀ i ∈ is, find (keyOf i) (serialRun (is.map progs) table).2 =
        find (keyOf i) ((progs i).run store).2) ∧
      ∀ k, (∀ i ∈ is, k ≠ keyOf i) →
        find k (serialRun (is.map progs) table).2 = find k table := by
  have hnil : (([] : List R).map key).Nodup := List.nodup_nil
  induction is generalizing table with
  | nil => exact ⟨rfl, fun i hi => absurd hi (by simp), fun _ _ => rfl⟩
  | cons i is ih =>
    obtain ⟨hi, his⟩ := List.nodup_cons.mp his
    -- The first transaction does what it does over `store`, and leaves the rows of the others.
    obtain ⟨hresult, hrow⟩ := (hlocal i).exec_congr htable hstore hnil
      (hsame i List.mem_cons_self)
    have hleft : ∀ k, k ≠ keyOf i → find k ((progs i).run table).2 = find k table := fun k hk =>
      (hlocal i).find_exec_of_ne hnil (fun _ hv => absurd hv (by simp)) hk
    have hne : ∀ j ∈ is, keyOf j ≠ keyOf i := fun j hj e => hi (hinj e ▸ hj)
    obtain ⟨hresults, hrows, hothers⟩ := ih his ((progs i).nodup_exec htable) fun j hj =>
      (hleft _ (hne j hj)).trans (hsame j (List.mem_cons_of_mem _ hj))
    refine ⟨?_, fun j hj => ?_, fun k hk => ?_⟩
    · exact congrArg₂ List.cons hresult hresults
    · rcases List.mem_cons.mp hj with rfl | hj
      · exact (hothers _ fun j' hj' e => hne j' hj' e.symm).trans hrow
      · exact hrows j hj
    · exact (hothers k fun j hj => hk j (List.mem_cons_of_mem _ hj)).trans
        (hleft k (hk i List.mem_cons_self))

/-- When all transactions are done, their results and the rows are those of running them one after
another, in any order. -/
theorem SeparateInv.serial [DecidableEq ι] {σ : Sys ι R E α}
    (h : SeparateInv keyOf progs store σ) (hinj : Function.Injective keyOf)
    (hlocal : ∀ i, (progs i).Local (keyOf i)) (hstore : (store.map key).Nodup)
    (hdone : ∀ i, (σ.tx i).Done) {is : List ι} (his : is.Nodup) (hall : ∀ i, i ∈ is) :
    is.map (fun i => (σ.tx i).prog.outcome) = (serialRun (is.map progs) store).1.map some ∧
      ∀ k, find k σ.committed = find k (serialRun (is.map progs) store).2 := by
  obtain ⟨hresults, hrows, hothers⟩ :=
    serialRun_of_local hinj hlocal hstore is his hstore fun _ _ => rfl
  refine ⟨?_, fun k => ?_⟩
  · rw [hresults, List.map_map]
    refine List.map_congr_left fun i _ => ?_
    obtain ⟨r, hr⟩ := Option.isSome_iff_exists.mp (hdone i).1
    rw [hr, h.outcome_eq hr]
    rfl
  · by_cases hk : ∃ i, k = keyOf i
    · obtain ⟨i, rfl⟩ := hk
      rw [h.find_eq (hdone i), hrows i (hall i)]
    · have hne : ∀ i, k ≠ keyOf i := fun i e => hk ⟨i, e⟩
      rw [h.others k hne, hothers k fun i _ => hne i]

end Serial
end ReadCommitted
