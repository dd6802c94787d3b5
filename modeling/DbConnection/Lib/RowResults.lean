import DbConnection.Lib.RowVersions

/-!
# What transactions return, and rows that they leave

A result is made of the rows that its transaction read. If every version satisfies `P`, and a
transaction returns what satisfies `Q` of rows that satisfy `P` (`Prog.Returns`), then what it
returned in any run satisfies `Q` (`returned_of_reaches`). A row that no transaction changes when it
has read it as it is (`Prog.Leaves`) is left as it is in every run (`left_of_reaches`).
-/

namespace ReadCommitted

variable {ι K R E α β : Type} [Keyed R K]

/-! ## Results -/

/-- A transaction whose result satisfies `Q`, as long as the rows it reads satisfy `P`. -/
def Prog.Returns (P : R → Prop) (Q : α → Prop) : Prog R E α → Prop
  | .pure a => Q a
  | .throw _ => True
  | .select q next => ∀ rows, (∀ r ∈ rows, q r = true ∧ P r) → (next rows).Returns P Q
  | .insert _ _ next => next.Returns P Q
  | .update _ _ next => next.Returns P Q
  | .commit next => next.Returns P Q

section Returns

variable {P : R → Prop} {Q : α → Prop}

/-- A computation without statements returns what it computes. -/
theorem Prog.returns_ofExcept {x : Except E α} (h : ∀ a, x = .ok a → Q a) :
    (Prog.ofExcept x : Prog R E α).Returns P Q := by
  cases x with
  | ok a => exact h a rfl
  | error e => trivial

/-- After a transaction comes one of its result. -/
theorem Prog.Returns.bind {prog : Prog R E α} {f : α → Prog R E β} {Q' : β → Prop}
    (h : prog.Returns P Q) (hf : ∀ a, Q a → (f a).Returns P Q') :
    (prog.bind f).Returns P Q' := by
  induction prog with
  | pure a => exact hf a h
  | throw e => trivial
  | select q next ih => exact fun rows hrows => ih rows (h rows hrows)
  | insert row dup next ih => exact ih h
  | update k set next ih => exact ih h
  | commit next ih => exact ih h

/-- A result computed of another. -/
theorem Prog.Returns.map {prog : Prog R E α} {Q' : β → Prop} {f : α → β} (h : prog.Returns P Q)
    (hf : ∀ a, Q a → Q' (f a)) : (prog.bind fun a => .pure (f a)).Returns P Q' :=
  h.bind hf

/-- A read-modify-write transaction returns what it makes of a version of its row, after it decided
on one. -/
theorem Rmw.returns_prog [DecidableEq K] (m : Rmw R E α)
    (h : ∀ row u, (∀ r ∈ row, key r = m.row ∧ P r) → m.decide row = .ok u →
      ∀ r, key r = m.row → P r → Q (m.out r)) : m.prog.Returns P Q := by
  intro rows hrows
  dsimp only
  have hhead : ∀ r ∈ rows.head?, key r = m.row ∧ P r := fun r hr =>
    (hrows r (List.mem_of_mem_head? hr)).imp_left of_decide_eq_true
  cases hd : m.decide rows.head? with
  | error e => trivial
  | ok u =>
    intro rows' _
    dsimp only
    cases rows'.head? with
    | none => trivial
    | some row =>
      intro rows'' hrows''
      dsimp only
      cases hread : rows''.head? with
      | none => trivial
      | some r =>
        have hr := hrows'' r (List.mem_of_mem_head? hread)
        exact h _ u hhead hd r (of_decide_eq_true hr.1) hr.2

variable [DecidableEq ι] [DecidableEq K]

/-- A step leaves programs that return what they should. -/
theorem returns_step {Q : ι → α → Prop} {σ σ' : Sys ι R E α} {i : ι} (hversions : Versions P σ)
    (h : ∀ j, (σ.tx j).prog.Returns P (Q j)) (hs : Step σ i σ') (j : ι) :
    (σ'.tx j).prog.Returns P (Q j) := by
  by_cases hj : j = i
  · subst hj
    have hprog := h j
    cases hs with
    | select hp =>
      rw [hp] at hprog
      simp only [Sys.set, Function.update_self]
      refine hprog _ fun r hr => ?_
      exact ⟨(List.mem_filter.mp hr).2, hversions.overlay j (List.mem_of_mem_filter hr)⟩
    | insert hp hl hf =>
      rw [hp] at hprog
      simp only [Sys.set, Function.update_self]
      exact hprog
    | insertDup hp hl hf => simp [Sys.set, Prog.Returns]
    | update hp hl hf ha =>
      rw [hp] at hprog
      simp only [Sys.set, Function.update_self]
      exact hprog
    | updateFails hp hl hf ha => simp [Sys.set, Prog.Returns]
    | updateNone hp hl hf =>
      rw [hp] at hprog
      simp only [Sys.set, Function.update_self]
      exact hprog
    | commit hp =>
      rw [hp] at hprog
      simp only [Function.update_self]
      exact hprog
    | rollback hp hn =>
      simp only [Sys.set, Function.update_self]
      exact hprog
  · rw [hs.tx_of_ne hj]
    exact h j

/-- In every run of transactions that keep `P` of all versions, what a transaction returned is what
it returns of rows that satisfy `P`. -/
theorem returned_of_reaches {Good : Sys ι R E α → ι → Prop} {store : List R}
    {progs : ι → Prog R E α} {Q : ι → α → Prop} (hstore : ∀ r ∈ store, P r)
    (hprogs : ∀ i, (progs i).Writes P) (hreturns : ∀ i, (progs i).Returns P (Q i))
    {σ : Sys ι R E α} (hr : Reaches Good (Sys.start store progs) σ) {i : ι} {a : α}
    (ho : (σ.tx i).prog.outcome = some (.ok a)) : Q i a := by
  have hinv : Versions P σ ∧ ∀ j, (σ.tx j).prog.Returns P (Q j) := by
    clear ho
    induction hr with
    | refl => exact ⟨⟨hstore, fun _ _ h => (by cases h), hprogs⟩, hreturns⟩
    | step _ _ hs ih => exact ⟨versions_step ih.1 hs, returns_step ih.1 ih.2 hs⟩
  have hprog := hinv.2 i
  cases hp : (σ.tx i).prog with
  | pure b =>
    rw [hp] at ho hprog
    cases ho
    exact hprog
  | _ =>
    rw [hp] at ho
    cases ho

end Returns

/-! ## Rows that are left -/

/-- A transaction that does not change the row `c`, as long as the version it reads of it is `c`. -/
def Prog.Leaves (c : R) : Prog R E α → Prop
  | .pure _ => True
  | .throw _ => True
  | .select q next => ∀ rows, (∀ r ∈ rows, q r = true ∧ (key r = key c → r = c)) →
      (next rows).Leaves c
  | .insert _ _ next => next.Leaves c
  | .update k set next => (k = key c → ∀ r, set.apply c ≠ .ok r) ∧ next.Leaves c
  | .commit next => next.Leaves c

section Leaves

variable {c : R}

/-- A transaction that has ended updates nothing. -/
theorem Prog.Leaves.of_outcome {prog : Prog R E α} (h : prog.outcome.isSome) : prog.Leaves c := by
  cases prog <;> simp_all [Prog.outcome, Prog.Leaves]

theorem Prog.Finishes.leaves {prog : Prog R E α} (h : prog.Finishes) : prog.Leaves c := by
  induction prog with
  | pure a => trivial
  | throw e => trivial
  | select q next ih => exact fun rows _ => ih rows (h rows)
  | insert row dup next ih => cases h
  | update k set next ih => cases h
  | commit next ih =>
    have hnext : next.Leaves c := Prog.Leaves.of_outcome h
    exact hnext

theorem Prog.Inserting.leaves {P : R → Prop} {prog : Prog R E α} (h : prog.Inserting P) :
    prog.Leaves c := by
  induction prog with
  | pure a => trivial
  | throw e => trivial
  | select q next ih => exact fun rows _ => ih rows (h rows)
  | insert row dup next ih => exact h.2.leaves
  | update k set next ih => cases h
  | commit next ih => cases h

/-- A result computed at the end does not change what a transaction updates. -/
theorem Prog.Leaves.map {prog : Prog R E α} (h : prog.Leaves c) (f : α → β) :
    (prog.bind fun a => .pure (f a)).Leaves c := by
  induction prog with
  | pure a => trivial
  | throw e => trivial
  | select q next ih => exact fun rows hrows => ih rows (h rows hrows)
  | insert row dup next ih => exact ih h
  | update k set next ih => exact ⟨h.1, ih h.2⟩
  | commit next ih => exact ih h

/-- A read-modify-write transaction leaves a row of another key, and one that its changes of the row
fail on. -/
theorem Rmw.leaves_prog [DecidableEq K] (m : Rmw R E α)
    (h : m.row = key c → ∀ row u, (∀ r ∈ row, r = c) → m.decide row = .ok u →
      ∀ r, u.apply c ≠ .ok r) : m.prog.Leaves c := by
  intro rows hrows
  dsimp only
  cases hd : m.decide rows.head? with
  | error e => trivial
  | ok u =>
    intro rows' _
    dsimp only
    cases rows'.head? with
    | none => trivial
    | some row =>
      refine ⟨fun hrow => h hrow rows.head? u (fun r hr => ?_) hd, fun rows'' _ => ?_⟩
      · obtain ⟨hkey, hc⟩ := hrows r (List.mem_of_mem_head? hr)
        exact hc ((of_decide_eq_true hkey).trans hrow)
      · dsimp only
        cases rows''.head? with
        | none => trivial
        | some r => trivial

/-- A read-modify-write transaction that fails alone over a row, and without one, leaves it. -/
theorem Rmw.leaves_of_run [DecidableEq K] (m : Rmw R E α) (hrow : m.row = key c)
    (hnone : ∀ u, m.decide none ≠ .ok u) {e : E} (h : (m.prog.run [c]).1 = .error e) :
    m.prog.Leaves c := by
  refine m.leaves_prog fun _ row u hread hd r ha => ?_
  cases row with
  | none => exact hnone u hd
  | some read =>
    rw [hread read rfl] at hd
    have hfind : find m.row [c] = some c := by simp [find, hrow]
    rw [m.run_prog, hfind] at h
    simp only [hd, ha] at h
    cases h

variable [DecidableEq ι] [DecidableEq K]

/-- The row is committed as it is, no transaction has written a version of it, and what is left of
each transaction leaves it. -/
structure Untouched (c : R) (σ : Sys ι R E α) : Prop where
  committed : find (key c) σ.committed = some c
  pend : ∀ i, ∀ r ∈ (σ.tx i).pend, key r ≠ key c
  prog : ∀ i, (σ.tx i).prog.Leaves c

omit [DecidableEq ι] in
/-- Each transaction sees the row as it is committed. -/
theorem Untouched.find_overlay {σ : Sys ι R E α} (h : Untouched c σ) (i : ι) :
    find (key c) (overlay σ.committed (σ.tx i).pend) = some c := by
  have hpend := h.pend i
  have hcommitted := h.committed
  generalize (σ.tx i).pend = pend at hpend
  generalize σ.committed = rows at hcommitted
  induction pend generalizing rows with
  | nil => exact hcommitted
  | cons r pend ih =>
    refine ih (fun x hx => hpend x (List.mem_cons_of_mem _ hx)) (put rows r) ?_
    rw [find_put_of_ne rows r (hpend r List.mem_cons_self)]
    exact hcommitted

/-- A transaction in another state that leaves the row. -/
theorem Untouched.set {σ : Sys ι R E α} (h : Untouched c σ) {i : ι} {t : Tx R E α}
    (hpend : ∀ r ∈ t.pend, key r ≠ key c) (hprog : t.prog.Leaves c) : Untouched c (σ.set i t) := by
  refine ⟨h.committed, fun j => ?_, fun j => ?_⟩
  · by_cases hj : j = i
    · subst hj
      simpa [Sys.set] using hpend
    · simpa [Sys.set, hj] using h.pend j
  · by_cases hj : j = i
    · subst hj
      simpa [Sys.set] using hprog
    · simpa [Sys.set, hj] using h.prog j

/-- A step leaves the row. -/
theorem untouched_step {σ σ' : Sys ι R E α} {i : ι} (hw : WellFormed σ) (h : Untouched c σ)
    (hs : Step σ i σ') : Untouched c σ' := by
  have hprog := h.prog i
  have hseen := h.find_overlay i
  cases hs with
  | select hp =>
    rw [hp] at hprog
    refine h.set (h.pend i) (hprog _ fun r hr => ⟨(List.mem_filter.mp hr).2, fun hkey => ?_⟩)
    have hfound := find_of_mem (nodup_overlay hw.committed _) (List.mem_of_mem_filter hr)
    rw [hkey, hseen] at hfound
    exact (Option.some.inj hfound).symm
  | insert hp hl hf =>
    rw [hp] at hprog
    refine h.set (fun r hr => ?_) hprog
    rcases mem_put hr with rfl | hr
    · intro hkey
      rw [hkey, hseen] at hf
      cases hf
    · exact h.pend i r hr
  | insertDup hp hl hf => exact h.set (h.pend i) trivial
  | update hp hl hf ha =>
    rw [hp] at hprog
    refine h.set (fun r hr => ?_) hprog.2
    rcases mem_put hr with rfl | hr
    · -- The row that is updated is another one, for the transaction would see this one as it is.
      rw [ColumnUpdate.key_apply _ _ _ ha, (find_eq_some hf).2]
      intro hk
      rw [hk, hseen] at hf
      exact hprog.1 hk _ (Option.some.inj hf ▸ ha)
    · exact h.pend i r hr
  | updateFails hp hl hf ha => exact h.set (h.pend i) trivial
  | updateNone hp hl hf =>
    rw [hp] at hprog
    exact h.set (h.pend i) hprog.2
  | commit hp =>
    rw [hp] at hprog
    refine ⟨hseen, fun j => ?_, fun j => ?_⟩
    · by_cases hj : j = i
      · subst hj
        simp
      · simpa [hj] using h.pend j
    · by_cases hj : j = i
      · subst hj
        simpa [Prog.Leaves] using hprog
      · simpa [hj] using h.prog j
  | rollback hp hn => exact h.set (by simp) hprog

/-- In every run of transactions that leave a row, it stays as it is. -/
theorem left_of_reaches {Good : Sys ι R E α → ι → Prop} {store : List R} {progs : ι → Prog R E α}
    (hstore : (store.map key).Nodup) (hc : find (key c) store = some c)
    (hprogs : ∀ i, (progs i).Leaves c) {σ : Sys ι R E α}
    (hr : Reaches Good (Sys.start store progs) σ) : find (key c) σ.committed = some c := by
  have hinv : WellFormed σ ∧ Untouched c σ := by
    induction hr with
    | refl => exact ⟨wellFormed_start hstore _, hc, fun _ _ h => (by cases h), hprogs⟩
    | step _ _ hs ih => exact ⟨wellFormed_step ih.1 hs, untouched_step ih.1 ih.2 hs⟩
  exact hinv.2.committed

end Leaves

end ReadCommitted
