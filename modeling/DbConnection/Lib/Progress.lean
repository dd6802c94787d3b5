import Mathlib.Algebra.BigOperators.Group.Finset.Piecewise
import Mathlib.Algebra.Order.BigOperators.Group.Finset
import DbConnection.Lib.ReadModifyWrite

/-!
# Transactions that hold one row at a time

A transaction waits where it writes a row that another one holds. Transactions that write nothing
while they hold a row (`Prog.Brief`) never wait for each other in a circle: one that holds a row
can always go on. So in every state some transaction has a step unless all are done
(`exists_step`), and as each runs a bounded number of statements, every run is finite
(`Steps.length_le`) and leads to a state in which all are done (`exists_done`).
-/

namespace ReadCommitted

variable {ι K R E α β : Type} [Keyed R K]

/-- A transaction of at most `n` statements that writes nothing while it holds a row, which it does
at first if `holds`. -/
def Prog.Brief : Prog R E α → Nat → Bool → Prop
  | .pure _, _, _ => True
  | .throw _, _, _ => True
  | .select _ next, n + 1, holds => ∀ rows, (next rows).Brief n holds
  | .insert _ _ next, n + 1, holds => holds = false ∧ next.Brief n true
  | .update _ _ next, n + 1, holds => holds = false ∧ next.Brief n true
  | .commit next, n + 1, _ => next.Brief n false
  | _, 0, _ => False

/-- A computation without statements is brief. -/
theorem Prog.brief_ofExcept (x : Except E α) (n : Nat) (holds : Bool) :
    (Prog.ofExcept x : Prog R E α).Brief n holds := by
  cases x <;> cases n <;> trivial

/-- A brief transaction that has not ended has a statement left. -/
theorem Prog.Brief.exists_succ {prog : Prog R E α} {n : Nat} {holds : Bool}
    (h : prog.Brief n holds) (ho : prog.outcome = none) : ∃ m, n = m + 1 := by
  cases n with
  | succ n => exact ⟨n, rfl⟩
  | zero =>
    cases prog with
    | pure a => cases ho
    | throw e => cases ho
    | _ => cases h

/-- A result computed at the end adds no statement. -/
theorem Prog.Brief.map {prog : Prog R E α} {n : Nat} {holds : Bool} (h : prog.Brief n holds)
    (f : α → β) : (prog.bind fun a => .pure (f a)).Brief n holds := by
  induction prog generalizing n holds with
  | pure a => cases n <;> trivial
  | throw e => cases n <;> trivial
  | select q next ih =>
    cases n with
    | zero => cases h
    | succ n => exact fun rows => ih rows (h rows)
  | insert row dup next ih =>
    cases n with
    | zero => cases h
    | succ n => exact ⟨h.1, ih h.2⟩
  | update k set next ih =>
    cases n with
    | zero => cases h
    | succ n => exact ⟨h.1, ih h.2⟩
  | commit next ih =>
    cases n with
    | zero => cases h
    | succ n => exact ih h

/-- Fewer statements are at most more. -/
theorem Prog.Brief.mono {prog : Prog R E α} {n m : Nat} {holds : Bool} (h : prog.Brief n holds)
    (hnm : n ≤ m) : prog.Brief m holds := by
  induction prog generalizing n m holds with
  | pure a => cases m <;> trivial
  | throw e => cases m <;> trivial
  | select q next ih =>
    cases n with
    | zero => cases h
    | succ n =>
      obtain ⟨m, rfl⟩ := Nat.exists_eq_add_of_lt hnm
      exact fun rows => ih rows (h rows) (by omega)
  | insert row dup next ih =>
    cases n with
    | zero => cases h
    | succ n =>
      obtain ⟨m, rfl⟩ := Nat.exists_eq_add_of_lt hnm
      exact ⟨h.1, ih h.2 (by omega)⟩
  | update k set next ih =>
    cases n with
    | zero => cases h
    | succ n =>
      obtain ⟨m, rfl⟩ := Nat.exists_eq_add_of_lt hnm
      exact ⟨h.1, ih h.2 (by omega)⟩
  | commit next ih =>
    cases n with
    | zero => cases h
    | succ n =>
      obtain ⟨m, rfl⟩ := Nat.exists_eq_add_of_lt hnm
      exact ih h (by omega)

/-- A read-modify-write transaction writes one row, after two SELECTs, and reads it back before it
commits. -/
theorem Rmw.brief_prog [DecidableEq K] (m : Rmw R E α) : m.prog.Brief 5 false := by
  intro rows
  dsimp only
  cases m.decide rows.head? with
  | error e => trivial
  | ok u =>
    intro rows'
    dsimp only
    cases rows'.head? with
    | none => trivial
    | some row =>
      refine ⟨rfl, fun rows'' => ?_⟩
      dsimp only
      cases rows''.head? with
      | none => trivial
      | some r => trivial

/-- The transaction has ended and holds no row. -/
def Tx.Done (t : Tx R E α) : Prop := t.prog.outcome.isSome ∧ t.pend = []

/-- The transaction is done, or has less than `n` statements left, which write nothing while it
holds a row. -/
def Tx.Within (t : Tx R E α) (n : Nat) : Prop :=
  t.Done ∨ ∃ m holds, m < n ∧ t.prog.Brief m holds ∧ (holds = false → t.pend = [])

/-- Transactions that have run no statement. -/
theorem Tx.within_start {prog : Prog R E α} {n : Nat} (h : prog.Brief n false) :
    (Tx.start prog).Within (n + 1) :=
  .inr ⟨n, false, Nat.lt_succ_self n, h, fun _ => rfl⟩

variable [DecidableEq ι] [DecidableEq K]

/-- The states that a number of steps leads to. -/
inductive Steps (σ : Sys ι R E α) : Nat → Sys ι R E α → Prop where
  | refl : Steps σ 0 σ
  | step {k σ' σ'' i} : Steps σ k σ' → Step σ' i σ'' → Steps σ (k + 1) σ''

section Steps

variable {σ σ' : Sys ι R E α} {i : ι}

/-- A step brings its transaction one statement further. -/
theorem Tx.Within.step (hs : Step σ i σ') {n : Nat} (h : (σ.tx i).Within n) :
    0 < n ∧ (σ'.tx i).Within (n - 1) := by
  rcases h with ⟨hend, hpend⟩ | ⟨m, holds, hm, hbrief, hholds⟩
  -- A transaction that is done has no step.
  · obtain ⟨r, hr⟩ := Option.isSome_iff_exists.mp hend
    exact absurd hpend (hs.of_outcome hr).1
  · refine ⟨by omega, ?_⟩
    cases ho : (σ.tx i).prog.outcome with
    -- One that has ended gives up what it holds.
    | some r =>
      obtain ⟨-, rfl⟩ := hs.of_outcome ho
      simp only [Sys.set, Function.update_self]
      exact .inl ⟨by simp [ho], rfl⟩
    | none =>
      obtain ⟨m, rfl⟩ := hbrief.exists_succ ho
      cases hs with
      | select hp =>
        rw [hp] at hbrief
        simp only [Sys.set, Function.update_self]
        exact .inr ⟨m, holds, by omega, hbrief _, hholds⟩
      | insert hp hl hf =>
        rw [hp] at hbrief
        simp only [Sys.set, Function.update_self]
        exact .inr ⟨m, true, by omega, hbrief.2, by simp⟩
      | insertDup hp hl hf =>
        simp only [Sys.set, Function.update_self]
        exact .inr ⟨m, holds, by omega, Prog.brief_ofExcept (.error _) m holds, hholds⟩
      | update hp hl hf ha =>
        rw [hp] at hbrief
        simp only [Sys.set, Function.update_self]
        exact .inr ⟨m, true, by omega, hbrief.2, by simp⟩
      | updateFails hp hl hf ha =>
        simp only [Sys.set, Function.update_self]
        exact .inr ⟨m, holds, by omega, Prog.brief_ofExcept (.error _) m holds, hholds⟩
      | updateNone hp hl hf =>
        rw [hp] at hbrief
        simp only [Sys.set, Function.update_self]
        exact .inr ⟨m, true, by omega, hbrief.2, by simp⟩
      | commit hp =>
        rw [hp] at hbrief
        simp only [Function.update_self]
        exact .inr ⟨m, false, by omega, hbrief, fun _ => rfl⟩
      | rollback hp hn => simp [hp] at ho

/-- A transaction that is not done and does not wait has a step. -/
theorem exists_step_of_not_locked (h : ¬ (σ.tx i).Done)
    (hl : ∀ k, σ.Locked i k → (∀ row dup next, (σ.tx i).prog = .insert row dup next → key row ≠ k) ∧
      ∀ set next, (σ.tx i).prog ≠ .update k set next) : ∃ σ', Step σ i σ' := by
  cases hp : (σ.tx i).prog with
  | pure a =>
    have hn : (σ.tx i).pend ≠ [] := fun hn => h ⟨by simp [hp, Prog.outcome], hn⟩
    exact ⟨_, .rollback (r := .ok a) (by rw [hp]; rfl) hn⟩
  | throw e =>
    have hn : (σ.tx i).pend ≠ [] := fun hn => h ⟨by simp [hp, Prog.outcome], hn⟩
    exact ⟨_, .rollback (r := .error e) (by rw [hp]; rfl) hn⟩
  | select q next => exact ⟨_, .select hp⟩
  | insert row dup next =>
    have hfree : ¬ σ.Locked i (key row) := fun hlock => (hl _ hlock).1 row dup next hp rfl
    cases hf : find (key row) (overlay σ.committed (σ.tx i).pend) with
    | none => exact ⟨_, .insert hp hfree hf⟩
    | some old => exact ⟨_, .insertDup hp hfree hf⟩
  | update k set next =>
    have hfree : ¬ σ.Locked i k := fun hlock => (hl _ hlock).2 set next hp
    cases hf : find k (overlay σ.committed (σ.tx i).pend) with
    | none => exact ⟨_, .updateNone hp hfree hf⟩
    | some old =>
      cases ha : set.apply old with
      | error e => exact ⟨_, .updateFails hp hfree hf ha⟩
      | ok new => exact ⟨_, .update hp hfree hf ha⟩
  | commit next => exact ⟨_, .commit hp⟩

/-- A transaction that holds a row has a step. -/
theorem Tx.Within.exists_step {n : Nat} (h : (σ.tx i).Within n) (hpend : (σ.tx i).pend ≠ []) :
    ∃ σ', Step σ i σ' := by
  rcases h with ⟨-, hn⟩ | ⟨m, holds, -, hbrief, hholds⟩
  · exact absurd hn hpend
  · have hh : holds = true := by
      cases holds with
      | true => rfl
      | false => exact absurd (hholds rfl) hpend
    subst hh
    refine exists_step_of_not_locked (fun hdone => hpend hdone.2) fun k _ => ⟨?_, ?_⟩
    · intro row dup next hp
      rw [hp] at hbrief
      cases m with
      | zero => cases hbrief
      | succ m => cases hbrief.1
    · intro set next hp
      rw [hp] at hbrief
      cases m with
      | zero => cases hbrief
      | succ m => cases hbrief.1

/-- Some transaction has a step, unless all are done: one that waits does so for one that holds a
row. -/
theorem exists_step (h : ∀ j, ∃ n, (σ.tx j).Within n) (hi : ¬ (σ.tx i).Done) :
    ∃ j σ', Step σ j σ' := by
  by_cases hlock : ∃ k, σ.Locked i k
  · obtain ⟨k, j, -, hk⟩ := hlock
    obtain ⟨n, hj⟩ := h j
    have hpend : (σ.tx j).pend ≠ [] := fun hn => by simp [hn] at hk
    exact ⟨j, hj.exists_step hpend⟩
  · exact ⟨i, exists_step_of_not_locked hi fun k hk => absurd ⟨k, hk⟩ hlock⟩

variable [Fintype ι]

/-- What a schedule leads to is seen of a state that as many steps lead to. -/
theorem exists_steps_of_runScheduleIf {σ : Sys ι R E α} {is : List ι} {β : Type}
    {f : Sys ι R E α → β} {b : β} (h : (runScheduleIf (fun _ _ => true) σ is).map f = some b) :
    ∃ σ', Steps σ is.length σ' ∧ f σ' = b := by
  obtain ⟨σ', hσ, hf⟩ := Option.map_eq_some_iff.mp h
  refine ⟨σ', ?_, hf⟩
  clear hf h
  -- The steps of the schedule follow those that led to its start.
  suffices ∀ k σ₀, Steps σ₀ k σ → Steps σ₀ (k + is.length) σ' by
    simpa using this 0 σ .refl
  induction is generalizing σ with
  | nil =>
    cases hσ
    exact fun k σ₀ h => h
  | cons i is ih =>
    intro k σ₀ h
    simp only [runScheduleIf, if_true] at hσ
    obtain ⟨τ, hτ, hσ⟩ := Option.bind_eq_some_iff.mp hσ
    have hstep := ih hσ (k + 1) σ₀ (.step h (step_of_step? hτ))
    rwa [List.length_cons, ← Nat.add_assoc, Nat.add_right_comm]

/-- What is left of each transaction after a number of steps, and that the steps and the statements
left together are no more than at the start. -/
structure Left (N k : Nat) (σ : Sys ι R E α) : Prop where
  /-- How many statements each transaction may have left, one of them to give up its rows. -/
  exists_left : ∃ n : ι → Nat, (∀ i, (σ.tx i).Within (n i)) ∧ k + ∑ i, n i ≤ N

/-- A step takes one of the statements left. -/
theorem Left.step {N k : Nat} (h : Left N k σ) (hs : Step σ i σ') : Left N (k + 1) σ' := by
  obtain ⟨n, hn, hsum⟩ := h.exists_left
  obtain ⟨hpos, hi⟩ := (hn i).step hs
  refine ⟨Function.update n i (n i - 1), fun j => ?_, ?_⟩
  · by_cases hj : j = i
    · subst hj
      simpa using hi
    · rw [hs.tx_of_ne hj, Function.update_of_ne hj]
      exact hn j
  · rw [Finset.sum_update_of_mem (Finset.mem_univ i)]
    have hsplit := Finset.add_sum_erase Finset.univ n (Finset.mem_univ i)
    rw [Finset.erase_eq] at hsplit
    omega

/-- Along a run. -/
theorem Steps.left {N k : Nat} (hs : Steps σ k σ') (h : Left N 0 σ) : Left N k σ' := by
  induction hs with
  | refl => exact h
  | step _ hstep ih => exact ih.step hstep

omit [DecidableEq ι] [DecidableEq K] in
/-- Transactions of at most `n` statements that have run none of them. -/
theorem left_start {store : List R} {progs : ι → Prog R E α} {n : Nat}
    (h : ∀ i, (progs i).Brief n false) : Left ((n + 1) * Fintype.card ι) 0 (Sys.start store progs) :=
  ⟨fun _ => n + 1, fun i => Tx.within_start (h i), by simp [Nat.mul_comm]⟩

/-- A run of transactions of at most `n` statements has at most `n + 1` steps for each. -/
theorem Steps.length_le {store : List R} {progs : ι → Prog R E α} {n k : Nat}
    (h : ∀ i, (progs i).Brief n false) (hs : Steps (Sys.start store progs) k σ) :
    k ≤ (n + 1) * Fintype.card ι := by
  obtain ⟨m, -, hsum⟩ := (hs.left (left_start h)).exists_left
  omega

/-- A run goes on until all transactions are done. -/
theorem Left.exists_done {N k : Nat} {σ : Sys ι R E α} (h : Left N k σ) :
    ∃ σ', Reaches (fun _ _ => True) σ σ' ∧ ∀ i, (σ'.tx i).Done := by
  by_cases hdone : ∀ i, (σ.tx i).Done
  · exact ⟨σ, .refl, hdone⟩
  · obtain ⟨i, hi⟩ := not_forall.mp hdone
    obtain ⟨n, hn, -⟩ := h.exists_left
    obtain ⟨j, τ, hs⟩ := exists_step (fun j => ⟨n j, hn j⟩) hi
    -- The step leaves fewer statements.
    have hlt : k < N := by
      obtain ⟨m, -, hsum⟩ := (h.step hs).exists_left
      omega
    obtain ⟨σ', hr, hσ'⟩ := (h.step hs).exists_done
    exact ⟨σ', (Reaches.refl.step trivial hs).trans hr, hσ'⟩
termination_by N - k

end Steps
end ReadCommitted
