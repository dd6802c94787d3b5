import DbConnection.Lib.ReadCommitted

/-!
# Units of work under faults

A unit of work opens a session, runs a transaction in it and closes the session. Here every
statement of the transaction, and everything that is computed between two statements, may fail with
an exception of its own (`attempt`), and so may what surrounds the transaction (`Faults`). Faults are
numbered by the statements they come before, so that an assignment of exceptions to numbers is an
assignment to every step. What a failed transaction wrote and did not commit is discarded by the
rollback or by the close.

`Prog.Ends` says how often a transaction commits before it returns, and that nothing is left to
fail after the commit. For such transactions `UnitOfWork.attempt_spec` gives the contract of a unit
of work under any assignment of faults.
-/

namespace ReadCommitted

/-- What happens to a session. -/
inductive SessionEvent where
  | opened
  | committed
  | rolledBack
  | closed
  deriving DecidableEq, Repr

/-- The exceptions that the steps of a unit of work raise, where they raise one. -/
structure Faults (E : Type) where
  /-- What is computed before the unit of work. -/
  prologue : Option E
  /-- The factory of the session. -/
  factory : Option E
  /-- The `k`-th statement, or what is computed before it. The last number stands for what is
  computed after the last statement. -/
  steps : Nat → Option E
  /-- Whether the session says that a transaction is open, when an exception leaves it. -/
  inTransaction : Bool
  rollback : Option E

/-- No step fails of itself. -/
def Faults.none {E : Type} : Faults E := ⟨.none, .none, fun _ => .none, true, .none⟩

/-- What a unit of work returns, leaves committed and does to its session. -/
structure Ending (R E α : Type) where
  result : Except E α
  committed : List R
  events : List SessionEvent

namespace Prog

variable {K R E : Type} [Keyed R K] [DecidableEq K] {α β : Type}

/-- Every normal end of the program comes right after its one commit, or there is no commit. -/
def Ends (commits : Bool) : Prog R E α → Prop
  | .pure _ => commits = false
  | .throw _ => True
  | .select _ next => ∀ rows, (next rows).Ends commits
  | .insert _ _ next => next.Ends commits
  | .update _ _ next => next.Ends commits
  | .commit next => commits = true ∧ ∃ a, next = .pure a

/-- Runs a transaction whose `k`-th statement fails with `faults k`, or what is computed before it
does. Gives the result, the committed rows and the number of commits. -/
def attempt (faults : Nat → Option E) : Prog R E α → Nat → Nat → List R → List R →
    Except E α × List R × Nat
  | .pure a, k, commits, committed, _ =>
    -- Between a commit and the return nothing is computed that could fail.
    match if commits = 0 then faults k else none with
    | some e => (.error e, committed, commits)
    | none => (.ok a, committed, commits)
  | .throw e, k, commits, committed, _ => (.error ((faults k).getD e), committed, commits)
  | .select q next, k, commits, committed, pend =>
    match faults k with
    | some e => (.error e, committed, commits)
    | none => (next ((overlay committed pend).filter q)).attempt faults (k + 1) commits committed pend
  | .insert row dup next, k, commits, committed, pend =>
    match faults k with
    | some e => (.error e, committed, commits)
    | none =>
      match find (key row) (overlay committed pend) with
      | some _ => (.error dup, committed, commits)
      | none => next.attempt faults (k + 1) commits committed (put pend row)
  | .update id set next, k, commits, committed, pend =>
    match faults k with
    | some e => (.error e, committed, commits)
    | none =>
      match find id (overlay committed pend) with
      | none => next.attempt faults (k + 1) commits committed pend
      | some row =>
        match set.apply row with
        | .error e => (.error e, committed, commits)
        | .ok row' => next.attempt faults (k + 1) commits committed (put pend row')
  -- A commit that fails leaves the database as it is.
  | .commit next, k, commits, committed, pend =>
    match faults k with
    | some e => (.error e, committed, commits)
    | none => next.attempt faults (k + 1) (commits + 1) (overlay committed pend) []

/-- A transaction that fails on the way commits nothing; one that ends well commits as often as its
kind does, and did what it does without faults. -/
theorem attempt_spec {commits : Bool} {p : Prog R E α} (h : p.Ends commits)
    (faults : Nat → Option E) (k : Nat) (committed pend : List R) :
    (∃ e, p.attempt faults k 0 committed pend = (.error e, committed, 0)) ∨
      ∃ a committed', p.attempt faults k 0 committed pend = (.ok a, committed', commits.toNat) ∧
        ∃ pend', p.exec committed pend = (.ok a, committed', pend') := by
  induction p generalizing k pend with
  | pure a =>
    have hcommits : commits = false := h
    subst hcommits
    unfold attempt
    cases hk : faults k with
    | some e => exact .inl ⟨e, rfl⟩
    | none => exact .inr ⟨a, committed, rfl, pend, rfl⟩
  | throw e => exact .inl ⟨_, rfl⟩
  | select q next ih =>
    unfold attempt
    cases hk : faults k with
    | some e => exact .inl ⟨e, rfl⟩
    | none => exact ih _ (h _) (k + 1) pend
  | insert row dup next ih =>
    unfold attempt exec
    cases hk : faults k with
    | some e => exact .inl ⟨e, rfl⟩
    | none =>
      cases hf : find (key row) (overlay committed pend) with
      | some found => exact .inl ⟨dup, rfl⟩
      | none => exact ih h (k + 1) (put pend row)
  | update id set next ih =>
    unfold attempt exec
    cases hk : faults k with
    | some e => exact .inl ⟨e, rfl⟩
    | none =>
      cases hf : find id (overlay committed pend) with
      | none => exact ih h (k + 1) pend
      | some row =>
        cases ha : set.apply row with
        | error e =>
          refine .inl ⟨e, ?_⟩
          simp only [ha]
        | ok row' =>
          simp only [ha]
          exact ih h (k + 1) (put pend row')
  | commit next ih =>
    obtain ⟨hcommits, a, rfl⟩ := h
    subst hcommits
    unfold attempt
    cases hk : faults k with
    | some e => exact .inl ⟨e, rfl⟩
    -- The return after the commit: its place in `attempt` asks for no fault.
    | none => exact .inr ⟨a, overlay committed pend, rfl, [], rfl⟩

/-- Without faults an attempt is the run. -/
theorem attempt_none (p : Prog R E α) (k commits : Nat) (committed pend : List R) :
    (p.attempt (fun _ => none) k commits committed pend).1 = (p.exec committed pend).1 ∧
      (p.attempt (fun _ => none) k commits committed pend).2.1 = (p.exec committed pend).2.1 := by
  induction p generalizing k commits committed pend with
  | pure a =>
    unfold attempt
    split <;> simp_all [exec]
  | throw e => exact ⟨rfl, rfl⟩
  | select q next ih => exact ih _ (k + 1) commits committed pend
  | insert row dup next ih =>
    unfold attempt exec
    cases hf : find (key row) (overlay committed pend) with
    | some found => exact ⟨rfl, rfl⟩
    | none => exact ih (k + 1) commits committed (put pend row)
  | update id set next ih =>
    unfold attempt exec
    cases hf : find id (overlay committed pend) with
    | none => exact ih (k + 1) commits committed pend
    | some row =>
      cases ha : set.apply row with
      | error e => simp only [ha, and_self]
      | ok row' =>
        simp only [ha]
        exact ih (k + 1) commits committed (put pend row')
  | commit next ih => exact ih (k + 1) (commits + 1) (overlay committed pend) []

end Prog

/-- A unit of work: what is computed before its session is opened, and the transaction that runs in
the session. -/
abbrev UnitOfWork (R E : Type) {K : Type} [Keyed R K] (α : Type) := Except E (Prog R E α)

namespace UnitOfWork

variable {K R E : Type} [Keyed R K] [DecidableEq K] {α β : Type}

/-- The end of a session that an exception leaves: the rollback, which may raise in its turn, and
the close, which comes whatever the rollback did. -/
def exitWith (faults : Faults E) (e : E) : E × List SessionEvent :=
  if faults.inTransaction then
    match faults.rollback with
    | some e' => (e', [.closed])
    | none => (e, [.rolledBack, .closed])
  else (e, [.closed])

/-- A unit of work under faults. -/
def attempt (faults : Faults E) (uow : UnitOfWork R E α) (committed : List R) : Ending R E α :=
  match faults.prologue with
  | some e => ⟨.error e, committed, []⟩
  | none =>
    match uow with
    | .error e => ⟨.error e, committed, []⟩
    | .ok p =>
      match faults.factory with
      -- No session was made, so there is none to close.
      | some e => ⟨.error e, committed, []⟩
      | none =>
        match p.attempt faults.steps 0 0 committed [] with
        | (.ok a, committed', commits) =>
          ⟨.ok a, committed', .opened :: (List.replicate commits .committed ++ [.closed])⟩
        | (.error e, committed', commits) =>
          ⟨.error (exitWith faults e).1, committed',
            .opened :: (List.replicate commits .committed ++ (exitWith faults e).2)⟩

/-- The transaction of a unit of work, with what is computed before it. -/
def prog : UnitOfWork R E α → Prog R E α
  | .error e => .throw e
  | .ok p => p

/-- The contract of a unit of work whose transaction commits once or not at all, under any faults:
where it raises, nothing was committed; where it returns, it committed as often as its transaction
does and did what that does alone; and a session that was opened was closed once. -/
theorem attempt_spec {commits : Bool} {uow : UnitOfWork R E α}
    (h : ∀ p, uow = .ok p → p.Ends commits) (faults : Faults E) (committed : List R) :
    (∀ e, (uow.attempt faults committed).result = .error e →
        (uow.attempt faults committed).committed = committed ∧
          (uow.attempt faults committed).events.count .committed = 0) ∧
      (∀ a, (uow.attempt faults committed).result = .ok a →
        (uow.attempt faults committed).events.count .committed = commits.toNat ∧
          uow.prog.run committed = (.ok a, (uow.attempt faults committed).committed)) ∧
      (uow.attempt faults committed).events.count .closed =
        (uow.attempt faults committed).events.count .opened ∧
      (uow.attempt faults committed).events.count .opened ≤ 1 := by
  have hexit : ∀ e, (exitWith faults e).2.count .closed = 1 ∧
      (exitWith faults e).2.count .opened = 0 ∧ (exitWith faults e).2.count .committed = 0 := by
    intro e
    unfold exitWith
    split
    · split <;> exact ⟨rfl, rfl, rfl⟩
    · exact ⟨rfl, rfl, rfl⟩
  unfold attempt
  split
  · simp
  · cases uow with
    | error e => simp
    | ok p =>
      dsimp only
      split
      · simp
      · rcases Prog.attempt_spec (h p rfl) faults.steps 0 committed [] with
          ⟨e, he⟩ | ⟨a, committed', ha, pend', hexec⟩
        · obtain ⟨hclosed, hopened, hcommitted⟩ := hexit e
          rw [he]
          simp [hclosed, hopened, hcommitted]
        · have hrun : p.run committed = (.ok a, committed') := by
            unfold Prog.run
            rw [hexec]
          rw [ha]
          simp [prog, hrun, List.count_replicate]

/-- Without faults a unit of work does what its transaction does alone. -/
theorem attempt_none (uow : UnitOfWork R E α) (committed : List R) :
    ((uow.attempt .none committed).result, (uow.attempt .none committed).committed) =
      uow.prog.run committed := by
  cases uow with
  | error e => rfl
  | ok p =>
    obtain ⟨hresult, hcommitted⟩ := Prog.attempt_none p 0 0 committed []
    have hrun : p.run committed = ((p.exec committed []).1, (p.exec committed []).2.1) := rfl
    unfold attempt prog
    rw [hrun, ← hresult, ← hcommitted]
    simp only [Faults.none]
    rcases p.attempt (fun _ => none) 0 0 committed [] with ⟨result, committed', commits⟩
    cases result with
    | error e => rfl
    | ok a => rfl

end UnitOfWork
end ReadCommitted
