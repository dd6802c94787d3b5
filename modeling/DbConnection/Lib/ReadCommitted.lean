import Mathlib.Data.Finset.Card
import Mathlib.Logic.Function.Basic

/-!
# Transactions over a read-committed table

A table is the list of its rows, each under a primary key. A transaction is a program of atomic
SQL statements: a SELECT filters the rows it sees, an INSERT adds a row or fails on a duplicate
key, an UPDATE rewrites the row of one key, and a COMMIT publishes what the transaction wrote.
A program runs alone by `Prog.exec`. Any number of programs run interleaved by `Step`: a SELECT
takes no lock and sees every committed row under the transaction's own writes, and a statement
that writes a row waits while another transaction holds an uncommitted version of it.

`Reaches` collects the runs of a system. Its `Good` argument restricts the steps a run takes, so
that a property of all runs and a property of the runs whose steps meet a condition are the same
kind of statement.
-/

namespace ReadCommitted

/-- Rows of type `R` have a primary key of type `K`. -/
class Keyed (R : Type) (K : outParam Type) where
  /-- The row's primary key. -/
  key : R → K

export Keyed (key)

section Rows

variable {K R : Type} [DecidableEq K] [Keyed R K]

/-- The row of a key. -/
def find (k : K) (rows : List R) : Option R := rows.find? fun r => decide (key r = k)

/-- Writes one version of a row: over the row of its key, or as a new row. -/
def put : List R → R → List R
  | [], r => [r]
  | x :: xs, r => if key x = key r then r :: xs else x :: put xs r

/-- What a transaction sees: the committed rows under its own pending versions. -/
def overlay (committed pend : List R) : List R := pend.foldl put committed

/-- The keys of the rows that satisfy `p`. -/
def matching (p : R → Bool) (rows : List R) : Finset K := ((rows.filter p).map key).toFinset

@[simp] theorem overlay_nil (rows : List R) : overlay rows [] = rows := rfl

/-- The row just written is the row of its key. -/
theorem find_put_self (rows : List R) (r : R) : find (key r) (put rows r) = some r := by
  induction rows with
  | nil => simp [put, find]
  | cons x xs ih =>
    by_cases hx : key x = key r
    · simp [put, hx, find]
    · simp only [put, hx, if_false]
      simpa [find, hx] using ih

/-- Writing a row leaves the row of every other key. -/
theorem find_put_of_ne (rows : List R) (r : R) {k : K} (h : key r ≠ k) :
    find k (put rows r) = find k rows := by
  induction rows with
  | nil => simp [put, find, h]
  | cons x xs ih =>
    by_cases hx : key x = key r
    · simp [put, hx, find, h]
    · simp only [put, hx, if_false]
      by_cases hk : key x = k
      · simp [find, hk]
      · simpa [find, hk] using ih

/-- Writing a row keeps the keys, or appends the row's key to them. -/
theorem map_key_put (rows : List R) (r : R) :
    (put rows r).map key =
      if key r ∈ rows.map key then rows.map key else rows.map key ++ [key r] := by
  induction rows with
  | nil => simp [put]
  | cons x xs ih =>
    by_cases hx : key x = key r
    · simp [put, hx]
    · have hx' : key r ≠ key x := fun h => hx h.symm
      simp only [put, hx, if_false, List.map_cons, ih, List.mem_cons, hx', false_or]
      split <;> simp

/-- Writing a row keeps the keys distinct. -/
theorem nodup_put {rows : List R} (h : (rows.map key).Nodup) (r : R) :
    ((put rows r).map key).Nodup := by
  rw [map_key_put]
  split
  · exact h
  · rename_i hr
    exact List.nodup_append.mpr ⟨h, by simp, by
      intro a ha b hb hab
      simp only [List.mem_singleton] at hb
      subst hb
      subst hab
      exact hr ha⟩

/-- The key of a written row is a key that was there, or the row's own. -/
theorem mem_keys_put {rows : List R} {r : R} {k : K} :
    k ∈ (put rows r).map key ↔ k = key r ∨ k ∈ rows.map key := by
  rw [map_key_put]
  split
  · constructor
    · exact Or.inr
    · rintro (rfl | h)
      · assumption
      · exact h
  · simp only [List.mem_append, List.mem_singleton]
    exact Or.comm

/-- A key has a row exactly when it is among the keys. -/
theorem find_isSome_iff {rows : List R} {k : K} :
    (find k rows).isSome ↔ k ∈ rows.map key := by
  simp [find, List.find?_isSome]

/-- The row found under a key is a row of the table, and has the key. -/
theorem find_eq_some {rows : List R} {k : K} {r : R} (h : find k rows = some r) :
    r ∈ rows ∧ key r = k := by
  unfold find at h
  exact ⟨List.mem_of_find?_eq_some h, by simpa using List.find?_some h⟩

/-- Under distinct keys, each row is the row of its key. -/
theorem find_of_mem {rows : List R} (h : (rows.map key).Nodup) {r : R} (hr : r ∈ rows) :
    find (key r) rows = some r := by
  induction rows with
  | nil => simp at hr
  | cons x xs ih =>
    simp only [List.map_cons, List.nodup_cons] at h
    rcases List.mem_cons.mp hr with rfl | hr
    · simp [find]
    · have hx : key x ≠ key r := fun hk => h.1 (hk ▸ List.mem_map_of_mem hr)
      simpa [find, hx] using ih h.2 hr

/-- The keys a transaction sees stay distinct. -/
theorem nodup_overlay {committed : List R} (h : (committed.map key).Nodup) (pend : List R) :
    ((overlay committed pend).map key).Nodup := by
  induction pend generalizing committed with
  | nil => exact h
  | cons r pend ih => exact ih (nodup_put h r)

/-- A transaction sees its own version of a row if it wrote one, and the committed one if not. -/
theorem find_overlay {pend : List R} (h : (pend.map key).Nodup) (committed : List R) (k : K) :
    find k (overlay committed pend) = (find k pend).or (find k committed) := by
  induction pend generalizing committed with
  | nil => simp [find]
  | cons r pend ih =>
    simp only [List.map_cons, List.nodup_cons] at h
    change find k (overlay (put committed r) pend) = _
    rw [ih h.2]
    by_cases hk : key r = k
    · subst hk
      have hp : find (key r) pend = none := by
        rw [← Option.not_isSome_iff_eq_none, find_isSome_iff]
        exact h.1
      rw [hp, find_put_self]
      simp [find]
    · rw [find_put_of_ne _ _ hk]
      simp [find, hk]

/-- The first row a SELECT by key returns is the row of that key. -/
theorem head?_filter_key (rows : List R) (k : K) :
    (rows.filter fun r => decide (key r = k)).head? = find k rows := by
  rw [List.head?_filter]
  rfl

/-- Under distinct keys, a key is matching when its row satisfies the predicate. -/
theorem mem_matching {rows : List R} (h : (rows.map key).Nodup) {p : R → Bool} {k : K} :
    k ∈ matching p rows ↔ ∃ r, find k rows = some r ∧ p r = true := by
  simp only [matching, List.mem_toFinset, List.mem_map, List.mem_filter]
  constructor
  · rintro ⟨r, ⟨hr, hp⟩, rfl⟩
    exact ⟨r, find_of_mem h hr, hp⟩
  · rintro ⟨r, hr, hp⟩
    exact ⟨r, ⟨(find_eq_some hr).1, hp⟩, (find_eq_some hr).2⟩

/-- Under distinct keys, the matching keys are as many as the matching rows. -/
theorem card_matching {rows : List R} (h : (rows.map key).Nodup) (p : R → Bool) :
    (matching p rows).card = (rows.filter p).length := by
  have hd : ((rows.filter p).map key).Nodup := h.sublist ((List.filter_sublist).map _)
  rw [matching, List.toFinset_card_of_nodup hd, List.length_map]

end Rows

/-- An UPDATE's assignment to a row. It may violate a constraint, and leaves the primary key. -/
structure ColumnUpdate (R E : Type) {K : Type} [Keyed R K] where
  /-- The row after the assignment, or the constraint it violates. -/
  apply : R → Except E R
  /-- The primary key is not assigned. -/
  key_apply : ∀ r r', apply r = .ok r' → key r' = key r

/-- A transaction: atomic statements, and the program that goes on with what a SELECT returned.
`pure` and `throw` end it, and what it did not commit is rolled back. -/
inductive Prog (R E : Type) {K : Type} [Keyed R K] (α : Type) where
  | pure (a : α)
  | throw (e : E)
  /-- SELECT the rows that satisfy `p`. -/
  | select (p : R → Bool) (next : List R → Prog R E α)
  /-- INSERT `row`, or fail with `dup` where its key is taken. -/
  | insert (row : R) (dup : E) (next : Prog R E α)
  /-- UPDATE the row of `k`, if there is one. -/
  | update (k : K) (set : ColumnUpdate R E) (next : Prog R E α)
  | commit (next : Prog R E α)

namespace Prog

variable {K R E : Type} [Keyed R K] {α β : Type}

/-- Runs `p`, then `f` on its result. -/
protected def bind : Prog R E α → (α → Prog R E β) → Prog R E β
  | .pure a, f => f a
  | .throw e, _ => .throw e
  | .select q next, f => .select q fun rows => (next rows).bind f
  | .insert row dup next, f => .insert row dup (next.bind f)
  | .update k set next, f => .update k set (next.bind f)
  | .commit next, f => .commit (next.bind f)

instance : Monad (Prog R E) where
  pure := .pure
  bind := Prog.bind

/-- A computation without statements. -/
def ofExcept : Except E α → Prog R E α
  | .ok a => .pure a
  | .error e => .throw e

section Alone

variable [DecidableEq K]

/-- Runs a transaction alone over the committed rows and its own pending versions. Gives its
result, the committed rows and the versions it leaves pending. -/
def exec : Prog R E α → List R → List R → Except E α × List R × List R
  | .pure a, committed, pend => (.ok a, committed, pend)
  | .throw e, committed, pend => (.error e, committed, pend)
  | .select q next, committed, pend =>
    (next ((overlay committed pend).filter q)).exec committed pend
  | .insert row dup next, committed, pend =>
    match find (key row) (overlay committed pend) with
    | some _ => (.error dup, committed, pend)
    | none => next.exec committed (put pend row)
  | .update k set next, committed, pend =>
    match find k (overlay committed pend) with
    | none => next.exec committed pend
    | some row =>
      match set.apply row with
      | .error e => (.error e, committed, pend)
      | .ok row' => next.exec committed (put pend row')
  -- What was written becomes visible at once, and nothing is pending.
  | .commit next, committed, pend => next.exec (overlay committed pend) []

/-- A whole transaction alone: its result and the committed rows after it. -/
def run (p : Prog R E α) (committed : List R) : Except E α × List R :=
  let (result, committed', _) := p.exec committed []
  (result, committed')

/-- Sequencing runs the first program, and the second on its result where it has one. -/
theorem exec_bind (p : Prog R E α) (f : α → Prog R E β) (committed pend : List R) :
    (p >>= f).exec committed pend =
      match p.exec committed pend with
      | (.ok a, committed', pend') => (f a).exec committed' pend'
      | (.error e, committed', pend') => (.error e, committed', pend') := by
  change (p.bind f).exec committed pend = _
  induction p generalizing committed pend with
  | pure a => rfl
  | throw e => rfl
  | select q next ih => exact ih _ _ _
  | insert row dup next ih =>
    simp only [Prog.bind, exec]
    split
    · rfl
    · exact ih _ _
  | update k set next ih =>
    simp only [Prog.bind, exec]
    split
    · exact ih _ _
    · split
      · rfl
      · exact ih _ _
  | commit next ih => exact ih _ _

end Alone

/-- The result of a transaction that has ended. -/
def outcome : Prog R E α → Option (Except E α)
  | .pure a => some (.ok a)
  | .throw e => some (.error e)
  | _ => none

/-- Whether a transaction has ended with a result. -/
def succeeded (p : Prog R E α) : Bool :=
  match p with
  | .pure _ => true
  | _ => false

theorem exists_outcome_of_succeeded {p : Prog R E α} (h : p.succeeded = true) :
    ∃ a, p.outcome = some (.ok a) := by
  cases p <;> simp_all [succeeded, outcome]

end Prog
end ReadCommitted
