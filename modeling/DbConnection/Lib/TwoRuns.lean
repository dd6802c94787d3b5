import Mathlib.Data.List.Forall2
import DbConnection.Lib.ReadCommitted

/-!
# Two runs side by side

What one run does to a table and another does to a table that is related to it, row by row. Two
results are related if they are the same error or related values (`ResultRel`); the relation is
carried through a computation by `ResultRel.bind`, and through reads and writes of a table by
`find_rel` and `put_rel`. A program whose results are related by equality does not observe what the
relation leaves open.
-/

namespace TwoRuns

open ReadCommitted

/-! ## Results -/

/-- Two results are the same error or related values. -/
inductive ResultRel {ε α β : Type} (Rel : α → β → Prop) : Except ε α → Except ε β → Prop where
  | error (e : ε) : ResultRel Rel (.error e) (.error e)
  | ok {a : α} {b : β} (h : Rel a b) : ResultRel Rel (.ok a) (.ok b)

namespace ResultRel

variable {ε α β γ δ : Type} {Rel : α → β → Prop} {Rel' : γ → δ → Prop} {x : Except ε α}
  {y : Except ε β}

/-- A result is related to itself where its value is. -/
theorem refl {Rel : α → α → Prop} (x : Except ε α) (h : ∀ a, x = .ok a → Rel a a) :
    ResultRel Rel x x := by
  cases x with
  | error e => exact .error e
  | ok a => exact .ok (h a rfl)

/-- Related results go on to related results. -/
theorem bind {f : α → Except ε γ} {g : β → Except ε δ} (h : ResultRel Rel x y)
    (hfg : ∀ a b, x = .ok a → y = .ok b → Rel a b → ResultRel Rel' (f a) (g b)) :
    ResultRel Rel' (x >>= f) (y >>= g) := by
  cases h with
  | error e => exact .error e
  | ok hab => exact hfg _ _ rfl rfl hab

/-- A computation that two runs share goes on to related results. -/
theorem bind_same {f : α → Except ε γ} {g : α → Except ε δ} (x : Except ε α)
    (hfg : ∀ a, x = .ok a → ResultRel Rel' (f a) (g a)) : ResultRel Rel' (x >>= f) (x >>= g) := by
  cases x with
  | error e => exact .error e
  | ok a => exact hfg a rfl

/-- Related results are mapped to related results. -/
theorem map {f : α → γ} {g : β → δ} (h : ResultRel Rel x y)
    (hfg : ∀ a b, Rel a b → Rel' (f a) (g b)) : ResultRel Rel' (x.map f) (y.map g) := by
  cases h with
  | error e => exact .error e
  | ok hab => exact .ok (hfg _ _ hab)

/-- Related results look the same where related values do. -/
theorem map_eq {f : α → γ} {g : β → γ} (h : ResultRel Rel x y) (hfg : ∀ a b, Rel a b → f a = g b) :
    x.map f = y.map g := by
  cases h with
  | error e => rfl
  | ok hab =>
    show Except.ok _ = Except.ok _
    rw [hfg _ _ hab]

end ResultRel

/-! ## Tables -/

section Tables

variable {R K : Type} [Keyed R K] [DecidableEq K] {Rel : R → R → Prop} {rows rows' : List R}

/-- A row found in one of two related tables is related to the one found in the other. -/
theorem find_rel (hkey : ∀ a b, Rel a b → key a = key b) (h : List.Forall₂ Rel rows rows') (k : K) :
    Option.Rel Rel (find k rows) (find k rows') := by
  induction h with
  | nil => exact .none
  | @cons a b as bs hab _ ih =>
    have hk := hkey a b hab
    unfold find at ih ⊢
    rw [List.find?_cons, List.find?_cons, ← hk]
    by_cases ha : key a = k
    · simp only [ha, decide_true]
      exact .some hab
    · simp only [ha, decide_false]
      exact ih

/-- Related rows leave related tables related. -/
theorem put_rel (hkey : ∀ a b, Rel a b → key a = key b) (h : List.Forall₂ Rel rows rows') {r r' : R}
    (hr : Rel r r') : List.Forall₂ Rel (put rows r) (put rows' r') := by
  induction h with
  | nil => exact .cons hr .nil
  | @cons a b as bs hab hrest ih =>
    have hk := hkey a b hab
    have hkr := hkey r r' hr
    unfold put
    rw [← hk, ← hkr]
    by_cases ha : key a = key r
    · rw [if_pos ha, if_pos ha]
      exact .cons hr hrest
    · rw [if_neg ha, if_neg ha]
      exact .cons hab ih

/-- Two related tables have related rows that a condition selects. -/
theorem filter_rel {p : R → Bool} (hp : ∀ a b, Rel a b → p a = p b)
    (h : List.Forall₂ Rel rows rows') : List.Forall₂ Rel (rows.filter p) (rows'.filter p) := by
  refine List.rel_filter ?_ h
  intro a b hab
  show p a = true ↔ p b = true
  rw [hp a b hab]

end Tables

/-- Related lists are mapped to the same list where related items are mapped to the same item. -/
theorem map_eq_map {α β γ : Type} {Rel : α → β → Prop} {as : List α} {bs : List β}
    (h : List.Forall₂ Rel as bs) {f : α → γ} {g : β → γ} (hfg : ∀ a b, Rel a b → f a = g b) :
    as.map f = bs.map g := by
  rw [← List.forall₂_eq_eq_eq, List.forall₂_map_left_iff, List.forall₂_map_right_iff]
  exact h.imp hfg

end TwoRuns
