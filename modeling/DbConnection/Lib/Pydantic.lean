import DbConnection.Lib.PyData

/-!
# Pydantic models

What a program can observe of the model classes it is given: a `ModelClass` turns a payload into
an `Instance` or a `ValidationError`, or lets an exception of one of its validators through, and an
instance dumps itself back into plain data. Python's
equality of two instances compares their classes and fields and ignores which of the fields the
payload set, so the latter are not part of an `Instance` but of the reading `Parsed` it came from.
A Python value with no JSON form (a member of an enumeration, a date) stands in a dump under an
encoding that its model reads back.

`smartUnion` is the choice of pydantic's smart mode among the members of a union that accept a
payload: the most fields set, then the exactest reading, then the leftmost member.
-/

namespace Pydantic

open PyData

/-- A class by module and qualified name. -/
structure ClassRef where
  moduleName : String
  qualname : String
  deriving DecidableEq, Repr, Inhabited

/-- An instance of a model class. -/
structure Instance where
  /-- `type(value)` and its base classes, the class itself first. -/
  mro : List ClassRef
  /-- `value.model_dump(mode="python")`. -/
  dump : Dict Json
  /-- `value.model_dump(mode="json")`. -/
  dumpJson : Dict Json
  deriving DecidableEq, Repr, Inhabited

/-- `type(value)`. -/
def Instance.cls (v : Instance) : ClassRef := v.mro.headD default

/-- `isinstance(value, cls)`. -/
def Instance.isInstance (v : Instance) (cls : ClassRef) : Bool := v.mro.contains cls

/-- Pydantic's `ValidationError`: the list `errors()` returns and the text `str(exc)`. -/
structure ValidationError where
  errors : List Json
  text : String
  deriving DecidableEq, Repr, Inhabited

/-- An exception that pydantic does not turn into a `ValidationError`. -/
structure RaisedException where
  cls : String
  message : String
  deriving DecidableEq, Repr, Inhabited

/-- What `model_validate` raises: a `ValidationError`, or what a validator raised that is neither a
`ValueError` nor an `AssertionError`. -/
inductive ModelError where
  | validation (error : ValidationError)
  | raised (exc : RaisedException)
  deriving DecidableEq, Repr, Inhabited

/-- `str(exc)`. -/
def ModelError.text : ModelError → String
  | .validation error => error.text
  | .raised exc => exc.message

/-- The exception of an error that is no `ValidationError`. -/
def ModelError.raised? : ModelError → Option RaisedException
  | .validation _ => none
  | .raised exc => some exc

/-- How close a reading is to its payload: without conversions, without lax ones, or with. -/
inductive Exactness where
  | lax
  | strict
  | exact
  deriving DecidableEq, Repr, Inhabited

/-- The place of an exactness in their order. -/
def Exactness.rank : Exactness → Nat
  | .lax => 0
  | .strict => 1
  | .exact => 2

/-- A payload as a model read it. -/
structure Parsed where
  value : Instance
  /-- `value.model_dump(exclude_unset=True, mode="python")`. -/
  dumpSet : Dict Json
  /-- The number of fields the payload set, those of nested models counted. -/
  fieldsSet : Nat
  exactness : Exactness
  deriving DecidableEq, Repr, Inhabited

/-- A model class. Reading a payload gives an instance of the class. -/
structure ModelClass where
  /-- The class and its base classes, the class itself first. -/
  mro : List ClassRef
  /-- `model_validate` on plain data, with the record of the fields that were set. -/
  parse : Json → Except ModelError Parsed
  /-- An accepted payload is an instance of the class and of its bases. -/
  parse_mro : ∀ payload r, parse payload = .ok r → mro ⊆ r.value.mro

namespace ModelClass

/-- The class of a model. -/
def ref (m : ModelClass) : ClassRef := m.mro.headD default

/-- `model.model_validate(payload)` on plain data. -/
def validate (m : ModelClass) (payload : Json) : Except ModelError Instance :=
  match m.parse payload with
  | .ok r => .ok r.value
  | .error e => .error e

/-- The error of `model_validate` on an instance of another class. -/
def modelTypeError (m : ModelClass) (v : Instance) : ValidationError where
  errors := [.obj [("type", .str "model_type"), ("loc", .arr []),
    ("msg", .str s!"Input should be a valid dictionary or instance of {m.ref.qualname}"),
    ("input", .obj v.dump), ("ctx", .obj [("class_name", .str m.ref.qualname)])]]
  text := s!"1 validation error for {m.ref.qualname}"

/-- `model.model_validate(value)` on an instance, which is returned as it is where it is an
instance of the model. -/
def validateInstance (m : ModelClass) (v : Instance) : Except ModelError Instance :=
  if v.isInstance m.ref then .ok v else .error (.validation (m.modelTypeError v))

/-- An accepted payload is an instance of each class the model derives from. -/
theorem isInstance_of_validate {m : ModelClass} {payload : Json} {v : Instance}
    (h : m.validate payload = .ok v) {cls : ClassRef} (hc : cls ∈ m.mro) :
    v.isInstance cls = true := by
  unfold validate at h
  split at h
  · rename_i r hr
    cases h
    simpa [Instance.isInstance] using m.parse_mro _ _ hr hc
  · cases h

/-- Whatever it reads, the model raises no other exception than `ValidationError`. -/
def Quiet (m : ModelClass) : Prop := ∀ payload exc, m.parse payload ≠ .error (.raised exc)

/-- Validating plain data by a model that raises no other exception raises none. -/
theorem Quiet.validate_ne_raised {m : ModelClass} (h : m.Quiet) (payload : Json)
    (exc : RaisedException) : m.validate payload ≠ .error (.raised exc) := by
  intro hr
  unfold validate at hr
  split at hr
  · cases hr
  · rename_i e he
    cases hr
    exact h payload exc he

/-- Validating an instance raises no other exception. -/
theorem validateInstance_ne_raised (m : ModelClass) (v : Instance) (exc : RaisedException) :
    m.validateInstance v ≠ .error (.raised exc) := by
  intro hr
  unfold validateInstance at hr
  split at hr <;> cases hr

/-- The model reads the JSON dump of an accepted value back as that value. -/
def ReadsBack (m : ModelClass) : Prop :=
  ∀ payload v, m.validate payload = .ok v → m.validate (.obj v.dumpJson) = .ok v

end ModelClass

/-- `a` is preferred to `b` wherever it stands in the union. -/
def Parsed.outranks (a b : Parsed) : Bool :=
  decide (b.fieldsSet < a.fieldsSet) ||
    (decide (b.fieldsSet = a.fieldsSet) && decide (b.exactness.rank < a.exactness.rank))

/-- The choice between a reading and the best of the members to its right. -/
def preferred (a : Parsed) : Option Parsed → Parsed
  | none => a
  | some b => if b.outranks a then b else a

/-- The reading a smart-mode union prefers among those of its members, from left to right. -/
def smartUnion : List Parsed → Option Parsed
  | [] => none
  | a :: rest => some (preferred a (smartUnion rest))

/-- The order of preference is transitive. -/
theorem Parsed.outranks_trans {a b c : Parsed} (hab : a.outranks b) (hbc : b.outranks c) :
    a.outranks c := by
  simp only [outranks, Bool.or_eq_true, decide_eq_true_eq, Bool.and_eq_true] at *
  omega

/-- A reading that is not outranked by another outranks all that the other does. -/
theorem Parsed.outranks_of_not {a b c : Parsed} (hab : a.outranks b = false)
    (hac : a.outranks c) : b.outranks c := by
  simp only [outranks, Bool.or_eq_true, decide_eq_true_eq, Bool.and_eq_true,
    Bool.or_eq_false_iff, decide_eq_false_iff_not, Bool.and_eq_false_iff] at *
  omega

/-- A union accepts what one of its members accepts. -/
theorem smartUnion_eq_none_iff {rs : List Parsed} : smartUnion rs = none ↔ rs = [] := by
  cases rs <;> simp [smartUnion]

/-- The preferred reading is one of the members', and none of them outranks it. -/
theorem smartUnion_spec {rs : List Parsed} {r : Parsed} (h : smartUnion rs = some r) :
    r ∈ rs ∧ ∀ s ∈ rs, s.outranks r = false := by
  induction rs generalizing r with
  | nil => cases h
  | cons a rest ih =>
    have hirr : ∀ x : Parsed, x.outranks x = false := fun x => by simp [Parsed.outranks]
    cases hb : smartUnion rest with
    | none =>
      have hrest : rest = [] := smartUnion_eq_none_iff.mp hb
      simp only [smartUnion, hb, preferred, Option.some.injEq] at h
      subst h
      subst hrest
      simp [hirr]
    | some b =>
      obtain ⟨hmem, hmax⟩ := ih hb
      simp only [smartUnion, hb, preferred, Option.some.injEq] at h
      split at h
      -- The best of the rest outranks the first, so nothing outranks it.
      · rename_i hba
        subst h
        refine ⟨List.mem_cons_of_mem _ hmem, fun s hs => ?_⟩
        rcases List.mem_cons.mp hs with rfl | hs
        · by_contra hsb
          simp only [Bool.not_eq_false] at hsb
          have := Parsed.outranks_trans hsb hba
          simp [hirr] at this
        · exact hmax s hs
      · rename_i hba
        subst h
        refine ⟨List.mem_cons_self, fun s hs => ?_⟩
        rcases List.mem_cons.mp hs with rfl | hs
        · exact hirr _
        · by_contra hsa
          simp only [Bool.not_eq_false] at hsa
          exact hba (Parsed.outranks_of_not (hmax s hs) hsa)

/-- The preferred reading outranks those to its left and is not outranked by those to its right. -/
theorem smartUnion_split {rs : List Parsed} {r : Parsed} (h : smartUnion rs = some r) :
    ∃ left right, rs = left ++ r :: right ∧ (∀ s ∈ left, r.outranks s = true) ∧
      ∀ s ∈ right, s.outranks r = false := by
  induction rs generalizing r with
  | nil => cases h
  | cons a rest ih =>
    cases hb : smartUnion rest with
    | none =>
      have hrest : rest = [] := smartUnion_eq_none_iff.mp hb
      simp only [smartUnion, hb, preferred, Option.some.injEq] at h
      subst h
      exact ⟨[], rest, rfl, by simp, by simp [hrest]⟩
    | some b =>
      obtain ⟨left, right, hsplit, hleft, hright⟩ := ih hb
      simp only [smartUnion, hb, preferred, Option.some.injEq] at h
      split at h
      · rename_i hba
        subst h
        refine ⟨a :: left, right, by rw [hsplit]; rfl, fun s hs => ?_, hright⟩
        rcases List.mem_cons.mp hs with rfl | hs
        · exact hba
        · exact hleft s hs
      · rename_i hba
        subst h
        refine ⟨[], rest, rfl, by simp, fun s hs => ?_⟩
        by_contra hsa
        simp only [Bool.not_eq_false] at hsa
        exact hba (Parsed.outranks_of_not ((smartUnion_spec hb).2 s hs) hsa)

/-- Of readings with tags, the preferred one has a tag with `P` exactly when every reading without
it comes after one that has it. -/
theorem smartUnion_tag_iff {τ : Type} {readings : List (τ × Parsed)} {r : Parsed}
    (h : smartUnion (readings.map Prod.snd) = some r) (P : τ → Prop) :
    ∃ winner, (winner, r) ∈ readings ∧
      (P winner ↔ ∀ left other s right, readings = left ++ (other, s) :: right → ¬ P other →
        ∃ first s', P first ∧ (((first, s') ∈ left ∧ s.outranks s' = false) ∨
          ((first, s') ∈ right ∧ s'.outranks s = true))) := by
  obtain ⟨ls, rs, hsplit, hleft, hright⟩ := smartUnion_split h
  obtain ⟨left, rest, hreadings, hls, hrest⟩ := List.map_eq_append_iff.mp hsplit
  obtain ⟨⟨winner, w⟩, right, rfl, hw, hrs⟩ := List.map_eq_cons_iff.mp hrest
  have hr : w = r := hw
  subst hr
  have hbefore : ∀ x ∈ left, w.outranks x.2 = true := fun x hx =>
    hleft x.2 (hls ▸ List.mem_map_of_mem hx)
  have hafter : ∀ x ∈ right, x.2.outranks w = false := fun x hx =>
    hright x.2 (hrs ▸ List.mem_map_of_mem hx)
  refine ⟨winner, by rw [hreadings]; simp, ?_⟩
  constructor
  · intro hwinner l other s rt hl hother
    refine ⟨winner, w, hwinner, ?_⟩
    rw [hreadings] at hl
    -- The other reading stands to one side of the preferred one.
    rcases List.append_eq_append_iff.mp hl with ⟨mid, rfl, hmid⟩ | ⟨mid, rfl, hmid⟩
    · cases mid with
      | nil =>
        cases hmid
        exact absurd hwinner hother
      | cons x mid =>
        cases hmid
        exact .inl ⟨by simp, hafter (other, s) (by simp)⟩
    · cases mid with
      | nil =>
        cases hmid
        exact absurd hwinner hother
      | cons x mid =>
        cases hmid
        exact .inr ⟨by simp, hbefore (other, s) (by simp)⟩
  · intro hall
    by_contra hwinner
    obtain ⟨first, s', -, hfirst | hfirst⟩ := hall left winner w right hreadings hwinner
    · rw [hbefore _ hfirst.1] at hfirst
      exact absurd hfirst.2 (by simp)
    · have hnot := hafter _ hfirst.1
      rw [hfirst.2] at hnot
      cases hnot

end Pydantic
