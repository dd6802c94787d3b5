import DbConnection.Lib.PydanticTransfer

/-!
# Which member of a union reads a record

A union in smart mode prefers the member for which the payload sets the most fields. Where no model of
the union has a nested model among its fields, this is a count of keys (`ModelClass.HasFields`), and
the record of one member is read by that member if the records of the others share fewer of its keys
(`Distinguished`). `exists_unionOf_record_iff` is the result: the union reads an instance of a member out
of a record with the member's keys exactly when the member does.
-/

namespace Pydantic

open PyData

/-! ## The fields that are set -/

/-- A field of a plain type reads no nested model. -/
theorem Field.nested_of_readInput {field : Field} (hp : field.type.isPlain = true)
    {soFar : Dict Json} {value : Json} {r : FieldReading}
    (h : field.readInput soFar (.json value) = .ok r) : r.nested = 0 := by
  unfold Field.readInput at h
  cases hbefore : field.before value with
  | error e => simp [hbefore] at h
  | ok v =>
    cases hread : field.type.readJson v with
    | error e => simp [hbefore, hread] at h
    | ok reading =>
      obtain ⟨u, rfl, -⟩ := FieldType.readJson_of_readJson hp hread
      simp only [hbefore, hread, FieldReading.json, FieldReading.plain] at h
      cases hafter : field.after soFar u with
      | error e => simp [hafter] at h
      | ok w =>
        simp only [hafter] at h
        split at h
        · cases h
          rfl
        · cases h
          rfl

/-- What a reading without errors set: no nested model, and as many fields as are given. -/
theorem readFields_set {payload : Dict Json} {fields : List Field}
    (hplain : ∀ field ∈ fields, field.type.isPlain = true) {soFar read : FieldsRead}
    (h : readFields (toFieldInputs payload) fields soFar [] = (read, [])) :
    ∃ news, read = soFar ++ news ∧ (∀ entry ∈ news, entry.2.1.nested = 0) ∧
      (news.filter fun entry => entry.2.2).length =
        (fields.filter fun field => (field.given payload).isSome).length := by
  induction fields generalizing soFar with
  | nil =>
    cases h
    exact ⟨[], (List.append_nil _).symm, fun entry he => absurd he List.not_mem_nil, rfl⟩
  | cons field fields ih =>
    obtain ⟨r, given, hrest, -, hentry⟩ := readFields_cons h
    obtain ⟨news, hnews, hnested, hlength⟩ :=
      ih (fun f hf => hplain f (List.mem_cons_of_mem _ hf)) hrest
    have hfirst : r.nested = 0 ∧ given = (field.given payload).isSome := by
      rw [field.lookup_toFieldInputs] at hentry
      rcases hentry with ⟨input, hl, hgiven, hread⟩ | ⟨hl, hgiven, d, -, hd⟩
      · obtain ⟨value, hvalue, rfl⟩ := Option.map_eq_some_iff.mp hl
        refine ⟨Field.nested_of_readInput (hplain field List.mem_cons_self) hread, ?_⟩
        rw [hvalue]
        exact hgiven
      · have hd : r = .json d := hd
        rw [Option.map_eq_none_iff] at hl
        rw [hd, hl]
        exact ⟨rfl, hgiven⟩
    refine ⟨(field.name, r, given) :: news, ?_, ?_, ?_⟩
    · rw [hnews, List.append_assoc, List.singleton_append]
    · rw [List.forall_mem_cons]
      exact ⟨hfirst.1, hnested⟩
    · rw [List.filter_cons, List.filter_cons, ← hfirst.2]
      cases given with
      | true => exact congrArg Nat.succ hlength
      | false => exact hlength

/-- The count of a reading without nested models. -/
theorem foldl_nested (entries : FieldsRead) (h : ∀ entry ∈ entries, entry.2.1.nested = 0)
    (count : Nat) :
    entries.foldl (fun count entry => count + (1 + entry.2.1.nested)) count =
      count + entries.length := by
  induction entries generalizing count with
  | nil => rfl
  | cons entry entries ih =>
    rw [List.forall_mem_cons] at h
    rw [List.foldl_cons, h.1, ih h.2, List.length_cons]
    omega

/-- A model with plain fields has the fields `names`: its records have these keys in their order, and
as many of them are set as the payload has. -/
structure ModelClass.HasFields (m : ModelClass) (names : List String) : Prop where
  keys : ∀ payload p, m.parse payload = .ok p → p.value.dump.map Prod.fst = names
  fieldsSet : ∀ payload p, m.parse (.obj payload) = .ok p →
    p.fieldsSet = (names.filter fun name => Dict.contains payload name).length

/-- A declared model without extra keys, whose fields have plain types and no aliases, has these
fields. -/
theorem ModelDecl.hasFields {decl : ModelDecl} (hextra : decl.extra ≠ .allow)
    (hnames : (decl.fields.map Field.name).Nodup)
    (hplain : ∀ field ∈ decl.fields, field.type.isPlain = true)
    (halias : ∀ field ∈ decl.fields, field.validationAlias = none) :
    (ModelClass.ofDecl decl).HasFields (decl.fields.map Field.name) where
  keys payload p hp := by
    have hv := ModelClass.validate_eq_ok_iff.mpr ⟨p, hp, rfl⟩
    rw [(ModelDecl.instance_of_validate hv).2]
    exact ModelDecl.keys_of_validate hextra hnames hv
  fieldsSet payload p hp := by
    have hp : decl.parseInputs (toFieldInputs payload) = .ok p := hp
    obtain ⟨read, rewritten, hread, -, -, rfl⟩ := ModelDecl.parseInputs_eq_ok_iff.mp hp
    obtain ⟨news, hnews, hnested, hlength⟩ := readFields_set hplain hread
    obtain rfl : read = news := hnews
    have hkept : decl.kept (toFieldInputs payload) = [] := if_neg hextra
    have hgiven : ∀ field ∈ decl.fields,
        (field.given payload).isSome = Dict.contains payload field.name := by
      intro field hf
      unfold Field.given Dict.contains
      rw [halias field hf]
      rfl
    show List.foldl (fun count entry => count + (1 + entry.2.1.nested))
      (decl.kept (toFieldInputs payload)).length (read.filter fun entry => entry.2.2) = _
    rw [hkept, foldl_nested _ fun entry he => hnested entry (List.mem_of_mem_filter he), hlength,
      List.filter_map, List.length_map, List.length_nil, Nat.zero_add]
    exact congrArg List.length (List.filter_congr hgiven)

/-! ## The member that is preferred -/

/-- A reading that sets more fields than the others is the union's. -/
theorem unionOf_eq_ok {name : String} {readings : List (Except ModelError Parsed)} {p : Parsed}
    (hquiet : NoneRaises readings) (hmem : .ok p ∈ readings)
    (hless : ∀ q, .ok q ∈ readings → q = p ∨ q.fieldsSet < p.fieldsSet) :
    unionOf name readings = .ok p := by
  have hin : p ∈ readings.filterMap Except.toOption := List.mem_filterMap.mpr ⟨_, hmem, rfl⟩
  refine unionOf_eq_ok_iff.mpr ⟨hquiet, ?_⟩
  cases hr : smartUnion (readings.filterMap Except.toOption) with
  | none =>
    rw [smartUnion_eq_none_iff.mp hr] at hin
    exact absurd hin List.not_mem_nil
  | some r =>
    obtain ⟨hrmem, hbest⟩ := smartUnion_spec hr
    obtain ⟨reading, hreading, hok⟩ := List.mem_filterMap.mp hrmem
    rw [toOption_eq_some_iff.mp hok] at hreading
    rcases hless r hreading with rfl | hlt
    · rfl
    · have hnot := hbest p hin
      unfold Parsed.outranks at hnot
      simp [hlt] at hnot

/-- What a union reads is what one of its members reads. -/
theorem exists_of_unionOf {name : String} {readings : List (Except ModelError Parsed)}
    {p : Parsed} (h : unionOf name readings = .ok p) : .ok p ∈ readings := by
  obtain ⟨-, hp⟩ := unionOf_eq_ok_iff.mp h
  obtain ⟨reading, hmem, hok⟩ := List.mem_filterMap.mp (smartUnion_spec hp).1
  rwa [toOption_eq_some_iff.mp hok] at hmem

/-- Of the names of one member, each other member has fewer than that one. -/
def Distinguished (members : List (List String)) : Prop :=
  ∀ own ∈ members, ∀ other ∈ members, own ≠ other →
    (other.filter fun name => own.contains name).length < own.length

instance (members : List (List String)) : Decidable (Distinguished members) :=
  inferInstanceAs (Decidable (∀ own ∈ members, ∀ other ∈ members, own ≠ other →
    (other.filter fun name => own.contains name).length < own.length))

section Members

variable {members : List (List String × ModelClass)}
  (hfields : ∀ member ∈ members, member.2.HasFields member.1)
  (hnames : (members.map Prod.fst).Nodup) {names : List String} {m : ModelClass}
  (hm : (names, m) ∈ members)
include hfields hnames hm

omit hfields in
/-- A member is the one of its names. -/
theorem eq_of_names {other : ModelClass} (hother : (names, other) ∈ members) : other = m := by
  obtain ⟨-, h⟩ := Prod.mk.inj (List.inj_on_of_nodup_map hnames hother hm rfl)
  exact h

/-- The union reads the record of a member as the member does, if no member raises anything but a
`ValidationError`. -/
theorem unionOf_record (hdistinguished : Distinguished (members.map Prod.fst))
    (hquiet : ∀ member ∈ members, member.2.Quiet) {name : String}
    {payload : Dict Json} (hkeys : payload.map Prod.fst = names) {p : Parsed}
    (hp : m.parse (.obj payload) = .ok p) :
    unionOf name (members.map fun member => member.2.parse (.obj payload)) = .ok p := by
  have hcontains : ∀ key, Dict.contains payload key = names.contains key := by
    intro key
    rw [Bool.eq_iff_iff, Dict.contains_iff_mem, hkeys, List.contains_iff_mem]
  have hown : p.fieldsSet = names.length := by
    rw [(hfields _ hm).fieldsSet payload p hp, List.filter_eq_self.mpr]
    intro key hkey
    rwa [hcontains, List.contains_iff_mem]
  have hnone : NoneRaises (members.map fun member => member.2.parse (.obj payload)) := by
    intro reading hreading
    obtain ⟨member, hmember, rfl⟩ := List.mem_map.mp hreading
    exact hquiet member hmember _
  refine unionOf_eq_ok hnone (List.mem_map.mpr ⟨_, hm, hp⟩) fun q hq => ?_
  obtain ⟨⟨others, other⟩, hother, hq⟩ := List.mem_map.mp hq
  by_cases hsame : names = others
  · subst hsame
    obtain rfl := eq_of_names hnames hm hother
    exact Or.inl (Except.ok.inj (hq.symm.trans hp))
  · right
    have hcount := (hfields _ hother).fieldsSet payload q hq
    simp only [hcontains] at hcount
    rw [hcount, hown]
    exact hdistinguished names (List.mem_map_of_mem hm) others (List.mem_map_of_mem hother) hsame

/-- The union reads an instance with a member's keys out of a record with these keys exactly when the
member does. -/
theorem exists_unionOf_record_iff (hdistinguished : Distinguished (members.map Prod.fst))
    (hquiet : ∀ member ∈ members, member.2.Quiet) {name : String} {payload : Dict Json}
    (hkeys : payload.map Prod.fst = names) {v : Instance} (hv : v.dump.map Prod.fst = names) :
    (∃ p, unionOf name (members.map fun member => member.2.parse (.obj payload)) = .ok p ∧
        p.value = v) ↔ m.validate (.obj payload) = .ok v := by
  rw [ModelClass.validate_eq_ok_iff]
  constructor
  · rintro ⟨p, hp, rfl⟩
    obtain ⟨⟨others, other⟩, hother, hread⟩ := List.mem_map.mp (exists_of_unionOf hp)
    have hothers : names = others := hv.symm.trans ((hfields _ hother).keys _ p hread)
    subst hothers
    rw [eq_of_names hnames hm hother] at hread
    exact ⟨p, hread, rfl⟩
  · rintro ⟨p, hp, rfl⟩
    exact ⟨p, unionOf_record hfields hnames hm hdistinguished hquiet hkeys hp, rfl⟩

end Members

end Pydantic
