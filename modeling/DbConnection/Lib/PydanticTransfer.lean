import DbConnection.Lib.PydanticRecords

/-!
# Values that one model reads of another's record

Where two models declare the same fields, each in its own way, the record of one can be a payload of
the other. `FieldType.Fixes` says that a type reads a value as it is; each value of a field without
validators is one that its type fixes (`Field.Typed`). A field of another model with the same type then
has the same value, and so has one whose type does not allow `None`, unless the value is `None`.
-/

namespace Pydantic

open PyData

/-- The type reads the value as it is. -/
def FieldType.Fixes (type : FieldType) (w : Json) : Prop := type.readJson w = .ok (.json w)

/-- Each value of the field is one that its type reads as it is. -/
def Field.Typed (field : Field) : Prop :=
  ∀ soFar given w, field.Reads soFar given w → field.type.Fixes w

/-- A value that a type fixes is read as no other one. -/
theorem FieldType.Fixes.eq_of_readJson {type : FieldType} {u w : Json} (hfixes : type.Fixes u)
    (hread : type.readJson u = .ok (.json w)) : w = u := by
  have hsame : FieldReading.json u = .json w := Except.ok.inj (hfixes.symm.trans hread)
  exact (FieldInput.json.inj (congrArg FieldReading.value hsame)).symm

/-- A type that allows `None` fixes `None`, and what the type in it fixes. -/
theorem FieldType.fixes_nullable_iff {type : FieldType} {u : Json} :
    (FieldType.nullable type).Fixes u ↔ u = .null ∨ type.Fixes u := by
  unfold FieldType.Fixes
  cases u with
  | null => exact iff_of_true rfl (Or.inl rfl)
  | _ => simp [FieldType.readJson]

/-- A plain type that reads `None` reads it as `None`. -/
theorem FieldType.eq_null_of_readJson {type : FieldType} (hp : type.isPlain = true) {w : Json}
    (hread : type.readJson .null = .ok (.json w)) : w = .null := by
  cases type with
  | any => exact (FieldInput.json.inj (congrArg FieldReading.value (Except.ok.inj hread))).symm
  | nullable type =>
    exact (FieldInput.json.inj (congrArg FieldReading.value (Except.ok.inj hread))).symm
  | noneType => exact (FieldInput.json.inj (congrArg FieldReading.value (Except.ok.inj hread))).symm
  | literal s => simp [FieldType.readJson] at hread
  | datetime parse => cases hp
  | model m => cases hp
  | _ => cases hread

/-! ## Typed fields -/

/-- A field is typed if its type fixes its default, and what its validator makes of values that the
type fixes. -/
theorem Field.typed_of {field : Field} (hp : field.type.isPlain = true)
    (hafter : ∀ soFar u w, field.type.Fixes u → field.after soFar u = .ok w → field.type.Fixes w)
    (hdefault : ∀ d, field.default = some d → field.type.Fixes d) : field.Typed := by
  intro soFar given w hr
  cases given with
  | none => exact hdefault w hr
  | some value =>
    obtain ⟨v, u, -, hread, hw⟩ := (Field.reads_some_iff hp).mp hr
    obtain ⟨u', hu', hfixes⟩ := FieldType.readJson_of_readJson hp hread
    cases hu'
    exact hafter soFar u w hfixes hw

/-- A field of a plain type without a validator after it is typed. -/
theorem Field.typed_plain {field : Field} (hp : field.type.isPlain = true)
    (hafter : ∀ soFar u, field.after soFar u = .ok u)
    (hdefault : ∀ d, field.default = some d → field.type.Fixes d) : field.Typed := by
  refine Field.typed_of hp ?_ hdefault
  intro soFar u w hfixes hw
  rw [hafter] at hw
  rwa [← Except.ok.inj hw]

/-- A field without validators is typed if it must be given. -/
theorem Field.typed_required {name : String} {type : FieldType} (hp : type.isPlain = true) :
    (Field.required name type).Typed :=
  Field.typed_plain hp (fun _ _ => rfl) fun _ hd => by cases hd

/-- A field without validators is typed if its type fixes the default. -/
theorem Field.typed_default {name : String} {type : FieldType} (hp : type.isPlain = true) {d : Json}
    (hdefault : type.Fixes d) : (Field.of name type (some d)).Typed :=
  Field.typed_plain hp (fun _ _ => rfl) fun _ hd => by
    cases hd
    exact hdefault

/-- A field without validators is typed if it may be `None`. -/
theorem Field.typed_optional {name : String} {type : FieldType} (hp : type.isPlain = true) :
    (Field.optional name type).Typed :=
  @Field.typed_default name (.nullable type) hp .null (FieldType.fixes_nullable_iff.mpr (Or.inl rfl))

/-- A field without validators reads a value as its type does. -/
theorem Field.NoValidators.reads_some_iff {field : Field} (h : field.NoValidators)
    (hp : field.type.isPlain = true) {soFar : Dict Json} {value w : Json} :
    field.Reads soFar (some value) w ↔ field.type.readJson value = .ok (.json w) := by
  rw [Field.reads_some_iff hp]
  constructor
  · rintro ⟨v, u, hbefore, hread, hafter⟩
    rw [h.1] at hbefore
    rw [h.2] at hafter
    cases hbefore
    cases hafter
    exact hread
  · exact fun hread => ⟨value, w, h.1 value, hread, h.2 soFar w⟩

/-! ## Fields that keep what they are given -/

/-- The field has the value that it is given. -/
def Field.KeepsGiven (field : Field) : Prop :=
  ∀ soFar value w, field.Reads soFar (some value) w → w = value

/-- A field keeps what it is given if its type does, and its validators leave what they accept. -/
theorem Field.keepsGiven_of {field : Field} (hp : field.type.isPlain = true)
    (hverbatim : field.type.isVerbatim = true) (hbefore : ∀ value, field.before value = .ok value)
    (hafter : ∀ soFar u w, field.after soFar u = .ok w → w = u) : field.KeepsGiven := by
  intro soFar value w h
  obtain ⟨v, u, hv, hread, hw⟩ := (Field.reads_some_iff hp).mp h
  rw [hbefore] at hv
  cases hv
  have hsame := FieldType.readJson_of_isVerbatim hverbatim hread
  have hu : u = value := FieldInput.json.inj (congrArg FieldReading.value hsame)
  rw [hafter soFar u w hw, hu]

/-! ## Records -/

/-- What stands before a key has the values of the record. -/
theorem lookup_before {values : Dict Json} {key name : String}
    (h : name ∈ (values.map Prod.fst).takeWhile fun k => k != key) :
    (before values key).lookup name = values.lookup name := by
  have hkeys : (before values key).map Prod.fst =
      (values.map Prod.fst).takeWhile fun k => k != key := by
    unfold before
    rw [List.takeWhile_map]
    rfl
  rw [← hkeys] at h
  obtain ⟨w, hw⟩ := Option.isSome_iff_exists.mp (Dict.contains_iff_mem.mpr h)
  have hsplit : before values key ++ values.dropWhile (fun item => item.1 != key) = values :=
    List.takeWhile_append_dropWhile
  have hvalues : values.lookup name = some w := by
    rw [← hsplit, List.lookup_append, hw]
    rfl
  rw [hw, hvalues]

/-- A key that is not among those of a record has no value in it. -/
theorem lookup_eq_none_of_keys {values : Dict Json} {keys : List String}
    (hkeys : values.map Prod.fst = keys) {key : String} (hkey : key ∉ keys) :
    values.lookup key = none := by
  cases hvalue : values.lookup key with
  | none => rfl
  | some w =>
    rw [← hkeys] at hkey
    exact absurd (Dict.contains_iff_mem.mp (Option.isSome_iff_exists.mpr ⟨w, hvalue⟩)) hkey

/-- A model without extra keys has no value for a key that is no field's. -/
theorem ModelDecl.lookup_eq_none_of_validate {decl : ModelDecl} (hextra : decl.extra ≠ .allow)
    (hnames : (decl.fields.map Field.name).Nodup) {payload : Json} {v : Instance}
    (h : (ModelClass.ofDecl decl).validate payload = .ok v) {key : String}
    (hkey : key ∉ decl.fields.map Field.name) : v.dump.lookup key = none := by
  have hkeys := ModelDecl.keys_of_validate hextra hnames h
  rw [← (ModelDecl.instance_of_validate h).2] at hkeys
  exact lookup_eq_none_of_keys hkeys hkey

/-- A model without extra keys or aliases has of a record with its keys the values of the fields that
keep what they are given. -/
theorem ModelDecl.lookup_of_keepsGiven {decl : ModelDecl} (hextra : decl.extra ≠ .allow)
    (hnames : (decl.fields.map Field.name).Nodup) (halias : NoAliasIsName decl.fields)
    (hpost : ∀ out, decl.post out = .ok []) {values : Dict Json} {v : Instance}
    (h : (ModelClass.ofDecl decl).validate (.obj values) = .ok v)
    (hkeys : values.map Prod.fst = decl.fields.map Field.name) {keys : List String}
    (hkeeps : ∀ field ∈ decl.fields, field.name ∈ keys → field.KeepsGiven) {key : String}
    (hkey : key ∈ keys) : v.dump.lookup key = values.lookup key := by
  cases hvalue : values.lookup key with
  | none =>
    refine ModelDecl.lookup_eq_none_of_validate hextra hnames h fun hmem => ?_
    rw [← hkeys] at hmem
    have hcontains : Dict.contains values key = true := Dict.contains_iff_mem.mpr hmem
    unfold Dict.contains at hcontains
    rw [hvalue] at hcontains
    cases hcontains
  | some value =>
    have hmem : key ∈ decl.fields.map Field.name := by
      rw [← hkeys]
      exact Dict.contains_iff_mem.mp (Option.isSome_iff_exists.mpr ⟨value, hvalue⟩)
    obtain ⟨field, hf, rfl⟩ := List.mem_map.mp hmem
    obtain ⟨w, hw, hread⟩ := ModelDecl.reads_of_validate hextra hnames hpost h hf
    rw [Field.given_record halias hkeys hf, hvalue] at hread
    rwa [← hkeeps field hf hkey _ _ _ hread]

/-- Typed fields have values that their types fix. -/
theorem ModelDecl.fixes_of_validate {decl : ModelDecl} (hextra : decl.extra ≠ .allow)
    (hnames : (decl.fields.map Field.name).Nodup) (hpost : ∀ out, decl.post out = .ok [])
    {payload : Json} {v : Instance} (h : (ModelClass.ofDecl decl).validate payload = .ok v)
    {field : Field} (hf : field ∈ decl.fields) (htyped : field.Typed) :
    ∃ w, v.dump.lookup field.name = some w ∧ field.type.Fixes w := by
  obtain ⟨items, rfl⟩ := ModelDecl.exists_obj_of_validate h
  obtain ⟨w, hw, hr⟩ := ModelDecl.reads_of_validate hextra hnames hpost h hf
  exact ⟨w, hw, htyped _ _ _ hr⟩

/-- The record with a value for each field. -/
def ModelDecl.recordOf (decl : ModelDecl) (value : String → Json) : Dict Json :=
  decl.fields.map fun field => (field.name, value field.name)

theorem ModelDecl.keys_recordOf (decl : ModelDecl) (value : String → Json) :
    (decl.recordOf value).map Prod.fst = decl.fields.map Field.name := by
  unfold recordOf
  rw [List.map_map]
  rfl

/-- A model accepts a payload of which each field reads its value in a record, if no key is forbidden
and the validator of the whole model rewrites nothing. -/
theorem ModelDecl.validate_of_reads {decl : ModelDecl} (hextra : decl.extra ≠ .allow)
    (hnames : (decl.fields.map Field.name).Nodup) {payload : Dict Json} (value : String → Json)
    (hnoExtra : decl.extraErrors (toFieldInputs payload) = [])
    (hpost : decl.post (decl.recordOf value) = .ok [])
    (hreads : ∀ field ∈ decl.fields, field.Reads (before (decl.recordOf value) field.name)
      (field.given payload) (value field.name)) :
    (ModelClass.ofDecl decl).validate (.obj payload) =
      .ok (decl.record (decl.recordOf value)) := by
  have hkeys := decl.keys_recordOf value
  refine (ModelDecl.validate_iff hextra hnames).mpr
    ⟨hnoExtra, decl.recordOf value, [], ⟨hkeys, ?_⟩, hpost, by rw [rewrite_nil]⟩
  intro field hf
  refine ⟨value field.name, ?_, hreads field hf⟩
  exact Dict.lookup_of_mem (hkeys ▸ hnames) (List.mem_map.mpr ⟨field, hf, rfl⟩)

/-- The value of a field in the record. -/
theorem ModelDecl.lookup_recordOf {decl : ModelDecl} (hnames : (decl.fields.map Field.name).Nodup)
    (value : String → Json) {key : String} (hkey : key ∈ decl.fields.map Field.name) :
    (decl.recordOf value).lookup key = some (value key) := by
  obtain ⟨field, hf, rfl⟩ := List.mem_map.mp hkey
  refine Dict.lookup_of_mem ?_ (List.mem_map.mpr ⟨field, hf, rfl⟩)
  rw [decl.keys_recordOf]
  exact hnames

/-- A model without a validator of the whole model accepts a payload of which each field reads a value,
whatever the fields before it have, if no key is forbidden. -/
theorem ModelDecl.exists_validate_of_reads {decl : ModelDecl} (hextra : decl.extra ≠ .allow)
    (hnames : (decl.fields.map Field.name).Nodup) (hpost : ∀ out, decl.post out = .ok [])
    {payload : Dict Json} (value : String → Json)
    (hnoExtra : decl.extraErrors (toFieldInputs payload) = [])
    (hreads : ∀ field ∈ decl.fields, ∀ soFar,
      field.Reads soFar (field.given payload) (value field.name)) :
    ∃ r, (ModelClass.ofDecl decl).validate (.obj payload) = .ok r ∧
      ∀ key ∈ decl.fields.map Field.name, r.dump.lookup key = some (value key) := by
  refine ⟨_, ModelDecl.validate_of_reads hextra hnames value hnoExtra (hpost _)
    fun field hf => hreads field hf _, fun _ hkey => ModelDecl.lookup_recordOf hnames value hkey⟩

/-- A model that does not forbid extra keys has no errors about them. -/
theorem ModelDecl.extraErrors_of_not_forbid {decl : ModelDecl} (h : decl.extra ≠ .forbid)
    (payload : Dict FieldInput) : decl.extraErrors payload = [] := if_neg h

/-- A field without validators reads a value that its type fixes. -/
theorem Field.NoValidators.reads_of_fixes {field : Field} (h : field.NoValidators)
    (hp : field.type.isPlain = true) {soFar : Dict Json} {u : Json} (hfixes : field.type.Fixes u) :
    field.Reads soFar (some u) u :=
  (h.reads_some_iff hp).mpr hfixes

end Pydantic
