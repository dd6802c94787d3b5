import Mathlib.Algebra.Group.Int.Defs
import DbConnection.Lib.Pydantic
import DbConnection.Lib.PyText

/-!
# Models declared by fields

A model class given by its fields, as pydantic reads one in lax mode: each field is looked up
under its alias and its name, read by its type between its validators, or takes its default; keys
that are no field's are ignored, refused or kept; and a validator of the whole model may rewrite
fields, which marks them as set. All errors are collected. The reading of a dictionary builds an
instance, so its exactness is lax.

Beside plain data a field can be given a `datetime` object. Reading a date out of plain data is a
parameter, as its grammar is not needed.
-/

namespace Pydantic

open PyData

/-- What a field is given: plain data, or a `datetime` object. -/
inductive FieldInput where
  | json (value : Json)
  | datetime (micros : Nat)
  deriving DecidableEq, Repr, Inhabited

/-- The type of a field. -/
inductive FieldType where
  | any
  | str
  | int
  | bool
  | literal (value : String)
  | oneOf (values : List String)
  | strList
  | dict
  | strDict
  | noneType
  | datetime (parse : Json → Option Nat)
  | model (m : ModelClass)
  | list (item : FieldType)
  | nullable (type : FieldType)

/-- What a field was read as. -/
structure FieldReading where
  /-- The value, as `model_dump(mode="python")` shows it. -/
  value : FieldInput
  /-- The value's dump of the fields that were set. -/
  valueSet : FieldInput
  /-- The fields set inside the value. -/
  nested : Nat
  deriving DecidableEq, Repr, Inhabited

/-- The reading of a value that is not a model's. -/
def FieldReading.plain (value : FieldInput) : FieldReading := ⟨value, value, 0⟩

/-- The reading of plain data that stays as it is. -/
def FieldReading.json (value : Json) : FieldReading := .plain (.json value)

/-- A float that is an integer of 64 bits other than the least one, as that integer. -/
def intOfRat? (q : Rat) : Option Int :=
  if q.den = 1 ∧ -2 ^ 63 < q.num ∧ q.num < 2 ^ 63 then some q.num else none

/-- Pydantic's lax reading of an integer. -/
def readInt : Json → Option Int
  | .int n => some n
  | .bool b => some (if b then 1 else 0)
  | .float q => intOfRat? q
  | .str s => PyText.int? s
  | _ => none

/-- Pydantic's lax reading of a truth value. -/
def readBool : Json → Option Bool
  | .bool b => some b
  | .int 1 => some true
  | .int 0 => some false
  | .float q => if q = 1 then some true else if q = 0 then some false else none
  | .str s =>
    let s := String.ofList (s.toList.map Char.toLower)
    if ["1", "on", "t", "true", "y", "yes"].contains s then some true
    else if ["0", "off", "f", "false", "n", "no"].contains s then some false
    else none
  | _ => none

/-- Why a field is not read: an error of the given type and message, or an exception that pydantic
passes on. -/
inductive FieldError where
  | invalid (type message : String)
  | raised (exc : RaisedException)
  deriving DecidableEq, Repr, Inhabited

/-- The error that pydantic makes of a validator's `ValueError`. -/
def FieldError.valueError (message : String) : FieldError := .invalid "value_error" message

/-- The exception of an error that pydantic passes on. -/
def FieldError.raised? : FieldError → Option RaisedException
  | .invalid _ _ => none
  | .raised exc => some exc

/-- The first exception among readings, which ends them all. -/
def firstRaised {α ε : Type} (raised? : ε → Option RaisedException) (readings : List (Except ε α)) :
    Option RaisedException :=
  readings.findSome? fun
    | .ok _ => none
    | .error e => raised? e

/-- The value of a reading as plain data; a date is its count of microseconds. -/
def FieldInput.toJson : FieldInput → Json
  | .json value => value
  | .datetime t => .int t

/-- The reading of a list from the readings of its items. -/
def FieldReading.ofItems (items : List FieldReading) : FieldReading where
  value := .json (.arr (items.map fun r => r.value.toJson))
  valueSet := .json (.arr (items.map fun r => r.valueSet.toJson))
  nested := items.foldl (fun count r => count + r.nested) 0

/-- Reads plain data by a field type. -/
def FieldType.readJson : FieldType → Json → Except FieldError FieldReading
  | .any, value => .ok (.json value)
  | .str, value =>
    match value with
    | .str s => .ok (.json (.str s))
    | _ => .error (.invalid "string_type" "Input should be a valid string")
  | .int, value =>
    match readInt value with
    | some n => .ok (.json (.int n))
    | none => .error (.invalid "int_type" "Input should be a valid integer")
  | .bool, value =>
    match readBool value with
    | some b => .ok (.json (.bool b))
    | none => .error (.invalid "bool_type" "Input should be a valid boolean")
  | .literal s, value =>
    if value = .str s then .ok (.json value)
    else .error (.invalid "literal_error" s!"Input should be '{s}'")
  | .oneOf values, value =>
    match value with
    | .str s =>
      if values.contains s then .ok (.json value)
      else .error (.invalid "literal_error" "Input should be one of the declared values")
    | _ => .error (.invalid "literal_error" "Input should be one of the declared values")
  | .strList, value =>
    match value with
    | .arr items =>
      if items.all fun item => item.str?.isSome then .ok (.json value)
      else .error (.invalid "string_type" "Input should be a valid string")
    | _ => .error (.invalid "list_type" "Input should be a valid list")
  | .dict, value =>
    match value with
    | .obj _ => .ok (.json value)
    | _ => .error (.invalid "dict_type" "Input should be a valid dictionary")
  | .strDict, value =>
    match value with
    | .obj items =>
      if items.all fun item => item.2.str?.isSome then .ok (.json value)
      else .error (.invalid "string_type" "Input should be a valid string")
    | _ => .error (.invalid "dict_type" "Input should be a valid dictionary")
  | .noneType, value =>
    match value with
    | .null => .ok (.json .null)
    | _ => .error (.invalid "none_required" "Input should be None")
  | .datetime parse, value =>
    match parse value with
    | some t => .ok (.plain (.datetime t))
    | none => .error (.invalid "datetime_type" "Input should be a valid datetime")
  | .model m, value =>
    match m.parse value with
    | .ok r => .ok ⟨.json (.obj r.value.dump), .json (.obj r.dumpSet), r.fieldsSet⟩
    | .error (.validation e) => .error (.invalid "model_type" e.text)
    | .error (.raised exc) => .error (.raised exc)
  | .list item, value =>
    match value with
    | .arr items =>
      match firstRaised FieldError.raised? (items.map fun value => item.readJson value) with
      | some exc => .error (.raised exc)
      -- The error is the one of the first item that cannot be read.
      | none => (items.mapM fun value => item.readJson value).map FieldReading.ofItems
    | _ => .error (.invalid "list_type" "Input should be a valid list")
  | .nullable type, value =>
    match value with
    | .null => .ok (.json .null)
    | _ => type.readJson value

/-- A list is read item by item, up to the first exception. -/
theorem FieldType.readJson_list (item : FieldType) (items : List Json) :
    (FieldType.list item).readJson (.arr items) =
      match firstRaised FieldError.raised? (items.map fun value => item.readJson value) with
      | some exc => .error (.raised exc)
      | none => (items.mapM fun value => item.readJson value).map FieldReading.ofItems := by
  rfl

/-- Reads a `datetime` object by a field type. -/
def FieldType.readDatetime : FieldType → Nat → Except FieldError FieldReading
  | .any, t => .ok (.plain (.datetime t))
  | .datetime _, t => .ok (.plain (.datetime t))
  | .nullable type, t => type.readDatetime t
  | _, _ => .error (.valueError "Input should not be a datetime")

/-- Reads what a field is given. -/
def FieldType.read (type : FieldType) : FieldInput → Except FieldError FieldReading
  | .json value => type.readJson value
  | .datetime t => type.readDatetime t

/-- A field of a model. -/
structure Field where
  name : String
  /-- The field's validation alias, which is looked up before its name. -/
  validationAlias : Option String
  type : FieldType
  /-- The default value. A field without one is required. -/
  default : Option Json
  /-- The validator before the type is read. -/
  before : Json → Except FieldError Json
  /-- The validator after the type is read, which sees the fields read so far. -/
  after : Dict Json → Json → Except FieldError Json

/-- A field without validators or alias. -/
def Field.of (name : String) (type : FieldType) (default : Option Json) : Field :=
  ⟨name, none, type, default, fun value => .ok value, fun _ value => .ok value⟩

/-- A field that must be given. -/
def Field.required (name : String) (type : FieldType) : Field := .of name type none

/-- A field that may be `None`, and is by default. -/
def Field.optional (name : String) (type : FieldType) : Field :=
  .of name (.nullable type) (some .null)

/-- The fields read so far: name, reading, and whether the payload gave the field. -/
abbrev FieldsRead := List (String × FieldReading × Bool)

/-- The values of the fields read so far. -/
def FieldsRead.values (fields : FieldsRead) : Dict Json :=
  fields.map fun field => (field.1, field.2.1.value.toJson)

/-- Reads what a field is given, between its validators. -/
def Field.readInput (field : Field) (soFar : Dict Json) (input : FieldInput) :
    Except FieldError FieldReading :=
  match input with
  | .datetime t => field.type.readDatetime t
  | .json value =>
    match field.before value with
    | .error e => .error e
    | .ok value =>
      match field.type.readJson value with
      | .error e => .error e
      | .ok reading =>
        match reading.value with
        | .datetime _ => .ok reading
        | .json value =>
          match field.after soFar value with
          | .error e => .error e
          -- A validator that returns another value replaces the reading by plain data.
          | .ok value' => if value' = value then .ok reading else .ok (.json value')

/-- The input of a field in a payload. -/
def Field.lookup (field : Field) (payload : Dict FieldInput) : Option FieldInput :=
  (field.validationAlias.bind fun key => payload.lookup key).or (payload.lookup field.name)

/-- What a field that was not read leaves behind: an item of the error's list, or an exception. -/
inductive Failure where
  | reported (error : Json)
  | raised (exc : RaisedException)
  deriving DecidableEq, Repr, Inhabited

/-- The item of the error's list, if the failure is one. -/
def Failure.reported? : Failure → Option Json
  | .reported error => some error
  | .raised _ => none

/-- The exception, if the failure is one. -/
def Failure.raised? : Failure → Option RaisedException
  | .reported _ => none
  | .raised exc => some exc

/-- The failure of a field that was given `input`. -/
def Field.failure (field : Field) (input : FieldInput) : FieldError → Failure
  | .invalid type message => .reported (.obj
      [("type", .str type), ("loc", .arr [.str field.name]), ("msg", .str message),
        ("input", input.toJson)])
  | .raised exc => .raised exc

/-- Reads the fields of a payload in their order, collecting the failures. -/
def readFields (payload : Dict FieldInput) : List Field → FieldsRead → List Failure →
    FieldsRead × List Failure
  | [], soFar, failures => (soFar, failures)
  | field :: fields, soFar, failures =>
    match field.lookup payload, field.default with
    | some input, _ =>
      match field.readInput soFar.values input with
      | .ok reading => readFields payload fields (soFar ++ [(field.name, reading, true)]) failures
      -- The field is left out of what later validators see, and the reading goes on. After an
      -- exception what goes on has no effect: the first exception is what the model raises.
      | .error e => readFields payload fields soFar (failures ++ [field.failure input e])
    | none, some default =>
      -- A default is not validated, and its field does not count as set.
      readFields payload fields (soFar ++ [(field.name, .json default, false)]) failures
    | none, none => readFields payload fields soFar (failures ++ [.reported (.obj
        [("type", .str "missing"), ("loc", .arr [.str field.name]),
          ("msg", .str "Field required")])])

/-- What a model does with keys that are no field's. -/
inductive Extra where
  | ignore
  | forbid
  | allow
  deriving DecidableEq, Repr

/-- A model declared by its fields. -/
structure ModelDecl where
  mro : List ClassRef
  fields : List Field
  extra : Extra
  /-- The validator of the whole model: the values it gives to fields. -/
  post : Dict Json → Except FieldError (Dict Json)

/-- The key under which a payload gives a field: its alias if the payload has that, and else its
name. -/
def Field.usedKey (field : Field) (payload : Dict FieldInput) : String :=
  (field.validationAlias.filter fun key => payload.contains key).getD field.name

/-- The keys of a payload that give no field. The name of a field given under its alias is one. -/
def ModelDecl.extraItems (decl : ModelDecl) (payload : Dict FieldInput) : Dict FieldInput :=
  payload.filter fun item => !decl.fields.any fun field => field.usedKey payload == item.1

/-- A payload as a declared model read it. -/
structure DeclReading where
  /-- The values of all fields and kept extra keys. -/
  values : Dict FieldInput
  /-- Of those that were set, the dumps of the fields that were set. -/
  valuesSet : Dict FieldInput
  fieldsSet : Nat
  deriving DecidableEq, Repr, Inhabited

/-- The error of a model with `errors`. -/
def ModelDecl.error (decl : ModelDecl) (errors : List Json) : ValidationError :=
  ⟨errors, s!"{errors.length} validation error(s) for {(decl.mro.headD default).qualname}"⟩

/-- The errors about keys that the model forbids. -/
def ModelDecl.extraErrors (decl : ModelDecl) (payload : Dict FieldInput) : List Json :=
  if decl.extra = .forbid then
    (decl.extraItems payload).map fun item =>
      .obj [("type", .str "extra_forbidden"), ("loc", .arr [.str item.1]),
        ("msg", .str "Extra inputs are not permitted"), ("input", item.2.toJson)]
  else []

/-- The keys of a payload that are no field's and that the model keeps. -/
def ModelDecl.kept (decl : ModelDecl) (payload : Dict FieldInput) : Dict FieldInput :=
  if decl.extra = .allow then decl.extraItems payload else []

/-- The reading of a payload from the fields read, the values that the validator of the whole model
gave to fields, and the keys kept. -/
def readingOf (fields : FieldsRead) (rewritten : Dict Json) (kept : Dict FieldInput) :
    DeclReading where
  values := fields.map (fun field =>
      (field.1, ((rewritten.lookup field.1).map FieldInput.json).getD field.2.1.value)) ++ kept
  valuesSet := (fields.filter fun field => field.2.2 || rewritten.contains field.1).map (fun field =>
      (field.1, ((rewritten.lookup field.1).map FieldInput.json).getD field.2.1.valueSet)) ++ kept
  fieldsSet := (fields.filter fun field => field.2.2).foldl
    (fun count field => count + (1 + field.2.1.nested)) kept.length

/-- What a declared model raises for a field error of its own validator. -/
def ModelDecl.raise (decl : ModelDecl) : FieldError → ModelError
  | .invalid type message => .validation (decl.error
      [.obj [("type", .str type), ("loc", .arr []), ("msg", .str message)]])
  | .raised exc => .raised exc

/-- Reads a dictionary by a declared model. -/
def ModelDecl.read (decl : ModelDecl) (payload : Dict FieldInput) :
    Except ModelError DeclReading :=
  let (fields, failures) := readFields payload decl.fields [] []
  match failures.findSome? Failure.raised? with
  | some exc => .error (.raised exc)
  | none =>
    let errors := failures.filterMap Failure.reported? ++ decl.extraErrors payload
    if errors ≠ [] then .error (.validation (decl.error errors))
    else
      match decl.post (FieldsRead.values fields) with
      | .error e => .error (decl.raise e)
      | .ok rewritten => .ok (readingOf fields rewritten (decl.kept payload))

/-- A dictionary of values as plain data. -/
def toJsonDict (values : Dict FieldInput) : Dict Json :=
  values.map fun item => (item.1, item.2.toJson)

/-- The reading of a dictionary by a declared model. -/
def ModelDecl.parseInputs (decl : ModelDecl) (payload : Dict FieldInput) :
    Except ModelError Parsed :=
  match decl.read payload with
  | .error e => .error e
  | .ok r => .ok
      { value := ⟨decl.mro, toJsonDict r.values, toJsonDict r.values⟩
        dumpSet := toJsonDict r.valuesSet
        fieldsSet := r.fieldsSet
        exactness := .lax }

/-- The reading of plain data by a declared model. -/
def ModelDecl.parse (decl : ModelDecl) : Json → Except ModelError Parsed
  | .obj payload => decl.parseInputs (payload.map fun item => (item.1, .json item.2))
  | payload => .error (.validation (decl.error
      [.obj [("type", .str "model_type"), ("loc", .arr []),
        ("msg", .str "Input should be a valid dictionary"), ("input", payload)]]))

/-- The model class of a declaration. -/
def ModelClass.ofDecl (decl : ModelDecl) : ModelClass where
  mro := decl.mro
  parse := decl.parse
  parse_mro payload r h := by
    unfold ModelDecl.parse ModelDecl.parseInputs at h
    split at h
    · split at h
      · cases h
      · cases h
        exact List.Subset.refl _
    · cases h

/-- A declaration of fields without a validator of the whole model. -/
def ModelDecl.ofFields (mro : List ClassRef) (fields : List Field) (extra : Extra) : ModelDecl :=
  ⟨mro, fields, extra, fun _ => .ok []⟩

/-- The reading of a smart-mode union from the readings of its members, from left to right. An
exception of a member ends the union's reading. -/
def unionOf (name : String) (readings : List (Except ModelError Parsed)) :
    Except ModelError Parsed :=
  match firstRaised ModelError.raised? readings with
  | some exc => .error (.raised exc)
  | none =>
    match smartUnion (readings.filterMap Except.toOption) with
    | some r => .ok r
    | none => .error (.validation
        ⟨[.obj [("type", .str "union_error"), ("loc", .arr [])]], s!"validation error for {name}"⟩)

/-- No member of a union raises another exception than `ValidationError`. -/
def NoneRaises (readings : List (Except ModelError Parsed)) : Prop :=
  ∀ reading ∈ readings, ∀ exc, reading ≠ .error (.raised exc)

/-- No exception ends the readings exactly when there is none among them. -/
theorem firstRaised_eq_none_iff {readings : List (Except ModelError Parsed)} :
    firstRaised ModelError.raised? readings = none ↔ NoneRaises readings := by
  unfold firstRaised NoneRaises
  rw [List.findSome?_eq_none_iff]
  refine forall₂_congr fun reading _ => ?_
  cases reading with
  | ok r => simp
  | error e => cases e <;> simp [ModelError.raised?]

/-- The reading that a union prefers is its reading, where no member raises. -/
theorem unionOf_eq_ok_iff {name : String} {readings : List (Except ModelError Parsed)}
    {r : Parsed} :
    unionOf name readings = .ok r ↔
      NoneRaises readings ∧ smartUnion (readings.filterMap Except.toOption) = some r := by
  unfold unionOf
  rw [← firstRaised_eq_none_iff]
  cases firstRaised ModelError.raised? readings with
  | some exc => simp
  | none =>
    cases smartUnion (readings.filterMap Except.toOption) <;> simp

/-- A union accepts exactly what one of its members accepts and on which none raises. -/
theorem exists_unionOf_iff {name : String} {readings : List (Except ModelError Parsed)} :
    (∃ r, unionOf name readings = .ok r) ↔
      NoneRaises readings ∧ ∃ reading ∈ readings, ∃ r, reading = .ok r := by
  simp only [unionOf_eq_ok_iff, exists_and_left]
  refine and_congr_right fun _ => ?_
  constructor
  · rintro ⟨r, hr⟩
    obtain ⟨reading, hmem, hok⟩ := List.mem_filterMap.mp (smartUnion_spec hr).1
    exact ⟨reading, hmem, r, toOption_eq_some_iff.mp hok⟩
  · rintro ⟨reading, hmem, r, rfl⟩
    have hin : r ∈ readings.filterMap Except.toOption := List.mem_filterMap.mpr ⟨_, hmem, rfl⟩
    refine Option.ne_none_iff_exists'.mp fun hnone => ?_
    rw [smartUnion_eq_none_iff.mp hnone] at hin
    exact List.not_mem_nil hin

/-- A union raises no other exception where no member does. -/
theorem unionOf_ne_raised {name : String} {readings : List (Except ModelError Parsed)}
    (h : NoneRaises readings) (exc : RaisedException) :
    unionOf name readings ≠ .error (.raised exc) := by
  unfold unionOf
  rw [firstRaised_eq_none_iff.mpr h]
  dsimp only
  split <;> simp

/-- The reading of plain data by a smart-mode union of models. -/
def unionParse (mro : List ClassRef) (members : List ModelClass) (payload : Json) :
    Except ModelError Parsed :=
  unionOf (mro.headD default).qualname (members.map fun m => m.parse payload)

/-! ## What was read -/

/-- The entry of a field in a reading, after the fields whose values are `soFar`: what the field
read of its input, or its default. -/
def Field.Entry (payload : Dict FieldInput) (soFar : Dict Json) (field : Field)
    (entry : String × FieldReading × Bool) : Prop :=
  entry.1 = field.name ∧
    ((∃ input, field.lookup payload = some input ∧ entry.2.2 = true ∧
        field.readInput soFar input = .ok entry.2.1) ∨
      (field.lookup payload = none ∧ entry.2.2 = false ∧
        ∃ d, field.default = some d ∧ entry.2.1 = .json d))

/-- The values of fields read one after another. -/
theorem FieldsRead.values_append (a b : FieldsRead) :
    FieldsRead.values (a ++ b) = FieldsRead.values a ++ FieldsRead.values b :=
  List.map_append

/-- Reading fields appends to what was read and to the errors. -/
theorem readFields_append (payload : Dict FieldInput) (fields : List Field) (soFar : FieldsRead)
    (errors : List Failure) :
    ∃ news es, readFields payload fields soFar errors = (soFar ++ news, errors ++ es) := by
  induction fields generalizing soFar errors with
  | nil => exact ⟨[], [], by simp [readFields]⟩
  | cons field fields ih =>
    unfold readFields
    split
    · split
      · obtain ⟨news, es, h⟩ := ih (soFar ++ [(field.name, _, true)]) errors
        exact ⟨_ :: news, es, by rw [h, List.append_assoc, List.singleton_append]⟩
      · obtain ⟨news, es, h⟩ := ih soFar (errors ++ [_])
        exact ⟨news, _ :: es, by rw [h, List.append_assoc, List.singleton_append]⟩
    · obtain ⟨news, es, h⟩ := ih (soFar ++ [(field.name, .json _, false)]) errors
      exact ⟨_ :: news, es, by rw [h, List.append_assoc, List.singleton_append]⟩
    · obtain ⟨news, es, h⟩ := ih soFar (errors ++ [_])
      exact ⟨news, _ :: es, by rw [h, List.append_assoc, List.singleton_append]⟩

/-- The first field of a reading without errors: its reading, and the reading of the rest. -/
theorem readFields_cons {payload : Dict FieldInput} {field : Field} {fields : List Field}
    {soFar read : FieldsRead} (h : readFields payload (field :: fields) soFar [] = (read, [])) :
    ∃ r given, readFields payload fields (soFar ++ [(field.name, r, given)]) [] = (read, []) ∧
      field.Entry payload soFar.values (field.name, r, given) := by
  -- An error would stay.
  have herror : ∀ e : Failure, readFields payload fields soFar ([] ++ [e]) ≠ (read, []) := by
    intro e he
    obtain ⟨news, es, ha⟩ := readFields_append payload fields soFar ([] ++ [e])
    rw [ha] at he
    simp at he
  unfold readFields at h
  split at h
  · rename_i input hl
    split at h
    · rename_i r hr
      exact ⟨r, true, h, rfl, .inl ⟨input, hl, rfl, hr⟩⟩
    · exact absurd h (herror _)
  · rename_i d hl hd
    exact ⟨.json d, false, h, rfl, .inr ⟨hl, rfl, d, hd, rfl⟩⟩
  · exact absurd h (herror _)

/-- Each entry of a reading without errors is a field's, and each field has one. -/
theorem entries_of_readFields {payload : Dict FieldInput} {fields : List Field}
    {soFar read : FieldsRead} (h : readFields payload fields soFar [] = (read, [])) :
    (∀ entry ∈ read, entry ∈ soFar ∨
        ∃ field ∈ fields, ∃ values, field.Entry payload values entry) ∧
      ∀ field ∈ fields, ∃ entry ∈ read, ∃ values, field.Entry payload values entry := by
  induction fields generalizing soFar with
  | nil =>
    cases h
    exact ⟨fun entry he => .inl he, fun field hf => by cases hf⟩
  | cons field fields ih =>
    obtain ⟨r, given, hrest, hentry⟩ := readFields_cons h
    obtain ⟨hentries, hfields⟩ := ih hrest
    -- The first field's entry is still there when the rest are read.
    obtain ⟨news, es, ha⟩ := readFields_append payload fields
      (soFar ++ [(field.name, r, given)]) []
    rw [ha] at hrest
    refine ⟨fun entry he => ?_, fun f hf => ?_⟩
    · rcases hentries entry he with hold | ⟨f, hf, values, hfe⟩
      · rcases List.mem_append.mp hold with hold | hnew
        · exact .inl hold
        · rw [List.mem_singleton.mp hnew]
          exact .inr ⟨field, List.mem_cons_self, _, hentry⟩
      · exact .inr ⟨f, List.mem_cons_of_mem _ hf, values, hfe⟩
    · rcases List.mem_cons.mp hf with rfl | hf
      · refine ⟨(f.name, r, given), ?_, _, hentry⟩
        rw [← (Prod.mk.inj hrest).1]
        simp
      · exact hfields f hf

/-- A reading without errors has every field. -/
theorem names_of_readFields {payload : Dict FieldInput} {fields : List Field}
    {soFar read : FieldsRead} (h : readFields payload fields soFar [] = (read, [])) :
    read.map Prod.fst = soFar.map Prod.fst ++ fields.map Field.name := by
  induction fields generalizing soFar with
  | nil =>
    cases h
    simp
  | cons field fields ih =>
    obtain ⟨r, given, hrest, -⟩ := readFields_cons h
    rw [ih hrest]
    simp

/-- Failures without an exception or a reported error are none. -/
theorem failures_eq_nil_iff {failures : List Failure} :
    failures = [] ↔ failures.findSome? Failure.raised? = none ∧
      failures.filterMap Failure.reported? = [] := by
  constructor
  · rintro rfl
    exact ⟨rfl, rfl⟩
  · rintro ⟨hraised, hreported⟩
    rw [List.findSome?_eq_none_iff] at hraised
    rw [List.filterMap_eq_nil_iff] at hreported
    refine List.eq_nil_iff_forall_not_mem.mpr fun failure hf => ?_
    cases failure with
    | reported error => cases hreported _ hf
    | raised exc => cases hraised _ hf

/-- What a declared model reads of a dictionary it accepts. -/
theorem ModelDecl.read_eq_ok_iff {decl : ModelDecl} {payload : Dict FieldInput} {r : DeclReading} :
    decl.read payload = .ok r ↔
      ∃ fields rewritten, readFields payload decl.fields [] [] = (fields, []) ∧
        decl.extraErrors payload = [] ∧ decl.post (FieldsRead.values fields) = .ok rewritten ∧
        r = readingOf fields rewritten (decl.kept payload) := by
  obtain ⟨fields, failures, hread⟩ : ∃ fields failures,
      readFields payload decl.fields [] [] = (fields, failures) := ⟨_, _, rfl⟩
  unfold ModelDecl.read
  simp only [hread, Prod.mk.injEq, failures_eq_nil_iff]
  cases failures.findSome? Failure.raised? with
  | some exc => simp
  | none =>
    dsimp only
    by_cases he : failures.filterMap Failure.reported? ++ decl.extraErrors payload = []
    · obtain ⟨h1, h2⟩ := List.append_eq_nil_iff.mp he
      rw [if_neg (by simpa using he)]
      constructor
      · intro h
        cases hp : decl.post (FieldsRead.values fields) with
        | error e => simp [hp] at h
        | ok rewritten =>
          simp only [hp, Except.ok.injEq] at h
          exact ⟨fields, rewritten, ⟨rfl, rfl, h1⟩, h2, hp, h.symm⟩
      · rintro ⟨_, rewritten, ⟨rfl, -⟩, -, hp, rfl⟩
        simp only [hp]
    · rw [if_pos he]
      constructor
      · intro h
        cases h
      · rintro ⟨_, rewritten, ⟨-, -, h1⟩, h2, -, -⟩
        exact absurd (by rw [h1, h2]; rfl) he

/-- Plain data as what fields are given. -/
def toFieldInputs (payload : Dict Json) : Dict FieldInput :=
  payload.map fun item => (item.1, .json item.2)

theorem lookup_toFieldInputs (payload : Dict Json) (key : String) :
    (toFieldInputs payload).lookup key = (payload.lookup key).map FieldInput.json :=
  Dict.lookup_map_values FieldInput.json payload key

/-- What a declared model makes of a dictionary. -/
theorem ModelDecl.validate_eq_ok_iff {decl : ModelDecl} {payload : Dict Json} {v : Instance} :
    (ModelClass.ofDecl decl).validate (.obj payload) = .ok v ↔
      ∃ r, decl.read (toFieldInputs payload) = .ok r ∧
        v = ⟨decl.mro, toJsonDict r.values, toJsonDict r.values⟩ := by
  unfold ModelClass.validate ModelClass.ofDecl ModelDecl.parse ModelDecl.parseInputs toFieldInputs
  dsimp only
  cases decl.read (payload.map fun item => (item.1, FieldInput.json item.2)) with
  | error e => simp
  | ok r =>
    simp only [Except.ok.injEq, exists_eq_left']
    exact eq_comm

/-- A declared model only accepts dictionaries. -/
theorem ModelDecl.exists_obj_of_validate {decl : ModelDecl} {payload : Json} {v : Instance}
    (h : (ModelClass.ofDecl decl).validate payload = .ok v) : ∃ items, payload = .obj items := by
  cases payload with
  | obj items => exact ⟨items, rfl⟩
  | _ => cases h

/-- What a declared model makes of a dictionary it accepts. -/
theorem ModelDecl.parseInputs_eq_ok_iff {decl : ModelDecl} {payload : Dict FieldInput}
    {p : Parsed} :
    decl.parseInputs payload = .ok p ↔
      ∃ fields rewritten, readFields payload decl.fields [] [] = (fields, []) ∧
        decl.extraErrors payload = [] ∧ decl.post (FieldsRead.values fields) = .ok rewritten ∧
        p =
          { value := ⟨decl.mro, toJsonDict (readingOf fields rewritten (decl.kept payload)).values,
              toJsonDict (readingOf fields rewritten (decl.kept payload)).values⟩
            dumpSet := toJsonDict (readingOf fields rewritten (decl.kept payload)).valuesSet
            fieldsSet := (readingOf fields rewritten (decl.kept payload)).fieldsSet
            exactness := .lax } := by
  unfold ModelDecl.parseInputs
  constructor
  · intro h
    split at h
    · cases h
    · rename_i r hread
      obtain ⟨fields, rewritten, h1, h2, h3, rfl⟩ := ModelDecl.read_eq_ok_iff.mp hread
      exact ⟨fields, rewritten, h1, h2, h3, (Except.ok.inj h).symm⟩
  · rintro ⟨fields, rewritten, h1, h2, h3, rfl⟩
    rw [ModelDecl.read_eq_ok_iff.mpr ⟨fields, rewritten, h1, h2, h3, rfl⟩]

/-- The model keeps the keys of its payloads: it keeps other keys, no field has an alias, and no
validator of the whole model rewrites a field. -/
structure ModelDecl.KeepsKeys (decl : ModelDecl) : Prop where
  extra : decl.extra = .allow
  noAlias : ∀ field ∈ decl.fields, field.validationAlias = none
  noPost : ∀ values, decl.post values = .ok []

/-- A field is given under its alias or its name. -/
theorem Field.usedKey_eq (field : Field) (payload : Dict FieldInput) :
    field.validationAlias = some (field.usedKey payload) ∨ field.usedKey payload = field.name := by
  unfold Field.usedKey
  cases field.validationAlias with
  | none => exact Or.inr rfl
  | some key =>
    by_cases h : payload.contains key = true
    · exact Or.inl (by rw [Option.filter_some_pos h, Option.getD_some])
    · exact Or.inr (by rw [Option.filter_some_neg (Bool.eq_false_iff.mpr h), Option.getD_none])

/-- A field without an alias is given under its name. -/
theorem Field.usedKey_of_noAlias {field : Field} (h : field.validationAlias = none)
    (payload : Dict FieldInput) : field.usedKey payload = field.name := by
  unfold Field.usedKey
  rw [h]
  rfl

/-- A field without an alias is looked up under its name. -/
theorem Field.lookup_of_noAlias {field : Field} (h : field.validationAlias = none)
    (payload : Dict FieldInput) : field.lookup payload = payload.lookup field.name := by
  unfold Field.lookup
  rw [h]
  rfl

/-- The keys of the fields that were set are the keys of the payload. -/
theorem ModelDecl.KeepsKeys.contains_dumpSet {decl : ModelDecl} (hdecl : decl.KeepsKeys)
    {payload : Dict FieldInput} {p : Parsed} (h : decl.parseInputs payload = .ok p) (key : String) :
    p.dumpSet.contains key = payload.contains key := by
  obtain ⟨fields, rewritten, hread, -, hpost, rfl⟩ := ModelDecl.parseInputs_eq_ok_iff.mp h
  have hrw : rewritten = [] := by
    rw [hdecl.noPost] at hpost
    exact (Except.ok.inj hpost).symm
  subst hrw
  have hkept : decl.kept payload = decl.extraItems payload := if_pos hdecl.extra
  obtain ⟨hentries, hfields⟩ := entries_of_readFields hread
  -- A field is set exactly when the payload has its name.
  have hgiven : ∀ field ∈ decl.fields, ∀ values entry, field.Entry payload values entry →
      (entry.2.2 = true ↔ payload.contains field.name = true) := by
    intro field hf values entry hentry
    have hl := Field.lookup_of_noAlias (hdecl.noAlias field hf) payload
    unfold Dict.contains
    rw [← hl]
    rcases hentry.2 with ⟨input, hi, hg, -⟩ | ⟨hn, hg, -⟩
    · simp [hi, hg]
    · simp [hn, hg]
  rw [Bool.eq_iff_iff, Dict.contains_iff_mem, hkept]
  simp only [toJsonDict, readingOf, List.map_append, List.map_map, List.mem_append, List.mem_map,
    Function.comp_apply, List.mem_filter, Dict.contains, List.lookup_nil, Option.isSome_none,
    Bool.or_false]
  constructor
  · rintro (⟨entry, ⟨hmem, hset⟩, rfl⟩ | ⟨item, hmem, rfl⟩)
    · rcases hentries entry hmem with hnil | ⟨field, hf, values, hentry⟩
      · cases hnil
      · rw [hentry.1]
        exact (hgiven field hf values entry hentry).mp hset
    · exact Dict.contains_iff_mem.mpr (List.mem_map_of_mem (List.mem_of_mem_filter hmem))
  · intro hkey
    by_cases hfield : ∃ field ∈ decl.fields, field.name = key
    · obtain ⟨field, hf, rfl⟩ := hfield
      obtain ⟨entry, hmem, values, hentry⟩ := hfields field hf
      exact .inl ⟨entry, ⟨hmem, (hgiven field hf values entry hentry).mpr hkey⟩, hentry.1⟩
    · obtain ⟨item, hmem, rfl⟩ := List.mem_map.mp (Dict.contains_iff_mem.mp hkey)
      refine .inr ⟨item, List.mem_filter.mpr ⟨hmem, ?_⟩, rfl⟩
      simp only [Bool.not_eq_true', List.any_eq_false, beq_iff_eq]
      intro field hf
      rw [Field.usedKey_of_noAlias (hdecl.noAlias field hf)]
      exact fun hn => hfield ⟨field, hf, hn⟩

/-- What the payload gave for a field is read between the field's validators. -/
theorem ModelDecl.KeepsKeys.lookup_dumpSet {decl : ModelDecl} (hdecl : decl.KeepsKeys)
    (hnames : (decl.fields.map Field.name).Nodup) {payload : Dict FieldInput} {p : Parsed}
    (h : decl.parseInputs payload = .ok p) {field : Field} (hf : field ∈ decl.fields)
    (input : FieldInput) (hinput : payload.lookup field.name = some input) :
    ∃ values r, field.readInput values input = .ok r ∧
      p.dumpSet.lookup field.name = some r.valueSet.toJson := by
  obtain ⟨fields, rewritten, hread, -, hpost, rfl⟩ := ModelDecl.parseInputs_eq_ok_iff.mp h
  have hrw : rewritten = [] := by
    rw [hdecl.noPost] at hpost
    exact (Except.ok.inj hpost).symm
  subst hrw
  obtain ⟨entry, hmem, values, hname, hentry⟩ := (entries_of_readFields hread).2 field hf
  rw [Field.lookup_of_noAlias (hdecl.noAlias field hf), hinput] at hentry
  rcases hentry with ⟨_, he, hgiven, hr⟩ | ⟨hn, -⟩
  · cases he
    refine ⟨values, entry.2.1, hr, ?_⟩
    -- The entry is the only one of its name.
    have hkeys : ((fields.filter fun field => field.2.2).map Prod.fst).Nodup := by
      have hn : fields.map Prod.fst = decl.fields.map Field.name := names_of_readFields hread
      exact (hn ▸ hnames).sublist (List.filter_sublist.map Prod.fst)
    have hlookup : (((fields.filter fun field => field.2.2).map fun field =>
        (field.1, field.2.1.valueSet)) : Dict FieldInput).lookup field.name =
          some entry.2.1.valueSet := by
      refine Dict.lookup_of_mem (by simpa [Function.comp_def] using hkeys) ?_
      rw [← hname]
      exact List.mem_map.mpr ⟨entry, List.mem_filter.mpr ⟨hmem, hgiven⟩, rfl⟩
    simp only [toJsonDict, readingOf, Dict.contains, List.lookup_nil, Option.isSome_none,
      Bool.or_false, Option.map_none, Option.getD_none]
    rw [Dict.lookup_map_values FieldInput.toJson, List.lookup_append, hlookup]
    rfl
  · cases hn

/-- A reading has the value of each field. -/
theorem ModelDecl.KeepsKeys.lookup_dump {decl : ModelDecl} (hdecl : decl.KeepsKeys)
    (hnames : (decl.fields.map Field.name).Nodup) {payload : Dict FieldInput} {p : Parsed}
    (h : decl.parseInputs payload = .ok p) {field : Field} (hf : field ∈ decl.fields) :
    ∃ values entry, field.Entry payload values entry ∧
      p.value.dump.lookup field.name = some entry.2.1.value.toJson := by
  obtain ⟨fields, rewritten, hread, -, hpost, rfl⟩ := ModelDecl.parseInputs_eq_ok_iff.mp h
  have hrw : rewritten = [] := by
    rw [hdecl.noPost] at hpost
    exact (Except.ok.inj hpost).symm
  subst hrw
  obtain ⟨entry, hmem, values, hentry⟩ := (entries_of_readFields hread).2 field hf
  refine ⟨values, entry, hentry, ?_⟩
  have hkeys : (fields.map Prod.fst).Nodup := by
    have hn : fields.map Prod.fst = decl.fields.map Field.name := names_of_readFields hread
    exact hn ▸ hnames
  have hlookup : ((fields.map fun field => (field.1, field.2.1.value)) : Dict FieldInput).lookup
      field.name = some entry.2.1.value := by
    refine Dict.lookup_of_mem (by simpa [Function.comp_def] using hkeys) ?_
    rw [← hentry.1]
    exact List.mem_map.mpr ⟨entry, hmem, rfl⟩
  simp only [toJsonDict, readingOf, List.lookup_nil, Option.map_none, Option.getD_none]
  rw [Dict.lookup_map_values FieldInput.toJson, List.lookup_append, hlookup]
  rfl

/-- The field has no validators. -/
def Field.NoValidators (field : Field) : Prop :=
  (∀ value, field.before value = .ok value) ∧ ∀ values value, field.after values value = .ok value

/-- A field without validators reads what its type reads. -/
theorem Field.NoValidators.readInput {field : Field} (h : field.NoValidators) (values : Dict Json)
    (input : FieldInput) : field.readInput values input = field.type.read input := by
  cases input with
  | datetime t => rfl
  | json value =>
    unfold Field.readInput FieldType.read
    simp only [h.1, h.2]
    cases field.type.readJson value with
    | error e => rfl
    | ok r =>
      dsimp only
      split
      · rfl
      · rw [if_pos trivial]

/-- A field without validators accepts what a payload gives for it. -/
def Field.Accepts (field : Field) (payload : Dict FieldInput) : Prop :=
  match field.lookup payload with
  | some input => ∃ r, field.type.read input = .ok r
  | none => field.default.isSome

/-- Fields without validators are read without an error exactly when each accepts its input. -/
theorem exists_readFields_iff {payload : Dict FieldInput} {fields : List Field}
    (hfields : ∀ field ∈ fields, field.NoValidators) (soFar : FieldsRead) :
    (∃ read, readFields payload fields soFar [] = (read, [])) ↔
      ∀ field ∈ fields, field.Accepts payload := by
  induction fields generalizing soFar with
  | nil => simp [readFields]
  | cons field fields ih =>
    have hread := (hfields field List.mem_cons_self).readInput
    have ih' := ih fun f hf => hfields f (List.mem_cons_of_mem _ hf)
    rw [List.forall_mem_cons]
    constructor
    · rintro ⟨read, h⟩
      obtain ⟨r, given, hrest, -, hentry⟩ := readFields_cons h
      refine ⟨?_, (ih' _).mp ⟨read, hrest⟩⟩
      unfold Field.Accepts
      rcases hentry with ⟨input, hl, -, hr⟩ | ⟨hl, -, d, hd, -⟩
      · rw [hl]
        exact ⟨r, by rw [← hread soFar.values]; exact hr⟩
      · rw [hl]
        simp [hd]
    · rintro ⟨haccepts, hrest⟩
      unfold Field.Accepts at haccepts
      unfold readFields
      cases hl : field.lookup payload with
      | some input =>
        rw [hl] at haccepts
        obtain ⟨r, hr⟩ := haccepts
        rw [← hread soFar.values] at hr
        simp only [hr]
        exact (ih' _).mpr hrest
      | none =>
        rw [hl] at haccepts
        obtain ⟨d, hd⟩ := Option.isSome_iff_exists.mp haccepts
        simp only [hd]
        exact (ih' _).mpr hrest

/-- A model whose fields have no validators accepts the payloads that its fields accept. -/
theorem ModelDecl.KeepsKeys.exists_parseInputs_iff {decl : ModelDecl} (hdecl : decl.KeepsKeys)
    (hfields : ∀ field ∈ decl.fields, field.NoValidators) {payload : Dict FieldInput} :
    (∃ p, decl.parseInputs payload = .ok p) ↔
      ∀ field ∈ decl.fields, field.Accepts payload := by
  have hextra : decl.extraErrors payload = [] := by
    unfold ModelDecl.extraErrors
    rw [hdecl.extra]
    rfl
  rw [← exists_readFields_iff hfields []]
  constructor
  · rintro ⟨p, h⟩
    obtain ⟨fields, -, hread, -⟩ := ModelDecl.parseInputs_eq_ok_iff.mp h
    exact ⟨fields, hread⟩
  · rintro ⟨fields, hread⟩
    exact ⟨_, ModelDecl.parseInputs_eq_ok_iff.mpr
      ⟨fields, [], hread, hextra, hdecl.noPost _, rfl⟩⟩

/-- A validator or the type of the field raises another exception on what a payload gives for it. -/
def Field.Raises (field : Field) (payload : Dict FieldInput) : Prop :=
  ∃ input soFar exc, field.lookup payload = some input ∧
    field.readInput soFar input = .error (.raised exc)

/-- An exception among the failures of the fields is an earlier one or a field's. -/
theorem raises_of_readFields {payload : Dict FieldInput} {fields : List Field} {soFar : FieldsRead}
    {failures : List Failure} {exc : RaisedException}
    (h : (readFields payload fields soFar failures).2.findSome? Failure.raised? = some exc) :
    failures.findSome? Failure.raised? = some exc ∨ ∃ field ∈ fields, field.Raises payload := by
  induction fields generalizing soFar failures with
  | nil => exact Or.inl h
  | cons field fields ih =>
    -- A failure that was added is the field's, and only a field error can be an exception.
    have hadd : ∀ failure : Failure, (failures ++ [failure]).findSome? Failure.raised? = some exc →
        failures.findSome? Failure.raised? = some exc ∨ failure.raised? = some exc := by
      intro failure hf
      rw [List.findSome?_append, List.findSome?_singleton, Option.or_eq_some_iff] at hf
      exact hf.imp_right And.right
    have htail : (∃ field ∈ fields, field.Raises payload) →
        ∃ f ∈ field :: fields, f.Raises payload :=
      fun ⟨f, hf, hr⟩ => ⟨f, List.mem_cons_of_mem _ hf, hr⟩
    unfold readFields at h
    split at h
    · rename_i input hinput
      split at h
      · exact (ih h).imp_right htail
      · rename_i e he
        rcases ih h with hf | hf
        · rcases hadd _ hf with hold | hnew
          · exact Or.inl hold
          · cases e with
            | invalid type message => cases hnew
            | raised exc' => exact Or.inr ⟨field, List.mem_cons_self, input, _, exc', hinput, he⟩
        · exact Or.inr (htail hf)
    · exact (ih h).imp_right htail
    · rcases ih h with hf | hf
      · rcases hadd _ hf with hold | hnew
        · exact Or.inl hold
        · cases hnew
      · exact Or.inr (htail hf)

/-- Fields without validators leave an exception among the failures exactly when one was there or a
field raises one. -/
theorem exists_raised_readFields_iff (payload : Dict FieldInput) {fields : List Field}
    (hfields : ∀ field ∈ fields, field.NoValidators) (soFar : FieldsRead)
    (failures : List Failure) :
    (∃ exc, (readFields payload fields soFar failures).2.findSome? Failure.raised? = some exc) ↔
      (∃ exc, failures.findSome? Failure.raised? = some exc) ∨
        ∃ field ∈ fields, field.Raises payload := by
  constructor
  · rintro ⟨exc, h⟩
    exact (raises_of_readFields h).imp_left fun hf => ⟨exc, hf⟩
  · intro h
    induction fields generalizing soFar failures with
    | nil =>
      rcases h with hf | ⟨field, hf, -⟩
      · exact hf
      · cases hf
    | cons field fields ih =>
      have ih' := fun soFar failures => ih (fun f hf => hfields f (List.mem_cons_of_mem _ hf)) soFar
        failures
      have hkeep : ∀ failure : Failure, (∃ exc, failures.findSome? Failure.raised? = some exc) →
          ∃ exc, (failures ++ [failure]).findSome? Failure.raised? = some exc := by
        rintro failure ⟨exc, hf⟩
        exact ⟨exc, by rw [List.findSome?_append, hf, Option.some_or]⟩
      have hread := (hfields field List.mem_cons_self).readInput
      rw [List.exists_mem_cons_iff] at h
      unfold readFields
      cases hl : field.lookup payload with
      | some input =>
        dsimp only
        cases hr : field.readInput soFar.values input with
        | ok r =>
          refine ih' _ _ (h.imp_right fun hrest => hrest.resolve_left ?_)
          rintro ⟨input', soFar', exc, hl', hr'⟩
          rw [hl, Option.some.injEq] at hl'
          rw [hread, ← hl', ← hread soFar.values, hr] at hr'
          cases hr'
        | error e =>
          rcases h with hf | hown | hrest
          · exact ih' _ _ (Or.inl (hkeep _ hf))
          · -- The field's exception is what its failure is.
            obtain ⟨input', soFar', exc, hl', hr'⟩ := hown
            rw [hl, Option.some.injEq] at hl'
            rw [hread, ← hl', ← hread soFar.values, hr, Except.error.injEq] at hr'
            subst hr'
            refine ih' _ _ (Or.inl (Option.isSome_iff_exists.mp ?_))
            rw [List.findSome?_append]
            cases failures.findSome? Failure.raised? <;> rfl
          · exact ih' _ _ (Or.inr hrest)
      | none =>
        have hown : ¬ field.Raises payload := by
          rintro ⟨input, soFar', exc, hl', -⟩
          rw [hl] at hl'
          cases hl'
        have h := h.imp_right fun hrest => hrest.resolve_left hown
        cases field.default with
        | some d => exact ih' _ _ h
        | none => exact ih' _ _ (h.imp_left (hkeep _))

/-- A model whose fields have no validators raises another exception exactly when a field does. -/
theorem ModelDecl.KeepsKeys.raises_iff {decl : ModelDecl} (hdecl : decl.KeepsKeys)
    (hfields : ∀ field ∈ decl.fields, field.NoValidators) {payload : Dict FieldInput} :
    (∃ exc, decl.parseInputs payload = .error (.raised exc)) ↔
      ∃ field ∈ decl.fields, field.Raises payload := by
  have hiff := exists_raised_readFields_iff payload hfields [] []
  simp only [List.findSome?_nil, reduceCtorEq, exists_false, false_or] at hiff
  rw [← hiff]
  unfold ModelDecl.parseInputs ModelDecl.read
  dsimp only
  cases (readFields payload decl.fields [] []).2.findSome? Failure.raised? with
  | some exc => simp
  | none =>
    dsimp only
    rw [hdecl.noPost]
    split_ifs <;> simp

/-- Two payloads that give the same for every field of a model are both accepted or both
refused. -/
theorem ModelDecl.KeepsKeys.exists_parseInputs_congr {decl : ModelDecl} (hdecl : decl.KeepsKeys)
    (hfields : ∀ field ∈ decl.fields, field.NoValidators) {payload payload' : Dict FieldInput}
    (h : ∀ field ∈ decl.fields, payload.lookup field.name = payload'.lookup field.name) :
    (∃ p, decl.parseInputs payload = .ok p) ↔ ∃ p, decl.parseInputs payload' = .ok p := by
  rw [hdecl.exists_parseInputs_iff hfields, hdecl.exists_parseInputs_iff hfields]
  refine forall₂_congr fun field hf => ?_
  have hl := Field.lookup_of_noAlias (hdecl.noAlias field hf)
  unfold Field.Accepts
  rw [hl payload, hl payload', h field hf]

/-- Two payloads that give the same for every field of a model make it raise another exception, or
neither does. -/
theorem ModelDecl.KeepsKeys.raises_congr {decl : ModelDecl} (hdecl : decl.KeepsKeys)
    (hfields : ∀ field ∈ decl.fields, field.NoValidators) {payload payload' : Dict FieldInput}
    (h : ∀ field ∈ decl.fields, payload.lookup field.name = payload'.lookup field.name) :
    (∃ exc, decl.parseInputs payload = .error (.raised exc)) ↔
      ∃ exc, decl.parseInputs payload' = .error (.raised exc) := by
  rw [hdecl.raises_iff hfields, hdecl.raises_iff hfields]
  refine exists_congr fun field => and_congr_right fun hf => ?_
  have hl := Field.lookup_of_noAlias (hdecl.noAlias field hf)
  unfold Field.Raises
  rw [hl payload, hl payload', h field hf]

/-! ## Reading a dump back -/

/-- The type reads no dates, no models and no lists of typed items. -/
def FieldType.isPlain : FieldType → Bool
  | .datetime _ => false
  | .model _ => false
  | .list _ => false
  | .nullable type => type.isPlain
  | _ => true

/-- A plain type reads what it read as itself. -/
theorem FieldType.readJson_of_readJson {type : FieldType} (hp : type.isPlain = true) {value : Json}
    {r : FieldReading} (h : type.readJson value = .ok r) :
    ∃ w, r = .json w ∧ type.readJson w = .ok (.json w) := by
  -- A type either keeps the value or reads it as one that it keeps.
  induction type generalizing value r with
  | any => exact ⟨value, (Except.ok.inj h).symm, rfl⟩
  | datetime parse => cases hp
  | model m => cases hp
  | list item => cases hp
  | int =>
    simp only [readJson] at h
    split at h
    · exact ⟨_, (Except.ok.inj h).symm, rfl⟩
    · cases h
  | bool =>
    simp only [readJson] at h
    split at h
    · exact ⟨_, (Except.ok.inj h).symm, rfl⟩
    · cases h
  | nullable type ih =>
    by_cases hn : value = .null
    · subst hn
      exact ⟨.null, (Except.ok.inj h).symm, rfl⟩
    · have hr : type.readJson value = .ok r := by
        cases value <;> first | exact h | exact absurd rfl hn
      obtain ⟨w, hw, hback⟩ := ih hp hr
      refine ⟨w, hw, ?_⟩
      cases w <;> first | rfl | exact hback
  | str =>
    cases value <;> simp only [readJson, reduceCtorEq, Except.ok.injEq] at h
    exact ⟨_, h.symm, rfl⟩
  | literal s =>
    simp only [readJson] at h
    split at h
    · rename_i hv
      exact ⟨value, (Except.ok.inj h).symm, by simp [readJson, hv]⟩
    · cases h
  | oneOf values =>
    cases value <;> simp only [readJson, reduceCtorEq] at h
    split at h
    · rename_i hv
      exact ⟨_, (Except.ok.inj h).symm, by simp only [readJson, hv, if_true]⟩
    · cases h
  | strList =>
    cases value <;> simp only [readJson, reduceCtorEq] at h
    split at h
    · rename_i hv
      exact ⟨_, (Except.ok.inj h).symm, by simp only [readJson, hv, if_true]⟩
    · cases h
  | dict =>
    cases value <;> simp only [readJson, reduceCtorEq, Except.ok.injEq] at h
    exact ⟨_, h.symm, rfl⟩
  | strDict =>
    cases value <;> simp only [readJson, reduceCtorEq] at h
    split at h
    · rename_i hv
      exact ⟨_, (Except.ok.inj h).symm, by simp only [readJson, hv, if_true]⟩
    · cases h
  | noneType =>
    cases value <;> simp only [readJson, reduceCtorEq, Except.ok.injEq] at h
    exact ⟨_, h.symm, rfl⟩

/-- The field reads its own values and its default as themselves. -/
structure Field.ReadsBack (field : Field) : Prop where
  read : ∀ soFar value r, field.readInput soFar (.json value) = .ok r →
    ∃ w r', r.value = .json w ∧ field.readInput soFar (.json w) = .ok r' ∧ r'.value = .json w
  default : ∀ soFar d, field.default = some d →
    ∃ r', field.readInput soFar (.json d) = .ok r' ∧ r'.value = .json d

/-- A field without validators, of a plain type that reads its default as itself. -/
theorem Field.readsBack_of {name : String} (alias? : Option String) {type : FieldType}
    {default : Option Json} (hp : type.isPlain = true)
    (hd : ∀ d, default = some d → type.readJson d = .ok (.json d)) :
    Field.ReadsBack { Field.of name type default with validationAlias := alias? } := by
  -- Without validators a reading is the type's.
  have hread : ∀ soFar value w, type.readJson value = .ok (.json w) →
      Field.readInput { Field.of name type default with validationAlias := alias? } soFar
        (.json value) = .ok (.json w) := by
    intro soFar value w h
    simp [readInput, Field.of, h, FieldReading.json, FieldReading.plain]
  refine ⟨fun soFar value r h => ?_, fun soFar d hdef => ?_⟩
  · cases hr : type.readJson value with
    | error e => simp [readInput, Field.of, hr] at h
    | ok reading =>
      obtain ⟨w, rfl, hback⟩ := FieldType.readJson_of_readJson hp hr
      rw [hread soFar value w hr] at h
      cases h
      exact ⟨w, .json w, rfl, hread soFar w w hback, rfl⟩
  · exact ⟨.json d, hread soFar d d (hd d hdef), rfl⟩

/-- An instance of a declared model is of the model's class, and both its dumps are the same. -/
theorem ModelDecl.instance_of_validate {decl : ModelDecl} {payload : Json} {v : Instance}
    (h : (ModelClass.ofDecl decl).validate payload = .ok v) :
    v.mro = decl.mro ∧ v.dump = v.dumpJson := by
  obtain ⟨items, rfl⟩ := ModelDecl.exists_obj_of_validate h
  obtain ⟨r, -, rfl⟩ := ModelDecl.validate_eq_ok_iff.mp h
  exact ⟨rfl, rfl⟩

end Pydantic
