import DbConnection.Lib.PyText
import DbConnection.Validation

/-!
# Rows and records

The stored row of `infra/models.py`, the codec of its driver options column in
`infra/sa_types.py`, and the mapper of `infra/record_mapper.py` from a row to a record. A JSON
column holds any JSON value, `None` included. The mapper never fails: it replaces a column it
cannot read by an empty value and reports a read issue.

Driver options are stored with a reference to their class, which reading imports. What an import
finds is a parameter (`Importer`), as is the encryption of the secrets (`EncryptionProvider`).
-/

namespace DbConnection

open PyData Pydantic

/-- `EncryptionProvider`. Encryption is randomised, so it takes the randomness it uses. Of an
exception that decryption raises only the text is read. -/
structure EncryptionProvider (C : Type) where
  encrypt : Nat → Json → C
  decrypt : C → Except String Json

/-- `NoOpEncryptionProvider`, whose ciphertext is the JSON text of the secrets, read back by
`json.loads`: the ciphertext is the JSON value itself. -/
def noOpEncryptionProvider : EncryptionProvider Json where
  encrypt _ payload := payload
  decrypt ciphertext := .ok ciphertext

/-- What an import path leads to. -/
inductive Imported where
  | model (m : ModelClass)
  | other

/-- `import_module(module)` followed by `getattr` along the attribute path, or the text of the
exception that one of them raises. -/
abbrev Importer := String → String → Except String Imported

/-- `DefaultStoredConnection`, with its timestamps in microseconds. -/
structure Row (C : Type) where
  id : String
  name : String
  kind : String
  type : String
  driver : Option String
  driverOptionsJson : Json
  propertiesJson : Json
  secretsCiphertext : C
  labelsJson : Json
  metadataJson : Json
  extraJson : Json
  createdAt : Nat
  updatedAt : Nat
  deletedAt : Option Nat
  deriving DecidableEq, Repr

/-! ## The driver options column -/

/-- `_resolve_model_ref`. -/
def resolveModelRef (importer : Importer) (modelRef : String) : Except String ModelClass :=
  let (moduleName, attributePath) := PyText.partition ':' modelRef
  if moduleName = "" ∨ attributePath = "" then .error s!"Invalid model_ref '{modelRef}'."
  else
    match importer moduleName attributePath with
    | .error text => .error text
    | .ok .other => .error s!"{modelRef} does not resolve to a Pydantic model."
    | .ok (.model m) => .ok m

/-- `DriverOptionsType.process_bind_param`. -/
def processBindParam : DriverOptions → Except PyError Json
  | .none => .ok .null
  -- A draft that was not validated still has a dictionary here.
  | .raw _ => .error (.typeError "Expected DriverOptionsBase, got <class 'dict'>")
  | .model v =>
    if v.isInstance driverOptionsBaseRef then
      .ok (.obj [("model_ref", .str (v.cls.moduleName ++ ":" ++ v.cls.qualname)),
        ("data", .obj v.dumpJson)])
    else .error (.typeError s!"Expected DriverOptionsBase, got {v.cls.qualname}")

/-- `DriverOptionsType.process_result_value` on a value that is not `None`. The error is the
text of the exception. -/
def processResultValue (importer : Importer) : Json → Except String Instance
  | .obj value =>
    match value.lookup "model_ref" with
    | some (.str modelRef) =>
      match resolveModelRef importer modelRef with
      | .error text => .error text
      | .ok m =>
        if m.mro.contains driverOptionsBaseRef then
          match m.validate ((value.lookup "data").getD .null) with
          | .ok v => .ok v
          | .error e => .error e.text
        else .error s!"{modelRef} is not a DriverOptionsBase subtype."
    | _ => .error "Driver options payload is missing model_ref."
  | value => .error s!"Expected JSON object for driver options, got {value.typeName}"

/-! ## The record mapper -/

/-- What the mapper reads of a column: its value, the raw value it kept and the issue it
found. -/
structure ColumnRead (α : Type) where
  value : α
  raw : Json
  issue : Option StoredConnectionIssue

/-- `_decode_driver_options`. -/
def decodeDriverOptions (importer : Importer) (rawValue : Json) : ColumnRead (Option Instance) :=
  match rawValue with
  -- `None` is no driver options, which is no issue.
  | .null => ⟨none, .null, none⟩
  | _ =>
    match processResultValue importer rawValue with
    | .ok v => ⟨some v, .null, none⟩
    -- Any exception of the codec, of the import or of the model becomes an issue.
    | .error text => ⟨none, rawValue, some
        { field := "driver_options", code := "invalid_driver_options",
          message := "Stored connection driver options payload is invalid.",
          details := [("error", .str text)] }⟩

/-- `_decode_secrets`. -/
def decodeSecrets {C : Type} (encryption : EncryptionProvider C) (ciphertext : C) :
    ColumnRead (Dict Json) :=
  match encryption.decrypt ciphertext with
  | .error text => ⟨[], .null, some
      { field := "secrets", code := "unreadable_secrets",
        message := "Stored connection secrets could not be decrypted.",
        details := [("error", .str text)] }⟩
  | .ok (.obj items) => ⟨items, .null, none⟩
  -- The ciphertext was readable but holds no dictionary; the mapper keeps what it holds.
  | .ok decoded => ⟨[], decoded, some
      { field := "secrets", code := "invalid_secrets",
        message := "Stored connection secrets payload is invalid.",
        details := [("raw_type", .str decoded.typeName)] }⟩

/-- `_coerce_mapping`, with the reading of the values as a parameter. -/
def coerceMapping {α : Type} (read : Dict Json → Option (Dict α)) (fieldName code message : String)
    (rawValue : Json) : ColumnRead (Dict α) :=
  match rawValue.obj?.bind read with
  | some items => ⟨items, .null, none⟩
  | none => ⟨[], rawValue, some
      { field := fieldName, code := code, message := message,
        details := [("raw_type", .str rawValue.typeName)] }⟩

/-- The properties column. -/
def readProperties : Json → ColumnRead (Dict Json) :=
  coerceMapping some "properties" "invalid_properties"
    "Stored connection properties payload is invalid."

/-- The labels column, whose values are strings. -/
def readLabels : Json → ColumnRead (Dict String) :=
  coerceMapping Dict.strings? "labels" "invalid_labels"
    "Stored connection labels payload is invalid."

/-- The metadata column. -/
def readMetadata : Json → ColumnRead (Dict Json) :=
  coerceMapping some "metadata" "invalid_metadata"
    "Stored connection metadata payload is invalid."

/-- The extra column. -/
def readExtra : Json → ColumnRead (Dict Json) :=
  coerceMapping some "extra" "invalid_extra" "Stored connection extra payload is invalid."

/-- What reading and writing rows needs beside the rows: the encryption, the importer of driver
options classes, and the case folding of the database's LIKE. -/
structure Storage (C : Type) where
  encryption : EncryptionProvider C
  importer : Importer
  foldCase : Char → Char

/-- `StoredConnectionRecordMapper.to_record` on a row. -/
def toRecord {C : Type} (storage : Storage C) (row : Row C) : ConnectionRecord :=
  let driverOptions := decodeDriverOptions storage.importer row.driverOptionsJson
  let properties := readProperties row.propertiesJson
  let secrets := decodeSecrets storage.encryption row.secretsCiphertext
  let labels := readLabels row.labelsJson
  let metadata := readMetadata row.metadataJson
  let extra := readExtra row.extraJson
  { id := row.id, name := row.name, kind := row.kind, type := row.type, driver := row.driver
    driverOptions := driverOptions.value
    properties := properties.value
    secrets := secrets.value
    labels := labels.value
    metadata := metadata.value
    extra := extra.value
    createdAt := row.createdAt, updatedAt := row.updatedAt, deletedAt := row.deletedAt
    readIssues := [driverOptions.issue, properties.issue, secrets.issue, labels.issue,
      metadata.issue, extra.issue].filterMap id
    rawProperties := properties.raw
    rawDriverOptions := driverOptions.raw
    rawSecrets := secrets.raw }

/-- A mapping column reads without an issue exactly when its values do. -/
theorem coerceMapping_issue_eq_none_iff {α : Type} {read : Dict Json → Option (Dict α)}
    {fieldName code message : String} {rawValue : Json} :
    (coerceMapping read fieldName code message rawValue).issue = none ↔
      ∃ items, rawValue.obj?.bind read =
        some items ∧ (coerceMapping read fieldName code message rawValue).value = items := by
  unfold coerceMapping
  cases rawValue.obj?.bind read <;> simp

/-- A mapping column with an issue reads as empty. -/
theorem coerceMapping_value_of_issue {α : Type} {read : Dict Json → Option (Dict α)}
    {fieldName code message : String} {rawValue : Json} {issue : StoredConnectionIssue}
    (h : (coerceMapping read fieldName code message rawValue).issue = some issue) :
    (coerceMapping read fieldName code message rawValue).value = [] ∧ issue.field = fieldName := by
  unfold coerceMapping at h ⊢
  cases hr : rawValue.obj?.bind read with
  | some items => simp [hr] at h
  | none =>
    simp only [hr, Option.some.injEq] at h ⊢
    exact ⟨trivial, by rw [← h]⟩

/-- The labels read from a column are its value exactly when it reads without an issue. -/
theorem ofStrDict_readLabels_iff {rawValue : Json} :
    Json.ofStrDict (readLabels rawValue).value = rawValue ↔
      (readLabels rawValue).issue = none := by
  constructor
  · intro h
    cases hi : (readLabels rawValue).issue with
    | none => rfl
    | some issue =>
      -- An empty dictionary would have been read.
      have hv : (readLabels rawValue).value = [] := (coerceMapping_value_of_issue hi).1
      rw [hv] at h
      rw [← h] at hi
      cases hi
  · intro h
    obtain ⟨items, hi, hv⟩ := coerceMapping_issue_eq_none_iff.mp h
    cases rawValue with
    | obj kvs =>
      rw [readLabels, hv]
      exact congrArg Json.obj (Dict.map_str_of_strings? hi)
    | _ => simp [Json.obj?] at hi

/-- The mapping read from a column is its value exactly when it reads without an issue. -/
theorem obj_coerceMapping_iff {fieldName code message : String} {rawValue : Json} :
    .obj (coerceMapping some fieldName code message rawValue).value = rawValue ↔
      (coerceMapping some fieldName code message rawValue).issue = none := by
  cases rawValue with
  | obj kvs => simp [coerceMapping, Json.obj?]
  | _ => simp [coerceMapping, Json.obj?]

/-- Secrets that read without an issue are what the ciphertext decrypts to. -/
theorem decrypt_eq_ok_decodeSecrets {C : Type} {encryption : EncryptionProvider C} {ciphertext : C}
    (h : (decodeSecrets encryption ciphertext).issue = none) :
    encryption.decrypt ciphertext = .ok (.obj (decodeSecrets encryption ciphertext).value) := by
  unfold decodeSecrets at h ⊢
  split at h <;> simp_all

/-- A ciphertext that decrypts to a dictionary reads without an issue, as that dictionary. -/
theorem decodeSecrets_of_decrypt {C : Type} {encryption : EncryptionProvider C} {ciphertext : C}
    {items : Dict Json} (h : encryption.decrypt ciphertext = .ok (.obj items)) :
    decodeSecrets encryption ciphertext = ⟨items, .null, none⟩ := by
  simp [decodeSecrets, h]

theorem decodeSecrets_issue_field {C : Type} {encryption : EncryptionProvider C} {ciphertext : C}
    {issue : StoredConnectionIssue} (h : (decodeSecrets encryption ciphertext).issue = some issue) :
    issue.field = "secrets" := by
  unfold decodeSecrets at h
  split at h
  · cases h
    rfl
  · cases h
  · cases h
    rfl

/-- A driver options column is empty, decodes or has an issue. -/
theorem decodeDriverOptions_cases (importer : Importer) (rawValue : Json) :
    (rawValue = .null ∧ decodeDriverOptions importer rawValue = ⟨none, .null, none⟩) ∨
      (∃ v, processResultValue importer rawValue = .ok v ∧
        decodeDriverOptions importer rawValue = ⟨some v, .null, none⟩) ∨
      ∃ issue, decodeDriverOptions importer rawValue = ⟨none, rawValue, some issue⟩ ∧
        issue.field = "driver_options" := by
  by_cases hn : rawValue = .null
  · subst hn
    exact .inl ⟨rfl, rfl⟩
  · have hd : decodeDriverOptions importer rawValue =
        match processResultValue importer rawValue with
        | .ok v => ⟨some v, .null, none⟩
        | .error text => ⟨none, rawValue, some
            { field := "driver_options", code := "invalid_driver_options",
              message := "Stored connection driver options payload is invalid.",
              details := [("error", .str text)] }⟩ := by
      cases rawValue <;> first | rfl | exact absurd rfl hn
    rw [hd]
    cases processResultValue importer rawValue with
    | ok v => exact .inr (.inl ⟨v, rfl, rfl⟩)
    | error text => exact .inr (.inr ⟨_, rfl, rfl⟩)

theorem decodeDriverOptions_issue_field {importer : Importer} {rawValue : Json}
    {issue : StoredConnectionIssue} (h : (decodeDriverOptions importer rawValue).issue = some issue) :
    issue.field = "driver_options" := by
  rcases decodeDriverOptions_cases importer rawValue with ⟨-, hd⟩ | ⟨v, -, hd⟩ | ⟨i, hd, hfield⟩
  · simp [hd] at h
  · simp [hd] at h
  · rw [hd] at h
    cases h
    exact hfield

/-- What holds of the field of every read issue holds of the fields whose column has one. -/
theorem forall_readIssues_iff {C : Type} {storage : Storage C} {row : Row C} {p : String → Prop} :
    (∀ issue ∈ (toRecord storage row).readIssues, p issue.field) ↔
      ((decodeDriverOptions storage.importer row.driverOptionsJson).issue ≠ none →
          p "driver_options") ∧
        ((readProperties row.propertiesJson).issue ≠ none → p "properties") ∧
        ((decodeSecrets storage.encryption row.secretsCiphertext).issue ≠ none → p "secrets") ∧
        ((readLabels row.labelsJson).issue ≠ none → p "labels") ∧
        ((readMetadata row.metadataJson).issue ≠ none → p "metadata") ∧
        ((readExtra row.extraJson).issue ≠ none → p "extra") := by
  -- A column with one possible field has at most one issue, with that field.
  have column : ∀ (issue : Option StoredConnectionIssue) (field : String),
      (∀ i, issue = some i → i.field = field) →
        ((∀ i, issue = some i → p i.field) ↔ (issue ≠ none → p field)) := by
    intro issue field hfield
    cases issue with
    | none => simp
    | some i => simp [hfield i rfl]
  have hproperties := column _ "properties" fun i (hi : (readProperties row.propertiesJson).issue =
    some i) => (coerceMapping_value_of_issue hi).2
  have hlabels := column _ "labels" fun i (hi : (readLabels row.labelsJson).issue = some i) =>
    (coerceMapping_value_of_issue hi).2
  have hmetadata := column _ "metadata" fun i (hi : (readMetadata row.metadataJson).issue =
    some i) => (coerceMapping_value_of_issue hi).2
  have hextra := column _ "extra" fun i (hi : (readExtra row.extraJson).issue = some i) =>
    (coerceMapping_value_of_issue hi).2
  have hsecrets := column _ "secrets" fun i
    (hi : (decodeSecrets storage.encryption row.secretsCiphertext).issue = some i) =>
    decodeSecrets_issue_field hi
  have hoptions := column _ "driver_options" fun i
    (hi : (decodeDriverOptions storage.importer row.driverOptionsJson).issue = some i) =>
    decodeDriverOptions_issue_field hi
  rw [← hproperties, ← hlabels, ← hmetadata, ← hextra, ← hsecrets, ← hoptions]
  simp only [toRecord, List.mem_filterMap, List.mem_cons, List.not_mem_nil, or_false, id_eq,
    exists_eq_right]
  constructor
  · intro h
    exact ⟨fun i hi => h i (.inl hi.symm), fun i hi => h i (.inr (.inl hi.symm)),
      fun i hi => h i (.inr (.inr (.inl hi.symm))),
      fun i hi => h i (.inr (.inr (.inr (.inl hi.symm)))),
      fun i hi => h i (.inr (.inr (.inr (.inr (.inl hi.symm))))),
      fun i hi => h i (.inr (.inr (.inr (.inr (.inr hi.symm)))))⟩
  · rintro ⟨h1, h2, h3, h4, h5, h6⟩ i (hi | hi | hi | hi | hi | hi)
    · exact h1 i hi.symm
    · exact h2 i hi.symm
    · exact h3 i hi.symm
    · exact h4 i hi.symm
    · exact h5 i hi.symm
    · exact h6 i hi.symm

end DbConnection
