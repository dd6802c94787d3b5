import DbConnection.Lib.Pydantic

/-!
# The connection domain

The errors of `errors.py`, the driver options of `domain/drivers.py`, the specifications of
`domain/specs.py` and the entities of `domain/entities`. An entity keeps its source's fields. A
field that the source annotates as never `None`, but that a patch can set to `None`, is an
`Option`. The capabilities and tags of a specification, which no function of the model reads, are
left out.

A connection's secrets are stored as a ciphertext. Nothing but the encryption provider looks
inside one, so its type `C` is a parameter.
-/

namespace DbConnection

open PyData Pydantic

/-- The exceptions a call can raise: the `DBConnectionError` classes with their arguments, and
those of the language, of pydantic and of the database. -/
inductive PyError where
  | connectionNotFound (connectionId : String)
  | connectionTypeNotSupported (connectionType : String)
  | validationFailed (message : String) (details : Dict Json)
  | accessDenied (message : String)
  | connectionLimitExceeded (limit : Int)
  | typeError (message : String)
  | assertionError
  | integrityError (message : String)
  | pydanticError (error : ValidationError)
  | other (cls message : String)
  deriving DecidableEq, Repr, Inhabited

/-- What a call raises where a model raises `error`, given what it makes of a `ValidationError`. Other
exceptions pass. -/
def PyError.ofModel (wrap : ValidationError → PyError) : ModelError → PyError
  | .validation error => wrap error
  | .raised exc => .other exc.cls exc.message

/-- The class of an exception. -/
def PyError.cls : PyError → String
  | .connectionNotFound _ => "ConnectionNotFoundError"
  | .connectionTypeNotSupported _ => "ConnectionTypeNotSupportedError"
  | .validationFailed _ _ => "ValidationFailedError"
  | .accessDenied _ => "AccessDeniedError"
  | .connectionLimitExceeded _ => "ConnectionLimitExceededError"
  | .typeError _ => "TypeError"
  | .assertionError => "AssertionError"
  | .integrityError _ => "IntegrityError"
  | .pydanticError _ => "ValidationError"
  | .other cls _ => cls

/-! ## Driver options and specifications -/

/-- A class of the package. -/
def packageRef (moduleName qualname : String) : ClassRef :=
  ⟨"db_connection." ++ moduleName, qualname⟩

/-- `BaseModel`, from which every model class derives. -/
def baseModelRef : ClassRef := ⟨"pydantic.main", "BaseModel"⟩

/-- `DriverOptionsBase`. -/
def driverOptionsBaseRef : ClassRef := packageRef "domain.drivers" "DriverOptionsBase"

/-- `NoDriverOptions`. -/
def noDriverOptionsRef : ClassRef := packageRef "domain.drivers" "NoDriverOptions"

/-- A class of driver options, `type[DriverOptionsBase]`. -/
structure OptionsModel extends ModelClass where
  /-- The class derives from `DriverOptionsBase`. -/
  derives : driverOptionsBaseRef ∈ mro

/-- `options_model is NoDriverOptions`. -/
def OptionsModel.isNoDriverOptions (m : OptionsModel) : Bool := m.ref == noDriverOptionsRef

/-- The instance of `NoDriverOptions`, which has no fields. -/
def noDriverOptionsInstance : Instance where
  mro := [noDriverOptionsRef, driverOptionsBaseRef, baseModelRef]
  dump := []
  dumpJson := []

/-- `NoDriverOptions`: no fields, and none allowed. -/
def noDriverOptions : OptionsModel where
  mro := [noDriverOptionsRef, driverOptionsBaseRef, baseModelRef]
  parse
    | .obj [] => .ok ⟨noDriverOptionsInstance, [], 0, .exact⟩
    | .obj items => .error (.validation
        ⟨items.map fun item => .obj [("type", .str "extra_forbidden"), ("loc", .arr [.str item.1]),
            ("msg", .str "Extra inputs are not permitted"), ("input", item.2)],
          s!"{items.length} validation errors for NoDriverOptions"⟩)
    | payload => .error (.validation
        ⟨[.obj [("type", .str "model_type"), ("loc", .arr []),
            ("msg", .str "Input should be a valid dictionary or instance of NoDriverOptions"),
            ("input", payload)]],
          "1 validation error for NoDriverOptions"⟩)
  parse_mro payload r h := by
    split at h
    · cases h
      exact List.Subset.refl _
    · cases h
    · cases h
  derives := by simp

/-- A driver of a connection type. `__post_init__` sets a missing public options model to the
options model. -/
structure DriverSpec where
  name : String
  optionsModel : OptionsModel
  publicOptionsModel : ModelClass

/-- A driver whose public options model is its options model. -/
def DriverSpec.ofOptions (name : String) (optionsModel : OptionsModel) : DriverSpec :=
  ⟨name, optionsModel, optionsModel.toModelClass⟩

/-- A kind of connections. -/
structure KindSpec where
  name : String
  deriving DecidableEq, Repr

/-- A connection type. `__post_init__` rejects a default driver that is not declared. -/
structure TypeSpec where
  name : String
  kind : String
  propertiesModel : ModelClass
  secretsModel : Option ModelClass
  publicModel : Option ModelClass
  /-- The name of the connector class, where the type has one. -/
  connectorFactory : Option String
  defaultDriver : Option String
  driverSpecs : List DriverSpec
  /-- The default driver is declared. -/
  default_supported : ∀ d, defaultDriver = some d → d ∈ driverSpecs.map DriverSpec.name

/-- `spec.supported_drivers`, which `__post_init__` reads off the driver specifications. -/
def TypeSpec.supportedDrivers (spec : TypeSpec) : List String := spec.driverSpecs.map DriverSpec.name

/-- `spec.public_model or spec.properties_model`. -/
def TypeSpec.publicOrPropertiesModel (spec : TypeSpec) : ModelClass :=
  spec.publicModel.getD spec.propertiesModel

/-- The models of the type raise no other exception than `ValidationError`. -/
structure TypeSpec.Quiet (spec : TypeSpec) : Prop where
  properties : spec.propertiesModel.Quiet
  publicProperties : spec.publicOrPropertiesModel.Quiet
  secrets : ∀ m, spec.secretsModel = some m → m.Quiet
  driverOptions : ∀ driverSpec ∈ spec.driverSpecs, driverSpec.optionsModel.Quiet
  publicOptions : ∀ driverSpec ∈ spec.driverSpecs, driverSpec.publicOptionsModel.Quiet

/-! ## Entities -/

/-- A value of `driver_options`: `dict[str, Any] | DriverOptionsBase | None`. -/
inductive DriverOptions where
  | none
  | raw (items : Dict Json)
  | model (v : Instance)
  deriving DecidableEq, Repr, Inhabited

/-- Decoded driver options as a value of the field. -/
def DriverOptions.ofOption : Option Instance → DriverOptions
  | .none => .none
  | .some v => .model v

/-- `ConnectionDraft`. -/
structure ConnectionDraft where
  name : Option String
  kind : String
  type : String
  driver : Option String
  driverOptions : DriverOptions
  properties : Option (Dict Json)
  secrets : Option (Dict Json)
  labels : Option (Dict String)
  metadata : Option (Dict Json)
  extra : Option (Dict Json)
  deriving DecidableEq, Repr, Inhabited

/-- A patch field: `PATCH_UNSET` or a value. -/
inductive PatchValue (α : Type) where
  | unset
  | set (value : α)
  deriving DecidableEq, Repr, Inhabited

/-- The patch's value where it is set, and the existing one where it is not. -/
def PatchValue.getD {α : Type} : PatchValue α → α → α
  | .unset, existing => existing
  | .set value, _ => value

/-- `field in patch_fields_set(patch)`. -/
def PatchValue.isSet {α : Type} : PatchValue α → Bool
  | .unset => false
  | .set _ => true

/-- What a function makes of the patch's value, where it is set. -/
def PatchValue.map {α β : Type} (f : α → β) : PatchValue α → PatchValue β
  | .unset => .unset
  | .set value => .set (f value)

@[simp] theorem PatchValue.getD_unset {α : Type} (a : α) : PatchValue.unset.getD a = a := rfl

@[simp] theorem PatchValue.getD_set {α : Type} (v a : α) : (PatchValue.set v).getD a = v := rfl

@[simp] theorem PatchValue.map_unset {α β : Type} (f : α → β) :
    PatchValue.unset.map f = .unset := rfl

@[simp] theorem PatchValue.map_set {α β : Type} (f : α → β) (v : α) :
    (PatchValue.set v).map f = .set (f v) := rfl

@[simp] theorem PatchValue.isSet_map {α β : Type} (f : α → β) (v : PatchValue α) :
    (v.map f).isSet = v.isSet := by
  cases v <;> rfl

/-- `ConnectionPatch`. -/
structure ConnectionPatch where
  name : PatchValue (Option String)
  driver : PatchValue (Option String)
  driverOptions : PatchValue DriverOptions
  properties : PatchValue (Option (Dict Json))
  secrets : PatchValue (Option (Dict Json))
  labels : PatchValue (Option (Dict String))
  metadata : PatchValue (Option (Dict Json))
  /-- Declared as a dictionary, but an update body can set it to any value. -/
  extra : PatchValue Json
  deriving DecidableEq, Repr

/-- The extra that the patch sets, `none` where `dict(extra)` raises. -/
def ConnectionPatch.extraDict (patch : ConnectionPatch) : PatchValue (Option (Dict Json)) :=
  patch.extra.map Json.dict?

/-- `ConnectionPatch()`, with no field set. -/
def ConnectionPatch.empty : ConnectionPatch :=
  ⟨.unset, .unset, .unset, .unset, .unset, .unset, .unset, .unset⟩

/-- `StoredConnectionIssue`. -/
structure StoredConnectionIssue where
  field : String
  code : String
  message : String
  details : Dict Json
  deriving DecidableEq, Repr, Inhabited

/-- `ConnectionRecord`, with its timestamps in microseconds. -/
structure ConnectionRecord where
  id : String
  name : String
  kind : String
  type : String
  driver : Option String
  driverOptions : Option Instance
  properties : Dict Json
  secrets : Dict Json
  labels : Dict String
  metadata : Dict Json
  extra : Dict Json
  createdAt : Nat
  updatedAt : Nat
  deletedAt : Option Nat
  readIssues : List StoredConnectionIssue
  rawProperties : Json
  rawDriverOptions : Json
  rawSecrets : Json
  deriving DecidableEq, Repr, Inhabited

/-- `record.has_read_issue(code, field_name=field)`. -/
def ConnectionRecord.hasReadIssue (record : ConnectionRecord) (code field : String) : Bool :=
  record.readIssues.any fun issue => issue.code == code && issue.field == field

/-- A record where a draft is expected: its envelope's fields. -/
def ConnectionRecord.toDraft (record : ConnectionRecord) : ConnectionDraft where
  name := some record.name
  kind := record.kind
  type := record.type
  driver := record.driver
  driverOptions := .ofOption record.driverOptions
  properties := some record.properties
  secrets := some record.secrets
  labels := some record.labels
  metadata := some record.metadata
  extra := some record.extra

/-- `ValidatedConnection`. -/
structure ValidatedConnection where
  name : Option String
  kind : String
  type : String
  driver : Option String
  driverOptions : Option Instance
  properties : Instance
  secrets : Option Instance
  labels : Dict String
  metadata : Dict Json
  extra : Dict Json
  deriving DecidableEq, Repr, Inhabited

/-- `ConnectionListQuery`. -/
structure ConnectionListQuery where
  kind : Option String
  type : Option String
  name : Option String
  includeDeleted : Bool
  /-- Declared as strings, which nothing checks. -/
  labelFilters : Dict Json
  metadataFilters : Dict Json
  extraFilters : Dict Json
  deriving DecidableEq, Repr, Inhabited

/-- `ConnectionListQuery()`. -/
def ConnectionListQuery.all : ConnectionListQuery := ⟨none, none, none, false, [], [], []⟩

end DbConnection
