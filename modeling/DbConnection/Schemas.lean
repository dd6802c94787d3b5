import DbConnection.Lib.PydanticFields
import DbConnection.Registry

/-!
# The schemas of the HTTP interface

The request and response models of `fastapi/schemas.py`, and the models that
`fastapi/schema_builders.py` generates from a registry: for each type, by name, one model for each
of its drivers, which narrows the fields of the base model to the type's own models. A schema is the
union of its models. Pydantic's reading of dates is a parameter. The names of generated models,
which only show in the texts of errors, are left out.
-/

namespace DbConnection

open PyData Pydantic

/-! ## Base models -/

/-- A field that defaults to an empty dictionary. -/
def Field.emptyDict (name : String) (type : FieldType) : Field := .of name type (some (.obj []))

/-- A model of `fastapi/schemas.py`, which keeps other keys. -/
def requestModel (qualname : String) (fields : List Field) : ModelDecl :=
  .ofFields [packageRef "fastapi.schemas" qualname, baseModelRef] fields .allow

/-- `ConnectionCreateRequest`. -/
def connectionCreateRequest : ModelDecl :=
  requestModel "ConnectionCreateRequest"
    [.required "name" .str, .required "kind" .str, .required "type" .str,
      .optional "driver" .str, .optional "driver_options" .dict, Field.emptyDict "properties" .dict,
      Field.emptyDict "secrets" .dict, Field.emptyDict "labels" .strDict,
      Field.emptyDict "metadata" .dict]

/-- `ConnectionUpdateRequest`. -/
def connectionUpdateRequest : ModelDecl :=
  requestModel "ConnectionUpdateRequest"
    [.optional "name" .str, .optional "driver" .str, .optional "driver_options" .dict,
      .optional "properties" .dict, .optional "secrets" .dict, .optional "labels" .strDict,
      .optional "metadata" .dict]

/-- `ConnectionReadResponse`. -/
def connectionReadResponse (parseDatetime : Json → Option Nat) : ModelDecl :=
  requestModel "ConnectionReadResponse"
    [.required "id" .str, .required "name" .str, .required "kind" .str, .required "type" .str,
      .optional "driver" .str, .optional "driver_options" .dict, Field.emptyDict "properties" .dict,
      Field.emptyDict "labels" .strDict, Field.emptyDict "metadata" .dict,
      .required "created_at" (.datetime parseDatetime),
      .required "updated_at" (.datetime parseDatetime),
      .optional "deleted_at" (.datetime parseDatetime)]

/-- `ConnectionIssueResponse`, which ignores other keys. -/
def connectionIssueResponse : ModelDecl :=
  .ofFields [packageRef "fastapi.schemas" "ConnectionIssueResponse", baseModelRef]
    [.required "field" .str, .required "code" .str, .required "message" .str,
      Field.emptyDict "details" .dict] .ignore

/-- `BrokenConnectionReadResponse`. -/
def brokenConnectionReadResponse (parseDatetime : Json → Option Nat) : ModelDecl :=
  requestModel "BrokenConnectionReadResponse"
    [.of "state" (.literal "invalid") (some (.str "invalid")),
      .required "id" .str, .required "name" .str, .required "kind" .str, .required "type" .str,
      .optional "driver" .str, Field.emptyDict "labels" .strDict, Field.emptyDict "metadata" .dict,
      .required "created_at" (.datetime parseDatetime),
      .required "updated_at" (.datetime parseDatetime),
      .optional "deleted_at" (.datetime parseDatetime),
      .of "issues" (.list (.model (.ofDecl connectionIssueResponse))) (some (.arr [])),
      .optional "raw_properties" .any, .optional "raw_driver_options" .any,
      .optional "raw_secrets" .any]

/-! ## Generated models -/

/-- `create_model` with `__base__`: a field given stands in the place of the base's field of its
name and keeps that field's validators, or after the base's fields. -/
def createModel (base : ModelDecl) (fields : List Field) : ModelDecl :=
  { base with
    fields := base.fields.map (fun old =>
        match fields.find? fun field => field.name == old.name with
        | some field => { field with before := old.before, after := old.after }
        | none => old) ++
      fields.filter fun field => !base.fields.any fun old => old.name == field.name }

/-- A field's type and default. -/
abbrev FieldInfo := FieldType × Option Json

/-- The field of a name with the type and default given. -/
def FieldInfo.named (info : FieldInfo) (name : String) : Field := .of name info.1 info.2

/-- The fields of a driver variant. -/
structure DriverVariant where
  driverField : FieldInfo
  driverOptionsField : FieldInfo

/-- `_build_driver_options_field`. -/
def buildDriverOptionsField (driverSpec : DriverSpec) (isRequired isPublic : Bool) : FieldInfo :=
  let model := if isPublic then driverSpec.publicOptionsModel
    else driverSpec.optionsModel.toModelClass
  -- A driver without options has a field that may be left out.
  if model.ref = noDriverOptionsRef then
    (.nullable (.model noDriverOptions.toModelClass), some .null)
  else if isRequired then (.model model, none)
  else (.nullable (.model model), some .null)

/-- The variant of one driver of a type. -/
def driverVariant (spec : TypeSpec) (isPublic : Bool) (driverSpec : DriverSpec) : DriverVariant :=
  let isDefaultDriver := decide (spec.defaultDriver = some driverSpec.name)
  -- The default driver may be left out, and `None` stands for it.
  { driverField :=
      if isDefaultDriver then (.nullable (.literal driverSpec.name), some .null)
      else (.literal driverSpec.name, none)
    driverOptionsField := buildDriverOptionsField driverSpec
      (isDefaultDriver || !driverSpec.optionsModel.isNoDriverOptions) isPublic }

/-- The variant of a type without drivers. -/
def noDriverVariant : DriverVariant := ⟨(.noneType, some .null), (.noneType, some .null)⟩

/-- `_build_driver_variants`. -/
def buildDriverVariants (spec : TypeSpec) (isPublic : Bool) : List DriverVariant :=
  -- A type without drivers has one variant, whose fields only take `None`.
  if spec.driverSpecs = [] then [noDriverVariant]
  else spec.driverSpecs.map (driverVariant spec isPublic)

/-- `_resolve_secrets_annotation`. -/
def resolveSecretsAnnotation : Option ModelClass → FieldType
  | none => .dict
  | some m => .model m

/-- `annotation | None`. -/
def orNone : FieldType → FieldType
  | .noneType => .noneType
  | .nullable type => .nullable type
  | type => .nullable type

/-- A model for each driver variant of each registered type, with the fields given. -/
def typedModels (registry : ConnectionRegistry) (base : ModelDecl) (isPublic : Bool)
    (fields : TypeSpec → DriverVariant → List Field) : List (TypeSpec × ModelDecl) :=
  registry.listTypes.flatMap fun spec =>
    (buildDriverVariants spec isPublic).map fun variant =>
      (spec, createModel base (fields spec variant))

/-- The fields of a create model. -/
def createFields (spec : TypeSpec) (variant : DriverVariant) : List Field :=
  [.required "kind" (.literal spec.kind), .required "type" (.literal spec.name),
    variant.driverField.named "driver", variant.driverOptionsField.named "driver_options",
    .required "properties" (.model spec.propertiesModel),
    Field.emptyDict "secrets" <| resolveSecretsAnnotation spec.secretsModel]

/-- `_build_typed_create_models`, each with its type. -/
def buildTypedCreateModels (registry : ConnectionRegistry) (base : ModelDecl) :
    List (TypeSpec × ModelDecl) :=
  typedModels registry base false createFields

/-- The fields of an update model. -/
def updateFields (spec : TypeSpec) (variant : DriverVariant) : List Field :=
  -- No kind and no type: nothing in an update body says which type's model is to read it.
  [variant.driverField.named "driver",
    .of "driver_options" (orNone variant.driverOptionsField.1) (some .null),
    .optional "properties" (.model spec.propertiesModel),
    .optional "secrets" <| resolveSecretsAnnotation spec.secretsModel]

/-- `_build_typed_update_models`, each with its type. -/
def buildTypedUpdateModels (registry : ConnectionRegistry) (base : ModelDecl) :
    List (TypeSpec × ModelDecl) :=
  typedModels registry base false updateFields

/-- The fields of a read model. -/
def readFieldsOf (spec : TypeSpec) (variant : DriverVariant) : List Field :=
  [.required "kind" (.literal spec.kind), .required "type" (.literal spec.name),
    variant.driverField.named "driver", variant.driverOptionsField.named "driver_options",
    .required "properties" (.model spec.publicOrPropertiesModel)]

/-- `_build_typed_read_models`, each with its type. -/
def buildTypedReadModels (registry : ConnectionRegistry) (base : ModelDecl) :
    List (TypeSpec × ModelDecl) :=
  typedModels registry base true readFieldsOf

/-- The members of `_build_union`: the models, or the fallback if there are none. -/
def buildUnion (models : List ModelDecl) (fallback : ModelDecl) : List ModelDecl :=
  if models = [] then [fallback] else models

/-- `build_connection_create_model`. -/
def buildConnectionCreateModel (registry : ConnectionRegistry) (base : ModelDecl) :
    List ModelDecl :=
  buildUnion ((buildTypedCreateModels registry base).map Prod.snd) connectionCreateRequest

/-- `build_connection_update_model`. -/
def buildConnectionUpdateModel (registry : ConnectionRegistry) (base : ModelDecl) :
    List ModelDecl :=
  buildUnion ((buildTypedUpdateModels registry base).map Prod.snd) connectionUpdateRequest

/-- `build_connection_read_model`. -/
def buildConnectionReadModel (registry : ConnectionRegistry) (parseDatetime : Json → Option Nat)
    (base : ModelDecl) : List ModelDecl :=
  buildUnion ((buildTypedReadModels registry base).map Prod.snd)
    (connectionReadResponse parseDatetime)

/-- The reading of a request body by a schema. -/
def readBody (schema : List ModelDecl) (body : Json) : Except ModelError Parsed :=
  unionOf "body" (schema.map fun model => model.parse body)

/-- The reading of a dictionary of Python values by a schema. -/
def readInputs (schema : List ModelDecl) (data : Dict FieldInput) :
    Except ModelError Parsed :=
  unionOf "response" (schema.map fun model => model.parseInputs data)

/-! ## What schemas keep -/

/-- The request models keep the keys of their payloads. -/
theorem keepsKeys_requestModel {qualname : String} {fields : List Field}
    (h : ∀ field ∈ fields, field.validationAlias = none) :
    (requestModel qualname fields).KeepsKeys :=
  ⟨rfl, h, fun _ => rfl⟩

/-- `ConnectionUpdateRequest` keeps the keys of its payloads. -/
theorem keepsKeys_connectionUpdateRequest : connectionUpdateRequest.KeepsKeys :=
  keepsKeys_requestModel (by simp [Field.optional, Field.of])

/-- A generated model keeps the keys of its payloads if its base does. -/
theorem keepsKeys_createModel {base : ModelDecl} (h : base.KeepsKeys) {fields : List Field}
    (hfields : ∀ field ∈ fields, field.validationAlias = none) :
    (createModel base fields).KeepsKeys := by
  refine ⟨h.extra, fun field hf => ?_, h.noPost⟩
  rcases List.mem_append.mp hf with hf | hf
  · obtain ⟨old, hold, rfl⟩ := List.mem_map.mp hf
    split
    · rename_i found hfound
      exact hfields found (List.mem_of_find?_eq_some hfound)
    · exact h.noAlias old hold
  · exact hfields field (List.mem_of_mem_filter hf)

/-- The models generated for the registered types. -/
theorem mem_typedModels_iff {registry : ConnectionRegistry} {base : ModelDecl} {isPublic : Bool}
    {fields : TypeSpec → DriverVariant → List Field} {spec : TypeSpec} {model : ModelDecl} :
    (spec, model) ∈ typedModels registry base isPublic fields ↔
      spec ∈ registry.listTypes ∧ ∃ variant ∈ buildDriverVariants spec isPublic,
        model = createModel base (fields spec variant) := by
  unfold typedModels
  simp only [List.mem_flatMap, List.mem_map, Prod.mk.injEq]
  constructor
  · rintro ⟨other, hother, variant, hvariant, rfl, rfl⟩
    exact ⟨hother, variant, hvariant, rfl⟩
  · rintro ⟨hspec, variant, hvariant, rfl⟩
    exact ⟨spec, hspec, variant, hvariant, rfl, rfl⟩

/-- A type has a driver variant. -/
theorem exists_mem_buildDriverVariants (spec : TypeSpec) (isPublic : Bool) :
    ∃ variant, variant ∈ buildDriverVariants spec isPublic := by
  refine List.exists_mem_of_ne_nil _ ?_
  unfold buildDriverVariants
  split
  · simp
  · simpa using ‹_›

/-- A schema of a registry with a type is the union of its generated models. -/
theorem buildUnion_typedModels {registry : ConnectionRegistry} {spec : TypeSpec}
    (h : (spec.name, spec) ∈ registry.types) (base fallback : ModelDecl) (isPublic : Bool)
    (fields : TypeSpec → DriverVariant → List Field) :
    buildUnion ((typedModels registry base isPublic fields).map Prod.snd) fallback =
      (typedModels registry base isPublic fields).map Prod.snd := by
  obtain ⟨variant, hvariant⟩ := exists_mem_buildDriverVariants spec isPublic
  have hmem : (spec, createModel base (fields spec variant)) ∈
      typedModels registry base isPublic fields :=
    mem_typedModels_iff.mpr ⟨ConnectionRegistry.mem_listTypes.mpr h, variant, hvariant, rfl⟩
  exact if_neg (List.ne_nil_of_mem (List.mem_map_of_mem hmem))

/-- The models of the update schema keep the keys of their payloads if the base model does. -/
theorem keepsKeys_buildConnectionUpdateModel (registry : ConnectionRegistry) {base : ModelDecl}
    (h : base.KeepsKeys) :
    ∀ model ∈ buildConnectionUpdateModel registry base, model.KeepsKeys := by
  intro model hmodel
  unfold buildConnectionUpdateModel buildUnion at hmodel
  split at hmodel
  · rw [List.mem_singleton.mp hmodel]
    exact keepsKeys_connectionUpdateRequest
  · obtain ⟨⟨spec, m⟩, hmem, rfl⟩ := List.mem_map.mp hmodel
    obtain ⟨-, variant, -, rfl⟩ := mem_typedModels_iff.mp hmem
    exact keepsKeys_createModel h (by simp [updateFields, FieldInfo.named, Field.optional, Field.of])

/-- A body that a schema accepts was read by one of its models. -/
theorem exists_model_of_readBody {schema : List ModelDecl} {items : Dict Json} {p : Parsed}
    (h : readBody schema (.obj items) = .ok p) :
    ∃ model ∈ schema, model.parseInputs (toFieldInputs items) = .ok p := by
  obtain ⟨-, hread⟩ := unionOf_eq_ok_iff.mp h
  obtain ⟨hmem, -⟩ := smartUnion_spec hread
  obtain ⟨reading, hmem, hok⟩ := List.mem_filterMap.mp hmem
  obtain ⟨model, hmodel, rfl⟩ := List.mem_map.mp hmem
  refine ⟨model, hmodel, ?_⟩
  have hparse : model.parse (.obj items) = model.parseInputs (toFieldInputs items) := rfl
  rw [hparse] at hok
  exact toOption_eq_some_iff.mp hok

end DbConnection
