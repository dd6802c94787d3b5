import DbConnection.Mapper
import DbConnection.ReadBack

/-!
# Creates that fail after their commit

`POST` commits the new connection and then computes the response from the record. The response
puts the extension fields of the request over the fields of the view, so an extension field named
`id` or after a timestamp can make the read schema refuse the response of a connection that is
already stored. `createConnection_failsCleanly_iff` says that a failed request stores nothing
exactly when every draft that can be stored is `Shown`: the models read the dump of its properties,
some driver variant of the response takes the driver and its options, no model of the response
raises another exception on them, and the extension fields fit the fields of the response that they
replace.
-/

namespace DbConnection

open PyData Pydantic ReadCommitted

/-- The value fits a field of the type. -/
def FieldInfo.Takes (info : FieldInfo) (value : Json) : Prop := ∃ r, info.1.readJson value = .ok r

/-- The extension fields that replace a field of the response fit it. -/
structure ReservedFits (parseDatetime : Json → Option Nat) (extra : Dict Json) : Prop where
  id : ∀ value, extra.lookup "id" = some value → ∃ s, value = .str s
  createdAt : ∀ value, extra.lookup "created_at" = some value → ∃ t, parseDatetime value = some t
  updatedAt : ∀ value, extra.lookup "updated_at" = some value → ∃ t, parseDatetime value = some t
  deletedAt : ∀ value, extra.lookup "deleted_at" = some value →
    value = .null ∨ ∃ t, parseDatetime value = some t

/-- Driver options as a response has them. -/
def optionsData (options : Option Instance) : Json :=
  (options.map fun v => Json.obj v.dump).getD .null

/-- The driver options that the column of stored ones gives back. -/
def storedDriverOptions (importer : Importer) (options : Option Instance) : Option Instance :=
  match processBindParam (.ofOption options) with
  | .ok json => (decodeDriverOptions importer json).value
  | .error _ => none

/-- No public model of the type raises another exception on what a response shows. -/
structure TypeSpec.ShowsQuietly (spec : TypeSpec) (properties : Instance)
    (options : Option Instance) : Prop where
  properties : ∀ exc, spec.publicOrPropertiesModel.parse (.obj properties.dump) ≠
    .error (.raised exc)
  driverOptions : ∀ variant ∈ buildDriverVariants spec true, ∀ exc,
    variant.driverOptionsField.1.readJson (optionsData options) ≠ .error (.raised exc)

/-- A draft of the type, validated as `v`, is shown by a response. -/
structure Shown (registry : ConnectionRegistry) (importer : Importer)
    (parseDatetime : Json → Option Nat) (spec : TypeSpec) (draft : ConnectionDraft)
    (v : ValidatedConnection) : Prop where
  /-- The properties model reads its dump, and the public model what it then made and its own
  dump. -/
  properties : ∃ p q, publicProperties spec v.properties.dumpJson = .ok p ∧
    spec.publicOrPropertiesModel.validate (.obj p.dump) = .ok q
  /-- The stored options have a public form, which some driver variant takes with the driver. -/
  driverOptions : ∃ o, buildPublicDriverOptions spec draft.type (effectiveDriver spec draft.driver)
      (.ofOption (storedDriverOptions importer v.driverOptions)) = .ok o ∧
    ∃ variant ∈ buildDriverVariants spec true,
      variant.driverField.Takes (Json.ofStr? draft.driver) ∧
        variant.driverOptionsField.Takes (optionsData o)
  /-- A response is tried by the models of every registered type. -/
  quiet : ∀ p o, publicProperties spec v.properties.dumpJson = .ok p →
    buildPublicDriverOptions spec draft.type (effectiveDriver spec draft.driver)
      (.ofOption (storedDriverOptions importer v.driverOptions)) = .ok o →
    ∀ other ∈ registry.listTypes, other.ShowsQuietly p o
  reserved : ReservedFits parseDatetime v.extra

section Response

variable {parseDatetime : Json → Option Nat} {spec : TypeSpec} {variant : DriverVariant}
  {view : PublicConnectionView}

/-- The fields of a read model. -/
theorem fields_readModel (parseDatetime : Json → Option Nat) (spec : TypeSpec)
    (variant : DriverVariant) :
    (createModel (connectionReadResponse parseDatetime) (readFieldsOf spec variant)).fields =
      [.required "id" .str, .required "name" .str, .required "kind" (.literal spec.kind),
        .required "type" (.literal spec.name), variant.driverField.named "driver",
        variant.driverOptionsField.named "driver_options",
        .required "properties" (.model spec.publicOrPropertiesModel),
        Field.emptyDict "labels" .strDict, Field.emptyDict "metadata" .dict,
        .required "created_at" (.datetime parseDatetime),
        .required "updated_at" (.datetime parseDatetime),
        .optional "deleted_at" (.datetime parseDatetime)] := by
  rfl

/-- A read model keeps the keys of its data. -/
theorem keepsKeys_readModel (parseDatetime : Json → Option Nat) (spec : TypeSpec)
    (variant : DriverVariant) :
    (createModel (connectionReadResponse parseDatetime) (readFieldsOf spec variant)).KeepsKeys :=
  keepsKeys_createModel
    (keepsKeys_requestModel (by simp [Field.required, Field.optional, Field.emptyDict, Field.of]))
    (by simp [readFieldsOf, FieldInfo.named, Field.required, Field.of])

/-- The fields of a read model have no validators. -/
theorem noValidators_readModel (parseDatetime : Json → Option Nat) (spec : TypeSpec)
    (variant : DriverVariant) :
    ∀ field ∈ (createModel (connectionReadResponse parseDatetime)
      (readFieldsOf spec variant)).fields, field.NoValidators := by
  rw [fields_readModel]
  simp only [List.forall_mem_cons, List.not_mem_nil, false_imp_iff, implies_true, and_true]
  refine ⟨?_, ?_, ?_, ?_, ?_, ?_, ?_, ?_, ?_, ?_, ?_, ?_⟩ <;>
    exact ⟨fun _ => rfl, fun _ _ => rfl⟩

/-- What the data of a response has under a key. -/
theorem lookup_responseData (view : PublicConnectionView) (key : String) :
    (responseData view).lookup key =
      ((view.extra.lookup key).map FieldInput.json).or ((viewData view).lookup key) := by
  unfold responseData
  rw [Dict.lookup_update, lookup_toFieldInputs]

/-- A field accepts the data exactly when its type reads what the data has under its name. -/
theorem accepts_iff {name : String} {type : FieldType} {default : Option Json}
    {data : Dict FieldInput} {input : FieldInput} (h : data.lookup name = some input) :
    (Field.of name type default).Accepts data ↔ ∃ r, type.read input = .ok r := by
  unfold Field.Accepts
  have hl : (Field.of name type default).lookup data = some input := by
    rw [Field.lookup_of_noAlias rfl]
    exact h
  rw [hl]
  rfl

/-- A field that an extension field can replace accepts the data exactly when it accepts the
extension field, where its own value fits. -/
theorem accepts_reserved_iff {name : String} {type : FieldType} {default : Option Json}
    (own : FieldInput) (hown : (viewData view).lookup name = some own)
    (hfits : ∃ r, type.read own = .ok r) :
    (Field.of name type default).Accepts (responseData view) ↔
      ∀ value, view.extra.lookup name = some value → ∃ r, type.readJson value = .ok r := by
  have hl := lookup_responseData view name
  cases he : view.extra.lookup name with
  | none =>
    rw [he, hown] at hl
    rw [accepts_iff hl]
    simp [hfits]
  | some value =>
    rw [he] at hl
    rw [accepts_iff hl]
    simp [FieldType.read]

/-- A literal field takes its string only. -/
theorem readJson_literal_iff {s t : String} :
    (∃ r, (FieldType.literal s).readJson (.str t) = .ok r) ↔ t = s := by
  unfold FieldType.readJson
  by_cases h : t = s
  · simp [h]
  · simp [h]

/-- A string field takes strings. -/
theorem readJson_str_iff {value : Json} :
    (∃ r, FieldType.str.readJson value = .ok r) ↔ ∃ s, value = .str s := by
  cases value <;> simp [FieldType.readJson]

/-- A field of dates takes what is read as a date. -/
theorem readJson_datetime_iff {value : Json} :
    (∃ r, (FieldType.datetime parseDatetime).readJson value = .ok r) ↔
      ∃ t, parseDatetime value = some t := by
  unfold FieldType.readJson
  cases parseDatetime value <;> simp

/-- A nullable field of dates takes `None` too. -/
theorem readJson_nullable_datetime_iff {value : Json} :
    (∃ r, (FieldType.nullable (.datetime parseDatetime)).readJson value = .ok r) ↔
      value = .null ∨ ∃ t, parseDatetime value = some t := by
  rw [← readJson_datetime_iff]
  cases value <;> simp [FieldType.readJson]

/-- A field of a list takes a list whose items its type takes. -/
theorem readJson_list_iff {item : FieldType} {values : List Json} :
    (∃ r, (FieldType.list item).readJson (.arr values) = .ok r) ↔
      ∀ value ∈ values, ∃ r, item.readJson value = .ok r := by
  rw [FieldType.readJson_list]
  constructor
  · rintro ⟨r, hr⟩
    rw [← exists_mapM_iff]
    split at hr
    · cases hr
    · cases hm : values.mapM fun value => item.readJson value with
      | error e => simp [hm, Except.map] at hr
      | ok items => exact ⟨items, rfl⟩
  · intro hall
    -- Items that are read raise nothing.
    have hnone : firstRaised FieldError.raised? (values.map fun value => item.readJson value) =
        none := by
      unfold firstRaised
      rw [List.findSome?_eq_none_iff]
      intro reading hreading
      obtain ⟨value, hvalue, rfl⟩ := List.mem_map.mp hreading
      obtain ⟨r, hr⟩ := hall value hvalue
      rw [hr]
    obtain ⟨items, hitems⟩ := exists_mapM_iff.mpr hall
    rw [hnone, hitems]
    exact ⟨_, rfl⟩

/-- A field of a model takes what the model accepts. -/
theorem readJson_model_iff {m : ModelClass} {value : Json} :
    (∃ r, (FieldType.model m).readJson value = .ok r) ↔ ∃ v, m.validate value = .ok v := by
  simp only [FieldType.readJson, ModelClass.validate]
  cases m.parse value with
  | ok r => simp
  | error e => cases e <;> simp

/-- A read model accepts the data of a response exactly when it is the type's, the driver variant
takes the driver and the options, the public model reads its own dump, and the extension fields
fit. -/
theorem exists_parseInputs_readModel_iff
    (hextra : ∀ key ∈ draftFields, view.extra.lookup key = none) :
    (∃ p, (createModel (connectionReadResponse parseDatetime)
        (readFieldsOf spec variant)).parseInputs (responseData view) = .ok p) ↔
      view.kind = spec.kind ∧ view.type = spec.name ∧
        variant.driverField.Takes (Json.ofStr? view.driver) ∧
        variant.driverOptionsField.Takes (optionsData view.driverOptions) ∧
        (∃ q, spec.publicOrPropertiesModel.validate (.obj view.properties.dump) = .ok q) ∧
        ReservedFits parseDatetime view.extra := by
  rw [(keepsKeys_readModel parseDatetime spec variant).exists_parseInputs_iff
    (noValidators_readModel parseDatetime spec variant), fields_readModel]
  simp only [List.forall_mem_cons, List.not_mem_nil, false_imp_iff, implies_true, and_true]
  -- The fields of the draft are those of the view.
  have hlookup : ∀ key ∈ draftFields, (responseData view).lookup key =
      (viewData view).lookup key := by
    intro key hkey
    rw [lookup_responseData, hextra key hkey]
    rfl
  have hname : (Field.required "name" .str).Accepts (responseData view) :=
    (accepts_iff (hlookup "name" (by decide))).mpr ⟨_, rfl⟩
  have hkind : (Field.required "kind" (.literal spec.kind)).Accepts (responseData view) ↔
      view.kind = spec.kind :=
     (accepts_iff (hlookup "kind" (by decide))).trans readJson_literal_iff
  have htype : (Field.required "type" (.literal spec.name)).Accepts (responseData view) ↔
      view.type = spec.name :=
     (accepts_iff (hlookup "type" (by decide))).trans readJson_literal_iff
  have hdriver : (variant.driverField.named "driver").Accepts (responseData view) ↔
      variant.driverField.Takes (Json.ofStr? view.driver) :=
    accepts_iff (hlookup "driver" (by decide))
  have hoptions : (variant.driverOptionsField.named "driver_options").Accepts (responseData view) ↔
      variant.driverOptionsField.Takes (optionsData view.driverOptions) :=
    accepts_iff (hlookup "driver_options" (by decide))
  have hproperties : (Field.required "properties" (.model spec.publicOrPropertiesModel)).Accepts
      (responseData view) ↔
        ∃ q, spec.publicOrPropertiesModel.validate (.obj view.properties.dump) = .ok q :=
    (accepts_iff (hlookup "properties" (by decide))).trans readJson_model_iff
  have hlabels : (Field.emptyDict "labels" .strDict).Accepts (responseData view) := by
    refine (accepts_iff (hlookup "labels" (by decide))).mpr ?_
    simp [FieldType.read, FieldType.readJson, Json.ofStrDict, Json.str?]
  have hmetadata : (Field.emptyDict "metadata" .dict).Accepts (responseData view) :=
    (accepts_iff (hlookup "metadata" (by decide))).mpr ⟨_, rfl⟩
  -- The other fields are the view's or an extension field's.
  have hid : (Field.required "id" .str).Accepts (responseData view) ↔
      ∀ value, view.extra.lookup "id" = some value → ∃ s, value = .str s := by
    refine (accepts_reserved_iff (.json (.str view.id)) rfl ⟨_, rfl⟩).trans ?_
    simp only [readJson_str_iff]
  have hcreated : (Field.required "created_at" (.datetime parseDatetime)).Accepts
      (responseData view) ↔
        ∀ value, view.extra.lookup "created_at" = some value →
          ∃ t, parseDatetime value = some t := by
    refine (accepts_reserved_iff (.datetime view.createdAt) rfl ⟨_, rfl⟩).trans ?_
    simp only [readJson_datetime_iff]
  have hupdated : (Field.required "updated_at" (.datetime parseDatetime)).Accepts
      (responseData view) ↔
        ∀ value, view.extra.lookup "updated_at" = some value →
          ∃ t, parseDatetime value = some t := by
    refine (accepts_reserved_iff (.datetime view.updatedAt) rfl ⟨_, rfl⟩).trans ?_
    simp only [readJson_datetime_iff]
  have hdeleted : (Field.optional "deleted_at" (.datetime parseDatetime)).Accepts
      (responseData view) ↔
        ∀ value, view.extra.lookup "deleted_at" = some value →
          value = .null ∨ ∃ t, parseDatetime value = some t := by
    refine (accepts_reserved_iff ((view.deletedAt.map FieldInput.datetime).getD (.json .null))
      rfl ?_).trans ?_
    · cases view.deletedAt <;> exact ⟨_, rfl⟩
    · simp only [readJson_nullable_datetime_iff]
  rw [hkind, htype, hdriver, hoptions, hproperties, hid, hcreated, hupdated, hdeleted]
  constructor
  · rintro ⟨h1, -, h3, h4, h5, h6, h7, -, -, h8, h9, h10⟩
    exact ⟨h3, h4, h5, h6, h7, h1, h8, h9, h10⟩
  · rintro ⟨h3, h4, h5, h6, h7, h1, h8, h9, h10⟩
    exact ⟨h1, hname, h3, h4, h5, h6, h7, hlabels, hmetadata, h8, h9, h10⟩

/-- A field without validators raises what its type raises on what the data has under its name. -/
theorem raises_iff {name : String} {type : FieldType} {default : Option Json}
    {data : Dict FieldInput} :
    (Field.of name type default).Raises data ↔
      ∃ input exc, data.lookup name = some input ∧ type.read input = .error (.raised exc) := by
  have hread := Field.NoValidators.readInput
    (⟨fun _ => rfl, fun _ _ => rfl⟩ : (Field.of name type default).NoValidators)
  unfold Field.Raises
  rw [Field.lookup_of_noAlias rfl]
  simp only [hread]
  constructor
  · rintro ⟨input, -, exc, h⟩
    exact ⟨input, exc, h⟩
  · rintro ⟨input, exc, h⟩
    exact ⟨input, [], exc, h⟩

/-- A date raises no other exception. -/
theorem readDatetime_ne_raised (type : FieldType) (t : Nat) (exc : RaisedException) :
    type.readDatetime t ≠ .error (.raised exc) := by
  induction type with
  | nullable type ih => exact ih
  | _ => simp [FieldType.readDatetime, FieldError.valueError]

/-- A field whose type raises no other exception on plain data raises none. -/
theorem not_raises {name : String} {type : FieldType} {default : Option Json}
    {data : Dict FieldInput} (h : ∀ value exc, type.readJson value ≠ .error (.raised exc)) :
    ¬ (Field.of name type default).Raises data := by
  rw [raises_iff]
  rintro ⟨input, exc, -, hr⟩
  cases input with
  | json value => exact h value exc hr
  | datetime t => exact readDatetime_ne_raised type t exc hr

/-- A field that plain data is given for raises what its type raises on it. -/
theorem raises_json_iff {name : String} {type : FieldType} {default : Option Json}
    {data : Dict FieldInput} {value : Json} (h : data.lookup name = some (.json value)) :
    (Field.of name type default).Raises data ↔
      ∃ exc, type.readJson value = .error (.raised exc) := by
  rw [raises_iff, h]
  constructor
  · rintro ⟨input, exc, hinput, hr⟩
    cases hinput
    exact ⟨exc, hr⟩
  · rintro ⟨exc, hr⟩
    exact ⟨_, exc, rfl, hr⟩

/-- The driver field of a variant raises no other exception. -/
theorem driverField_ne_raised {isPublic : Bool} (h : variant ∈ buildDriverVariants spec isPublic)
    (value : Json) (exc : RaisedException) :
    variant.driverField.1.readJson value ≠ .error (.raised exc) := by
  have hplain : variant.driverField.1.isPlain = true := by
    unfold buildDriverVariants at h
    split at h
    · rw [List.mem_singleton] at h
      subst h
      rfl
    · obtain ⟨driverSpec, -, rfl⟩ := List.mem_map.mp h
      unfold driverVariant
      dsimp only
      split <;> rfl
  exact FieldType.readJson_ne_raised hplain value exc

/-- A type has a driver variant, with drivers or without. -/
theorem buildDriverVariants_ne_nil (spec : TypeSpec) (isPublic : Bool) :
    buildDriverVariants spec isPublic ≠ [] := by
  unfold buildDriverVariants
  split
  · simp
  · rename_i hdrivers
    simpa using hdrivers

/-- A read model raises another exception on the data of a response exactly when the driver options
of its variant or its public model do. -/
theorem readModel_raises_iff (parseDatetime : Json → Option Nat)
    (hvariant : variant ∈ buildDriverVariants spec true)
    (hextra : ∀ key ∈ draftFields, view.extra.lookup key = none) :
    (∃ exc, (createModel (connectionReadResponse parseDatetime)
        (readFieldsOf spec variant)).parseInputs (responseData view) = .error (.raised exc)) ↔
      (∃ exc, variant.driverOptionsField.1.readJson (optionsData view.driverOptions) =
          .error (.raised exc)) ∨
        ∃ exc, spec.publicOrPropertiesModel.parse (.obj view.properties.dump) =
          .error (.raised exc) := by
  rw [(keepsKeys_readModel parseDatetime spec variant).raises_iff
    (noValidators_readModel parseDatetime spec variant), fields_readModel]
  have hlookup : ∀ key ∈ draftFields, (responseData view).lookup key =
      (viewData view).lookup key := by
    intro key hkey
    rw [lookup_responseData, hextra key hkey]
    rfl
  have hdate : ∀ value exc, (FieldType.datetime parseDatetime).readJson value ≠
      .error (.raised exc) := by
    intro value exc h
    unfold FieldType.readJson at h
    split at h <;> cases h
  have hdate? : ∀ value exc, (FieldType.nullable (.datetime parseDatetime)).readJson value ≠
      .error (.raised exc) := by
    intro value exc h
    cases value with
    | null => cases h
    | _ => exact hdate _ exc h
  have hplain : ∀ {type : FieldType}, type.isPlain = true → ∀ {name default},
      ¬ (Field.of name type default).Raises (responseData view) :=
    fun hp => not_raises (FieldType.readJson_ne_raised hp)
  have hoptions : (variant.driverOptionsField.named "driver_options").Raises (responseData view) ↔
      ∃ exc, variant.driverOptionsField.1.readJson (optionsData view.driverOptions) =
        .error (.raised exc) :=
    raises_json_iff (hlookup "driver_options" (by decide))
  have hproperties : (Field.required "properties" (.model spec.publicOrPropertiesModel)).Raises
      (responseData view) ↔ ∃ exc, spec.publicOrPropertiesModel.parse (.obj view.properties.dump) =
        .error (.raised exc) := by
    refine (raises_json_iff (hlookup "properties" (by decide))).trans ?_
    simp only [FieldType.readJson_model_raised_iff]
  -- Only those two fields hold models.
  constructor
  · rintro ⟨field, hmem, hr⟩
    simp only [List.mem_cons, List.not_mem_nil, or_false] at hmem
    rcases hmem with rfl | rfl | rfl | rfl | rfl | rfl | rfl | rfl | rfl | rfl | rfl | rfl
    · exact absurd hr (hplain rfl)
    · exact absurd hr (hplain rfl)
    · exact absurd hr (hplain rfl)
    · exact absurd hr (hplain rfl)
    · exact absurd hr (not_raises (driverField_ne_raised hvariant))
    · exact Or.inl (hoptions.mp hr)
    · exact Or.inr (hproperties.mp hr)
    · exact absurd hr (hplain rfl)
    · exact absurd hr (hplain rfl)
    · exact absurd hr (not_raises hdate)
    · exact absurd hr (not_raises hdate)
    · exact absurd hr (not_raises hdate?)
  · rintro (ho | hp)
    · exact ⟨_, by simp, hoptions.mpr ho⟩
    · exact ⟨_, by simp, hproperties.mpr hp⟩

/-- No read model of a type raises another exception on the data of a response exactly when the
type's models raise none on what the view shows. -/
theorem showsQuietly_iff (parseDatetime : Json → Option Nat)
    (hextra : ∀ key ∈ draftFields, view.extra.lookup key = none) :
    (∀ variant ∈ buildDriverVariants spec true, ∀ exc,
      (createModel (connectionReadResponse parseDatetime)
        (readFieldsOf spec variant)).parseInputs (responseData view) ≠ .error (.raised exc)) ↔
      spec.ShowsQuietly view.properties view.driverOptions := by
  constructor
  · intro h
    have hquiet : ∀ variant ∈ buildDriverVariants spec true, ¬ ((∃ exc,
        variant.driverOptionsField.1.readJson (optionsData view.driverOptions) =
          .error (.raised exc)) ∨ ∃ exc, spec.publicOrPropertiesModel.parse
            (.obj view.properties.dump) = .error (.raised exc)) := by
      intro variant hvariant hr
      rw [← readModel_raises_iff parseDatetime hvariant hextra] at hr
      obtain ⟨exc, hr⟩ := hr
      exact h variant hvariant exc hr
    obtain ⟨variant, hvariant⟩ := List.exists_mem_of_ne_nil _ (buildDriverVariants_ne_nil spec true)
    exact
      { properties := fun exc hr => hquiet variant hvariant (Or.inr ⟨exc, hr⟩)
        driverOptions := fun variant hvariant exc hr =>
          hquiet variant hvariant (Or.inl ⟨exc, hr⟩) }
  · intro h variant hvariant exc hr
    rcases (readModel_raises_iff parseDatetime hvariant hextra).mp ⟨exc, hr⟩ with ⟨exc, ho⟩ | ⟨exc, hp⟩
    · exact h.driverOptions variant hvariant exc ho
    · exact h.properties exc hp

/-- A response is what its schema reads. -/
theorem exists_toResponse_iff_readInputs {schema : List ModelDecl} :
    (∃ r, toResponse schema view = .ok r) ↔ ∃ r, readInputs schema (responseData view) = .ok r := by
  unfold toResponse
  cases readInputs schema (responseData view) <;> simp

/-- The read schema of a registry accepts the response of a connection of a registered type exactly
when a driver variant of the type takes the driver and the options, the public model reads its own
dump, and the extension fields fit. -/
theorem exists_toResponse_iff (parseDatetime : Json → Option Nat) (view : PublicConnectionView)
    {registry : ConnectionRegistry}
    (hspec : registry.getType view.type = .ok spec) (hkind : view.kind = spec.kind)
    (hextra : ∀ key ∈ draftFields, view.extra.lookup key = none) :
    (∃ r, toResponse (defaultSchemas registry parseDatetime).read view = .ok r) ↔
      (∃ variant ∈ buildDriverVariants spec true,
        variant.driverField.Takes (Json.ofStr? view.driver) ∧
          variant.driverOptionsField.Takes (optionsData view.driverOptions)) ∧
        (∃ q, spec.publicOrPropertiesModel.validate (.obj view.properties.dump) = .ok q) ∧
        (∀ other ∈ registry.listTypes,
          other.ShowsQuietly view.properties view.driverOptions) ∧
        ReservedFits parseDatetime view.extra := by
  have hmem := ConnectionRegistry.mem_types_of_getType hspec
  have hresponse : (∃ r, toResponse (defaultSchemas registry parseDatetime).read view = .ok r) ↔
      (∀ other ∈ registry.listTypes, other.ShowsQuietly view.properties view.driverOptions) ∧
        ∃ other ∈ registry.listTypes, ∃ variant ∈ buildDriverVariants other true,
          ∃ p, (createModel (connectionReadResponse parseDatetime)
            (readFieldsOf other variant)).parseInputs (responseData view) = .ok p := by
    have hmembers : (defaultSchemas registry parseDatetime).read =
        (buildTypedReadModels registry (connectionReadResponse parseDatetime)).map Prod.snd :=
      buildUnion_typedModels hmem _ _ true readFieldsOf
    -- A member reads the data by the model of one variant of one type.
    have hreading : ∀ reading : Except ModelError Parsed,
        reading ∈ (defaultSchemas registry parseDatetime).read.map
          (fun model => model.parseInputs (responseData view)) ↔
        ∃ other ∈ registry.listTypes, ∃ variant ∈ buildDriverVariants other true,
          (createModel (connectionReadResponse parseDatetime)
            (readFieldsOf other variant)).parseInputs (responseData view) = reading := by
      intro reading
      rw [hmembers]
      simp only [List.mem_map]
      constructor
      · rintro ⟨model, ⟨⟨other, model'⟩, hmodel, rfl⟩, rfl⟩
        obtain ⟨hother, variant, hvariant, rfl⟩ := mem_typedModels_iff.mp hmodel
        exact ⟨other, hother, variant, hvariant, rfl⟩
      · rintro ⟨other, hother, variant, hvariant, rfl⟩
        exact ⟨_, ⟨_, mem_typedModels_iff.mpr ⟨hother, variant, hvariant, rfl⟩, rfl⟩, rfl⟩
    rw [exists_toResponse_iff_readInputs]
    unfold readInputs
    rw [exists_unionOf_iff]
    refine and_congr ?_ ?_
    · unfold NoneRaises
      simp only [hreading, ← showsQuietly_iff parseDatetime hextra]
      constructor
      · intro h other hother variant hvariant exc hr
        exact h _ ⟨other, hother, variant, hvariant, rfl⟩ exc hr
      · rintro h _ ⟨other, hother, variant, hvariant, rfl⟩ exc
        exact h other hother variant hvariant exc
    · simp only [hreading]
      constructor
      · rintro ⟨_, ⟨other, hother, variant, hvariant, rfl⟩, p, hp⟩
        exact ⟨other, hother, variant, hvariant, p, hp⟩
      · rintro ⟨other, hother, variant, hvariant, p, hp⟩
        exact ⟨_, ⟨other, hother, variant, hvariant, rfl⟩, p, hp⟩
  rw [hresponse]
  simp only [exists_parseInputs_readModel_iff hextra]
  constructor
  · rintro ⟨hquiet, other, hother, variant, hvariant, -, htype, hdriver, hoptions, hq, hreserved⟩
    -- Only the models of the record's own type take its type.
    have heq : other = spec := by
      have hget := ConnectionRegistry.getType_of_mem (ConnectionRegistry.mem_listTypes.mp hother)
      rw [← htype, hspec] at hget
      exact (Except.ok.inj hget).symm
    subst heq
    exact ⟨⟨variant, hvariant, hdriver, hoptions⟩, hq, hquiet, hreserved⟩
  · rintro ⟨⟨variant, hvariant, hdriver, hoptions⟩, hq, hquiet, hreserved⟩
    exact ⟨hquiet, spec, ConnectionRegistry.mem_listTypes.mpr hmem, variant, hvariant, hkind,
      (ConnectionRegistry.getType_name hspec).symm, hdriver, hoptions, hq, hreserved⟩

end Response

section Create

variable {C : Type} {svc : ConnectionService C} {parseDatetime : Json → Option Nat}
  {env : CallEnv} {actor : Json}

/-- What is read of a row that stores an accepted draft is the dump of its properties, what the
column of its driver options gives back, and its own kind, type, driver and extra. -/
theorem toRecord_parts_of_storedAs {draft : ConnectionDraft} {spec : TypeSpec}
    {v : ValidatedConnection} {row : Row C} (h : Validates svc.registry draft spec v)
    (hs : StoredAs svc.storage env draft v row) :
    (toRecord svc.storage row).properties = v.properties.dumpJson ∧
      (toRecord svc.storage row).driverOptions =
        storedDriverOptions svc.storage.importer v.driverOptions ∧
      (toRecord svc.storage row).kind = draft.kind ∧ (toRecord svc.storage row).type = draft.type ∧
      (toRecord svc.storage row).driver = draft.driver ∧
      (toRecord svc.storage row).extra = v.extra := by
  refine ⟨?_, ?_, hs.kind, hs.type, hs.driver, ?_⟩
  · have hp : (toRecord svc.storage row).properties = (readProperties row.propertiesJson).value :=
      rfl
    rw [hp, hs.properties]
    rfl
  · have ho : (toRecord svc.storage row).driverOptions =
        (decodeDriverOptions svc.storage.importer row.driverOptionsJson).value := rfl
    unfold storedDriverOptions
    rw [ho, hs.driverOptions]
  · have he : (toRecord svc.storage row).extra = (readExtra row.extraJson).value := rfl
    rw [he, hs.extra, h.extra]
    rfl

/-- The response to a stored draft succeeds exactly when the draft is shown. -/
theorem exists_createdResponse_iff {draft : ConnectionDraft} {spec : TypeSpec}
    {v : ValidatedConnection} {row : Row C} (h : Validates svc.registry draft spec v)
    (hs : StoredAs svc.storage env draft v row)
    (hextra : ∀ key ∈ draftFields, v.extra.lookup key = none) :
    (∃ r, createdResponse svc (defaultSchemas svc.registry parseDatetime)
        (toRecord svc.storage row) = .ok r) ↔
      Shown svc.registry svc.storage.importer parseDatetime spec draft v := by
  obtain ⟨hproperties, hoptions, hkind, htype, hdriver, hextraEq⟩ := toRecord_parts_of_storedAs h hs
  have hget : svc.registry.getType (toRecord svc.storage row).type = .ok spec := by
    rw [htype]
    exact h.type
  have hresponse : ∀ view p o, view = publicView (toRecord svc.storage row) p o →
      ((∃ r, toResponse (defaultSchemas svc.registry parseDatetime).read view = .ok r) ↔
        (∃ variant ∈ buildDriverVariants spec true,
          variant.driverField.Takes (Json.ofStr? draft.driver) ∧
            variant.driverOptionsField.Takes (optionsData o)) ∧
          (∃ q, spec.publicOrPropertiesModel.validate (.obj p.dump) = .ok q) ∧
          (∀ other ∈ svc.registry.listTypes, other.ShowsQuietly p o) ∧
          ReservedFits parseDatetime v.extra) := by
    rintro view p o rfl
    have hview := exists_toResponse_iff parseDatetime
      (publicView (toRecord svc.storage row) p o) hget (hkind.trans h.kind)
      (fun key hkey => by
        have he : (publicView (toRecord svc.storage row) p o).extra = v.extra := hextraEq
        rw [he]
        exact hextra key hkey)
    rw [hview]
    dsimp only [publicView]
    rw [hdriver, hextraEq]
  constructor
  · rintro ⟨r, hr⟩
    obtain ⟨view, hbuild, hr⟩ := bind_eq_ok_iff.mp hr
    obtain ⟨spec', p, o, hspec', hp, ho, hview⟩ := build_eq_ok_iff.mp hbuild
    rw [hget] at hspec'
    cases hspec'
    obtain ⟨hvariant, ⟨q, hq⟩, hquiet, hreserved⟩ := (hresponse view p o hview).mp ⟨r, hr⟩
    unfold publicDriverOptions at ho
    rw [hproperties] at hp
    rw [hoptions, htype, hdriver] at ho
    refine ⟨⟨p, q, hp, hq⟩, ⟨o, ho, hvariant⟩, ?_, hreserved⟩
    intro p' o' hp' ho'
    rw [hp, Except.ok.injEq] at hp'
    rw [ho, Except.ok.injEq] at ho'
    rw [← hp', ← ho']
    exact hquiet
  · rintro ⟨⟨p, q, hp, hq⟩, ⟨o, ho, hvariant⟩, hquiet, hreserved⟩
    obtain ⟨r, hr⟩ := (hresponse _ p o rfl).mpr ⟨hvariant, ⟨q, hq⟩, hquiet p o hp ho, hreserved⟩
    refine ⟨r, bind_eq_ok_iff.mpr ⟨_, build_eq_ok_iff.mpr ⟨spec, p, o, hget, ?_, ?_, rfl⟩, hr⟩⟩
    · rw [hproperties]
      exact hp
    · unfold publicDriverOptions
      rw [hoptions, htype, hdriver]
      exact ho

/-- The public models read their own dumps, and exactly the drivers without options show none. -/
structure PublicReadsOwn (svc : ConnectionService C) : Prop where
  properties : ∀ spec, (spec.name, spec) ∈ svc.registry.types → ∀ payload p,
    spec.publicOrPropertiesModel.validate payload = .ok p →
      ∃ q, spec.publicOrPropertiesModel.validate (.obj p.dump) = .ok q
  driverOptions : ∀ spec, (spec.name, spec) ∈ svc.registry.types →
    ∀ driverSpec ∈ spec.driverSpecs, ∀ payload p,
      driverSpec.publicOptionsModel.validate payload = .ok p →
        ∃ q, driverSpec.publicOptionsModel.validate (.obj p.dump) = .ok q
  noOptions : ∀ spec, (spec.name, spec) ∈ svc.registry.types →
    ∀ driverSpec ∈ spec.driverSpecs, driverSpec.optionsModel.isNoDriverOptions = true ↔
      driverSpec.publicOptionsModel.ref = noDriverOptionsRef

/-- The model of drivers without options raises no other exception. -/
theorem quiet_noDriverOptions : noDriverOptions.Quiet := by
  intro payload exc h
  unfold noDriverOptions at h
  dsimp only at h
  split at h <;> cases h

/-- The driver options field of a variant of a quiet type raises no other exception. -/
theorem TypeSpec.Quiet.driverOptionsField_ne_raised {spec : TypeSpec} (h : spec.Quiet)
    {isPublic : Bool} {variant : DriverVariant}
    (hvariant : variant ∈ buildDriverVariants spec isPublic) (value : Json) (exc : RaisedException) :
    variant.driverOptionsField.1.readJson value ≠ .error (.raised exc) := by
  unfold buildDriverVariants at hvariant
  split at hvariant
  · rw [List.mem_singleton] at hvariant
    subst hvariant
    exact FieldType.readJson_ne_raised rfl _ exc
  · obtain ⟨driverSpec, hdriverSpec, rfl⟩ := List.mem_map.mp hvariant
    have hmodel : (if isPublic then driverSpec.publicOptionsModel
        else driverSpec.optionsModel.toModelClass).Quiet := by
      split
      · exact h.publicOptions driverSpec hdriverSpec
      · exact h.driverOptions driverSpec hdriverSpec
    unfold driverVariant buildDriverOptionsField
    dsimp only
    generalize (if isPublic then driverSpec.publicOptionsModel
      else driverSpec.optionsModel.toModelClass) = model at hmodel ⊢
    split_ifs
    · exact (quiet_noDriverOptions.readJson_ne_raised _ exc).2
    · exact (hmodel.readJson_ne_raised _ exc).1
    · exact (hmodel.readJson_ne_raised _ exc).2

/-- The public models of a quiet type show what they show quietly. -/
theorem TypeSpec.Quiet.showsQuietly {spec : TypeSpec} (h : spec.Quiet) (properties : Instance)
    (options : Option Instance) : spec.ShowsQuietly properties options where
  properties := h.publicProperties _
  driverOptions _ hvariant exc := h.driverOptionsField_ne_raised hvariant _ exc

/-- The driver field of the effective driver's variant takes the driver. -/
theorem takes_driverField {spec : TypeSpec} {driverSpec : DriverSpec} {driver : Option String}
    (hdriver : driver ≠ some "") (h : effectiveDriver spec driver = some driverSpec.name) :
    (driverVariant spec true driverSpec).driverField.Takes (Json.ofStr? driver) := by
  unfold driverVariant FieldInfo.Takes
  dsimp only
  by_cases hdefault : spec.defaultDriver = some driverSpec.name
  · rw [decide_eq_true hdefault, if_pos rfl]
    cases driver with
    | none => exact ⟨_, rfl⟩
    | some name =>
      have hname : name ≠ "" := fun e => hdriver (by rw [e])
      simp only [effectiveDriver, orElse, hname, if_false, Option.some.injEq] at h
      exact readJson_literal_iff.mpr h
  · rw [decide_eq_false hdefault, if_neg (by simp)]
    cases driver with
    | none => exact absurd h hdefault
    | some name =>
      have hname : name ≠ "" := fun e => hdriver (by rw [e])
      simp only [effectiveDriver, orElse, hname, if_false, Option.some.injEq] at h
      exact readJson_literal_iff.mpr h

/-- Options that read back are what the column of stored ones gives back. -/
theorem storedDriverOptions_of_readBack {importer : Importer} {options : Option Instance}
    (hoptions : ∀ o, options = some o → OptionsReadBack importer o) :
    storedDriverOptions importer options = options := by
  obtain ⟨json, hjson⟩ : ∃ json, processBindParam (.ofOption options) = .ok json := by
    cases options with
    | none => exact ⟨_, rfl⟩
    | some o => exact ⟨_, (hoptions o rfl).exists_bound⟩
  unfold storedDriverOptions
  rw [hjson]
  dsimp only
  rw [decodeDriverOptions_of_processBindParam hoptions hjson]

/-- A draft without an effective driver names none, and its type has no default. -/
theorem effectiveDriver_eq_none {spec : TypeSpec} {driver : Option String}
    (hdriver : driver ≠ some "") (h : effectiveDriver spec driver = none) :
    driver = none ∧ spec.defaultDriver = none := by
  unfold effectiveDriver orElse at h
  cases driver with
  | none => exact ⟨rfl, h⟩
  | some name =>
    have hname : name ≠ "" := fun e => hdriver (by rw [e])
    simp [hname] at h

/-- An accepted effective driver is one of the type's, and one without options goes with none. -/
theorem resolveDriverSpec_of_validate {spec : TypeSpec} {connectionType name : String}
    {raw : DriverOptions} {options : Option Instance}
    (h : validateDriverOptions spec connectionType (some name) raw = .ok options) :
    ∃ driverSpec, resolveDriverSpec spec name = some driverSpec ∧
      (options = none → driverSpec.optionsModel.isNoDriverOptions = true) := by
  unfold validateDriverOptions at h
  cases hr : resolveDriverSpec spec name with
  | none => simp [hr] at h
  | some driverSpec =>
    refine ⟨driverSpec, rfl, fun hnone => ?_⟩
    subst hnone
    simp only [hr] at h
    by_contra hno
    rw [if_neg hno] at h
    split at h <;> cases h

/-- A driver variant takes what the public options model of its driver shows. -/
theorem takes_driverOptionsField (hown : PublicReadsOwn svc) {spec : TypeSpec}
    (hspec : (spec.name, spec) ∈ svc.registry.types) {driverSpec : DriverSpec}
    (hdriverSpec : driverSpec ∈ spec.driverSpecs)
    (hno : driverSpec.optionsModel.isNoDriverOptions = false) {payload : Json} {shown : Instance}
    (h : driverSpec.publicOptionsModel.validate payload = .ok shown) :
    (driverVariant spec true driverSpec).driverOptionsField.Takes (.obj shown.dump) := by
  have hmodel : FieldInfo.Takes (.model driverSpec.publicOptionsModel, none) (.obj shown.dump) :=
    readJson_model_iff.mpr (hown.driverOptions spec hspec driverSpec hdriverSpec payload shown h)
  have hshows : driverSpec.publicOptionsModel.ref ≠ noDriverOptionsRef := by
    intro href
    rw [(hown.noOptions spec hspec driverSpec hdriverSpec).mpr href] at hno
    cases hno
  unfold driverVariant buildDriverOptionsField
  dsimp only
  rw [if_pos rfl, if_neg hshows]
  split <;> exact hmodel

/-- The driver variant of a driver without options takes none. -/
theorem takes_driverOptionsField_none (hown : PublicReadsOwn svc) {spec : TypeSpec}
    (hspec : (spec.name, spec) ∈ svc.registry.types) {driverSpec : DriverSpec}
    (hdriverSpec : driverSpec ∈ spec.driverSpecs)
    (hno : driverSpec.optionsModel.isNoDriverOptions = true) :
    (driverVariant spec true driverSpec).driverOptionsField.Takes .null := by
  unfold driverVariant buildDriverOptionsField
  dsimp only
  rw [if_pos rfl, if_pos ((hown.noOptions spec hspec driverSpec hdriverSpec).mp hno)]
  exact ⟨_, rfl⟩

/-- Where the models read their dumps back and raise no other exception and the public ones accept
and read them, and the draft names a driver unless its type has a default or none, the draft is
shown exactly when its extension fields fit. -/
theorem shown_iff_reservedFits (hback : ReadsBack svc) (hpublic : PublicAccepts svc)
    (hown : PublicReadsOwn svc) (hquiet : svc.registry.Quiet) {draft : ConnectionDraft}
    {spec : TypeSpec} {v : ValidatedConnection} (h : Validates svc.registry draft spec v)
    (hraw : draft.driverOptions.ReadBack svc.storage.importer) (hdriver : draft.driver ≠ some "")
    (hdefault : draft.driver = none → spec.defaultDriver = none → spec.driverSpecs = []) :
    Shown svc.registry svc.storage.importer parseDatetime spec draft v ↔
      ReservedFits parseDatetime v.extra := by
  refine ⟨Shown.reserved, fun hreserved => ?_⟩
  have hmem := ConnectionRegistry.mem_types_of_getType h.type
  have hoptionsBack : ∀ o, v.driverOptions = some o → OptionsReadBack svc.storage.importer o :=
    fun o ho => optionsReadBack_of_validate (hback.driverOptions spec hmem) hraw
      (ho ▸ h.driverOptions)
  have hofOption : (DriverOptions.ofOption v.driverOptions).ReadBack svc.storage.importer := by
    cases ho : v.driverOptions with
    | none => trivial
    | some o => exact hoptionsBack o ho
  obtain ⟨o, ho, hnone, hsome⟩ := exists_publicDriverOptions hpublic hmem hofOption
    (validateDriverOptions_ofOption h.driverOptions)
  obtain ⟨p, hp⟩ := hpublic.properties spec hmem _ _ h.properties
  obtain ⟨q, hq⟩ := hown.properties spec hmem _ p hp
  refine ⟨⟨p, q, bind_eq_ok_iff.mpr ⟨_, hback.properties spec hmem _ _ h.properties, hp⟩, hq⟩,
    ⟨o, by rw [storedDriverOptions_of_readBack hoptionsBack]; exact ho, ?_⟩,
    fun p o _ _ other hother =>
      (hquiet other (ConnectionRegistry.mem_listTypes.mp hother)).showsQuietly p o, hreserved⟩
  have hvalidated := h.driverOptions
  cases heff : effectiveDriver spec draft.driver with
  | none =>
    -- The draft names no driver, so its type has none, and no options are shown.
    obtain ⟨hnodriver, hnodefault⟩ := effectiveDriver_eq_none hdriver heff
    have hnooptions : v.driverOptions = none := by
      cases hv : v.driverOptions with
      | none => rfl
      | some w =>
        obtain ⟨name, -, -, hname, -⟩ := hsome w hv
        rw [heff] at hname
        cases hname
    refine ⟨noDriverVariant, ?_, ?_, ?_⟩
    · unfold buildDriverVariants
      rw [if_pos (hdefault hnodriver hnodefault)]
      exact List.mem_cons_self
    · rw [hnodriver]
      exact ⟨_, rfl⟩
    · rw [hnone hnooptions]
      exact ⟨_, rfl⟩
  | some name =>
    -- The variant of the effective driver takes what is shown.
    rw [heff] at hvalidated
    obtain ⟨driverSpec, hresolve, hno⟩ := resolveDriverSpec_of_validate hvalidated
    have hdriverSpec := mem_of_resolveDriverSpec hresolve
    have hname : driverSpec.name = name := by
      have hfound := List.find?_some hresolve
      simpa using hfound
    refine ⟨driverVariant spec true driverSpec, ?_, ?_, ?_⟩
    · unfold buildDriverVariants
      rw [if_neg (List.ne_nil_of_mem hdriverSpec)]
      exact List.mem_map_of_mem hdriverSpec
    · exact takes_driverField hdriver (by rw [hname]; exact heff)
    · cases hv : v.driverOptions with
      | none =>
        rw [hnone hv]
        exact takes_driverOptionsField_none hown hmem hdriverSpec (hno hv)
      | some w =>
        obtain ⟨name', driverSpec', q', hname', hresolve', hno', hq', rfl⟩ := hsome w hv
        rw [heff, Option.some.injEq] at hname'
        subst hname'
        rw [hresolve, Option.some.injEq] at hresolve'
        subst hresolve'
        exact takes_driverOptionsField hown hmem hdriverSpec hno' hq'

/-- The draft that the service makes of a payload can be stored: the resolver, the policy and the
models of its type accept it, the limit is not reached, and its columns and its id can be
inserted. -/
structure Storable (svc : ConnectionService C) (env : CallEnv) (actor : Json)
    (store : List (Row C)) (payload resolved : ConnectionDraft) (spec : TypeSpec)
    (v : ValidatedConnection) : Prop where
  resolve : svc.ownershipResolver.resolveCreate
    ⟨actor, "create", none, some (payloadWithExtra payload.asdict)⟩ payload = .ok resolved
  canCreate : svc.accessPolicy.canCreate
    ⟨actor, "create", none, some (payloadWithExtra resolved.asdict)⟩ resolved = .ok ()
  validates : Validates svc.registry resolved spec v
  limit : svc.limitReached store = none
  columns : ∃ columns,
    Repository.bindColumns svc.storage env (toPersistedDraft resolved v) = .ok columns
  unused : find env.uuid store = none

/-- The service inserts a row exactly when it makes a storable draft of the payload. -/
theorem exists_createdRow_iff {payload : ConnectionDraft} {store : List (Row C)} {row : Row C} :
    svc.createdRow env actor store payload = .ok row ↔
      ∃ resolved spec v, Storable svc env actor store payload resolved spec v ∧
        ∃ columns, Repository.bindColumns svc.storage env (toPersistedDraft resolved v) =
          .ok columns ∧ row = Repository.newRow env columns := by
  rw [createdRow_eq_ok_iff]
  constructor
  · rintro ⟨resolved, v, columns, hp, hl, hb, hf, hrow⟩
    obtain ⟨hr, hc, spec, hv⟩ := prepareCreate_eq_ok_iff.mp hp
    exact ⟨resolved, spec, v, ⟨hr, hc, hv, hl, ⟨columns, hb⟩, hf⟩, columns, hb, hrow⟩
  · rintro ⟨resolved, spec, v, h, columns, hb, hrow⟩
    exact ⟨resolved, v, columns,
      prepareCreate_eq_ok_iff.mpr ⟨h.resolve, h.canCreate, spec, h.validates⟩, h.limit, hb,
      h.unused, hrow⟩

/-- The resolver puts no draft field among the extension fields of a new connection. -/
def OwnershipResolver.KeepsExtension (resolver : OwnershipResolver) : Prop :=
  ∀ context draft resolved extra extra', resolver.resolveCreate context draft = .ok resolved →
    draft.extra = some extra → (∀ key ∈ draftFields, extra.lookup key = none) →
      resolved.extra = some extra' → ∀ key ∈ draftFields, extra'.lookup key = none

/-- The default resolver keeps the extension fields. -/
theorem keepsExtension_noOp : noOpOwnershipResolver.KeepsExtension := by
  intro context draft resolved extra extra' hresolve hextra hkeys hextra'
  cases hresolve
  rw [hextra] at hextra'
  cases hextra'
  exact hkeys

section Request

variable {schemas : APISchemaSet} {body : Json} {payload : Parsed} {store : List (Row C)}

/-- A request whose create fails stores nothing. -/
theorem createConnection_of_error (hread : readBody schemas.create body = .ok payload) {e : PyError}
    (h : svc.createdRow env actor store (toCreateDraft payload.value.dump) = .error e) :
    createConnection svc schemas env actor body store = (.error e, store) := by
  unfold createConnection
  rw [hread]
  dsimp only
  rw [svc.run_create, h]

/-- A request whose create inserts a row stores it, whether the response succeeds or not. -/
theorem createConnection_of_row (hread : readBody schemas.create body = .ok payload) {row : Row C}
    (h : svc.createdRow env actor store (toCreateDraft payload.value.dump) = .ok row) :
    createConnection svc schemas env actor body store =
      (createdResponse svc schemas (toRecord svc.storage row), put store row) := by
  unfold createConnection
  rw [hread]
  dsimp only
  rw [svc.run_create, h]

end Request

/-- A create request that the schema accepts, over any store: if it fails, nothing is stored,
exactly when every draft that can be stored is shown. -/
theorem createConnection_failsCleanly_iff {C : Type} (svc : ConnectionService C)
    (hresolver : svc.ownershipResolver.KeepsExtension) (parseDatetime : Json → Option Nat)
    (env : CallEnv) (actor body : Json) (payload : Parsed)
    (hread : readBody (defaultSchemas svc.registry parseDatetime).create body = .ok payload)
    (store : List (Row C)) :
    (∀ e store', createConnection svc (defaultSchemas svc.registry parseDatetime) env actor body
        store = (.error e, store') → store' = store) ↔
      ∀ resolved spec v,
        Storable svc env actor store (toCreateDraft payload.value.dump) resolved spec v →
          Shown svc.registry svc.storage.importer parseDatetime spec resolved v := by
  have hshown : ∀ resolved spec v columns,
      Storable svc env actor store (toCreateDraft payload.value.dump) resolved spec v →
      Repository.bindColumns svc.storage env (toPersistedDraft resolved v) = .ok columns →
      ((∃ r, createdResponse svc (defaultSchemas svc.registry parseDatetime)
          (toRecord svc.storage (Repository.newRow env columns)) = .ok r) ↔
        Shown svc.registry svc.storage.importer parseDatetime spec resolved v) := by
    intro resolved spec v columns h hb
    refine exists_createdResponse_iff h.validates (storedAs_of_bindColumns hb).1 ?_
    refine hresolver _ _ _ _ _ h.resolve rfl (fun key hkey => ?_) h.validates.extra
    rw [lookup_extractDraftExtra, if_pos hkey]
  constructor
  · intro hclean resolved spec v h
    obtain ⟨columns, hb⟩ := h.columns
    have hrow := exists_createdRow_iff.mpr ⟨resolved, spec, v, h, columns, hb, rfl⟩
    have hcreate := createConnection_of_row hread hrow
    refine (hshown resolved spec v columns h hb).mp ?_
    cases hr : createdResponse svc (defaultSchemas svc.registry parseDatetime)
        (toRecord svc.storage (Repository.newRow env columns)) with
    | ok r => exact ⟨r, rfl⟩
    | error e =>
      -- The response failed after the row was put into a store that did not have it.
      rw [hr] at hcreate
      have hput := hclean e _ hcreate
      have hself := find_put_self store (Repository.newRow env columns)
      have hkey : key (Repository.newRow env columns) = env.uuid := rfl
      rw [hput, hkey, h.unused] at hself
      cases hself
  · intro hall e store' hfail
    cases hc : svc.createdRow env actor store (toCreateDraft payload.value.dump) with
    | error e' =>
      rw [createConnection_of_error hread hc, Prod.mk.injEq] at hfail
      exact hfail.2.symm
    | ok row =>
      obtain ⟨resolved, spec, v, h, columns, hb, rfl⟩ := exists_createdRow_iff.mp hc
      obtain ⟨r, hr⟩ := (hshown resolved spec v columns h hb).mpr (hall resolved spec v h)
      rw [createConnection_of_row hread hc, hr, Prod.mk.injEq] at hfail
      exact absurd hfail.1 (by simp)

end Create

/-- The body of a request to create an S3 connection, with extension fields. -/
def bucketBody (extension : Dict Json) : Json :=
  .obj ([("name", .str "backups"), ("kind", .str "file"), ("type", .str "s3"),
    ("properties", .obj [("bucket", .str "backups")]),
    ("secrets", .obj [("access_token_id", .str "id"), ("access_token_key", .str "key")])] ++
      extension)

/-- A create without extension fields succeeds, so the draft it stores is shown. -/
theorem createConnection_failsCleanly_iff_bucket :
    ∃ payload, readBody noDateSchemas.create (bucketBody []) = .ok payload ∧
      ∀ resolved spec v, Storable (defaultService none) ⟨1, "a", 0⟩ .null []
          (toCreateDraft payload.value.dump) resolved spec v →
        Shown (defaultService none).registry packageImporter (fun _ => none) spec resolved v := by
  obtain ⟨payload, hread⟩ : ∃ payload, readBody noDateSchemas.create (bucketBody []) =
      .ok payload := exists_eq_ok_of_isSome (by decide +kernel)
  refine ⟨payload, hread, (createConnection_failsCleanly_iff (defaultService none)
    keepsExtension_noOp (fun _ => none) ⟨1, "a", 0⟩ .null (bucketBody []) payload hread []).mp ?_⟩
  intro e store' hfail
  obtain ⟨r, hr⟩ : ∃ r, (createConnection (defaultService none) noDateSchemas ⟨1, "a", 0⟩ .null
      (bucketBody []) []).1 = .ok r := exists_eq_ok_of_isSome (by decide +kernel)
  unfold noDateSchemas at hr
  have hregistry : (defaultService none).registry = defaultRegistry emptyHost := rfl
  rw [hregistry] at hfail
  rw [hfail] at hr
  cases hr

/-- A create with an extension field named `id` that is a number is accepted by the schema and
fails after its connection is stored. -/
theorem create_fails_after_commit :
    (∃ payload, readBody noDateSchemas.create (bucketBody [("id", .int 5)]) = .ok payload) ∧
      ∃ e row, createConnection (defaultService none) noDateSchemas ⟨1, "a", 0⟩ .null
        (bucketBody [("id", .int 5)]) [] = (.error e, [row]) := by
  refine ⟨exists_eq_ok_of_isSome (by decide +kernel), ?_⟩
  have hrun : Prod.map (fun result => result.toOption.isSome) List.length
      (createConnection (defaultService none) noDateSchemas ⟨1, "a", 0⟩ .null
        (bucketBody [("id", .int 5)]) []) = (false, 1) := by
    decide +kernel
  cases hc : createConnection (defaultService none) noDateSchemas ⟨1, "a", 0⟩ .null
      (bucketBody [("id", .int 5)]) [] with
  | mk result store =>
    rw [hc, Prod.map_apply, Prod.mk.injEq] at hrun
    obtain ⟨row, rfl⟩ := List.length_eq_one_iff.mp hrun.2
    cases result with
    | ok r => cases hrun.1
    | error e => exact ⟨e, row, rfl⟩

end DbConnection
