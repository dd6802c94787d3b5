import DbConnection.ClassifiedErrors
import DbConnection.CreateResponses
import DbConnection.PatchProperties

/-!
# The drafts and patches of requests

What the schemas of a registry see to before the service has a draft or a patch. A draft is `Proper`
if its columns can be bound and a response can show it, a patch if it keeps a draft so
(`ConnectionPatch.Proper.merge`). Of a body that the create schema accepts only the extension fields
can be improper (`proper_toCreateDraft`); no schema lets a driver without a name through
(`driver_toPatch`), but an update body may still set to `None` what a record must have.
-/

namespace DbConnection

open PyData Pydantic

/-! ## Proper drafts and patches -/

/-- Extension fields that a response can carry: none is a draft field, and those that replace a
field of the response fit it. -/
structure ExtensionFits (parseDatetime : Json → Option Nat) (extra : Dict Json) : Prop where
  noDraftField : ∀ key ∈ draftFields, extra.lookup key = none
  reserved : ReservedFits parseDatetime extra

/-- The columns of the draft can be bound, and a response can show it. -/
structure ConnectionDraft.Proper (parseDatetime : Json → Option Nat) (draft : ConnectionDraft) :
    Prop where
  name : draft.name ≠ none
  driver : draft.driver ≠ some ""
  dictionaries : draft.HasDictionaries
  extra : ∀ extra, draft.extra = some extra → ExtensionFits parseDatetime extra

/-- The patch sets nothing that a proper draft cannot have. -/
structure ConnectionPatch.Proper (parseDatetime : Json → Option Nat) (patch : ConnectionPatch) :
    Prop where
  name : patch.name ≠ .set none
  driver : patch.driver ≠ .set (some "")
  dictionaries : ¬ patch.NullsDictionary
  extra : ∀ extra, patch.extraDict = .set (some extra) → ExtensionFits parseDatetime extra

instance (patch : ConnectionPatch) : Decidable patch.NullsDictionary :=
  inferInstanceAs (Decidable (_ ∨ _ ∨ _))

/-- A proper patch makes a proper draft of a proper record. -/
theorem ConnectionPatch.Proper.merge {parseDatetime : Json → Option Nat}
    {record : ConnectionRecord} {patch : ConnectionPatch} (h : patch.Proper parseDatetime)
    (hrecord : record.toDraft.Proper parseDatetime) :
    (DbConnection.merge record patch).Proper parseDatetime where
  name := by
    have hname : (DbConnection.merge record patch).name = patch.name.getD (some record.name) := rfl
    have hpatch := h.name
    rw [hname]
    cases hp : patch.name with
    | unset => simp
    | set name => simpa [hp] using hpatch
  driver := by
    have hdriver : (DbConnection.merge record patch).driver = patch.driver.getD record.driver := rfl
    have hpatch := h.driver
    rw [hdriver]
    cases hp : patch.driver with
    | unset => exact hrecord.driver
    | set driver => simpa [hp] using hpatch
  dictionaries := (hasDictionaries_merge record patch).mpr h.dictionaries
  extra := by
    intro extra hextra
    have hmerged : (DbConnection.merge record patch).extra =
        patch.extraDict.getD (some record.extra) := rfl
    rw [hmerged] at hextra
    cases hp : patch.extraDict with
    | unset =>
      rw [hp] at hextra
      exact hrecord.extra extra hextra
    | set given =>
      rw [hp] at hextra
      exact h.extra extra (hp.trans (congrArg PatchValue.set hextra))

/-! ## Schemas that raise nothing else -/

section Quiet

variable {registry : ConnectionRegistry} {base : ModelDecl}

/-- A generated model raises no other exception if the base and the fields do not. -/
theorem quiet_createModel {fields : List Field} (hbase : ∀ field ∈ base.fields, field.Quiet)
    (hpost : ∀ values exc, base.post values ≠ .error (.raised exc))
    (hfields : ∀ field ∈ fields, field.Quiet) :
    (ModelClass.ofDecl (createModel base fields)).Quiet := by
  refine ModelDecl.quiet (fun field hf => ?_) hpost
  rcases List.mem_append.mp hf with hf | hf
  · obtain ⟨old, hold, rfl⟩ := List.mem_map.mp hf
    split
    · rename_i found hfound
      -- The field keeps the validators of the base's.
      exact ⟨(hbase old hold).before, (hfields found (List.mem_of_find?_eq_some hfound)).type,
        (hbase old hold).after⟩
    · exact hbase old hold
  · exact hfields field (List.mem_of_mem_filter hf)

/-- A nullable type raises no other exception if the type does not. -/
theorem readJson_orNone_ne_raised {type : FieldType}
    (h : ∀ value exc, type.readJson value ≠ .error (.raised exc)) (value : Json)
    (exc : RaisedException) : (orNone type).readJson value ≠ .error (.raised exc) := by
  unfold orNone
  split
  · exact h value exc
  · exact h value exc
  · cases value with
    | null => nofun
    | _ => exact h _ exc

/-- The driver field of a variant is of a plain type. -/
theorem isPlain_driverField {spec : TypeSpec} {isPublic : Bool} {variant : DriverVariant}
    (hvariant : variant ∈ buildDriverVariants spec isPublic) :
    variant.driverField.1.isPlain = true := by
  unfold buildDriverVariants at hvariant
  split at hvariant
  · rw [List.mem_singleton.mp hvariant]
    rfl
  · obtain ⟨driverSpec, -, rfl⟩ := List.mem_map.mp hvariant
    unfold driverVariant
    dsimp only
    split <;> rfl

variable {spec : TypeSpec} {variant : DriverVariant}

/-- The fields of a create model of a quiet type raise no other exception. -/
theorem TypeSpec.Quiet.createFields (h : spec.Quiet)
    (hvariant : variant ∈ buildDriverVariants spec false) :
    ∀ field ∈ DbConnection.createFields spec variant, field.Quiet := by
  intro field hf
  simp only [DbConnection.createFields, List.mem_cons, List.not_mem_nil, or_false] at hf
  rcases hf with rfl | rfl | rfl | rfl | rfl | rfl
  · exact Field.quiet_of rfl
  · exact Field.quiet_of rfl
  · exact Field.quiet_of (isPlain_driverField hvariant)
  · exact Field.quiet_of_type (h.driverOptionsField_ne_raised hvariant)
  · exact Field.quiet_of_type fun value exc => (h.properties.readJson_ne_raised value exc).1
  · cases hm : spec.secretsModel with
    | none => exact Field.quiet_of rfl
    | some m =>
      exact Field.quiet_of_type fun value exc => ((h.secrets m hm).readJson_ne_raised value exc).1

/-- The fields of an update model of a quiet type raise no other exception. -/
theorem TypeSpec.Quiet.updateFields (h : spec.Quiet)
    (hvariant : variant ∈ buildDriverVariants spec false) :
    ∀ field ∈ DbConnection.updateFields spec variant, field.Quiet := by
  intro field hf
  simp only [DbConnection.updateFields, List.mem_cons, List.not_mem_nil, or_false] at hf
  rcases hf with rfl | rfl | rfl | rfl
  · exact Field.quiet_of (isPlain_driverField hvariant)
  · exact Field.quiet_of_type <| readJson_orNone_ne_raised <|
      h.driverOptionsField_ne_raised hvariant
  · exact Field.quiet_of_type fun value exc => (h.properties.readJson_ne_raised value exc).2
  · cases hm : spec.secretsModel with
    | none => exact Field.quiet_of rfl
    | some m =>
      exact Field.quiet_of_type fun value exc => ((h.secrets m hm).readJson_ne_raised value exc).2

/-- The models of a schema that is generated from a quiet registry raise no other exception, if the
base models and the fields given do not. -/
theorem quiet_buildUnion (hregistry : registry.Quiet) {fallback : ModelDecl}
    {fields : TypeSpec → DriverVariant → List Field}
    (hfallback : (ModelClass.ofDecl fallback).Quiet) (hbase : ∀ field ∈ base.fields, field.Quiet)
    (hpost : ∀ values exc, base.post values ≠ .error (.raised exc))
    (hfields : ∀ spec variant, spec.Quiet → variant ∈ buildDriverVariants spec false →
      ∀ field ∈ fields spec variant, field.Quiet) :
    ∀ model ∈ buildUnion ((typedModels registry base false fields).map Prod.snd) fallback,
      (ModelClass.ofDecl model).Quiet := by
  intro model hmodel
  unfold buildUnion at hmodel
  split at hmodel
  · rw [List.mem_singleton.mp hmodel]
    exact hfallback
  · obtain ⟨⟨spec, generated⟩, hmem, rfl⟩ := List.mem_map.mp hmodel
    obtain ⟨hspec, variant, hvariant, rfl⟩ := mem_typedModels_iff.mp hmem
    have hquiet := hregistry spec (ConnectionRegistry.mem_listTypes.mp hspec)
    exact quiet_createModel hbase hpost (hfields spec variant hquiet hvariant)

/-- The generated create and update schemas of a quiet registry raise no other exception. -/
theorem readBody_ne_raised (hregistry : registry.Quiet) (parseDatetime : Json → Option Nat)
    (body : Json) (exc : RaisedException) :
    readBody (defaultSchemas registry parseDatetime).create body ≠ .error (.raised exc) ∧
      readBody (defaultSchemas registry parseDatetime).update body ≠ .error (.raised exc) := by
  have hbody : ∀ schema : List ModelDecl, (∀ model ∈ schema, (ModelClass.ofDecl model).Quiet) →
      readBody schema body ≠ .error (.raised exc) := by
    intro schema hschema
    refine unionOf_ne_raised (fun reading hreading exc' => ?_) exc
    obtain ⟨model, hmodel, rfl⟩ := List.mem_map.mp hreading
    exact hschema model hmodel body exc'
  have hcreate : ∀ field ∈ connectionCreateRequest.fields, field.Quiet := by
    intro field hf
    simp only [connectionCreateRequest, requestModel, ModelDecl.ofFields, List.mem_cons,
      List.not_mem_nil, or_false] at hf
    rcases hf with rfl | rfl | rfl | rfl | rfl | rfl | rfl | rfl | rfl <;>
      exact Field.quiet_of rfl
  have hupdate : ∀ field ∈ connectionUpdateRequest.fields, field.Quiet := by
    intro field hf
    simp only [connectionUpdateRequest, requestModel, ModelDecl.ofFields, List.mem_cons,
      List.not_mem_nil, or_false] at hf
    rcases hf with rfl | rfl | rfl | rfl | rfl | rfl | rfl <;> exact Field.quiet_of rfl
  constructor
  · exact hbody _ (quiet_buildUnion hregistry (ModelDecl.quiet_ofFields hcreate) hcreate
      (fun _ _ h => by cases h) fun _ _ hquiet hvariant => hquiet.createFields hvariant)
  · exact hbody _ (quiet_buildUnion hregistry (ModelDecl.quiet_ofFields hupdate) hupdate
      (fun _ _ h => by cases h) fun _ _ hquiet hvariant => hquiet.updateFields hvariant)

end Quiet

/-! ## Driver variants -/

/-- Every driver has a name that is not empty, and a type with drivers has a default one. -/
structure ConnectionRegistry.NamesDrivers (registry : ConnectionRegistry) : Prop where
  named : ∀ spec, (spec.name, spec) ∈ registry.types →
    ∀ driverSpec ∈ spec.driverSpecs, driverSpec.name ≠ ""
  default : ∀ spec, (spec.name, spec) ∈ registry.types →
    spec.defaultDriver = none → spec.driverSpecs = []

section Variants

variable {spec : TypeSpec} {isPublic : Bool} {variant : DriverVariant}

/-- The driver field of a variant reads a name that is not empty, or `None`. -/
theorem readJson_driverField (hnamed : ∀ driverSpec ∈ spec.driverSpecs, driverSpec.name ≠ "")
    (hvariant : variant ∈ buildDriverVariants spec isPublic) {value : Json} {r : FieldReading}
    (h : variant.driverField.1.readJson value = .ok r) :
    ∃ value', r = .json value' ∧ value' ≠ .str "" := by
  have hliteral : ∀ (name : String) (value : Json), name ≠ "" →
      (FieldType.literal name).readJson value = .ok r →
        ∃ value', r = .json value' ∧ value' ≠ .str "" := by
    intro name value hname h
    unfold FieldType.readJson at h
    split at h
    · rename_i hvalue
      subst hvalue
      exact ⟨.str name, (Except.ok.inj h).symm, by simpa using hname⟩
    · cases h
  unfold buildDriverVariants at hvariant
  split at hvariant
  · rw [List.mem_singleton.mp hvariant] at h
    unfold noDriverVariant FieldType.readJson at h
    split at h
    · exact ⟨.null, (Except.ok.inj h).symm, by simp⟩
    · cases h
  · obtain ⟨driverSpec, hmem, rfl⟩ := List.mem_map.mp hvariant
    unfold driverVariant at h
    dsimp only at h
    split at h
    · -- The default driver: `None` stands for it.
      unfold FieldType.readJson at h
      split at h
      · exact ⟨.null, (Except.ok.inj h).symm, by simp⟩
      · exact hliteral _ _ (hnamed driverSpec hmem) h
    · exact hliteral _ _ (hnamed driverSpec hmem) h

/-- The driver field of a variant defaults to `None`. -/
theorem default_driverField (hvariant : variant ∈ buildDriverVariants spec isPublic) :
    ∀ value, variant.driverField.2 = some value → value = .null := by
  intro value h
  unfold buildDriverVariants at hvariant
  split at hvariant
  · rw [List.mem_singleton.mp hvariant] at h
    cases h
    rfl
  · obtain ⟨driverSpec, -, rfl⟩ := List.mem_map.mp hvariant
    unfold driverVariant at h
    dsimp only at h
    split at h
    · cases h
      rfl
    · cases h

end Variants

/-! ## What the schemas read -/

/-- A schema only accepts dictionaries, and reads them by one of its models. -/
theorem exists_items_of_readBody {schema : List ModelDecl} {body : Json} {p : Parsed}
    (h : readBody schema body = .ok p) :
    ∃ items, ∃ model ∈ schema, model.parseInputs (toFieldInputs items) = .ok p := by
  have hother : (∀ items, body ≠ .obj items) → False := by
    intro hno
    have hparse : ∀ model : ModelDecl, (model.parse body).toOption = none := by
      intro model
      cases body with
      | obj items => exact absurd rfl (hno items)
      | _ => rfl
    have hnil : (schema.map fun model => model.parse body).filterMap Except.toOption = [] := by
      rw [List.filterMap_eq_nil_iff]
      intro reading hmem
      obtain ⟨model, -, rfl⟩ := List.mem_map.mp hmem
      exact hparse model
    have hunion := (unionOf_eq_ok_iff.mp h).2
    rw [hnil] at hunion
    cases hunion
  cases body with
  | obj items => exact ⟨items, exists_model_of_readBody h⟩
  | _ => exact (hother (by simp)).elim

section Schemas

variable {registry : ConnectionRegistry} {parseDatetime : Json → Option Nat} {spec : TypeSpec}
  {variant : DriverVariant} {body : Json} {p : Parsed}

/-- The fields of a create model. -/
theorem fields_createModel (spec : TypeSpec) (variant : DriverVariant) :
    (createModel connectionCreateRequest (createFields spec variant)).fields =
      [.required "name" .str, .required "kind" (.literal spec.kind),
        .required "type" (.literal spec.name), variant.driverField.named "driver",
        variant.driverOptionsField.named "driver_options",
        .required "properties" (.model spec.propertiesModel),
        Field.emptyDict "secrets" <| resolveSecretsAnnotation spec.secretsModel,
        Field.emptyDict "labels" .strDict, Field.emptyDict "metadata" .dict] := by
  rfl

/-- The fields of an update model. -/
theorem fields_updateModel (spec : TypeSpec) (variant : DriverVariant) :
    (createModel connectionUpdateRequest (updateFields spec variant)).fields =
      [.optional "name" .str, variant.driverField.named "driver",
        .of "driver_options" (orNone variant.driverOptionsField.1) (some .null),
        .optional "properties" (.model spec.propertiesModel),
        .optional "secrets" <| resolveSecretsAnnotation spec.secretsModel,
        .optional "labels" .strDict, .optional "metadata" .dict] := by
  rfl

/-- A create model keeps the keys of its payloads. -/
theorem keepsKeys_createModels (spec : TypeSpec) (variant : DriverVariant) :
    (createModel connectionCreateRequest (createFields spec variant)).KeepsKeys :=
  keepsKeys_createModel
    (keepsKeys_requestModel (by simp [Field.required, Field.optional, Field.emptyDict, Field.of]))
    (by simp [createFields, FieldInfo.named, Field.required, Field.emptyDict, Field.of])

/-- A field of a create model has the value that its type reads, or its default. -/
theorem exists_value_of_createModel {items : Dict Json}
    (h : (createModel connectionCreateRequest (createFields spec variant)).parseInputs
      (toFieldInputs items) = .ok p) {name : String} {type : FieldType} {default : Option Json}
    (hf : Field.of name type default ∈
      (createModel connectionCreateRequest (createFields spec variant)).fields) :
    ∃ value, p.value.dump.lookup name = some value ∧
      ((∃ input r, type.readJson input = .ok r ∧ value = r.value.toJson) ∨
        default = some value) := by
  have hnames : ((createModel connectionCreateRequest
      (createFields spec variant)).fields.map Field.name).Nodup := by
    rw [fields_createModel]
    simp [Field.required, Field.emptyDict, FieldInfo.named, Field.of]
  obtain ⟨values, entry, ⟨-, hentry⟩, hlookup⟩ :=
    (keepsKeys_createModels spec variant).lookup_dump hnames h hf
  refine ⟨_, hlookup, ?_⟩
  rcases hentry with ⟨input, hinput, -, hread⟩ | ⟨-, -, d, hd, hentry⟩
  · left
    rw [Field.lookup_of_noAlias rfl, lookup_toFieldInputs] at hinput
    obtain ⟨value, -, rfl⟩ := Option.map_eq_some_iff.mp hinput
    have hplain : (Field.of name type default).NoValidators := ⟨fun _ => rfl, fun _ _ => rfl⟩
    rw [hplain.readInput] at hread
    exact ⟨value, entry.2.1, hread, rfl⟩
  · right
    rw [hentry]
    exact hd

/-- The labels of a dictionary of strings. -/
theorem exists_toLabels {items : Dict Json}
    (h : (items.all fun item => item.2.str?.isSome) = true) :
    ∃ labels, toLabels? (.obj items) = some labels := by
  have hstrings : ∀ item ∈ items, ∃ s, item.2 = .str s := by
    intro item hitem
    obtain ⟨s, hs⟩ := Option.isSome_iff_exists.mp (List.all_eq_true.mp h item hitem)
    exact ⟨s, Json.str?_eq_some hs⟩
  obtain ⟨labels, hl⟩ := Dict.exists_strings? hstrings
  exact ⟨labels, by simp [toLabels?, Json.obj?, hl]⟩

/-- A field of strings reads a string. -/
theorem exists_toStr {input : Json} {r : FieldReading} (h : FieldType.str.readJson input = .ok r) :
    ∃ s, toStr? r.value.toJson = some s := by
  unfold FieldType.readJson at h
  split at h
  · cases h
    exact ⟨_, rfl⟩
  · cases h

/-- A field of dictionaries reads a dictionary. -/
theorem exists_toDict {input : Json} {r : FieldReading}
    (h : FieldType.dict.readJson input = .ok r) : ∃ items, toDict? r.value.toJson = some items := by
  unfold FieldType.readJson at h
  split at h
  · cases h
    exact ⟨_, rfl⟩
  · cases h

/-- A field of labels reads labels. -/
theorem exists_toLabels_of_read {input : Json} {r : FieldReading}
    (h : FieldType.strDict.readJson input = .ok r) :
    ∃ labels, toLabels? r.value.toJson = some labels := by
  unfold FieldType.readJson at h
  split at h
  · split at h
    · rename_i hall
      cases h
      exact exists_toLabels hall
    · cases h
  · cases h

/-- Only the empty string is read as an empty name. -/
theorem toStr_ne_empty {value : Json} (h : value ≠ .str "") : toStr? value ≠ some "" := by
  cases value <;> simp_all [toStr?, Json.str?]

/-- A body is read by the model of a registered type with one of its drivers. -/
theorem exists_variant_of_readBody {base : ModelDecl}
    {fields : TypeSpec → DriverVariant → List Field} {schema : List ModelDecl}
    (hschema : schema = (typedModels registry base false fields).map Prod.snd)
    (hread : readBody schema body = .ok p) :
    ∃ items type variant, (type.name, type) ∈ registry.types ∧
      variant ∈ buildDriverVariants type false ∧
      (createModel base (fields type variant)).parseInputs (toFieldInputs items) = .ok p := by
  obtain ⟨items, model, hmodel, hparse⟩ := exists_items_of_readBody hread
  rw [hschema] at hmodel
  obtain ⟨⟨type, model'⟩, hmember, rfl⟩ := List.mem_map.mp hmodel
  obtain ⟨htype, variant, hvariant, rfl⟩ := mem_typedModels_iff.mp hmember
  exact ⟨items, type, variant, ConnectionRegistry.mem_listTypes.mp htype, hvariant, hparse⟩

/-- What the create schema reads is a proper draft, if its extension fields fit those of a response.
-/
theorem proper_toCreateDraft (hdrivers : registry.NamesDrivers)
    (hspec : (spec.name, spec) ∈ registry.types)
    (hread : readBody (defaultSchemas registry parseDatetime).create body = .ok p)
    (hextra : ReservedFits parseDatetime (extractDraftExtra p.value.dump)) :
    (toCreateDraft p.value.dump).Proper parseDatetime := by
  obtain ⟨items, type, variant, htype, hvariant, hparse⟩ :=
    exists_variant_of_readBody (buildUnion_typedModels hspec _ _ false createFields) hread
  have hvalue := @exists_value_of_createModel type variant p items hparse
  simp only [fields_createModel] at hvalue
  have hname : (toCreateDraft p.value.dump).name ≠ none := by
    obtain ⟨value, hlookup, ⟨input, r, hr, rfl⟩ | hnone⟩ :=
      @hvalue "name" .str none (by simp [Field.required])
    · obtain ⟨s, hs⟩ := exists_toStr hr
      simp [toCreateDraft, hlookup, hs]
    · cases hnone
  have hdriver : (toCreateDraft p.value.dump).driver ≠ some "" := by
    obtain ⟨value, hlookup, hdriver⟩ := @hvalue "driver" variant.driverField.1
      variant.driverField.2 (by simp [FieldInfo.named])
    have hne : value ≠ .str "" := by
      rcases hdriver with ⟨input, r, hr, rfl⟩ | hdefault
      · obtain ⟨value, rfl, hne⟩ := readJson_driverField (hdrivers.named type htype) hvariant hr
        exact hne
      · rw [default_driverField hvariant value hdefault]
        simp
    simpa [toCreateDraft, hlookup] using toStr_ne_empty hne
  have hlabels : (toCreateDraft p.value.dump).labels ≠ none := by
    obtain ⟨value, hlookup, ⟨input, r, hr, rfl⟩ | hdefault⟩ :=
      @hvalue "labels" .strDict (some (.obj [])) (by simp [Field.emptyDict])
    · obtain ⟨labels, hl⟩ := exists_toLabels_of_read hr
      simp [toCreateDraft, hlookup, hl]
    · cases hdefault
      simp [toCreateDraft, hlookup, toLabels?, Json.obj?, Dict.strings?]
  have hmetadata : (toCreateDraft p.value.dump).metadata ≠ none := by
    obtain ⟨value, hlookup, ⟨input, r, hr, rfl⟩ | hdefault⟩ :=
      @hvalue "metadata" .dict (some (.obj [])) (by simp [Field.emptyDict])
    · obtain ⟨items, hi⟩ := exists_toDict hr
      simp [toCreateDraft, hlookup, hi]
    · cases hdefault
      simp [toCreateDraft, hlookup, toDict?, Json.obj?]
  refine ⟨hname, hdriver, ⟨hlabels, hmetadata, Option.some_ne_none _⟩, ?_⟩
  rintro extra ⟨⟩
  refine ⟨fun key hkey => ?_, hextra⟩
  rw [lookup_extractDraftExtra, if_pos hkey]

/-- An update schema takes no driver without a name. -/
theorem driver_toPatch (hdrivers : registry.NamesDrivers)
    (hspec : (spec.name, spec) ∈ registry.types)
    (hread : readBody (defaultSchemas registry parseDatetime).update body = .ok p) :
    (toPatch p.dumpSet).driver ≠ .set (some "") := by
  obtain ⟨items, type, variant, htype, hvariant, hparse⟩ :=
    exists_variant_of_readBody (buildUnion_typedModels hspec _ _ false updateFields) hread
  have hkeys : (createModel connectionUpdateRequest (updateFields type variant)).KeepsKeys :=
    keepsKeys_createModel keepsKeys_connectionUpdateRequest
      (by simp [updateFields, FieldInfo.named, Field.optional, Field.of])
  have hfield : variant.driverField.named "driver" ∈
      (createModel connectionUpdateRequest (updateFields type variant)).fields := by
    simp [fields_updateModel]
  have hpatch : (toPatch p.dumpSet).driver = patchValue p.dumpSet "driver" toStr? := rfl
  rw [hpatch]
  unfold patchValue
  cases hl : p.dumpSet.lookup "driver" with
  | none => simp
  | some value =>
    -- The body gives the driver, so the field read it.
    have hgiven : (toFieldInputs items).contains "driver" = true := by
      rw [← hkeys.contains_dumpSet hparse]
      simp [Dict.contains, hl]
    obtain ⟨input, hinput⟩ := Option.isSome_iff_exists.mp hgiven
    obtain ⟨values, r, hr, hlookup⟩ := hkeys.lookup_dumpSet
      (nodup_names_updateModel updateBase_connectionUpdateRequest type variant) hparse hfield input
      hinput
    have hplain : (variant.driverField.named "driver").NoValidators :=
      ⟨fun _ => rfl, fun _ _ => rfl⟩
    rw [hplain.readInput] at hr
    rw [lookup_toFieldInputs] at hinput
    obtain ⟨value', -, rfl⟩ := Option.map_eq_some_iff.mp hinput
    obtain ⟨read, rfl, hne⟩ := readJson_driverField (hdrivers.named type htype) hvariant hr
    have hname : (variant.driverField.named "driver").name = "driver" := rfl
    rw [hname, hl] at hlookup
    cases hlookup
    dsimp only
    intro hempty
    exact toStr_ne_empty hne (PatchValue.set.inj hempty)

end Schemas

end DbConnection
