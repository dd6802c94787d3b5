import DbConnection.Mapper

/-!
# Which model reads the properties of a PATCH

An update body names no type, so every update model of every registered type that accepts it is in
the running, and pydantic takes the one with the most fields set, then the exactest, then the
leftmost. `patch_properties_iff` says when the properties of the patch are those that the models
of a given type read: when every model that reads them otherwise comes after one that does not.
-/

namespace DbConnection

open PyData Pydantic ReadCommitted

/-- The readings of a body by the update models that accept it, each with its type. -/
def updateReadings (registry : ConnectionRegistry) (base : ModelDecl) (body : Dict Json) :
    List (TypeSpec × Parsed) :=
  (buildTypedUpdateModels registry base).filterMap fun member =>
    (member.2.parse (.obj body)).toOption.map fun r => (member.1, r)

/-- The properties model of a type reads a value, and the fields it sets are `set`. -/
def ReadsAs (spec : TypeSpec) (value : Json) (set : Dict Json) : Prop :=
  ∃ r, spec.propertiesModel.parse value = .ok r ∧ r.dumpSet = set

/-- The update schema reads a body as pydantic chooses among the readings of its models. -/
theorem smartUnion_updateReadings {registry : ConnectionRegistry} {spec : TypeSpec}
    (h : (spec.name, spec) ∈ registry.types) {base : ModelDecl} {body : Dict Json} {r : Parsed}
    (hread : readBody (buildConnectionUpdateModel registry base) (.obj body) = .ok r) :
    smartUnion ((updateReadings registry base body).map Prod.snd) = some r := by
  have hreadings : (updateReadings registry base body).map Prod.snd =
      (((buildTypedUpdateModels registry base).map Prod.snd).map fun model =>
        model.parse (.obj body)).filterMap Except.toOption := by
    unfold updateReadings
    rw [List.map_filterMap, List.filterMap_map, List.filterMap_map]
    congr 1
    funext member
    simp [Function.comp_def]
  have hmembers : buildConnectionUpdateModel registry base =
      (buildTypedUpdateModels registry base).map Prod.snd :=
    buildUnion_typedModels h base connectionUpdateRequest false updateFields
  have hunion := (unionOf_eq_ok_iff.mp hread).2
  rw [hmembers, ← hreadings] at hunion
  exact hunion

/-- The base model of an update schema: it keeps keys, names each field once, and has no validators
on the properties. -/
structure UpdateBase (base : ModelDecl) : Prop where
  keepsKeys : base.KeepsKeys
  names : (base.fields.map Field.name).Nodup
  properties : ∀ field ∈ base.fields, field.name = "properties" → field.NoValidators

/-- `ConnectionUpdateRequest` is a base model. -/
theorem updateBase_connectionUpdateRequest : UpdateBase connectionUpdateRequest where
  keepsKeys := keepsKeys_connectionUpdateRequest
  names := by decide
  properties := by
    intro field hf _
    simp only [connectionUpdateRequest, requestModel, ModelDecl.ofFields, List.mem_cons,
      List.not_mem_nil, or_false] at hf
    rcases hf with rfl | rfl | rfl | rfl | rfl | rfl | rfl <;>
      exact ⟨fun _ => rfl, fun _ _ => rfl⟩

/-- The names of a generated model's fields. -/
theorem names_createModel (base : ModelDecl) (fields : List Field) :
    (createModel base fields).fields.map Field.name = base.fields.map Field.name ++
      (fields.map Field.name).filter fun name => !(base.fields.map Field.name).contains name := by
  unfold createModel
  rw [List.map_append, List.map_map, List.filter_map]
  congr 1
  · refine List.map_congr_left fun old _ => ?_
    simp only [Function.comp_apply]
    split
    · rename_i found hf
      have hn := List.find?_some hf
      simpa using hn
    · rfl
  · congr 2
    funext field
    refine congrArg (!·) ?_
    rw [Bool.eq_iff_iff, List.any_eq_true, List.contains_iff_mem, List.mem_map]
    simp only [beq_iff_eq]

/-- An update model names each field once. -/
theorem nodup_names_updateModel {base : ModelDecl} (hbase : UpdateBase base) (spec : TypeSpec)
    (variant : DriverVariant) :
    ((createModel base (updateFields spec variant)).fields.map Field.name).Nodup := by
  rw [names_createModel]
  have hfields : ((updateFields spec variant).map Field.name).Nodup := by
    simp [updateFields, FieldInfo.named, Field.optional, Field.of]
  refine List.nodup_append.mpr ⟨hbase.names, hfields.filter _, fun name hname other hother => ?_⟩
  rintro rfl
  have hnot := (List.mem_filter.mp hother).2
  simp only [Bool.not_eq_true', List.contains_eq_mem, decide_eq_false_iff_not] at hnot
  exact hnot hname

/-- An update model has a field that reads the properties by the type's model, or `None`. -/
theorem exists_properties_field {base : ModelDecl} (hbase : UpdateBase base) (spec : TypeSpec)
    (variant : DriverVariant) :
    ∃ field ∈ (createModel base (updateFields spec variant)).fields, field.name = "properties" ∧
      field.type = .nullable (.model spec.propertiesModel) ∧ field.NoValidators := by
  have hfind : (updateFields spec variant).find? (fun field => field.name == "properties") =
      some (.optional "properties" (.model spec.propertiesModel)) := by
    simp [updateFields, FieldInfo.named, Field.optional, Field.of]
  by_cases hold : ∃ old ∈ base.fields, old.name = "properties"
  · obtain ⟨old, hmem, hname⟩ := hold
    refine ⟨{ Field.optional "properties" (.model spec.propertiesModel) with
      before := old.before, after := old.after }, ?_, rfl, rfl, hbase.properties old hmem hname⟩
    refine List.mem_append_left _ (List.mem_map.mpr ⟨old, hmem, ?_⟩)
    rw [hname, hfind]
  · refine ⟨.optional "properties" (.model spec.propertiesModel), ?_, rfl, rfl,
      fun _ => rfl, fun _ _ => rfl⟩
    refine List.mem_append_right _ (List.mem_filter.mpr ⟨List.mem_of_find?_eq_some hfind, ?_⟩)
    simp only [Bool.not_eq_true', List.any_eq_false, beq_iff_eq]
    exact fun old hmem hname => hold ⟨old, hmem, hname⟩

/-- Each reading has the properties that its type's model read. -/
theorem lookup_properties_of_mem {registry : ConnectionRegistry} {base : ModelDecl}
    (hbase : UpdateBase base) {body : Dict Json} {p : Json}
    (hp : body.lookup "properties" = some p) (hnull : p ≠ .null) {spec : TypeSpec} {r : Parsed}
    (h : (spec, r) ∈ updateReadings registry base body) :
    ∃ rp, spec.propertiesModel.parse p = .ok rp ∧
      r.dumpSet.lookup "properties" = some (.obj rp.dumpSet) := by
  unfold updateReadings at h
  obtain ⟨⟨type, model⟩, hmember, hr⟩ := List.mem_filterMap.mp h
  obtain ⟨r', hparse, heq⟩ := Option.map_eq_some_iff.mp hr
  cases heq
  have hok : model.parseInputs (toFieldInputs body) = .ok r := toOption_eq_some_iff.mp hparse
  obtain ⟨-, variant, -, rfl⟩ := mem_typedModels_iff.mp hmember
  have hkeys : (createModel base (updateFields type variant)).KeepsKeys :=
    keepsKeys_createModel hbase.keepsKeys
      (by simp [updateFields, FieldInfo.named, Field.optional, Field.of])
  obtain ⟨field, hfield, hname, htype, hplain⟩ := exists_properties_field hbase type variant
  obtain ⟨values, reading, hreading, hlookup⟩ := hkeys.lookup_dumpSet
    (nodup_names_updateModel hbase type variant) hok hfield (.json p)
    (by rw [hname, lookup_toFieldInputs, hp]; rfl)
  rw [hplain.readInput, htype] at hreading
  -- The value is not `None`, so the model reads it.
  have hmodel : FieldType.read (.nullable (.model type.propertiesModel)) (.json p) =
      FieldType.readJson (.model type.propertiesModel) p := by
    cases p <;> first | rfl | exact absurd rfl hnull
  rw [hmodel] at hreading
  unfold FieldType.readJson at hreading
  cases hrp : type.propertiesModel.parse p with
  | error e => cases e <;> simp [hrp] at hreading
  | ok rp =>
    simp only [hrp, Except.ok.injEq] at hreading
    subst hreading
    rw [hname] at hlookup
    exact ⟨rp, rfl, hlookup⟩

/-- For every registry and every update body with properties that the model of a registered type
accepts: the patch has the properties as that model reads them exactly when every update model that
reads them otherwise comes after one that reads them so. -/
theorem patch_properties_iff (registry : ConnectionRegistry) (base : ModelDecl)
    (hbase : UpdateBase base) (spec : TypeSpec) (hspec : (spec.name, spec) ∈ registry.types)
    (body : Dict Json) (p : Json) (hp : body.lookup "properties" = some p) (hnull : p ≠ .null)
    (haccepts : ∃ own, spec.propertiesModel.parse p = .ok own) (payload : Parsed)
    (hread : readBody (buildConnectionUpdateModel registry base) (.obj body) = .ok payload) :
    ∃ own, spec.propertiesModel.parse p = .ok own ∧
      ((toPatch payload.dumpSet).properties = .set (some own.dumpSet) ↔
        ∀ left other r right,
          updateReadings registry base body = left ++ (other, r) :: right →
          ¬ ReadsAs other p own.dumpSet →
            ∃ first r', ReadsAs first p own.dumpSet ∧
              (((first, r') ∈ left ∧ r.outranks r' = false) ∨
                ((first, r') ∈ right ∧ r'.outranks r = true))) := by
  obtain ⟨own, hown⟩ := haccepts
  refine ⟨own, hown, ?_⟩
  obtain ⟨winner, hmem, hiff⟩ := smartUnion_tag_iff (smartUnion_updateReadings hspec hread)
    fun type => ReadsAs type p own.dumpSet
  rw [← hiff]
  -- The patch has the properties as the winner's type reads them.
  obtain ⟨rp, hrp, hlookup⟩ := lookup_properties_of_mem hbase hp hnull hmem
  have hpatch : (toPatch payload.dumpSet).properties = .set (some rp.dumpSet) := by
    simp [toPatch, patchValue, hlookup, toDict?, Json.obj?]
  rw [hpatch]
  constructor
  · intro h
    simp only [PatchValue.set.injEq, Option.some.injEq] at h
    exact ⟨rp, hrp, h⟩
  · rintro ⟨rp', hrp', hset⟩
    rw [hrp] at hrp'
    cases hrp'
    rw [hset]

/-- The update schema of the default registry. -/
def defaultUpdateModel : List ModelDecl :=
  buildConnectionUpdateModel (defaultRegistry emptyHost) connectionUpdateRequest

/-- The properties of an S3 bucket. -/
def bucketProperties : Json := .obj [("bucket", .str "backups"), ("prefix", .str "daily")]

/-- No model comes before that of S3 with another reading of a bucket. -/
theorem patch_properties_iff_bucket :
    ∃ own, (s3Properties emptyHost).parse bucketProperties = .ok own ∧
      ∀ left other r right, updateReadings (defaultRegistry emptyHost) connectionUpdateRequest
          [("properties", bucketProperties)] = left ++ (other, r) :: right →
        ¬ ReadsAs other bucketProperties own.dumpSet →
          ∃ first r', ReadsAs first bucketProperties own.dumpSet ∧
            (((first, r') ∈ left ∧ r.outranks r' = false) ∨
              ((first, r') ∈ right ∧ r'.outranks r = true)) := by
  obtain ⟨payload, hread⟩ : ∃ payload, readBody defaultUpdateModel
      (.obj [("properties", bucketProperties)]) = .ok payload :=
    exists_eq_ok_of_isSome (by decide +kernel)
  obtain ⟨own, hown, hiff⟩ := patch_properties_iff (defaultRegistry emptyHost)
    connectionUpdateRequest updateBase_connectionUpdateRequest
    (builtinType "s3" "file" (s3Properties emptyHost) s3Secrets "S3Connector")
    (by simp [defaultRegistry, defaultTypes, builtinType])
    [("properties", bucketProperties)] bucketProperties rfl (by decide)
    (exists_eq_ok_of_isSome (by decide +kernel)) payload hread
  refine ⟨own, hown, hiff.mp ?_⟩
  have heq : (readBody defaultUpdateModel (.obj [("properties", bucketProperties)])).toOption.map
      (fun r => (toPatch r.dumpSet).properties) =
        ((s3Properties emptyHost).parse bucketProperties).toOption.map fun r =>
          .set (some r.dumpSet) := by
    decide +kernel
  have hown' : (s3Properties emptyHost).parse bucketProperties = .ok own := hown
  rw [hread, hown'] at heq
  exact Option.some.inj heq

/-- The properties of an SFTP server on port 990. -/
def sftpOnPort990 : Dict Json :=
  [("host", .str "files.example"), ("port", .int 990), ("username", .str "backup")]

/-- The FTP model reads the properties of an SFTP server in the place of the SFTP model, and
rewrites the port. -/
theorem ftp_rewrites_port_of_sftp :
    ∃ payload own, readBody defaultUpdateModel (.obj [("properties", .obj sftpOnPort990)]) =
        .ok payload ∧
      (sftpProperties emptyHost).parse (.obj sftpOnPort990) = .ok own ∧
      own.dumpSet = sftpOnPort990 ∧
      (toPatch payload.dumpSet).properties = .set (some [("host", .str "files.example"),
        ("port", .int 21), ("username", .str "backup")]) ∧
      (toPatch payload.dumpSet).properties ≠ .set (some own.dumpSet) := by
  obtain ⟨payload, hread⟩ : ∃ payload, readBody defaultUpdateModel
      (.obj [("properties", .obj sftpOnPort990)]) = .ok payload :=
    exists_eq_ok_of_isSome (by decide +kernel)
  obtain ⟨own, hown⟩ : ∃ own, (sftpProperties emptyHost).parse (.obj sftpOnPort990) = .ok own :=
    exists_eq_ok_of_isSome (by decide +kernel)
  have hset : own.dumpSet = sftpOnPort990 := by
    have h : ((sftpProperties emptyHost).parse (.obj sftpOnPort990)).toOption.map Parsed.dumpSet =
        some sftpOnPort990 := by
      decide +kernel
    rw [hown] at h
    exact Option.some.inj h
  have hpatch : (toPatch payload.dumpSet).properties = .set (some [("host", .str "files.example"),
      ("port", .int 21), ("username", .str "backup")]) := by
    have h : (readBody defaultUpdateModel (.obj [("properties", .obj sftpOnPort990)])).toOption.map
        (fun r => (toPatch r.dumpSet).properties) = some (.set (some
          [("host", .str "files.example"), ("port", .int 21), ("username", .str "backup")])) := by
      decide +kernel
    rw [hread] at h
    exact Option.some.inj h
  refine ⟨payload, own, hread, hown, hset, hpatch, ?_⟩
  rw [hpatch, hset]
  decide

end DbConnection
