import DbConnection.PublicProjection
import DbConnection.Sequential

/-!
# Reading a stored connection back

A validated connection passes through the dumps of its models, the encryption of its secrets and
the codec of its driver options into a row, and from there through three decoders and a second
validation. `ReadsBack` collects what each of these steps is assumed to keep. Under it
`written_of_storedAs` says that a row that stores an accepted draft reads without an issue and is
validated as the draft was, and `Written.buildAny_eq_view` that it has a public view if the public
models accept the dumps of accepted values (`PublicAccepts`).
-/

namespace DbConnection

open PyData Pydantic ReadCommitted

/-- The class of driver options is found by its module and qualified name, and reads the dump of
the options back. -/
def OptionsReadBack (importer : Importer) (v : Instance) : Prop :=
  ∃ m, resolveModelRef importer (v.cls.moduleName ++ ":" ++ v.cls.qualname) = .ok m ∧
    driverOptionsBaseRef ∈ m.mro ∧ m.validate (.obj v.dumpJson) = .ok v

/-- Driver options given as an instance read back. -/
def DriverOptions.ReadBack (importer : Importer) : DriverOptions → Prop
  | .model v => OptionsReadBack importer v
  | _ => True

/-- The models and the encryption of a service read back what they write. -/
structure ReadsBack {C : Type} (svc : ConnectionService C) : Prop where
  encryption : ∀ nonce value,
    svc.storage.encryption.decrypt (svc.storage.encryption.encrypt nonce value) = .ok value
  properties : ∀ spec, (spec.name, spec) ∈ svc.registry.types → spec.propertiesModel.ReadsBack
  secrets : ∀ spec, (spec.name, spec) ∈ svc.registry.types →
    ∀ m, spec.secretsModel = some m → m.ReadsBack
  driverOptions : ∀ spec, (spec.name, spec) ∈ svc.registry.types →
    ∀ driverSpec ∈ spec.driverSpecs, ∀ payload v,
      driverSpec.optionsModel.validate payload = .ok v → OptionsReadBack svc.storage.importer v

/-- The public models accept the dumps of accepted values. -/
structure PublicAccepts {C : Type} (svc : ConnectionService C) : Prop where
  properties : ∀ spec, (spec.name, spec) ∈ svc.registry.types → ∀ payload v,
    spec.propertiesModel.validate payload = .ok v →
      ∃ p, spec.publicOrPropertiesModel.validate (.obj v.dump) = .ok p
  driverOptions : ∀ spec, (spec.name, spec) ∈ svc.registry.types →
    ∀ driverSpec ∈ spec.driverSpecs, driverSpec.optionsModel.isNoDriverOptions = false →
      ∀ raw v, raw.ReadBack svc.storage.importer →
        driverSpec.optionsModel.validateOptions raw = .ok v →
          ∃ p, driverSpec.publicOptionsModel.validate (.obj v.dump) = .ok p

/-! ## Driver options -/

section DriverOptions

variable {importer : Importer} {spec : TypeSpec} {connectionType : String}
  {driver : Option String} {raw : DriverOptions}

/-- Accepted options are those of a driver that takes options. -/
theorem validateDriverOptions_eq_some {v : Instance}
    (h : validateDriverOptions spec connectionType driver raw = .ok (some v)) :
    ∃ name driverSpec, driver = some name ∧ resolveDriverSpec spec name = some driverSpec ∧
      driverSpec.optionsModel.isNoDriverOptions = false ∧
      driverSpec.optionsModel.validateOptions raw = .ok v := by
  unfold validateDriverOptions at h
  split at h
  · split at h <;> cases h
  · rename_i name
    split at h
    · cases h
    · rename_i driverSpec hr
      split at h
      · split at h <;> cases h
      · rename_i hno
        refine ⟨name, driverSpec, rfl, hr, by simpa using hno, ?_⟩
        cases ho : driverSpec.optionsModel.validateOptions raw with
        | error e => simp [ho] at h
        | ok w =>
          simp only [ho, Except.ok.injEq, Option.some.injEq] at h
          rw [h]

/-- A driver found by name is one of the type's. -/
theorem mem_of_resolveDriverSpec {name : String} {driverSpec : DriverSpec}
    (h : resolveDriverSpec spec name = some driverSpec) : driverSpec ∈ spec.driverSpecs :=
  List.mem_of_find?_eq_some h

/-- Accepted options are an instance of the options model. -/
theorem OptionsModel.isInstance_of_validateOptions {m : OptionsModel} {v : Instance}
    (h : m.validateOptions raw = .ok v) : v.isInstance m.ref = true := by
  have hmem : m.ref ∈ m.mro := by
    have hd := m.derives
    unfold ModelClass.ref
    cases hm : m.mro with
    | nil => simp [hm] at hd
    | cons c cs => simp
  cases raw with
  | none => exact ModelClass.isInstance_of_validate h hmem
  | raw items => exact ModelClass.isInstance_of_validate h hmem
  | model w =>
    simp only [validateOptions, ModelClass.validateInstance] at h
    split at h
    · rename_i hw
      cases h
      exact hw
    · cases h

/-- Validating accepted options again gives the same options. -/
theorem validateDriverOptions_ofOption {v : Option Instance}
    (h : validateDriverOptions spec connectionType driver raw = .ok v) :
    validateDriverOptions spec connectionType driver (.ofOption v) = .ok v := by
  cases v with
  | none =>
    unfold validateDriverOptions at h ⊢
    split at h
    · rfl
    · split at h
      · cases h
      · split at h
        · rename_i hno
          simp [hno, DriverOptions.ofOption, isEmptyDriverOptions]
        · split at h <;> cases h
  | some v =>
    -- `model_validate` takes an instance of the model as it is.
    obtain ⟨name, driverSpec, rfl, hr, hno, hv⟩ := validateDriverOptions_eq_some h
    have hi := OptionsModel.isInstance_of_validateOptions hv
    simp [validateDriverOptions, hr, hno, DriverOptions.ofOption, OptionsModel.validateOptions,
      ModelClass.validateInstance, hi]

/-- Accepted options read back if options given as an instance do. -/
theorem optionsReadBack_of_validate {v : Instance}
    (hmodels : ∀ driverSpec ∈ spec.driverSpecs, ∀ payload w,
      driverSpec.optionsModel.validate payload = .ok w → OptionsReadBack importer w)
    (hraw : raw.ReadBack importer)
    (h : validateDriverOptions spec connectionType driver raw = .ok (some v)) :
    OptionsReadBack importer v := by
  obtain ⟨name, driverSpec, -, hr, -, hv⟩ := validateDriverOptions_eq_some h
  have hmem := mem_of_resolveDriverSpec hr
  cases raw with
  -- The model read the options, unless they were an instance of it already.
  | none => exact hmodels driverSpec hmem _ v hv
  | raw items => exact hmodels driverSpec hmem _ v hv
  | model w =>
    simp only [OptionsModel.validateOptions, ModelClass.validateInstance] at hv
    split at hv
    · cases hv
      exact hraw
    · cases hv

/-- Options that read back are stored. -/
theorem OptionsReadBack.exists_bound {v : Instance} (h : OptionsReadBack importer v) :
    processBindParam (.model v) = .ok (.obj
      [("model_ref", .str (v.cls.moduleName ++ ":" ++ v.cls.qualname)),
        ("data", .obj v.dumpJson)]) := by
  obtain ⟨m, -, hbase, hv⟩ := h
  simp [processBindParam, ModelClass.isInstance_of_validate hv hbase]

/-- Stored options that read back are decoded as themselves. -/
theorem decodeDriverOptions_of_processBindParam {v : Option Instance} {json : Json}
    (hv : ∀ o, v = some o → OptionsReadBack importer o)
    (h : processBindParam (.ofOption v) = .ok json) :
    decodeDriverOptions importer json = ⟨v, .null, none⟩ := by
  cases v with
  | none =>
    cases h
    rfl
  | some o =>
    have hback := hv o rfl
    rw [DriverOptions.ofOption, hback.exists_bound] at h
    cases h
    obtain ⟨m, hm, hbase, ho⟩ := hback
    simp [decodeDriverOptions, processResultValue, List.lookup_cons, hm, hbase, ho]

end DriverOptions

/-! ## Rows -/

section Rows

variable {C : Type} {svc : ConnectionService C} {env : CallEnv} {draft : ConnectionDraft}
  {spec : TypeSpec} {v : ValidatedConnection} {row : Row C}

/-- The row reads without an issue and is validated as `v`, and its driver options read back. -/
structure Written (svc : ConnectionService C) (row : Row C) (v : ValidatedConnection) :
    Prop where
  readIssues : (toRecord svc.storage row).readIssues = []
  validate : validate svc.registry (toRecord svc.storage row).toDraft = .ok v
  driverOptions :
    (DriverOptions.ofOption (toRecord svc.storage row).driverOptions).ReadBack svc.storage.importer

/-- Labels that were stored are read as themselves. -/
theorem readLabels_labelsJson (labels : Dict String) :
    readLabels (labelsJson (some labels)) = ⟨labels, .null, none⟩ := by
  simp [readLabels, coerceMapping, labelsJson, Json.ofStrDict, Json.obj?, Dict.strings?_map_str]

/-- A row that stores an accepted draft reads without an issue, as the dumps of what the draft was
validated as. -/
theorem toRecord_of_storedAs (hback : ReadsBack svc) (hraw : draft.driverOptions.ReadBack
    svc.storage.importer) (h : Validates svc.registry draft spec v)
    (hs : StoredAs svc.storage env draft v row) :
    (toRecord svc.storage row).readIssues = [] ∧
      (toRecord svc.storage row).toDraft =
        { draft with
          driverOptions := .ofOption v.driverOptions
          properties := some v.properties.dumpJson
          secrets := some ((v.secrets.map Instance.dumpJson).getD []) } ∧
      (toRecord svc.storage row).driverOptions = v.driverOptions := by
  have hmem := ConnectionRegistry.mem_types_of_getType h.type
  -- Each column is read as what was stored in it.
  have ho : decodeDriverOptions svc.storage.importer row.driverOptionsJson =
      ⟨v.driverOptions, .null, none⟩ := by
    refine decodeDriverOptions_of_processBindParam (fun o hv => ?_) hs.driverOptions
    exact optionsReadBack_of_validate (hback.driverOptions spec hmem) hraw
      (hv ▸ h.driverOptions)
  have hp : readProperties row.propertiesJson = ⟨v.properties.dumpJson, .null, none⟩ := by
    rw [hs.properties]
    rfl
  have hsec : decodeSecrets svc.storage.encryption row.secretsCiphertext =
      ⟨(v.secrets.map Instance.dumpJson).getD [], .null, none⟩ := by
    rw [hs.secrets]
    exact decodeSecrets_of_decrypt (hback.encryption _ _)
  have hl : readLabels row.labelsJson = ⟨v.labels, .null, none⟩ := by
    rw [hs.labels, h.labels, readLabels_labelsJson]
  have hm : readMetadata row.metadataJson = ⟨v.metadata, .null, none⟩ := by
    rw [hs.metadata, h.metadata]
    rfl
  have he : readExtra row.extraJson = ⟨v.extra, .null, none⟩ := by
    rw [hs.extra, h.extra]
    rfl
  refine ⟨?_, ?_, ?_⟩
  · simp [toRecord, ho, hp, hsec, hl, hm, he]
  · have h1 := hs.name
    have h2 := hs.kind
    have h3 := hs.type
    have h4 := hs.driver
    have h5 := h.labels
    have h6 := h.metadata
    have h7 := h.extra
    cases draft
    simp only at h1 h2 h3 h4 h5 h6 h7
    simp [toRecord, ConnectionRecord.toDraft, ho, hp, hsec, hl, hm, he, h1, h2, h3, h4, h5, h6, h7]
  · simp [toRecord, ho]

/-- An accepted draft with the dumps of what it was validated as is validated as the same. -/
theorem Validates.dumped (hback : ReadsBack svc) (h : Validates svc.registry draft spec v) :
    Validates svc.registry
      { draft with
        driverOptions := .ofOption v.driverOptions
        properties := some v.properties.dumpJson
        secrets := some ((v.secrets.map Instance.dumpJson).getD []) } spec v := by
  have hmem := ConnectionRegistry.mem_types_of_getType h.type
  refine ⟨h.type, h.kind, h.driver, hback.properties spec hmem _ _ h.properties, ?_,
    validateDriverOptions_ofOption h.driverOptions, h.labels, h.metadata, h.extra, h.name,
    h.kind_eq, h.type_eq, h.driver_eq⟩
  have hs := h.secrets
  unfold SecretsRead at hs ⊢
  cases hm : spec.secretsModel with
  | none =>
    rw [hm] at hs
    exact hs
  | some m =>
    rw [hm] at hs
    obtain ⟨s, hv, hsome⟩ := hs
    rw [hsome]
    exact ⟨s, hback.secrets spec hmem m hm _ _ hv, rfl⟩

/-- A row that stores an accepted draft is written as what the draft was validated as. -/
theorem written_of_storedAs (hback : ReadsBack svc) (hraw : draft.driverOptions.ReadBack
    svc.storage.importer) (h : Validates svc.registry draft spec v)
    (hs : StoredAs svc.storage env draft v row) : Written svc row v := by
  obtain ⟨hissues, hdraft, hoptions⟩ := toRecord_of_storedAs hback hraw h hs
  refine ⟨hissues, ?_, ?_⟩
  · rw [hdraft]
    exact validate_eq_ok_iff.mpr ⟨spec, h.dumped hback⟩
  · rw [hoptions]
    cases hv : v.driverOptions with
    | none => trivial
    | some o =>
      have hmem := ConnectionRegistry.mem_types_of_getType h.type
      exact optionsReadBack_of_validate (hback.driverOptions spec hmem) hraw
        (hv ▸ h.driverOptions)

/-- Accepted options have a public form: none for none, and otherwise what the public model of their
driver reads of their dump. -/
theorem exists_publicDriverOptions (hpublic : PublicAccepts svc)
    (hmem : (spec.name, spec) ∈ svc.registry.types) {connectionType : String}
    {driver : Option String} {raw : DriverOptions} {options : Option Instance}
    (hraw : raw.ReadBack svc.storage.importer)
    (h : validateDriverOptions spec connectionType driver raw = .ok options) :
    ∃ o, buildPublicDriverOptions spec connectionType driver raw = .ok o ∧
      (options = none → o = none) ∧
      ∀ w, options = some w → ∃ name driverSpec q, driver = some name ∧
        resolveDriverSpec spec name = some driverSpec ∧
        driverSpec.optionsModel.isNoDriverOptions = false ∧
        driverSpec.publicOptionsModel.validate (.obj w.dump) = .ok q ∧ o = some q := by
  unfold buildPublicDriverOptions
  rw [h]
  cases options with
  | none => exact ⟨none, rfl, fun _ => rfl, fun w hw => absurd hw (by simp)⟩
  | some w =>
    obtain ⟨name, driverSpec, heff, hr, hno, hw⟩ := validateDriverOptions_eq_some h
    obtain ⟨q, hq⟩ := hpublic.driverOptions spec hmem driverSpec (mem_of_resolveDriverSpec hr)
      hno raw w hraw hw
    refine ⟨some q, by simp [heff, hr, hq], fun hn => absurd hn (by simp), fun w' hw' => ?_⟩
    cases hw'
    exact ⟨name, driverSpec, q, heff, hr, hno, hq, rfl⟩

/-- A written row has a public view. -/
theorem Written.exists_view (hpublic : PublicAccepts svc) (h : Written svc row v) :
    ∃ view, buildAny svc.registry (toRecord svc.storage row) = .ok (.view view) := by
  obtain ⟨spec, hv⟩ := validate_eq_ok_iff.mp h.validate
  have hmem := ConnectionRegistry.mem_types_of_getType hv.type
  obtain ⟨p, hp⟩ := hpublic.properties spec hmem _ _ hv.properties
  -- The stored dump is validated as it was when it was written, so its parts have public forms.
  have hproperties : publicProperties spec (toRecord svc.storage row).properties = .ok p :=
    bind_eq_ok_iff.mpr ⟨_, hv.properties, hp⟩
  have hsecrets : ∀ m, spec.secretsModel = some m →
      ∃ s, m.validate (.obj (toRecord svc.storage row).secrets) = .ok s := by
    intro m hm
    have hs := hv.secrets
    unfold SecretsRead at hs
    rw [hm] at hs
    obtain ⟨s, hs, -⟩ := hs
    exact ⟨s, hs⟩
  obtain ⟨o, ho, -⟩ := exists_publicDriverOptions hpublic hmem h.driverOptions hv.driverOptions
  exact ⟨_, buildAny_eq_view hv.type hv.kind h.readIssues hproperties ho hsecrets⟩

end Rows

end DbConnection
