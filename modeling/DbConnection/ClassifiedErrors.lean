import DbConnection.Checks

/-!
# The errors of an update

`ErrorMapper` answers an exception of the package with a client error and any other with a server
error. `update_classified_iff` says when an update, and the check of a stored connection with a
patch, raises no other. The checks of the validation wrap what they find, but a patch that sets
`labels`, `metadata` or `extra` to `None` reaches `dict(None)` behind them, and one that sets the name
to `None` reaches the column. Only a `ValidationError` of a model is wrapped: what else a validator
raises, such as the `OSError` of a file system, passes (`MeetsException`).
-/

namespace DbConnection

open PyData Pydantic ReadCommitted

/-! ## The error mapper -/

/-- The class of the exception derives from `DBConnectionError`. -/
def PyError.isDBConnectionError : PyError → Bool
  | .connectionNotFound _ => true
  | .connectionTypeNotSupported _ => true
  | .validationFailed _ _ => true
  | .accessDenied _ => true
  | .connectionLimitExceeded _ => true
  | _ => false

/-- `ErrorResponseSpec`, whose headers the mapper leaves empty. -/
structure ErrorResponseSpec where
  statusCode : Nat
  code : String
  message : String
  details : Dict Json
  deriving DecidableEq, Repr

/-- `ErrorMapper.map_exception`, with the code, message and details that each class gives itself. -/
def mapException : PyError → ErrorResponseSpec
  | .accessDenied message => ⟨403, "access_denied", message, []⟩
  | .connectionNotFound connectionId =>
    ⟨404, "connection_not_found", "Connection not found.", [("connection_id", .str connectionId)]⟩
  | .connectionTypeNotSupported connectionType =>
    ⟨400, "connection_type_not_supported", "Connection type is not supported.",
      [("type", .str connectionType)]⟩
  | .validationFailed message details => ⟨422, "validation_failed", message, details⟩
  | .connectionLimitExceeded limit =>
    ⟨409, "connection_limit_exceeded", "Connection limit exceeded.", [("limit", .int limit)]⟩
  | _ => ⟨500, "internal_error", "Internal server error.", []⟩

/-- The call succeeds, or its error is one of the package's, and the mapper answers it with a client
error. -/
def Classified {α : Type} (result : Except PyError α) : Prop :=
  ∀ e, result = .error e → e.isDBConnectionError = true ∧
    400 ≤ (mapException e).statusCode ∧ (mapException e).statusCode < 500

/-- The mapper answers the package's errors, and no others, with a client error. -/
theorem mapException_statusCode (e : PyError) :
    e.isDBConnectionError = true ↔
      400 ≤ (mapException e).statusCode ∧ (mapException e).statusCode < 500 := by
  cases e <;> simp [PyError.isDBConnectionError, mapException]

theorem classified_ok {α : Type} (a : α) : Classified (.ok a : Except PyError α) := by
  intro e he
  cases he

theorem classified_error_iff {α : Type} {e : PyError} :
    Classified (.error e : Except PyError α) ↔ e.isDBConnectionError = true := by
  constructor
  · intro h
    exact (h e rfl).1
  · intro h e' he
    cases he
    exact ⟨h, (mapException_statusCode e).mp h⟩

/-- Which result the call was to have makes no difference to an error. -/
theorem classified_error_congr {α β : Type} {e : PyError} :
    Classified (.error e : Except PyError α) ↔ Classified (.error e : Except PyError β) :=
  classified_error_iff.trans classified_error_iff.symm

/-- A computation is classified exactly if its parts are. -/
theorem classified_bind_iff {α β : Type} {x : Except PyError α} {f : α → Except PyError β} :
    Classified (x >>= f) ↔ Classified x ∧ ∀ a, x = .ok a → Classified (f a) := by
  cases x with
  | error e =>
    rw [error_bind, classified_error_congr (β := α)]
    exact ⟨fun h => ⟨h, fun a ha => by cases ha⟩, fun h => h.1⟩
  | ok a =>
    rw [ok_bind]
    exact ⟨fun h => ⟨classified_ok a, fun b hb => Except.ok.inj hb ▸ h⟩, fun h => h.2 a rfl⟩

/-- A computation is classified if its parts are. -/
theorem Classified.bind {α β : Type} {x : Except PyError α} {f : α → Except PyError β}
    (hx : Classified x) (hf : ∀ a, x = .ok a → Classified (f a)) : Classified (x >>= f) :=
  classified_bind_iff.mpr ⟨hx, hf⟩

/-- What a model's error becomes is classified unless the model raised another exception. -/
theorem isDBConnectionError_ofModel {wrap : ValidationError → PyError}
    (hwrap : ∀ e, (wrap e).isDBConnectionError = true) {e : ModelError} :
    (PyError.ofModel wrap e).isDBConnectionError = true ↔ ∀ exc, e ≠ .raised exc := by
  cases e with
  | validation error => simp [PyError.ofModel, hwrap]
  | raised exc => simp [PyError.ofModel, PyError.isDBConnectionError]

/-- The wrapper of a model's errors is classified unless the model raised another exception. -/
theorem classified_wrapValidationError_iff {α : Type} {message : String} {x : Except ModelError α} :
    Classified (wrapValidationError message x) ↔ ∀ exc, x ≠ .error (.raised exc) := by
  cases x with
  | ok a => simp [wrapValidationError, classified_ok]
  | error e =>
    unfold wrapValidationError
    rw [classified_error_iff, isDBConnectionError_ofModel fun _ => rfl]
    simp

/-! ## Validation -/

section Validation

variable (registry : ConnectionRegistry) (draft : ConnectionDraft)

/-- What `validate` does before it copies the dictionaries. -/
def validateFields : Except PyError (TypeSpec × (Instance × Option Instance) × Option Instance) := do
  let spec ← registry.getType draft.type
  checkKind spec draft
  checkDriver spec draft
  let payload ← wrapValidationError "Connection payload validation failed."
    (validatePayload spec draft)
  let driverOptions ← validateDriverOptions spec draft.type (effectiveDriver spec draft.driver)
    draft.driverOptions
  return (spec, payload, driverOptions)

/-- The draft with empty dictionaries in the places of `None`. -/
def ConnectionDraft.withDictionaries : ConnectionDraft :=
  { draft with
    labels := some (draft.labels.getD [])
    metadata := some (draft.metadata.getD [])
    extra := some (draft.extra.getD []) }

/-- The draft has all its dictionaries. -/
def ConnectionDraft.HasDictionaries : Prop :=
  draft.labels ≠ none ∧ draft.metadata ≠ none ∧ draft.extra ≠ none

/-- A model raises another exception than `ValidationError` on its part of the draft, and accepts the
parts that are read before it. -/
inductive ModelRaises (spec : TypeSpec) : Prop where
  | properties (exc : RaisedException)
      (h : spec.propertiesModel.validate (Json.ofObj? draft.properties) = .error (.raised exc))
  | secrets (m : ModelClass) (v : Instance) (exc : RaisedException) (hm : spec.secretsModel = some m)
      (hproperties : spec.propertiesModel.validate (Json.ofObj? draft.properties) = .ok v)
      (h : m.validate (Json.ofObj? draft.secrets) = .error (.raised exc))
  | driverOptions (payload : Instance × Option Instance) (driver : String)
      (driverSpec : DriverSpec) (exc : RaisedException)
      (hpayload : validatePayload spec draft = .ok payload)
      (hdriver : effectiveDriver spec draft.driver = some driver)
      (hspec : resolveDriverSpec spec driver = some driverSpec)
      (hoptions : driverSpec.optionsModel.isNoDriverOptions = false)
      (h : driverSpec.optionsModel.validateOptions draft.driverOptions = .error (.raised exc))

/-- The draft has a known type, its kind and a driver of it, and one of its models raises another
exception than `ValidationError`. -/
def MeetsException : Prop :=
  ∃ spec, registry.getType draft.type = .ok spec ∧ draft.kind = spec.kind ∧
    checkDriver spec draft = .ok () ∧ ModelRaises draft spec

/-- The properties and secrets raise exactly when one of their models does. -/
theorem validatePayload_raised_iff {spec : TypeSpec} :
    (∃ exc, validatePayload spec draft = .error (.raised exc)) ↔
      (∃ exc, spec.propertiesModel.validate (Json.ofObj? draft.properties) =
        .error (.raised exc)) ∨
      ∃ m v exc, spec.secretsModel = some m ∧
        spec.propertiesModel.validate (Json.ofObj? draft.properties) = .ok v ∧
        m.validate (Json.ofObj? draft.secrets) = .error (.raised exc) := by
  unfold validatePayload
  cases hp : spec.propertiesModel.validate (Json.ofObj? draft.properties) with
  | error e => simp [error_bind]
  | ok v =>
    rw [ok_bind]
    cases hm : spec.secretsModel with
    | none => simp
    | some m =>
      cases hs : m.validate (Json.ofObj? draft.secrets) with
      | error e => simp [hs, error_bind]
      | ok s => simp [hs, ok_bind]

/-- The options raise exactly when the model of their driver does. -/
theorem classified_validateDriverOptions_iff {spec : TypeSpec} :
    Classified (validateDriverOptions spec draft.type (effectiveDriver spec draft.driver)
        draft.driverOptions) ↔
      ∀ driver, effectiveDriver spec draft.driver = some driver →
        ∀ driverSpec, resolveDriverSpec spec driver = some driverSpec →
          driverSpec.optionsModel.isNoDriverOptions = false →
            ∀ exc, driverSpec.optionsModel.validateOptions draft.driverOptions ≠
              .error (.raised exc) := by
  have hrefused : ∀ message details, Classified
      (.error (.validationFailed message details) : Except PyError (Option Instance)) :=
    fun _ _ => classified_error_iff.mpr rfl
  unfold validateDriverOptions
  cases effectiveDriver spec draft.driver with
  | none =>
    dsimp only
    split <;> simp [classified_ok, hrefused]
  | some driver =>
    cases hspec : resolveDriverSpec spec driver with
    | none => simp [hrefused, hspec]
    | some driverSpec =>
      simp only [Option.some.injEq, forall_eq', hspec]
      cases driverSpec.optionsModel.isNoDriverOptions with
      | true =>
        rw [if_pos rfl]
        split <;> simp [classified_ok, hrefused]
      | false =>
        cases driverSpec.optionsModel.validateOptions draft.driverOptions with
        | ok v => simp [classified_ok]
        | error e =>
          simp only [Bool.false_eq_true, if_false, classified_error_iff, forall_const]
          rw [isDBConnectionError_ofModel fun _ => rfl]
          simp

/-- The checks of a draft of a known type raise the package's errors only, unless a model raises
another. -/
theorem classified_checks_iff {spec : TypeSpec} :
    Classified (wrapValidationError "Connection payload validation failed."
          (validatePayload spec draft) >>= fun payload =>
        validateDriverOptions spec draft.type (effectiveDriver spec draft.driver)
          draft.driverOptions >>= fun driverOptions =>
            (pure (spec, payload, driverOptions) : Except PyError _)) ↔
      ¬ ModelRaises draft spec := by
  simp only [classified_bind_iff, classified_wrapValidationError_iff,
    wrapValidationError_eq_ok_iff, classified_validateDriverOptions_iff]
  constructor
  · rintro ⟨hpayload, hoptions⟩ hraises
    have hpayload := fun h => (not_exists.mpr hpayload) ((validatePayload_raised_iff draft).mpr h)
    cases hraises with
    | properties exc h => exact hpayload (.inl ⟨exc, h⟩)
    | secrets m v exc hm hp h => exact hpayload (.inr ⟨m, v, exc, hm, hp, h⟩)
    | driverOptions payload driver driverSpec exc hp hdriver hspec hno h =>
      exact (hoptions payload hp).1 driver hdriver driverSpec hspec hno exc h
  · intro hno
    refine ⟨fun exc h => hno ?_, fun payload hp => ⟨?_, fun _ _ => classified_ok _⟩⟩
    · obtain ⟨exc, hp⟩ | ⟨m, v, exc, hm, hp, hs⟩ :=
        (validatePayload_raised_iff draft).mp ⟨exc, h⟩
      · exact .properties exc hp
      · exact .secrets m v exc hm hp hs
    · intro driver hdriver driverSpec hspec hmodel exc h
      exact hno (.driverOptions payload driver driverSpec exc hp hdriver hspec hmodel h)

/-- The checks of a validation raise the package's errors only, unless a model raises another. -/
theorem classified_validateFields_iff :
    Classified (validateFields registry draft) ↔ ¬ MeetsException registry draft := by
  have htype : Classified (registry.getType draft.type) := by
    unfold ConnectionRegistry.getType
    split
    · exact classified_ok _
    · exact classified_error_iff.mpr rfl
  have hkind : ∀ spec, Classified (checkKind spec draft) := by
    intro spec
    unfold checkKind
    split
    · exact classified_ok _
    · exact classified_error_iff.mpr rfl
  have hdriver : ∀ spec, Classified (checkDriver spec draft) := by
    intro spec
    unfold checkDriver
    split
    · exact classified_ok _
    · split
      · exact classified_ok _
      · exact classified_error_iff.mpr rfl
  unfold validateFields MeetsException
  simp only [classified_bind_iff, htype, hkind, hdriver, true_and, not_exists,
    not_and]
  refine forall_congr' fun spec => forall_congr' fun _ => ?_
  rw [← classified_checks_iff, classified_bind_iff]
  simp only [classified_bind_iff]
  constructor
  · exact fun h hk hd => h () (checkKind_eq_ok_iff.mpr hk) () hd
  · exact fun h _ hk _ hd => h (checkKind_eq_ok_iff.mp hk) hd

/-- A validation is its checks and the copies of the dictionaries. -/
theorem validate_eq :
    validate registry draft = validateFields registry draft >>= fun checked => do
      let labels ← dictOf draft.labels
      let metadata ← dictOf draft.metadata
      let extra ← dictOf draft.extra
      return { name := draft.name, kind := draft.kind, type := draft.type,
               driver := effectiveDriver checked.1 draft.driver, driverOptions := checked.2.2,
               properties := checked.2.1.1, secrets := checked.2.1.2, labels := labels,
               metadata := metadata, extra := extra } := by
  unfold validate validateFields
  simp only [bind_assoc, pure_bind]

/-- With empty dictionaries in the places of `None`, the checks are all. -/
theorem validate_withDictionaries_eq_ok_iff :
    (∃ v, validate registry draft.withDictionaries = .ok v) ↔
      ∃ checked, validateFields registry draft = .ok checked := by
  have hfields : validateFields registry draft.withDictionaries = validateFields registry draft := rfl
  rw [validate_eq, hfields]
  simp only [bind_eq_ok_iff, ConnectionDraft.withDictionaries, dictOf_eq_ok_iff, pure, Except.pure,
    Except.ok.injEq]
  constructor
  · rintro ⟨v, checked, hc, -⟩
    exact ⟨checked, hc⟩
  · rintro ⟨checked, hc⟩
    exact ⟨_, checked, hc, _, rfl, _, rfl, _, rfl, rfl⟩

/-- A draft that has its dictionaries keeps them. -/
theorem withDictionaries_of_hasDictionaries {draft : ConnectionDraft}
    (h : draft.HasDictionaries) : draft.withDictionaries = draft := by
  obtain ⟨hlabels, hmetadata, hextra⟩ := h
  obtain ⟨labels, hl⟩ := Option.ne_none_iff_exists'.mp hlabels
  obtain ⟨metadata, hm⟩ := Option.ne_none_iff_exists'.mp hmetadata
  obtain ⟨extra, he⟩ := Option.ne_none_iff_exists'.mp hextra
  cases draft
  simp_all [ConnectionDraft.withDictionaries]

/-- A validation raises the package's errors only exactly when no model raises another, and the draft
has its dictionaries or is refused before they are copied. -/
theorem classified_validate_iff :
    Classified (validate registry draft) ↔
      ¬ MeetsException registry draft ∧
        (draft.HasDictionaries ∨ ¬ ∃ v, validate registry draft.withDictionaries = .ok v) := by
  have hclassified := classified_validateFields_iff registry draft
  rw [validate_withDictionaries_eq_ok_iff, validate_eq]
  cases hf : validateFields registry draft with
  | error e =>
    rw [hf] at hclassified
    rw [error_bind,
      classified_error_congr (β := TypeSpec × (Instance × Option Instance) × Option Instance),
      hclassified]
    simp
  | ok checked =>
    have hnot : ¬ ¬ ∃ c, (Except.ok checked : Except PyError _) = .ok c := fun h => h ⟨checked, rfl⟩
    rw [hf] at hclassified
    rw [ok_bind, or_iff_left hnot, and_iff_right (hclassified.mp (classified_ok checked))]
    unfold ConnectionDraft.HasDictionaries
    -- The first dictionary that is missing raises.
    cases draft.labels with
    | none => simp [dictOf, error_bind, classified_error_iff, PyError.isDBConnectionError]
    | some labels =>
      cases draft.metadata with
      | none => simp [dictOf, ok_bind, error_bind, classified_error_iff, PyError.isDBConnectionError]
      | some metadata =>
        cases draft.extra with
        | none => simp [dictOf, ok_bind, classified_error_iff, PyError.isDBConnectionError]
        | some extra => simp [dictOf, ok_bind, pure, Except.pure, classified_ok]

/-- The models of a quiet registry raise on no draft. -/
theorem not_meetsException_of_quiet (h : registry.Quiet) : ¬ MeetsException registry draft := by
  rintro ⟨spec, hspec, -, -, hraises⟩
  have hquiet := h spec (ConnectionRegistry.mem_types_of_getType hspec)
  cases hraises with
  | properties exc hr => exact hquiet.properties.validate_ne_raised _ _ hr
  | secrets m v exc hm hp hr => exact (hquiet.secrets m hm).validate_ne_raised _ _ hr
  | driverOptions payload driver driverSpec exc hp hd hr hno hraised =>
    exact OptionsModel.validateOptions_ne_raised
      (hquiet.driverOptions driverSpec (List.mem_of_find?_eq_some hr)) _ _ hraised

/-- No model raises on a draft that is valid. -/
theorem not_meetsException_of_validate {v : ValidatedConnection}
    (h : validate registry draft = .ok v) : ¬ MeetsException registry draft := by
  rw [validate_eq, bind_eq_ok_iff] at h
  obtain ⟨checked, hc, -⟩ := h
  rw [← classified_validateFields_iff, hc]
  exact classified_ok checked

end Validation

/-! ## Updates -/

/-- The patch sets a dictionary to `None`, or the extra to another value that `dict` refuses. -/
def ConnectionPatch.NullsDictionary (patch : ConnectionPatch) : Prop :=
  patch.labels = .set none ∨ patch.metadata = .set none ∨ patch.extraDict = .set none

/-- A merged draft has its dictionaries unless the patch sets one to `None`. -/
theorem hasDictionaries_merge (record : ConnectionRecord) (patch : ConnectionPatch) :
    (merge record patch).HasDictionaries ↔ ¬ patch.NullsDictionary := by
  have hfield : ∀ {α : Type} (v : PatchValue (Option α)) (a : α),
      v.getD (some a) ≠ none ↔ v ≠ .set none := by
    intro α v a
    cases v <;> simp
  unfold ConnectionDraft.HasDictionaries ConnectionPatch.NullsDictionary merge
  simp only [hfield, not_or, ne_eq]

section Update

variable {C : Type} (svc : ConnectionService C) (env : CallEnv) (actor : Json)
  (connectionId : String) (patch : ConnectionPatch)

/-- The connection is there, the patch replaces its secrets if they cannot be read, and with empty
dictionaries in the places of `None` the merged draft is valid. -/
def Admits (store : List (Row C)) : Prop :=
  ∃ row, find connectionId store = some row ∧ row.deletedAt = none ∧
    ensurePatchCanReplaceUnreadableSecrets (toRecord svc.storage row) patch = .ok () ∧
    ∃ v, validate svc.registry (merge (toRecord svc.storage row) patch).withDictionaries = .ok v

/-- The connection is there, the patch replaces its secrets if they cannot be read, and a model raises
another exception than `ValidationError` on the merged draft. -/
def UpdateRaises (store : List (Row C)) : Prop :=
  ∃ row, find connectionId store = some row ∧ row.deletedAt = none ∧
    ensurePatchCanReplaceUnreadableSecrets (toRecord svc.storage row) patch = .ok () ∧
    MeetsException svc.registry (merge (toRecord svc.storage row) patch)

/-- Driver options that the patch gives as an instance are an instance of `DriverOptionsBase`. -/
def ConnectionPatch.WellTyped : Prop :=
  ∀ v, patch.driverOptions = .set (.model v) → v.isInstance driverOptionsBaseRef = true

/-- Decoded driver options are an instance of `DriverOptionsBase`. -/
theorem isInstance_of_decodeDriverOptions {importer : Importer} {raw : Json} {v : Instance}
    (h : (decodeDriverOptions importer raw).value = some v) :
    v.isInstance driverOptionsBaseRef = true := by
  rcases decodeDriverOptions_cases importer raw with ⟨-, hd⟩ | ⟨w, hw, hd⟩ | ⟨issue, hd, -⟩
  · rw [hd] at h
    cases h
  · rw [hd] at h
    cases h
    unfold processResultValue at hw
    split at hw
    · split at hw
      · split at hw
        · cases hw
        · split at hw
          · rename_i hbase
            split at hw
            · rename_i hv
              cases hw
              exact ModelClass.isInstance_of_validate hv (List.contains_iff_mem.mp hbase)
            · cases hw
          · cases hw
      · cases hw
    · cases hw
  · rw [hd] at h
    cases h

/-- Accepted driver options are an instance of `DriverOptionsBase` if those given as an instance
are. -/
theorem isInstance_of_validateDriverOptions {spec : TypeSpec} {connectionType : String}
    {driver : Option String} {raw : DriverOptions} {v : Instance}
    (hraw : ∀ w, raw = .model w → w.isInstance driverOptionsBaseRef = true)
    (h : validateDriverOptions spec connectionType driver raw = .ok (some v)) :
    v.isInstance driverOptionsBaseRef = true := by
  obtain ⟨name, driverSpec, -, -, -, hv⟩ := validateDriverOptions_eq_some h
  cases raw with
  | none => exact ModelClass.isInstance_of_validate hv driverSpec.optionsModel.derives
  | raw items => exact ModelClass.isInstance_of_validate hv driverSpec.optionsModel.derives
  | model w =>
    simp only [OptionsModel.validateOptions, ModelClass.validateInstance] at hv
    split at hv
    · cases hv
      exact hraw _ rfl
    · cases hv

/-- The columns of a validated merged draft can be bound unless its name is `None`. -/
theorem classified_bindColumns_iff (storage : Storage C) {record : ConnectionRecord}
    (hrecord : ∀ w, record.driverOptions = some w → w.isInstance driverOptionsBaseRef = true)
    (htyped : patch.WellTyped) {registry : ConnectionRegistry} {v : ValidatedConnection}
    (hv : validate registry (merge record patch) = .ok v) :
    Classified (Repository.bindColumns storage env (toPersistedDraft (merge record patch) v)) ↔
      patch.name ≠ .set none := by
  obtain ⟨spec, hvalid⟩ := validate_eq_ok_iff.mp hv
  have hraw : ∀ w, (merge record patch).driverOptions = .model w →
      w.isInstance driverOptionsBaseRef = true := by
    intro w hw
    unfold merge at hw
    cases ho : patch.driverOptions with
    | unset =>
      simp only [ho, PatchValue.getD_unset] at hw
      cases hr : record.driverOptions with
      | none => simp [hr, DriverOptions.ofOption] at hw
      | some options =>
        simp only [hr, DriverOptions.ofOption, DriverOptions.model.injEq] at hw
        exact hrecord w (hw ▸ hr)
    | set options =>
      simp only [ho, PatchValue.getD_set] at hw
      exact htyped w (hw ▸ ho)
  obtain ⟨json, hj⟩ : ∃ json, processBindParam (.ofOption v.driverOptions) = .ok json := by
    cases ho : v.driverOptions with
    | none => exact ⟨.null, rfl⟩
    | some options =>
      have hi := isInstance_of_validateDriverOptions hraw (ho ▸ hvalid.driverOptions)
      exact ⟨_, by rw [DriverOptions.ofOption, processBindParam, if_pos hi]⟩
  have hname : (merge record patch).name = patch.name.getD (some record.name) := rfl
  unfold Repository.bindColumns toPersistedDraft
  dsimp only
  rw [hj, hname]
  cases patch.name with
  | unset => simp [classified_ok]
  | set name =>
    cases name with
    | none => simp [classified_error_iff, PyError.isDBConnectionError]
    | some name => simp [classified_ok]

/-- `get` raises the package's errors only, under the policy that allows all. -/
theorem classified_of_not_active (hpolicy : svc.accessPolicy = allowAllAccessPolicy) {row : Row C}
    (hdeleted : row.deletedAt ≠ none) :
    svc.admitGet actor connectionId (some (toRecord svc.storage row)) =
      .error (.connectionNotFound connectionId) := by
  rw [admitGet_of_allowAll hpolicy, if_pos (Option.isSome_iff_ne_none.mpr hdeleted)]

/-- The guard of unreadable secrets raises the package's errors only. -/
theorem classified_guard (record : ConnectionRecord) :
    Classified (ensurePatchCanReplaceUnreadableSecrets record patch) := by
  unfold ensurePatchCanReplaceUnreadableSecrets
  split
  · exact classified_error_iff.mpr rfl
  · exact classified_ok _

/-- The call of the connector raises the package's errors only. -/
theorem classified_checkValidated (v : ValidatedConnection) :
    Classified (svc.checkValidated v) := by
  unfold ConnectionService.checkValidated ConnectionRegistry.getType
  split
  · rw [ok_bind]
    split
    · exact classified_error_iff.mpr rfl
    · exact classified_ok _
  · exact classified_error_iff.mpr rfl

/-- The validation of a merged draft, as the patch has it. -/
theorem classified_validate_merge_iff (registry : ConnectionRegistry) (record : ConnectionRecord) :
    Classified (validate registry (merge record patch)) ↔
      ¬ MeetsException registry (merge record patch) ∧
        ¬ (patch.NullsDictionary ∧
          ∃ v, validate registry (merge record patch).withDictionaries = .ok v) := by
  rw [classified_validate_iff, hasDictionaries_merge]
  exact and_congr_right fun _ => Classical.not_and_iff_not_or_not.symm

/-- Where the merged draft is valid, it has its dictionaries. -/
theorem not_nullsDictionary_of_validate {registry : ConnectionRegistry} {record : ConnectionRecord}
    {v : ValidatedConnection} (hv : validate registry (merge record patch) = .ok v) :
    ¬ patch.NullsDictionary ∧
      ∃ v, validate registry (merge record patch).withDictionaries = .ok v := by
  obtain ⟨spec, hvalid⟩ := validate_eq_ok_iff.mp hv
  have hhas : (merge record patch).HasDictionaries := by
    refine ⟨?_, ?_, ?_⟩
    · rw [hvalid.labels]
      exact Option.some_ne_none _
    · rw [hvalid.metadata]
      exact Option.some_ne_none _
    · rw [hvalid.extra]
      exact Option.some_ne_none _
  refine ⟨(hasDictionaries_merge record patch).mp hhas, v, ?_⟩
  rw [withDictionaries_of_hasDictionaries hhas, hv]

/-- Where the merged draft is refused although the patch sets no dictionary to `None`, it is refused
with empty ones too. -/
theorem nullsDictionary_of_validate_error {registry : ConnectionRegistry} {record : ConnectionRecord}
    {e : PyError} (he : validate registry (merge record patch) = .error e)
    (hv : ∃ v, validate registry (merge record patch).withDictionaries = .ok v) :
    patch.NullsDictionary := by
  by_contra hnulls
  rw [withDictionaries_of_hasDictionaries ((hasDictionaries_merge record patch).mpr hnulls), he] at hv
  obtain ⟨v, hv⟩ := hv
  cases hv

/-- What `update` does to an active row. -/
theorem classified_updatedRow_iff (hpolicy : svc.accessPolicy = allowAllAccessPolicy)
    (hresolver : svc.ownershipResolver = noOpOwnershipResolver) (htyped : patch.WellTyped)
    {row : Row C} (hactive : row.deletedAt = none) :
    Classified (svc.updatedRow env actor connectionId patch row) ↔
      ¬ ((patch.name = .set none ∨ patch.NullsDictionary) ∧
          ensurePatchCanReplaceUnreadableSecrets (toRecord svc.storage row) patch = .ok () ∧
            ∃ v, validate svc.registry (merge (toRecord svc.storage row) patch).withDictionaries =
              .ok v) ∧
        ¬ (ensurePatchCanReplaceUnreadableSecrets (toRecord svc.storage row) patch = .ok () ∧
          MeetsException svc.registry (merge (toRecord svc.storage row) patch)) := by
  have hadmitted : svc.admitGet actor connectionId (some (toRecord svc.storage row)) =
      .ok (toRecord svc.storage row) := by
    rw [admitGet_of_allowAll hpolicy, if_neg (by simp [hactive])]
  have hrecord : ∀ w, (toRecord svc.storage row).driverOptions = some w →
      w.isInstance driverOptionsBaseRef = true := fun w hw => isInstance_of_decodeDriverOptions hw
  unfold ConnectionService.updatedRow ConnectionService.prepareUpdate
  rw [hadmitted, ok_bind, hpolicy, hresolver]
  simp only [noOpOwnershipResolver, allowAllAccessPolicy, ok_bind]
  cases hguard : ensurePatchCanReplaceUnreadableSecrets (toRecord svc.storage row) patch with
  | error e =>
    have hclassified := classified_guard patch (toRecord svc.storage row)
    rw [hguard] at hclassified
    simp [error_bind, classified_error_iff, classified_error_iff.mp hclassified]
  | ok =>
    rw [ok_bind]
    have hvalidate := classified_validate_merge_iff patch svc.registry (toRecord svc.storage row)
    cases hv : validate svc.registry (merge (toRecord svc.storage row) patch) with
    | error e =>
      rw [hv] at hvalidate
      have hnulls := nullsDictionary_of_validate_error patch hv
      rw [error_bind, and_comm (a := ¬ _)]
      refine classified_error_congr.trans (hvalidate.trans (and_congr ?_ (not_congr ?_)))
      · simp
      · constructor
        · rintro ⟨hnull, hvalid⟩
          exact ⟨.inr hnull, rfl, hvalid⟩
        · rintro ⟨-, -, hvalid⟩
          exact ⟨hnulls hvalid, hvalid⟩
    | ok v =>
      obtain ⟨hno, hok⟩ := not_nullsDictionary_of_validate patch hv
      have hquiet := not_meetsException_of_validate svc.registry _ hv
      have hbind := classified_bindColumns_iff env patch svc.storage hrecord htyped hv
      simp only [ok_bind, pure, Except.pure]
      cases hc : Repository.bindColumns svc.storage env
          (toPersistedDraft (merge (toRecord svc.storage row) patch) v) with
      | error e =>
        rw [hc] at hbind
        rw [error_bind]
        refine classified_error_congr.trans (hbind.trans ?_)
        simp [hno, hok, hquiet]
      | ok columns =>
        rw [hc] at hbind
        rw [ok_bind]
        have hname := hbind.mp (classified_ok columns)
        exact iff_of_true (classified_ok _) ⟨fun h => h.1.elim hname hno, fun h => hquiet h.2⟩

/-- What `check_stored` does to a record with a patch. -/
theorem classified_checkRecord_iff (hresolver : svc.ownershipResolver = noOpOwnershipResolver)
    (record : ConnectionRecord) :
    Classified (svc.checkRecord actor connectionId (some patch) record) ↔
      ¬ (patch.NullsDictionary ∧ ensurePatchCanReplaceUnreadableSecrets record patch = .ok () ∧
          ∃ v, validate svc.registry (merge record patch).withDictionaries = .ok v) ∧
        ¬ (ensurePatchCanReplaceUnreadableSecrets record patch = .ok () ∧
          MeetsException svc.registry (merge record patch)) := by
  unfold ConnectionService.checkRecord
  rw [hresolver]
  simp only [noOpOwnershipResolver, ok_bind]
  cases hguard : ensurePatchCanReplaceUnreadableSecrets record patch with
  | error e =>
    have hclassified := classified_guard patch record
    rw [hguard] at hclassified
    simp [error_bind, classified_error_iff, classified_error_iff.mp hclassified]
  | ok =>
    rw [ok_bind]
    have hvalidate := classified_validate_merge_iff patch svc.registry record
    cases hv : validate svc.registry (merge record patch) with
    | error e =>
      rw [hv] at hvalidate
      rw [error_bind]
      refine classified_error_congr.trans (hvalidate.trans (and_comm.trans ?_))
      simp
    | ok v =>
      obtain ⟨hno, -⟩ := not_nullsDictionary_of_validate patch hv
      have hquiet := not_meetsException_of_validate svc.registry _ hv
      rw [ok_bind]
      simp [classified_checkValidated, hno, hquiet]

/-- When an update, and a check of a stored connection, with a patch of well-typed fields succeeds
or raises one of the package's errors: unless the patch sets `labels`, `metadata` or `extra`, or for
the update the name, to `None` and the call is not refused before that is reached, or a model raises
another exception on the merged draft. -/
theorem update_classified_iff (hpolicy : svc.accessPolicy = allowAllAccessPolicy)
    (hresolver : svc.ownershipResolver = noOpOwnershipResolver) (htyped : patch.WellTyped)
    (store : List (Row C)) :
    (Classified ((svc.update env actor connectionId patch).run store).1 ↔
        ¬ ((patch.name = .set none ∨ patch.NullsDictionary) ∧
            Admits svc connectionId patch store) ∧
          ¬ UpdateRaises svc connectionId patch store) ∧
      (Classified ((svc.checkStored actor connectionId (some patch)).run store).1 ↔
        ¬ (patch.NullsDictionary ∧ Admits svc connectionId patch store) ∧
          ¬ UpdateRaises svc connectionId patch store) := by
  rw [svc.run_update, run_checkStored]
  unfold ConnectionService.answer Admits UpdateRaises
  cases hf : find connectionId store with
  | none =>
    have hnotFound : PyError.isDBConnectionError (.connectionNotFound connectionId) = true := rfl
    simp [classified_error_iff, hnotFound]
  | some row =>
    simp only [Option.some.injEq, exists_eq_left']
    by_cases hactive : row.deletedAt = none
    · have hupdated := classified_updatedRow_iff svc env actor connectionId patch hpolicy hresolver
        htyped hactive
      have hchecked := classified_checkRecord_iff svc actor connectionId patch hresolver
        (toRecord svc.storage row)
      simp only [hactive, true_and]
      constructor
      · cases hu : svc.updatedRow env actor connectionId patch row with
        | error e =>
          rw [hu] at hupdated
          exact classified_error_congr.trans hupdated
        | ok row' =>
          rw [hu] at hupdated
          exact iff_of_true (classified_ok _) (hupdated.mp (classified_ok row'))
      · rw [admitGet_of_allowAll hpolicy, if_neg (by simp [hactive]), ok_bind]
        exact hchecked
    · have hgone := classified_of_not_active svc actor connectionId hpolicy hactive
      have hnotFound : PyError.isDBConnectionError (.connectionNotFound connectionId) = true := rfl
      unfold ConnectionService.updatedRow
      simp [hgone, error_bind, hactive, classified_error_iff, hnotFound]

end Update

/-- A patch of the labels. -/
def labelsPatch : ConnectionPatch :=
  { ConnectionPatch.empty with labels := .set (some [("team", "web")]) }

/-- An update of the labels of a stored S3 connection. -/
theorem update_classified_iff_labels :
    Classified (((defaultService none).update ⟨1, "", 0⟩ .null "a" labelsPatch).run
      [bucketRow "a"]).1 := by
  refine (update_classified_iff (defaultService none) ⟨1, "", 0⟩ .null "a" labelsPatch rfl rfl ?_
    [bucketRow "a"]).1.mpr ⟨?_, ?_⟩
  · intro v hv
    cases hv
  · rintro ⟨hname | hlabels | hmetadata | hextra, -⟩
    · cases hname
    · cases hlabels
    · cases hmetadata
    · cases hextra
  · rintro ⟨row, hrow, -, -, hraises⟩
    obtain rfl : bucketRow "a" = row := Option.some.inj hrow
    obtain ⟨v, hv⟩ := exists_of_isOk (x := validate (defaultService none).registry
      (merge (toRecord (defaultService none).storage (bucketRow "a")) labelsPatch))
      (by decide +kernel)
    exact not_meetsException_of_validate _ _ hv hraises

/-- A machine whose file system refuses every path. -/
def refusingHost : Host :=
  { emptyHost with
    pathExists := fun path => .error ⟨"OSError", "[Errno 36] File name too long: " ++ path⟩
    path_of_osPath := fun _ h => by cases h }

/-- A stored SFTP connection. -/
def sftpRow : Row Json :=
  { bucketRow "a" with
    type := "sftp"
    propertiesJson := .obj [("host", .str "h"), ("username", .str "u")]
    secretsCiphertext := .obj [] }

/-- An update of its labels to `None` raises a `TypeError`, one of its name an `IntegrityError`, and
one of the key path of an SFTP connection what the file system raises. The mapper answers all three
with a server error. -/
theorem update_to_none_unclassified :
    ((((defaultService none).update ⟨1, "", 0⟩ .null "a"
        { ConnectionPatch.empty with labels := .set none }).run [bucketRow "a"]).1 =
          .error (.typeError "'NoneType' object is not iterable") ∧
      (mapException (.typeError "'NoneType' object is not iterable")).statusCode = 500) ∧
    ((((defaultService none).update ⟨1, "", 0⟩ .null "a"
        { ConnectionPatch.empty with name := .set none }).run [bucketRow "a"]).1 =
          .error (.integrityError "NOT NULL constraint failed: db_connections.name") ∧
      (mapException (.integrityError "NOT NULL constraint failed: db_connections.name")).statusCode =
        500) ∧
    (({ defaultService none with registry := defaultRegistry refusingHost }.update ⟨1, "", 0⟩ .null
        "a" { ConnectionPatch.empty with
          properties := .set (some [("host", .str "h"), ("username", .str "u"),
            ("private_key_path", .str "key")]) }).run [sftpRow]).1 =
          .error (.other "OSError" "[Errno 36] File name too long: key") ∧
      (mapException (.other "OSError" "[Errno 36] File name too long: key")).statusCode = 500 := by
  refine ⟨⟨?_, rfl⟩, ⟨?_, rfl⟩, ?_, rfl⟩
  · decide +kernel
  · decide +kernel
  · decide +kernel

end DbConnection
