import DbConnection.Registry

/-!
# Validation of a draft

`application/validation.py` and `application/_driver_options.py`. `validate` looks the type up,
checks the kind and the effective driver, and reads the properties, the secrets and the driver
options by the type's models. `Validates` lists what an accepted draft went through, and
`validate_eq_ok_iff` says that these checks are all of them.
-/

namespace DbConnection

open PyData Pydantic

/-- `is_empty_driver_options`. -/
def isEmptyDriverOptions : DriverOptions → Bool
  | .none => true
  | .raw items => items.isEmpty
  | .model v => v.dump.isEmpty

/-- `resolve_driver_spec`. -/
def resolveDriverSpec (spec : TypeSpec) (driverName : String) : Option DriverSpec :=
  spec.driverSpecs.find? fun driverSpec => driverSpec.name == driverName

/-- `options_model.model_validate(raw_options)`. -/
def OptionsModel.validateOptions (m : OptionsModel) : DriverOptions → Except ModelError Instance
  | .none => m.validate .null
  | .raw items => m.validate (.obj items)
  | .model v => m.validateInstance v

/-- `validate_driver_options`. -/
def validateDriverOptions (spec : TypeSpec) (connectionType : String)
    (effectiveDriver : Option String) (rawOptions : DriverOptions) :
    Except PyError (Option Instance) :=
  match effectiveDriver with
  | none =>
    if isEmptyDriverOptions rawOptions then .ok none
    else .error (.validationFailed
      s!"Driver options are not supported for type '{connectionType}'." [])
  | some driver =>
    match resolveDriverSpec spec driver with
    | none => .error (.validationFailed
        s!"Driver '{driver}' is not supported for type '{connectionType}'." [])
    | some driverSpec =>
      -- `options_model is NoDriverOptions`: empty options are read as none.
      if driverSpec.optionsModel.isNoDriverOptions then
        if isEmptyDriverOptions rawOptions then .ok none
        else .error (.validationFailed
          s!"Driver '{driver}' for type '{connectionType}' does not accept driver options." [])
      -- Another model reads the options whatever they are, `None` included.
      else
        match driverSpec.optionsModel.validateOptions rawOptions with
        | .ok v => .ok (some v)
        | .error e => .error <| .ofModel (fun e => .validationFailed
            "Driver options validation failed."
            [("driver", .str driver), ("type", .str connectionType), ("errors", .arr e.errors)]) e

/-- `build_public_driver_options`. -/
def buildPublicDriverOptions (spec : TypeSpec) (connectionType : String)
    (effectiveDriver : Option String) (rawOptions : DriverOptions) :
    Except PyError (Option Instance) :=
  match validateDriverOptions spec connectionType effectiveDriver rawOptions with
  | .error e => .error e
  | .ok none => .ok none
  | .ok (some validated) =>
    -- Options were accepted, so the driver is there; the source asks again.
    match effectiveDriver.bind (resolveDriverSpec spec) with
    | none => .ok none
    | some driverSpec =>
      match driverSpec.publicOptionsModel.validate (.obj validated.dump) with
      | .ok v => .ok (some v)
      | .error e => .error <| .ofModel (fun e => .validationFailed
          "Stored driver options payload is invalid."
          [("driver", Json.ofStr? effectiveDriver), ("type", .str connectionType),
            ("errors", .arr e.errors)]) e

/-- What a model raised becomes a `ValidationFailedError` or passes through. -/
theorem ofModel_cases {wrap : ValidationError → PyError}
    (hwrap : ∀ error, ∃ message details, wrap error = .validationFailed message details)
    (e : ModelError) :
    (∃ message details, PyError.ofModel wrap e = .validationFailed message details) ∨
      ∃ cls message, PyError.ofModel wrap e = .other cls message := by
  cases e with
  | validation error => exact Or.inl (hwrap error)
  | raised exc => exact Or.inr ⟨_, _, rfl⟩

/-- Driver options are refused by a `ValidationFailedError`, unless a model raised another
exception. -/
theorem validateDriverOptions_error {spec : TypeSpec} {connectionType : String}
    {driver : Option String} {raw : DriverOptions} {e : PyError}
    (h : validateDriverOptions spec connectionType driver raw = .error e) :
    (∃ message details, e = .validationFailed message details) ∨
      ∃ cls message, e = .other cls message := by
  unfold validateDriverOptions at h
  repeat' split at h
  all_goals cases h
  all_goals first
    | exact Or.inl ⟨_, _, rfl⟩
    | exact ofModel_cases (fun _ => ⟨_, _, rfl⟩) _

/-- Public driver options are refused by a `ValidationFailedError`, unless a model raised another
exception. -/
theorem buildPublicDriverOptions_error {spec : TypeSpec} {connectionType : String}
    {driver : Option String} {raw : DriverOptions} {e : PyError}
    (h : buildPublicDriverOptions spec connectionType driver raw = .error e) :
    (∃ message details, e = .validationFailed message details) ∨
      ∃ cls message, e = .other cls message := by
  unfold buildPublicDriverOptions at h
  split at h
  · rename_i e' he
    cases h
    exact validateDriverOptions_error he
  · cases h
  · split at h
    · cases h
    · split at h
      · cases h
      · cases h
        exact ofModel_cases (fun _ => ⟨_, _, rfl⟩) _

/-- A model that raises no other exception raises none on driver options. -/
theorem OptionsModel.validateOptions_ne_raised {m : OptionsModel} (h : m.Quiet)
    (raw : DriverOptions) (exc : RaisedException) : m.validateOptions raw ≠ .error (.raised exc) := by
  cases raw with
  | none => exact h.validate_ne_raised .null exc
  | raw items => exact h.validate_ne_raised (.obj items) exc
  | model v => exact ModelClass.validateInstance_ne_raised _ v exc

/-- The driver options of a quiet type raise no other exception. -/
theorem validateDriverOptions_ne_other {spec : TypeSpec} (hquiet : spec.Quiet)
    {connectionType : String} {driver : Option String} {raw : DriverOptions}
    (cls message : String) :
    validateDriverOptions spec connectionType driver raw ≠ .error (.other cls message) := by
  intro h
  cases driver with
  | none =>
    unfold validateDriverOptions at h
    dsimp only at h
    split at h <;> cases h
  | some driver =>
    unfold validateDriverOptions at h
    dsimp only at h
    cases hr : resolveDriverSpec spec driver with
    | none =>
      rw [hr] at h
      cases h
    | some driverSpec =>
      rw [hr] at h
      dsimp only at h
      split at h
      · split at h <;> cases h
      · split at h
        · cases h
        · rename_i e he
          have hmodel := hquiet.driverOptions driverSpec (List.mem_of_find?_eq_some hr)
          cases e with
          | validation error => cases h
          | raised exc => exact OptionsModel.validateOptions_ne_raised hmodel raw exc he

/-- The public driver options of a quiet type raise no other exception. -/
theorem buildPublicDriverOptions_ne_other {spec : TypeSpec} (hquiet : spec.Quiet)
    {connectionType : String} {driver : Option String} {raw : DriverOptions}
    (cls message : String) :
    buildPublicDriverOptions spec connectionType driver raw ≠ .error (.other cls message) := by
  intro h
  unfold buildPublicDriverOptions at h
  split at h
  · rename_i e he
    cases h
    exact validateDriverOptions_ne_other hquiet cls message he
  · cases h
  · split at h
    · cases h
    · rename_i driverSpec hresolve
      obtain ⟨name, -, hfound⟩ := Option.bind_eq_some_iff.mp hresolve
      have hmodel := hquiet.publicOptions driverSpec (List.mem_of_find?_eq_some hfound)
      split at h
      · cases h
      · rename_i e he
        cases e with
        | validation error => cases h
        | raised exc => exact hmodel.validate_ne_raised _ exc he

/-- `draft.driver or spec.default_driver`. -/
def effectiveDriver (spec : TypeSpec) (driver : Option String) : Option String :=
  orElse driver spec.defaultDriver

/-- The check of the draft's kind. -/
def checkKind (spec : TypeSpec) (draft : ConnectionDraft) : Except PyError Unit :=
  if draft.kind = spec.kind then .ok ()
  else .error (.validationFailed
    s!"Type '{draft.type}' belongs to kind '{spec.kind}', received '{draft.kind}'." [])

/-- The check that the effective driver is supported, where the type declares drivers. -/
def checkDriver (spec : TypeSpec) (draft : ConnectionDraft) : Except PyError Unit :=
  match effectiveDriver spec draft.driver with
  | none => .ok ()
  | some driver =>
    -- `effective_driver and spec.supported_drivers and …`: both are tested for being empty.
    if driver = "" ∨ spec.supportedDrivers = [] ∨ driver ∈ spec.supportedDrivers then .ok ()
    else .error (.validationFailed
      s!"Driver '{driver}' is not supported for type '{draft.type}'." [])

/-- The properties and secrets, read by the models of the type. -/
def validatePayload (spec : TypeSpec) (draft : ConnectionDraft) :
    Except ModelError (Instance × Option Instance) := do
  let properties ← spec.propertiesModel.validate (Json.ofObj? draft.properties)
  match spec.secretsModel with
  | none => .ok (properties, none)
  | some secretsModel =>
    let secrets ← secretsModel.validate (Json.ofObj? draft.secrets)
    .ok (properties, some secrets)

/-- Pydantic's error as the package reports it. -/
def wrapValidationError {α : Type} (message : String) : Except ModelError α → Except PyError α
  | .ok a => .ok a
  | .error e => .error (.ofModel (fun e => .validationFailed message [("errors", .arr e.errors)]) e)

/-- `dict(value)` of a field that may be `None`. -/
def dictOf {α : Type} : Option (Dict α) → Except PyError (Dict α)
  | some items => .ok items
  | none => .error (.typeError "'NoneType' object is not iterable")

/-- `ValidationService.validate`. -/
def validate (registry : ConnectionRegistry) (draft : ConnectionDraft) :
    Except PyError ValidatedConnection := do
  let spec ← registry.getType draft.type
  checkKind spec draft
  checkDriver spec draft
  let payload ← wrapValidationError "Connection payload validation failed."
    (validatePayload spec draft)
  let driverOptions ← validateDriverOptions spec draft.type (effectiveDriver spec draft.driver)
    draft.driverOptions
  -- `dict(None)` raises a `TypeError`, which no error of the package wraps.
  let labels ← dictOf draft.labels
  let metadata ← dictOf draft.metadata
  let extra ← dictOf draft.extra
  return { name := draft.name, kind := draft.kind, type := draft.type,
           driver := effectiveDriver spec draft.driver, driverOptions := driverOptions,
           properties := payload.1, secrets := payload.2, labels := labels,
           metadata := metadata, extra := extra }

/-- The type's secrets model read the secrets, where the type has one. -/
def SecretsRead (spec : TypeSpec) (secrets : Json) (v : Option Instance) : Prop :=
  match spec.secretsModel with
  | none => v = none
  | some m => ∃ s, m.validate secrets = .ok s ∧ v = some s

/-- What an accepted draft went through, with the type it was read by. -/
structure Validates (registry : ConnectionRegistry) (draft : ConnectionDraft) (spec : TypeSpec)
    (v : ValidatedConnection) : Prop where
  /-- The type is registered. -/
  type : registry.getType draft.type = .ok spec
  /-- The draft names the type's kind. -/
  kind : draft.kind = spec.kind
  /-- The effective driver is supported. -/
  driver : checkDriver spec draft = .ok ()
  /-- The properties model accepted the properties. -/
  properties : spec.propertiesModel.validate (Json.ofObj? draft.properties) = .ok v.properties
  /-- The secrets model, if there is one, accepted the secrets. -/
  secrets : SecretsRead spec (Json.ofObj? draft.secrets) v.secrets
  /-- The options of the effective driver were accepted. -/
  driverOptions : validateDriverOptions spec draft.type (effectiveDriver spec draft.driver)
    draft.driverOptions = .ok v.driverOptions
  /-- The dictionaries are there and are kept. -/
  labels : draft.labels = some v.labels
  metadata : draft.metadata = some v.metadata
  extra : draft.extra = some v.extra
  /-- The other fields are the draft's, with the effective driver. -/
  name : v.name = draft.name
  kind_eq : v.kind = draft.kind
  type_eq : v.type = draft.type
  driver_eq : v.driver = effectiveDriver spec draft.driver

theorem wrapValidationError_eq_ok_iff {α : Type} {message : String} {x : Except ModelError α}
    {a : α} : wrapValidationError message x = .ok a ↔ x = .ok a := by
  cases x <;> simp [wrapValidationError]

theorem dictOf_eq_ok_iff {α : Type} {x : Option (Dict α)} {d : Dict α} :
    dictOf x = .ok d ↔ x = some d := by
  cases x <;> simp [dictOf]

theorem checkKind_eq_ok_iff {spec : TypeSpec} {draft : ConnectionDraft} :
    checkKind spec draft = .ok () ↔ draft.kind = spec.kind := by
  unfold checkKind
  split <;> simp_all

/-- The payload is accepted when the properties and secrets are. -/
theorem validatePayload_eq_ok_iff {spec : TypeSpec} {draft : ConnectionDraft}
    {properties : Instance} {secrets : Option Instance} :
    validatePayload spec draft = .ok (properties, secrets) ↔
      spec.propertiesModel.validate (Json.ofObj? draft.properties) = .ok properties ∧
        SecretsRead spec (Json.ofObj? draft.secrets) secrets := by
  unfold validatePayload SecretsRead
  rw [bind_eq_ok_iff]
  cases spec.secretsModel with
  | none => simp [eq_comm]
  | some m =>
    simp only [bind_eq_ok_iff, Except.ok.injEq, Prod.mk.injEq]
    constructor
    · rintro ⟨p, hp, s, hs, rfl, rfl⟩
      exact ⟨hp, s, hs, rfl⟩
    · rintro ⟨hp, s, hs, rfl⟩
      exact ⟨_, hp, s, hs, rfl, rfl⟩

/-- A draft is accepted exactly when it goes through the checks. -/
theorem validate_eq_ok_iff {registry : ConnectionRegistry} {draft : ConnectionDraft}
    {v : ValidatedConnection} :
    validate registry draft = .ok v ↔ ∃ spec, Validates registry draft spec v := by
  unfold validate
  simp only [bind_eq_ok_iff, wrapValidationError_eq_ok_iff, dictOf_eq_ok_iff, pure, Except.pure,
    Except.ok.injEq]
  constructor
  · rintro ⟨spec, hs, ⟨⟩, hk, ⟨⟩, hd, ⟨p, s⟩, hp, o, ho, l, hl, m, hm, e, he, rfl⟩
    obtain ⟨hp, hs'⟩ := validatePayload_eq_ok_iff.mp hp
    exact ⟨spec, hs, checkKind_eq_ok_iff.mp hk, hd, hp, hs', ho, hl, hm, he, rfl, rfl, rfl, rfl⟩
  · rintro ⟨spec, hs, hkind, hd, hp, hs', ho, hl, hm, he, hn, hk, ht, hde⟩
    refine ⟨spec, hs, (), checkKind_eq_ok_iff.mpr hkind, (), hd, (v.properties, v.secrets),
      validatePayload_eq_ok_iff.mpr ⟨hp, hs'⟩, _, ho, _, hl, _, hm, _, he, ?_⟩
    rw [← hn, ← hk, ← ht, ← hde]

end DbConnection
