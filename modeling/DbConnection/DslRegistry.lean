import DbConnection.DslReferences

/-!
# Registrations of a configuration

`apply_dsl_registry` of `dsl/loader.py` registers the kinds and then the types of a configuration,
none over another. A sequence of such registrations goes through exactly when it `Fits` the
registry: the names are new and distinct, the types can be made, and each is of a kind that is
registered before it (`run_callAll_iff`).
-/

namespace DbConnection

open PyData Pydantic NamedEntries Sessions

/-! ## Configurations -/

/-- `DSLKindSpecModel`. -/
structure DSLKindSpecModel where
  name : String
  description : String
  capabilities : Finset String
  deriving DecidableEq

section Configurations

variable {Obj : Type} (interpreter : Interpreter Obj)

/-- `DSLDriverSpecModel`. The loader does not check that the options derive from
`DriverOptionsBase`, as `DriverSpec` has them. -/
structure DSLDriverSpecModel where
  name : String
  optionsModel : Option String
  publicOptionsModel : Option String
  /-- The options that the reference resolves to derive from `DriverOptionsBase`. -/
  derives : ∀ reference m, optionsModel = some reference →
    resolveModelClass interpreter reference = .ok m → driverOptionsBaseRef ∈ m.mro

/-- `DSLTypeSpecModel`. -/
structure DSLTypeSpecModel where
  name : String
  kind : String
  propertiesModel : String
  secretsModel : Option String
  publicModel : Option String
  connectorFactory : Option String
  defaultDriver : Option String
  driverSpecs : List (DSLDriverSpecModel interpreter)
  supportedDrivers : Finset String
  capabilities : Finset String
  tags : Finset String

/-- `DSLPluginConfig`. -/
structure DSLPluginConfig where
  name : String
  group : String
  deriving DecidableEq

/-- `DBConnectionDSLConfig`, with the fields of its settings and of its registry. -/
structure DBConnectionDSLConfig where
  maxConnections : Option Int
  kinds : List DSLKindSpecModel
  types : List (DSLTypeSpecModel interpreter)
  plugins : List DSLPluginConfig

variable {interpreter}

/-- The class of a configured driver's options. -/
def resolveOptionsModel (driverSpec : DSLDriverSpecModel interpreter) :
    Except PyError OptionsModel :=
  match hreference : driverSpec.optionsModel with
  | none => .ok noDriverOptions
  | some reference =>
    match hm : resolveModelClass interpreter reference with
    | .error e => .error e
    | .ok m => .ok ⟨m, driverSpec.derives reference m hreference hm⟩

/-- The `DriverSpec` of a configured driver. -/
def buildDriverSpec (driverSpec : DSLDriverSpecModel interpreter) : Except PyError DriverSpec := do
  let optionsModel ← resolveOptionsModel driverSpec
  let publicOptionsModel ← resolveOptionalModelClass interpreter driverSpec.publicOptionsModel
  return ⟨driverSpec.name, optionsModel, publicOptionsModel.getD optionsModel.toModelClass⟩

/-- `_build_driver_specs`. -/
def buildDriverSpecs (connectionType : DSLTypeSpecModel interpreter) :
    Except PyError (List DriverSpec) :=
  if connectionType.driverSpecs.isEmpty then
    .ok ((sortedNames (match connectionType.defaultDriver with
      | none => connectionType.supportedDrivers
      | some driver => insert driver connectionType.supportedDrivers)).map plainDriver)
  else connectionType.driverSpecs.mapM buildDriverSpec

/-- The fields that a configured type gives to its `TypeSpec`. -/
def typeFields (connectionType : DSLTypeSpecModel interpreter) :
    Except PyError TypeSpecObject := do
  let propertiesModel ← resolveModelClass interpreter connectionType.propertiesModel
  let secretsModel ← resolveOptionalModelClass interpreter connectionType.secretsModel
  let publicModel ← resolveOptionalModelClass interpreter connectionType.publicModel
  let connectorFactory ← resolveOptionalCallable interpreter connectionType.connectorFactory
  let driverSpecs ← buildDriverSpecs connectionType
  return {
    name := connectionType.name
    kind := connectionType.kind
    propertiesModel := propertiesModel
    secretsModel := secretsModel
    publicModel := publicModel
    connectorFactory := connectorFactory
    defaultDriver := connectionType.defaultDriver
    driverSpecs := driverSpecs
    supportedDrivers := connectionType.supportedDrivers
    capabilities := connectionType.capabilities
    tags := connectionType.tags }

/-- The `KindSpec` of a configured kind. -/
def kindFields (kind : DSLKindSpecModel) : KindSpecObject :=
  ⟨kind.name, kind.description, kind.capabilities⟩

/-- `apply_dsl_registry`. -/
def applyDslRegistry (config : DBConnectionDSLConfig interpreter) : RegistryCall := do
  config.kinds.forM fun kind => registerKind (kindFields kind) false
  config.types.forM fun connectionType => do
    let given ← MonadExcept.ofExcept (typeFields connectionType)
    registerMade given false

end Configurations

/-! ## Sequences of registrations -/

/-- A registration that overwrites nothing: of a kind, or of a type whose fields may fail to be made.
-/
inductive Registration where
  | kind (spec : KindSpecObject)
  | type (given : Except PyError TypeSpecObject)

namespace Registration

/-- The call on the registry. -/
def call : Registration → RegistryCall
  | .kind spec => registerKind spec false
  | .type given => do
    let given ← MonadExcept.ofExcept given
    registerMade given false

/-- The kind that is registered. -/
def kind? : Registration → Option KindSpecObject
  | .kind spec => some spec
  | .type _ => none

/-- The type that is registered, where it can be made. -/
def type? : Registration → Option TypeSpecObject
  | .kind _ => none
  | .type given => (given >>= TypeSpecObject.postInit).toOption

/-- What registering leaves of a registry. -/
def apply (self : RegistryDicts) (registration : Registration) : RegistryDicts :=
  (self.withKinds registration.kind?.toList).withTypes registration.type?.toList

/-- The registry takes the registration. -/
def Admitted (self : RegistryDicts) : Registration → Prop
  | .kind spec => self.kinds.contains spec.name = false
  | .type given => ∃ spec, (given >>= TypeSpecObject.postInit) = .ok spec ∧
      self.kinds.contains spec.kind = true ∧ self.types.contains spec.name = false

/-- A registration returns exactly when the registry takes it. -/
theorem run_call_iff {registration : Registration} {self self' : RegistryDicts} :
    registration.call.run.run self = (.ok (), self') ↔
      registration.Admitted self ∧ self' = apply self registration := by
  cases registration with
  | kind spec =>
    unfold call Admitted
    dsimp only
    rw [run_registerKind]
    cases hcontains : self.kinds.contains spec.name with
    | true => exact iff_of_false (fun h => by cases h) (by simp)
    | false =>
      refine ⟨fun h => ?_, fun ⟨_, h⟩ => ?_⟩
      · cases h
        exact ⟨rfl, rfl⟩
      · rw [h]
        rfl
  | type given =>
    unfold call Admitted apply type?
    dsimp only
    cases given with
    | error e => exact iff_of_false (fun h => by cases h) (by simp [bind, Except.bind])
    | ok given =>
      have hrun : (do
          let given ← MonadExcept.ofExcept (Except.ok given : Except PyError TypeSpecObject)
          registerMade given false : RegistryCall).run.run self =
            (registerMade given false).run.run self := rfl
      rw [hrun, ok_bind]
      cases hmade : given.postInit with
      | error e =>
        rw [run_registerMade_error hmade]
        exact iff_of_false (fun h => by cases h) (by simp)
      | ok spec =>
        rw [run_registerMade hmade, run_registerType]
        cases hkind : self.kinds.contains spec.kind with
        | false => exact iff_of_false (fun h => by cases h) (by simp [hkind])
        | true =>
          cases htype : self.types.contains spec.name with
          | true => exact iff_of_false (fun h => by cases h) (by simp [htype])
          | false =>
            refine ⟨fun h => ?_, fun ⟨_, h⟩ => ?_⟩
            · cases h
              exact ⟨⟨spec, rfl, hkind, htype⟩, rfl⟩
            · rw [h]
              rfl

/-- The kinds that are registered. -/
def kinds (registrations : List Registration) : List KindSpecObject :=
  registrations.filterMap kind?

/-- The types that are registered. -/
def types (registrations : List Registration) : List TypeSpecObject :=
  registrations.filterMap type?

/-- The registrations of a list, one after the other. -/
def callAll (registrations : List Registration) : RegistryCall := registrations.forM call

/-- A registry takes the registrations of a list one after the other. -/
structure Fits (registry : RegistryDicts) (registrations : List Registration) : Prop where
  kinds_nodup : ((kinds registrations).map KindSpecObject.name).Nodup
  kinds_new : ∀ kind ∈ kinds registrations, registry.kinds.contains kind.name = false
  types_nodup : ((types registrations).map TypeSpecObject.name).Nodup
  types_new : ∀ spec ∈ types registrations, registry.types.contains spec.name = false
  /-- The types can be made, and their kinds are registered before them. -/
  made : ∀ before given after, registrations = before ++ .type given :: after →
    ∃ spec, (given >>= TypeSpecObject.postInit) = .ok spec ∧
      (registry.kinds.contains spec.kind = true ∨
        spec.kind ∈ (kinds before).map KindSpecObject.name)

/-- A registry that takes a first kind and then the rest takes all. -/
theorem fits_cons_kind {self : RegistryDicts} {spec : KindSpecObject}
    {registrations : List Registration} :
    Fits self (.kind spec :: registrations) ↔
      Admitted self (.kind spec) ∧ Fits (apply self (.kind spec)) registrations := by
  have hkinds : kinds (.kind spec :: registrations) = spec :: kinds registrations := rfl
  have htypes : types (.kind spec :: registrations) = types registrations := rfl
  have hcontains : ∀ name, (apply self (.kind spec)).kinds.contains name =
      (decide (name = spec.name) || self.kinds.contains name) := by
    intro name
    exact contains_store
  constructor
  · intro h
    have hnodup := h.kinds_nodup
    rw [hkinds, List.map_cons, List.nodup_cons] at hnodup
    refine ⟨h.kinds_new spec List.mem_cons_self, hnodup.2, fun kind hkind => ?_, h.types_nodup,
      h.types_new, fun before given after hsplit => ?_⟩
    · rw [hcontains, h.kinds_new kind (List.mem_cons_of_mem _ hkind), Bool.or_false]
      refine decide_eq_false fun hname => hnodup.1 ?_
      exact hname ▸ List.mem_map_of_mem hkind
    · obtain ⟨made, hmade, hknown⟩ := h.made (.kind spec :: before) given after (hsplit ▸ rfl)
      refine ⟨made, hmade, ?_⟩
      rw [hcontains, Bool.or_eq_true, decide_eq_true_iff]
      rcases hknown with hknown | hknown
      · exact .inl (.inr hknown)
      · rcases List.mem_cons.mp hknown with hname | hbefore
        · exact .inl (.inl hname)
        · exact .inr hbefore
  · rintro ⟨hnew, h⟩
    have hfresh : ∀ kind ∈ kinds registrations,
        kind.name ≠ spec.name ∧ self.kinds.contains kind.name = false := by
      intro kind hkind
      have := h.kinds_new kind hkind
      rw [hcontains, Bool.or_eq_false_iff, decide_eq_false_iff_not] at this
      exact this
    refine ⟨?_, ?_, h.types_nodup, h.types_new, fun before given after hsplit => ?_⟩
    · rw [hkinds, List.map_cons, List.nodup_cons]
      refine ⟨fun hmem => ?_, h.kinds_nodup⟩
      obtain ⟨kind, hkind, hname⟩ := List.mem_map.mp hmem
      exact (hfresh kind hkind).1 hname
    · rw [hkinds, List.forall_mem_cons]
      exact ⟨hnew, fun kind hkind => (hfresh kind hkind).2⟩
    · cases before with
      | nil => cases hsplit
      | cons first before =>
        rw [List.cons_append] at hsplit
        obtain ⟨rfl, hrest⟩ := List.cons.inj hsplit
        obtain ⟨made, hmade, hknown⟩ := h.made before given after hrest
        refine ⟨made, hmade, ?_⟩
        rw [hcontains, Bool.or_eq_true, decide_eq_true_iff] at hknown
        rcases hknown with (hname | hknown) | hbefore
        · exact .inr (List.mem_cons.mpr (.inl hname))
        · exact .inl hknown
        · exact .inr (List.mem_cons_of_mem _ hbefore)

/-- A registry that takes a first type and then the rest takes all. -/
theorem fits_cons_type {self : RegistryDicts} {given : Except PyError TypeSpecObject}
    {registrations : List Registration} :
    Fits self (.type given :: registrations) ↔
      Admitted self (.type given) ∧ Fits (apply self (.type given)) registrations := by
  have hkinds : kinds (.type given :: registrations) = kinds registrations := rfl
  have htypes : ∀ {spec}, (given >>= TypeSpecObject.postInit) = .ok spec →
      types (.type given :: registrations) = spec :: types registrations ∧
        ∀ name, (apply self (.type given)).types.contains name =
          (decide (name = spec.name) || self.types.contains name) := by
    intro spec hspec
    have htype : type? (.type given) = some spec := by
      show (given >>= TypeSpecObject.postInit).toOption = some spec
      rw [hspec]
      rfl
    refine ⟨List.filterMap_cons_some htype, fun name => ?_⟩
    unfold apply
    rw [htype]
    exact contains_store
  constructor
  · intro h
    obtain ⟨spec, hspec, hknown⟩ := h.made [] given registrations rfl
    obtain ⟨hcons, hcontains⟩ := htypes hspec
    have hnodup := h.types_nodup
    have hnew := h.types_new
    rw [hcons, List.map_cons, List.nodup_cons] at hnodup
    rw [hcons, List.forall_mem_cons] at hnew
    refine ⟨⟨spec, hspec, hknown.resolve_right List.not_mem_nil, hnew.1⟩, h.kinds_nodup,
      h.kinds_new, hnodup.2, fun other hother => ?_, fun before other after hsplit => ?_⟩
    · rw [hcontains, hnew.2 other hother, Bool.or_false]
      refine decide_eq_false fun hname => hnodup.1 ?_
      exact hname ▸ List.mem_map_of_mem hother
    · exact h.made (.type given :: before) other after (hsplit ▸ rfl)
  · rintro ⟨⟨spec, hspec, hknown, hnew⟩, h⟩
    obtain ⟨hcons, hcontains⟩ := htypes hspec
    have hfresh : ∀ other ∈ types registrations,
        other.name ≠ spec.name ∧ self.types.contains other.name = false := by
      intro other hother
      have := h.types_new other hother
      rw [hcontains, Bool.or_eq_false_iff, decide_eq_false_iff_not] at this
      exact this
    refine ⟨h.kinds_nodup, h.kinds_new, ?_, ?_, fun before other after hsplit => ?_⟩
    · rw [hcons, List.map_cons, List.nodup_cons]
      refine ⟨fun hmem => ?_, h.types_nodup⟩
      obtain ⟨other, hother, hname⟩ := List.mem_map.mp hmem
      exact (hfresh other hother).1 hname
    · rw [hcons, List.forall_mem_cons]
      exact ⟨hnew, fun other hother => (hfresh other hother).2⟩
    · cases before with
      | nil =>
        obtain ⟨hfirst, -⟩ := List.cons.inj hsplit
        cases hfirst
        exact ⟨spec, hspec, .inl hknown⟩
      | cons first before =>
        rw [List.cons_append] at hsplit
        obtain ⟨rfl, hrest⟩ := List.cons.inj hsplit
        exact h.made before other after hrest

/-- What registrations one after the other leave of a registry: their kinds and their types are
stored. -/
theorem foldl_apply (self : RegistryDicts) (registrations : List Registration) :
    registrations.foldl apply self =
      (self.withKinds (kinds registrations)).withTypes (types registrations) := by
  induction registrations generalizing self with
  | nil => rfl
  | cons registration registrations ih =>
    rw [List.foldl_cons, ih]
    cases registration with
    | kind spec => rfl
    | type given =>
      unfold apply types
      cases htype : type? (.type given) with
      | none =>
        rw [List.filterMap_cons_none htype]
        rfl
      | some spec =>
        rw [List.filterMap_cons_some htype]
        rfl

/-- Registrations go through, one after the other, exactly when they fit the registry. -/
theorem run_callAll_iff {self self' : RegistryDicts} {registrations : List Registration} :
    (callAll registrations).run.run self = (.ok (), self') ↔
      Fits self registrations ∧ self' = registrations.foldl apply self := by
  induction registrations generalizing self with
  | nil =>
    refine ⟨fun h => ?_, fun ⟨_, h⟩ => by rw [h]; rfl⟩
    cases h
    refine ⟨⟨List.nodup_nil, fun _ h => absurd h List.not_mem_nil, List.nodup_nil,
      fun _ h => absurd h List.not_mem_nil, fun before _ _ h => ?_⟩, rfl⟩
    cases before <;> cases h
  | cons registration registrations ih =>
    have hcons : callAll (registration :: registrations) =
        (registration.call >>= fun _ => callAll registrations) := rfl
    have hfits : Fits self (registration :: registrations) ↔
        registration.Admitted self ∧ Fits (apply self registration) registrations := by
      cases registration with
      | kind spec => exact fits_cons_kind
      | type given => exact fits_cons_type
    rw [hcons, hfits, List.foldl_cons]
    rcases hrun : registration.call.run.run self with ⟨outcome, between⟩
    cases outcome with
    | error e =>
      rw [run_bind_error hrun]
      refine iff_of_false (fun h => by cases h) fun h => ?_
      have := run_call_iff.mpr ⟨h.1.1, rfl⟩
      rw [hrun] at this
      cases this
    | ok u =>
      obtain ⟨hadmitted, rfl⟩ := run_call_iff.mp hrun
      rw [run_bind_ok hrun, ih, and_iff_right hadmitted]

/-- A list of registrations and then another. -/
theorem run_callAll_append_iff {self self' : RegistryDicts} {first second : List Registration} :
    (callAll (first ++ second)).run.run self = (.ok (), self') ↔
      ∃ between, (callAll first).run.run self = (.ok (), between) ∧
        (callAll second).run.run between = (.ok (), self') := by
  have happend : callAll (first ++ second) = (callAll first >>= fun _ => callAll second) :=
    List.forM_append
  rw [happend, run_bind_eq_ok_iff]
  exact ⟨fun ⟨_, between, h⟩ => ⟨between, h⟩, fun ⟨between, h⟩ => ⟨(), between, h⟩⟩

/-- Where registrations fit, the registry finds what they registered, and what it found before. -/
theorem Fits.lookup {registry : RegistryDicts} {registrations : List Registration}
    (h : Fits registry registrations) :
    (∀ spec ∈ types registrations, (registrations.foldl apply registry).types.lookup spec.name =
        some spec) ∧
      ∀ name spec, registry.types.lookup name = some spec →
        (registrations.foldl apply registry).types.lookup name = some spec := by
  rw [foldl_apply]
  refine ⟨fun spec hspec => lookup_storeAll_of_mem h.types_nodup hspec, fun name spec hspec => ?_⟩
  refine (lookup_storeAll_of_not_mem fun hmem => ?_).trans hspec
  obtain ⟨other, hother, rfl⟩ := List.mem_map.mp hmem
  have hnew := h.types_new other hother
  unfold Dict.contains at hnew
  rw [hspec] at hnew
  cases hnew

end Registration

/-! ## Configured registrations -/

section Configured

variable {Obj : Type} {interpreter : Interpreter Obj} {self self' : RegistryDicts}

/-- The registrations of a configuration, the kinds before the types. -/
def DBConnectionDSLConfig.registrations (config : DBConnectionDSLConfig interpreter) :
    List Registration :=
  config.kinds.map (fun kind => .kind (kindFields kind)) ++
    config.types.map fun connectionType => .type (typeFields connectionType)

/-- `apply_dsl_registry` makes the registrations of the configuration. -/
theorem applyDslRegistry_eq (config : DBConnectionDSLConfig interpreter) :
    applyDslRegistry config = Registration.callAll config.registrations := by
  unfold Registration.callAll DBConnectionDSLConfig.registrations
  rw [List.forM_eq_forM, List.forM_append, List.forM_map, List.forM_map]
  rfl

/-- A registration leaves a registry closed, and so do registrations one after another. -/
theorem Registration.closed_callAll (registrations : List Registration) (h : self.Closed) :
    ((callAll registrations).run.run self).2.Closed := by
  refine run_forM_keeps (fun registration _ r hr => ?_) h
  cases registration with
  | kind spec => exact RegistryDicts.closed_registerKind hr spec false
  | type given =>
    refine run_bind_keeps ?_ fun given r' hr' => RegistryDicts.closed_registerMade hr' given false
    rw [run_ofExcept]
    exact hr

end Configured

end DbConnection
