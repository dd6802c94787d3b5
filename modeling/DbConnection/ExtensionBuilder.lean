import DbConnection.DslRegistry
import DbConnection.Plugins
import DbConnection.RuntimeSettings

/-!
# The builder of an extension

`fastapi/builder.py`. The calls on a builder are kept, and `build` applies them in an order of its
own: the registry is the default one with, in turn, the given registry, the configurations, their
plugins, the other plugins, the kinds and the types (`build_extension_eq_ok_iff`), and is closed
whatever the plugins do (`closed_of_build`). The limit of the settings is the one that the calls
say, before the one that the configurations say (`buildSettings_eq`).
-/

namespace DbConnection

open PyData Pydantic NamedEntries Sessions

variable {Obj U : Type} {interpreter : Interpreter Obj}

/-! ## The builder -/

/-- `PluginEntryPointRequest`. -/
structure PluginEntryPointRequest where
  group : String
  names : Option (List String)
  deriving DecidableEq

/-- A registry that is made through its methods. -/
structure MadeRegistry where
  dicts : RegistryDicts
  closed : dicts.Closed

/-- A specification of a type that is made. -/
structure MadeType where
  spec : TypeSpecObject
  declared : spec.Declared

/-- `DBConnectionExtensionBuilder`. -/
structure DBConnectionExtensionBuilder (U : Type) {Obj : Type} (interpreter : Interpreter Obj) where
  uowFactory : Option U
  settings : Option DBConnectionSettings
  maxConnections : Option Int
  maxConnectionsSet : Bool
  registry : Option RegistryDicts
  useDefaultTypes : Bool
  kinds : List KindSpecObject
  types : List MadeType
  dslConfigs : List (DBConnectionDSLConfig interpreter)
  pluginRequests : List PluginEntryPointRequest

/-- A call on a builder. -/
inductive BuilderCall (U : Type) {Obj : Type} (interpreter : Interpreter Obj) where
  | withUowFactory (uowFactory : U)
  | withSettings (settings : DBConnectionSettings)
  | withMaxConnections (maxConnections : Option Int)
  | withRegistry (registry : MadeRegistry)
  | withDefaultTypes (enabled : Bool)
  | withKind (spec : KindSpecObject)
  | withType (spec : MadeType)
  | withPluginEntrypoints (names : Option (List String)) (group : String)
  | withDslData (config : DBConnectionDSLConfig interpreter)

/-- `apply_dsl_settings`, of what `model_dump(exclude_none=True)` leaves of a configuration's
settings. -/
def applyDslSettings (settings : DBConnectionSettings)
    (config : DBConnectionDSLConfig interpreter) : DBConnectionSettings :=
  settings.modelCopy (match config.maxConnections with
    | none => []
    | some limit => [("max_connections", .int limit)])

/-- An extension as it is built: what it is given of the unit of work factory, the settings and the
registry. -/
structure BuiltExtension (U : Type) where
  uowFactory : U
  settings : DBConnectionSettings
  registry : RegistryDicts

namespace DBConnectionExtensionBuilder

/-- `DBConnectionExtensionBuilder()`. -/
def new : DBConnectionExtensionBuilder U interpreter where
  uowFactory := none
  settings := none
  maxConnections := none
  maxConnectionsSet := false
  registry := none
  useDefaultTypes := true
  kinds := []
  types := []
  dslConfigs := []
  pluginRequests := []

/-- The builder after a call. A call whose copy of a registry raises leaves the builder. -/
def take (builder : DBConnectionExtensionBuilder U interpreter) :
    BuilderCall U interpreter → DBConnectionExtensionBuilder U interpreter
  | .withUowFactory uowFactory => { builder with uowFactory := some uowFactory }
  | .withSettings settings => { builder with settings := some settings }
  | .withMaxConnections maxConnections =>
    { builder with maxConnections := maxConnections, maxConnectionsSet := true }
  | .withRegistry registry =>
    match registry.dicts.copy with
    | .ok copied => { builder with registry := some copied }
    | .error _ => builder
  | .withDefaultTypes enabled => { builder with useDefaultTypes := enabled }
  | .withKind spec => { builder with kinds := builder.kinds ++ [spec] }
  | .withType spec => { builder with types := builder.types ++ [spec] }
  | .withPluginEntrypoints names group =>
    { builder with pluginRequests := builder.pluginRequests ++ [⟨group, names⟩] }
  | .withDslData config => { builder with dslConfigs := builder.dslConfigs ++ [config] }

/-- The builder after calls one after another. -/
def after (calls : List (BuilderCall U interpreter)) : DBConnectionExtensionBuilder U interpreter :=
  calls.foldl take new

/-- `_build_settings`. -/
def buildSettings (builder : DBConnectionExtensionBuilder U interpreter) : DBConnectionSettings :=
  let settings := builder.dslConfigs.foldl applyDslSettings ⟨none⟩
  let settings := builder.settings.getD settings
  if builder.maxConnectionsSet then
    settings.modelCopy [("max_connections", (builder.maxConnections.map Json.int).getD .null)]
  else settings

/-- `_plugin_requests_from_dsl`. -/
def pluginRequestsFromDsl (builder : DBConnectionExtensionBuilder U interpreter) :
    List PluginEntryPointRequest :=
  builder.dslConfigs.flatMap fun config =>
    config.plugins.map fun plugin => ⟨plugin.group, some [plugin.name]⟩

/-- The loading of the plugins of a request. -/
def loadRequest (installed : List EntryPoint) (request : PluginEntryPointRequest) :
    BuildCall Unit := do
  let _ ← loadRegistryPlugins installed request.group request.names

/-- What `_build_registry` does with the registry that it starts from. -/
def fillRegistry (installed : List EntryPoint)
    (builder : DBConnectionExtensionBuilder U interpreter) : BuildCall Unit := do
  builder.registry.toList.forM fun registry => (mergeRegistry registry).inBuild
  builder.dslConfigs.forM fun config => (applyDslRegistry config).inBuild
  builder.pluginRequestsFromDsl.forM (loadRequest installed)
  builder.pluginRequests.forM (loadRequest installed)
  builder.kinds.forM fun kind => (registerKind kind false).inBuild
  builder.types.forM fun connectionType => (registerType connectionType.spec false).inBuild

/-- `_build_registry`. -/
def buildRegistry (host : Host) (installed : List EntryPoint)
    (builder : DBConnectionExtensionBuilder U interpreter) : Except BuildError RegistryDicts := do
  let registry ←
    if builder.useDefaultTypes then (buildDefaultRegistry host).mapError BuildError.raised
    else pure .empty
  let outcome := (builder.fillRegistry installed).run.run registry
  outcome.1.map fun _ => outcome.2

/-- `build`. -/
def build (host : Host) (installed : List EntryPoint)
    (builder : DBConnectionExtensionBuilder U interpreter) :
    Except BuildError (BuiltExtension U) := do
  match builder.uowFactory with
  | none => throw (.raised (.validationFailed
      "Unit of work factory is required to build DBConnectionExtension." []))
  | some uowFactory =>
    let settings := builder.buildSettings
    let registry ← builder.buildRegistry host installed
    return ⟨uowFactory, settings, registry⟩

end DBConnectionExtensionBuilder

/-! ## What calls leave in a builder -/

section Folds

variable {σ α γ : Type} {step : σ → α → σ}

/-- What each step sets or leaves is what the last step that sets it sets. -/
theorem foldl_set {field : σ → Option γ} {set : α → Option γ}
    (h : ∀ s a, field (step s a) = (set a).or (field s)) (as : List α) (s : σ) :
    field (as.foldl step s) = ((as.filterMap set).getLast?).or (field s) := by
  induction as generalizing s with
  | nil => rfl
  | cons a as ih =>
    rw [List.foldl_cons, ih, h]
    cases ha : set a with
    | none => rw [List.filterMap_cons_none ha, Option.none_or]
    | some c =>
      rw [List.filterMap_cons_some ha, List.getLast?_cons]
      cases (as.filterMap set).getLast? <;> rfl

/-- What each step adds to is what the steps add, one after the other. -/
theorem foldl_add {field : σ → List γ} {add : α → Option γ}
    (h : ∀ s a, field (step s a) = field s ++ (add a).toList) (as : List α) (s : σ) :
    field (as.foldl step s) = field s ++ as.filterMap add := by
  induction as generalizing s with
  | nil => exact (List.append_nil _).symm
  | cons a as ih =>
    rw [List.foldl_cons, ih, h, List.append_assoc]
    cases ha : add a with
    | none => rw [List.filterMap_cons_none ha, Option.toList_none, List.nil_append]
    | some c =>
      rw [List.filterMap_cons_some ha, Option.toList_some, List.singleton_append]

end Folds

namespace BuilderCall

/-- The unit of work factory that a call gives. -/
def uowFactory? : BuilderCall U interpreter → Option U
  | .withUowFactory uowFactory => some uowFactory
  | _ => none

/-- The limit that a call says. -/
def limit? : BuilderCall U interpreter → Option (Option Int)
  | .withMaxConnections maxConnections => some maxConnections
  | _ => none

/-- The settings that a call gives. -/
def settings? : BuilderCall U interpreter → Option DBConnectionSettings
  | .withSettings settings => some settings
  | _ => none

/-- The registry that a call gives. -/
def registry? : BuilderCall U interpreter → Option MadeRegistry
  | .withRegistry registry => some registry
  | _ => none

/-- Whether a call says to use the default types. -/
def defaultTypes? : BuilderCall U interpreter → Option Bool
  | .withDefaultTypes enabled => some enabled
  | _ => none

/-- The kind that a call gives. -/
def kind? : BuilderCall U interpreter → Option KindSpecObject
  | .withKind spec => some spec
  | _ => none

/-- The type that a call gives. -/
def type? : BuilderCall U interpreter → Option MadeType
  | .withType spec => some spec
  | _ => none

/-- The plugins that a call asks for. -/
def request? : BuilderCall U interpreter → Option PluginEntryPointRequest
  | .withPluginEntrypoints names group => some ⟨group, names⟩
  | _ => none

/-- The configuration that a call gives. -/
def config? : BuilderCall U interpreter → Option (DBConnectionDSLConfig interpreter)
  | .withDslData config => some config
  | _ => none

end BuilderCall

namespace DBConnectionExtensionBuilder

variable (calls : List (BuilderCall U interpreter))

/-- A call sets one field or adds to one, or leaves the field. -/
theorem take_frame (builder : DBConnectionExtensionBuilder U interpreter)
    (call : BuilderCall U interpreter) :
    (builder.take call).uowFactory = call.uowFactory?.or builder.uowFactory ∧
      (builder.take call).settings = call.settings?.or builder.settings ∧
      (builder.take call).kinds = builder.kinds ++ call.kind?.toList ∧
      (builder.take call).types = builder.types ++ call.type?.toList ∧
      (builder.take call).dslConfigs = builder.dslConfigs ++ call.config?.toList ∧
      (builder.take call).pluginRequests = builder.pluginRequests ++ call.request?.toList := by
  cases call with
  | withRegistry registry =>
    unfold take
    dsimp only
    cases registry.dicts.copy <;>
      simp [BuilderCall.uowFactory?, BuilderCall.settings?, BuilderCall.kind?, BuilderCall.type?,
        BuilderCall.config?, BuilderCall.request?]
  | _ =>
    simp [take, BuilderCall.uowFactory?, BuilderCall.settings?, BuilderCall.kind?,
      BuilderCall.type?, BuilderCall.config?, BuilderCall.request?]

/-- The limit that is set, if one is. -/
def limitSet (builder : DBConnectionExtensionBuilder U interpreter) : Option (Option Int) :=
  if builder.maxConnectionsSet then some builder.maxConnections else none

/-- A call that says a limit sets it. -/
theorem limitSet_take (builder : DBConnectionExtensionBuilder U interpreter)
    (call : BuilderCall U interpreter) :
    (builder.take call).limitSet = call.limit?.or builder.limitSet := by
  cases call with
  | withRegistry registry =>
    unfold take
    dsimp only
    cases registry.dicts.copy <;> rfl
  | _ => rfl

/-- The settings that configurations leave: the limit of the last one that has one. -/
theorem foldl_applyDslSettings (configs : List (DBConnectionDSLConfig interpreter))
    (settings : DBConnectionSettings) :
    configs.foldl applyDslSettings settings =
      ⟨((configs.filterMap fun config => config.maxConnections).getLast?).or
        settings.maxConnections⟩ := by
  have hstep : ∀ (settings : DBConnectionSettings) (config : DBConnectionDSLConfig interpreter),
      (applyDslSettings settings config).maxConnections =
        config.maxConnections.or settings.maxConnections := by
    intro settings config
    unfold applyDslSettings
    cases config.maxConnections <;> rfl
  exact congrArg DBConnectionSettings.mk (foldl_set hstep configs settings)

/-- The limit of the built settings is the one that the calls say last; else the one of the settings
that they give last; else the one of the last configuration that has one. -/
theorem buildSettings_eq :
    (after calls).buildSettings = ⟨
      ((calls.filterMap BuilderCall.limit?).getLast?).getD <|
        (((calls.filterMap BuilderCall.settings?).getLast?).map
            DBConnectionSettings.maxConnections).getD <|
          ((calls.filterMap BuilderCall.config?).filterMap fun config =>
            config.maxConnections).getLast?⟩ := by
  have hlimit : (after calls).limitSet = (calls.filterMap BuilderCall.limit?).getLast? :=
    (foldl_set limitSet_take calls new).trans Option.or_none
  have hsettings : (after calls).settings = (calls.filterMap BuilderCall.settings?).getLast? :=
    (foldl_set (fun builder call => (take_frame builder call).2.1) calls new).trans Option.or_none
  have hconfigs : (after calls).dslConfigs = calls.filterMap BuilderCall.config? :=
    (foldl_add (fun builder call => (take_frame builder call).2.2.2.2.1) calls new).trans
      (List.nil_append _)
  rw [← hlimit, ← hsettings, ← hconfigs]
  unfold buildSettings limitSet
  rw [foldl_applyDslSettings, Option.or_none]
  cases (after calls).maxConnectionsSet with
  | true => cases (after calls).maxConnections <;> rfl
  | false => cases (after calls).settings <;> rfl

/-! ## The registry that is built -/

/-- The registry that a build starts from: the default one, or an empty one. -/
def start (host : Host) : RegistryDicts :=
  if ((calls.filterMap BuilderCall.defaultTypes?).getLast?).getD true then
    RegistryDicts.defaultDicts host
  else .empty

/-- The registry that a build starts from, with the given registry over it. -/
def base (host : Host) : RegistryDicts :=
  match (calls.filterMap BuilderCall.registry?).getLast? with
  | none => start calls host
  | some registry => (start calls host).replayed registry.dicts

/-- The registrations of the configurations. -/
def configured : List Registration :=
  (calls.filterMap BuilderCall.config?).flatMap DBConnectionDSLConfig.registrations

/-- The plugins that are asked for, those of the configurations first. -/
def requested : List PluginEntryPointRequest :=
  (calls.filterMap BuilderCall.config?).flatMap (fun config =>
      config.plugins.map fun plugin => ⟨plugin.group, some [plugin.name]⟩) ++
    calls.filterMap BuilderCall.request?

/-- The kinds and the types that are given, the kinds first. -/
def given : List Registration :=
  (calls.filterMap BuilderCall.kind?).map Registration.kind ++
    (calls.filterMap BuilderCall.type?).map fun connectionType => .type (.ok connectionType.spec)

/-- Calls on a registry one after another, each of which makes registrations, make them all. -/
theorem run_forM_inBuild_iff {α : Type} {call : α → RegistryCall} {made : α → List Registration}
    {as : List α}
    (h : ∀ a ∈ as, ∀ self self', (call a).run.run self = (.ok (), self') ↔
      (Registration.callAll (made a)).run.run self = (.ok (), self'))
    {self self' : RegistryDicts} :
    (as.forM fun a => (call a).inBuild).run.run self = (.ok (), self') ↔
      (Registration.callAll (as.flatMap made)).run.run self = (.ok (), self') := by
  induction as generalizing self with
  | nil => exact ⟨fun h => by cases h; rfl, fun h => by cases h; rfl⟩
  | cons a as ih =>
    have hcons : (a :: as).forM (fun a => (call a).inBuild) =
        ((call a).inBuild >>= fun _ => as.forM fun a => (call a).inBuild) := rfl
    have hrest := fun b hb => h b (List.mem_cons_of_mem a hb)
    rw [hcons, run_bind_eq_ok_iff, List.flatMap_cons, Registration.run_callAll_append_iff]
    constructor
    · rintro ⟨_, between, hfirst, hlater⟩
      refine ⟨between, ?_, (ih hrest).mp hlater⟩
      exact (h a List.mem_cons_self self between).mp (run_inBuild_iff.mp hfirst)
    · rintro ⟨between, hfirst, hlater⟩
      refine ⟨(), between, run_inBuild_iff.mpr ?_, (ih hrest).mpr hlater⟩
      exact (h a List.mem_cons_self self between).mpr hfirst

/-- The registry that is kept is a copy of the one that was given last. -/
theorem registry_after : (after calls).registry =
    ((calls.filterMap BuilderCall.registry?).getLast?).bind fun registry =>
      registry.dicts.copy.toOption := by
  have hstep : ∀ (builder : DBConnectionExtensionBuilder U interpreter) call,
      (builder.take call).registry =
        (call.registry?.bind fun registry => registry.dicts.copy.toOption).or builder.registry := by
    intro builder call
    cases call with
    | withRegistry registry =>
      unfold take
      dsimp only [BuilderCall.registry?, Option.bind_some]
      cases registry.dicts.copy <;> rfl
    | _ => rfl
  have hset := foldl_set hstep calls new
  rw [show (new : DBConnectionExtensionBuilder U interpreter).registry = none from rfl,
    Option.or_none] at hset
  rw [after, hset, ← List.filterMap_filterMap]
  -- The copies of registries that are made through their methods do not raise.
  generalize calls.filterMap BuilderCall.registry? = registries
  have hcopied : ∀ registry : MadeRegistry, ∃ copied, registry.dicts.copy = .ok copied :=
    fun registry => registry.closed.copy.imp fun copied h => h.1
  choose copied hcopied using hcopied
  simp only [hcopied, Except.toOption, List.filterMap_eq_map']
  rw [List.getLast?_map]
  cases registries.getLast? <;> rfl

/-- The given registry is merged into the one that the build starts from. -/
theorem run_merge (host : Host) :
    ((after calls).registry.toList.forM fun registry => (mergeRegistry registry).inBuild).run.run
      (start calls host) = (.ok (), base calls host) := by
  rw [registry_after]
  unfold base
  cases (calls.filterMap BuilderCall.registry?).getLast? with
  | none => rfl
  | some registry =>
    obtain ⟨copied, hcopy, hclosed, hagree⟩ := registry.closed.copy
    rw [Option.bind_some, hcopy]
    have hreplayed : (start calls host).replayed copied =
        (start calls host).replayed registry.dicts := by
      unfold RegistryDicts.replayed
      rw [hagree.listKinds, hagree.listTypes]
    have hmerge := run_inBuild_iff.mpr (RegistryDicts.run_mergeRegistry hclosed (start calls host))
    rw [hreplayed] at hmerge
    exact run_bind_ok hmerge

/-- The configurations are applied by their registrations. -/
theorem run_configs_iff {configs : List (DBConnectionDSLConfig interpreter)}
    {self self' : RegistryDicts} :
    (configs.forM fun config => (applyDslRegistry config).inBuild).run.run self = (.ok (), self') ↔
      (Registration.callAll (configs.flatMap DBConnectionDSLConfig.registrations)).run.run self =
        (.ok (), self') := by
  refine run_forM_inBuild_iff fun config _ r r' => ?_
  rw [applyDslRegistry_eq]

/-- A list of one registration makes it. -/
theorem callAll_singleton (registration : Registration) :
    Registration.callAll [registration] = registration.call := bind_pure_unit

/-- The given kinds are registered. -/
theorem run_kinds_iff {kinds : List KindSpecObject} {self self' : RegistryDicts} :
    (kinds.forM fun kind => (registerKind kind false).inBuild).run.run self = (.ok (), self') ↔
      (Registration.callAll (kinds.map Registration.kind)).run.run self = (.ok (), self') := by
  rw [List.map_eq_flatMap]
  refine run_forM_inBuild_iff fun kind _ r r' => ?_
  rw [callAll_singleton]
  rfl

/-- The given types, which are made already, are registered. -/
theorem run_types_iff {types : List MadeType} {self self' : RegistryDicts} :
    (types.forM fun made => (registerType made.spec false).inBuild).run.run self = (.ok (), self') ↔
      (Registration.callAll (types.map fun made => .type (.ok made.spec))).run.run self =
        (.ok (), self') := by
  rw [List.map_eq_flatMap]
  refine run_forM_inBuild_iff fun made _ r r' => ?_
  rw [callAll_singleton, ← run_registerMade made.declared.postInit]
  rfl

/-- What is filled into the registry that a build starts from. -/
theorem run_fillRegistry_iff {host : Host} {installed : List EntryPoint}
    {registry : RegistryDicts} :
    ((after calls).fillRegistry installed).run.run (start calls host) = (.ok (), registry) ↔
      Registration.Fits (base calls host) (configured calls) ∧ ∃ loaded,
        ((requested calls).forM (loadRequest installed)).run.run
            ((configured calls).foldl Registration.apply (base calls host)) = (.ok (), loaded) ∧
          Registration.Fits loaded (given calls) ∧
          registry = (given calls).foldl Registration.apply loaded := by
  have hconfigs : (after calls).dslConfigs = calls.filterMap BuilderCall.config? :=
    (foldl_add (fun builder call => (take_frame builder call).2.2.2.2.1) calls new).trans
      (List.nil_append _)
  have hrequests : (after calls).pluginRequests = calls.filterMap BuilderCall.request? :=
    (foldl_add (fun builder call => (take_frame builder call).2.2.2.2.2) calls new).trans
      (List.nil_append _)
  have hkinds : (after calls).kinds = calls.filterMap BuilderCall.kind? :=
    (foldl_add (fun builder call => (take_frame builder call).2.2.1) calls new).trans
      (List.nil_append _)
  have htypes : (after calls).types = calls.filterMap BuilderCall.type? :=
    (foldl_add (fun builder call => (take_frame builder call).2.2.2.1) calls new).trans
      (List.nil_append _)
  have hplugins : (requested calls).forM (loadRequest installed) =
      ((after calls).pluginRequestsFromDsl.forM (loadRequest installed) >>= fun _ =>
        (after calls).pluginRequests.forM (loadRequest installed)) := by
    unfold requested pluginRequestsFromDsl
    rw [hconfigs, hrequests]
    exact List.forM_append
  have hgiven : ∀ {self self' : RegistryDicts},
      (Registration.callAll (given calls)).run.run self = (.ok (), self') ↔
        ∃ between,
          ((after calls).kinds.forM fun kind => (registerKind kind false).inBuild).run.run self =
              (.ok (), between) ∧
            ((after calls).types.forM fun made =>
              (registerType made.spec false).inBuild).run.run between = (.ok (), self') := by
    intro self self'
    unfold given
    rw [Registration.run_callAll_append_iff, hkinds, htypes]
    simp only [run_kinds_iff, run_types_iff]
  unfold fillRegistry
  rw [run_bind_ok (run_merge calls host), run_bind_eq_ok_iff, hconfigs]
  constructor
  · rintro ⟨_, first, hfirst, h⟩
    obtain ⟨hfits, rfl⟩ := Registration.run_callAll_iff.mp (run_configs_iff.mp hfirst)
    obtain ⟨_, second, hsecond, h⟩ := run_bind_eq_ok_iff.mp h
    obtain ⟨_, loaded, hloaded, h⟩ := run_bind_eq_ok_iff.mp h
    obtain ⟨_, between, hregistered, h⟩ := run_bind_eq_ok_iff.mp h
    refine ⟨hfits, loaded, ?_, ?_⟩
    · rw [hplugins]
      exact run_bind_eq_ok_iff.mpr ⟨_, second, hsecond, hloaded⟩
    · exact Registration.run_callAll_iff.mp (hgiven.mpr ⟨between, hregistered, h⟩)
  · rintro ⟨hfits, loaded, hloaded, hlast⟩
    obtain ⟨between, hregistered, hmade⟩ := hgiven.mp (Registration.run_callAll_iff.mpr hlast)
    rw [hplugins] at hloaded
    obtain ⟨_, second, hsecond, hloaded⟩ := run_bind_eq_ok_iff.mp hloaded
    refine ⟨(), _, run_configs_iff.mpr (Registration.run_callAll_iff.mpr ⟨hfits, rfl⟩), ?_⟩
    refine run_bind_eq_ok_iff.mpr ⟨_, second, hsecond, ?_⟩
    refine run_bind_eq_ok_iff.mpr ⟨_, loaded, hloaded, ?_⟩
    exact run_bind_eq_ok_iff.mpr ⟨_, between, hregistered, hmade⟩

/-- The registry that a build starts from is made. -/
theorem buildRegistry_eq (host : Host) (installed : List EntryPoint) :
    (after calls).buildRegistry host installed =
      ((((after calls).fillRegistry installed).run.run (start calls host)).1.map fun _ =>
        (((after calls).fillRegistry installed).run.run (start calls host)).2) := by
  have hdefault : (after calls).useDefaultTypes =
      ((calls.filterMap BuilderCall.defaultTypes?).getLast?).getD true := by
    have hstep : ∀ (builder : DBConnectionExtensionBuilder U interpreter) call,
        some (builder.take call).useDefaultTypes =
          call.defaultTypes?.or (some builder.useDefaultTypes) := by
      intro builder call
      cases call with
      | withRegistry registry =>
        unfold take
        dsimp only
        cases registry.dicts.copy <;> rfl
      | _ => rfl
    have hset := @foldl_set _ _ _ take
      (fun builder : DBConnectionExtensionBuilder U interpreter => some builder.useDefaultTypes)
      BuilderCall.defaultTypes? hstep calls new
    cases hlast : (calls.filterMap BuilderCall.defaultTypes?).getLast? with
    | none =>
      rw [hlast] at hset
      exact Option.some.inj hset
    | some enabled =>
      rw [hlast] at hset
      exact Option.some.inj hset
  unfold buildRegistry start
  rw [hdefault]
  cases ((calls.filterMap BuilderCall.defaultTypes?).getLast?).getD true with
  | true =>
    rw [if_pos rfl, if_pos rfl, RegistryDicts.buildDefaultRegistry_eq]
    rfl
  | false => rfl

/-- `_build_registry` returns exactly when the registrations of the configurations fit the registry
that it starts from, with the given one over it, the plugins can be loaded after them, and the given
kinds and types fit what the plugins leave. Each part adds to what the parts before it left. -/
theorem buildRegistry_eq_ok_iff {host : Host} {installed : List EntryPoint}
    {registry : RegistryDicts} :
    (after calls).buildRegistry host installed = .ok registry ↔
      Registration.Fits (base calls host) (configured calls) ∧ ∃ loaded,
        ((requested calls).forM (loadRequest installed)).run.run
            ((configured calls).foldl Registration.apply (base calls host)) = (.ok (), loaded) ∧
          Registration.Fits loaded (given calls) ∧
          registry = (given calls).foldl Registration.apply loaded := by
  rw [buildRegistry_eq, ← run_fillRegistry_iff]
  rcases ((after calls).fillRegistry installed).run.run (start calls host) with ⟨outcome, filled⟩
  cases outcome with
  | ok u => exact ⟨fun h => by cases h; rfl, fun h => by cases h; rfl⟩
  | error e => exact iff_of_false (fun h => by cases h) fun h => by cases h

/-- The registry that a build starts from is closed, with the given one over it. -/
theorem closed_base (host : Host) : (base calls host).Closed := by
  have hstart : (start calls host).Closed := by
    unfold start
    split
    · exact RegistryDicts.closed_defaultDicts host
    · exact RegistryDicts.closed_empty
  unfold base
  split
  · exact hstart
  · rename_i registry _
    exact hstart.replayed registry.closed

/-- The registrations of a list leave a closed registry closed, where they fit it. -/
theorem closed_foldl_apply {registry : RegistryDicts} {registrations : List Registration}
    (h : registry.Closed) (hfits : Registration.Fits registry registrations) :
    (registrations.foldl Registration.apply registry).Closed := by
  have hrun := Registration.run_callAll_iff.mpr ⟨hfits, rfl⟩
  have hclosed := Registration.closed_callAll registrations h
  rw [hrun] at hclosed
  exact hclosed

/-- A registry that is built is closed. -/
theorem closed_of_buildRegistry {host : Host} {installed : List EntryPoint}
    {registry : RegistryDicts} (h : (after calls).buildRegistry host installed = .ok registry) :
    registry.Closed := by
  obtain ⟨hconfigured, loaded, hloaded, hgiven, rfl⟩ := (buildRegistry_eq_ok_iff calls).mp h
  refine closed_foldl_apply ?_ hgiven
  have hkept : (((requested calls).forM (loadRequest installed)).run.run
      ((configured calls).foldl Registration.apply (base calls host))).2.Closed := by
    refine run_forM_keeps (fun request _ r hr => ?_)
      (closed_foldl_apply (closed_base calls host) hconfigured)
    exact run_bind_keeps (closed_loadRegistryPlugins hr) fun _ _ hr' => hr'
  rw [hloaded] at hkept
  exact hkept

/-- `build` returns exactly when it has a unit of work factory and can build the registry. -/
theorem build_eq_ok_iff_buildRegistry {host : Host} {installed : List EntryPoint}
    {extension : BuiltExtension U} :
    (after calls).build host installed = .ok extension ↔
      (calls.filterMap BuilderCall.uowFactory?).getLast? = some extension.uowFactory ∧
        extension.settings = (after calls).buildSettings ∧
        (after calls).buildRegistry host installed = .ok extension.registry := by
  have hfactory : (after calls).uowFactory = (calls.filterMap BuilderCall.uowFactory?).getLast? :=
    (foldl_set (fun builder call => (take_frame builder call).1) calls new).trans Option.or_none
  rw [← hfactory]
  unfold build
  cases (after calls).uowFactory with
  | none => exact iff_of_false (fun h => by cases h) fun h => by cases h.1
  | some uowFactory =>
    dsimp only
    rw [bind_eq_ok_iff]
    constructor
    · rintro ⟨registry, hregistry, h⟩
      cases h
      exact ⟨rfl, rfl, hregistry⟩
    · rintro ⟨hsame, hsettings, hregistry⟩
      refine ⟨extension.registry, hregistry, ?_⟩
      rw [← hsettings, Option.some.inj hsame]
      rfl

/-- `build` returns exactly when a unit of work factory was given, the registrations of the
configurations fit the registry that the build starts from, the plugins can be loaded after them,
and the given kinds and types fit what the plugins leave. -/
theorem build_extension_eq_ok_iff {host : Host} {installed : List EntryPoint}
    {extension : BuiltExtension U} :
    (after calls).build host installed = .ok extension ↔
      (calls.filterMap BuilderCall.uowFactory?).getLast? = some extension.uowFactory ∧
        extension.settings = (after calls).buildSettings ∧
        Registration.Fits (base calls host) (configured calls) ∧ ∃ loaded,
          ((requested calls).forM (loadRequest installed)).run.run
              ((configured calls).foldl Registration.apply (base calls host)) = (.ok (), loaded) ∧
            Registration.Fits loaded (given calls) ∧
            extension.registry = (given calls).foldl Registration.apply loaded := by
  rw [build_eq_ok_iff_buildRegistry, buildRegistry_eq_ok_iff]

variable {calls}

/-- An interpreter whose one module holds one class. -/
def lakeInterpreter : Interpreter (Option ModelClass) where
  importModule name :=
    if name = "lake.models" then .ok none
    else .error (.other "ModuleNotFoundError" s!"No module named '{name}'")
  getattr object name :=
    if object = none ∧ name = "DeltaProperties" then .ok (some sqlProperties)
    else .error (.other "AttributeError" s!"no attribute '{name}'")
  asModel := id
  asCallable _ := none

/-- A configuration of a kind and of a type of it. -/
def lakeConfig : DBConnectionDSLConfig lakeInterpreter where
  maxConnections := some 3
  kinds := [⟨"lake", "Lakes", {"check"}⟩]
  types := [{
    name := "delta"
    kind := "lake"
    propertiesModel := "lake.models:DeltaProperties"
    secretsModel := none
    publicModel := none
    connectorFactory := none
    defaultDriver := some "plain"
    driverSpecs := [⟨"plain", none, none, fun _ _ h => by cases h⟩]
    supportedDrivers := ∅
    capabilities := ∅
    tags := ∅ }]
  plugins := []

/-- Calls that configure a builder. -/
def lakeCalls : List (BuilderCall Unit lakeInterpreter) :=
  [.withUowFactory (), .withDefaultTypes false, .withDslData lakeConfig,
    .withMaxConnections (some 5)]

/-- The type of the configuration, as it is made. -/
def deltaType : TypeSpecObject where
  name := "delta"
  kind := "lake"
  propertiesModel := sqlProperties
  secretsModel := none
  publicModel := none
  connectorFactory := none
  defaultDriver := some "plain"
  driverSpecs := [plainDriver "plain"]
  supportedDrivers := {"plain"}
  capabilities := ∅
  tags := ∅

/-- The extension that they build. -/
def lakeExtension : BuiltExtension Unit :=
  ⟨(), ⟨some 5⟩, ⟨[("lake", ⟨"lake", "Lakes", {"check"}⟩)], [("delta", deltaType)]⟩⟩

/-- A plugin that replaces the kind, and goes on where it fails to register a type twice. -/
def lakePlugin : EntryPoint where
  name := "lake"
  group := "db_connection.plugins"
  load := .callable <| .registersKind ⟨"lake", "", ∅⟩ true fun _ =>
    .registersType deltaType false fun _ => .returns

/-- The registry of a built extension is closed, whatever the plugins do. -/
theorem closed_of_build {host : Host} {installed : List EntryPoint} {extension : BuiltExtension U}
    (h : (after calls).build host installed = .ok extension) : extension.registry.Closed :=
  closed_of_buildRegistry calls ((build_eq_ok_iff_buildRegistry calls).mp h).2.2

/-- An extension with a plugin that registers over the configuration. -/
theorem closed_of_build_lakePlugin :
    ∃ extension : BuiltExtension Unit,
      (after (lakeCalls ++ [.withPluginEntrypoints none "db_connection.plugins"])).build emptyHost
          [lakePlugin] = .ok extension ∧
        extension.registry.kinds.lookup "lake" = some ⟨"lake", "", ∅⟩ ∧
        extension.registry.Closed := by
  have hbuild : (after (lakeCalls ++ [.withPluginEntrypoints none "db_connection.plugins"])).build
      emptyHost [lakePlugin] = .ok ⟨(), ⟨some 5⟩, ⟨[("lake", ⟨"lake", "", ∅⟩)],
        [("delta", deltaType)]⟩⟩ := rfl
  exact ⟨_, hbuild, rfl, closed_of_build hbuild⟩

/-- The services of an extension that is built without plugins find every type that was configured
or given, and every type that the build started from as it was. -/
theorem getType_of_build {host : Host} {installed : List EntryPoint} {extension : BuiltExtension U}
    (h : (after calls).build host installed = .ok extension) (hplugins : requested calls = []) :
    ∃ hclosed : extension.registry.Closed,
      (∀ spec ∈ Registration.types (configured calls ++ given calls), ∃ hspec,
        (extension.registry.toRegistry hclosed).getType spec.name = .ok (spec.toTypeSpec hspec)) ∧
      ∀ name spec, (base calls host).getType name = .ok spec → ∃ hspec,
        (extension.registry.toRegistry hclosed).getType name = .ok (spec.toTypeSpec hspec) := by
  obtain ⟨-, -, hregistry⟩ := (build_eq_ok_iff_buildRegistry calls).mp h
  have hclosed := closed_of_buildRegistry calls hregistry
  refine ⟨hclosed, ?_⟩
  have hget : ∀ {name spec}, extension.registry.types.lookup name = some spec → ∃ hspec,
      (extension.registry.toRegistry hclosed).getType name = .ok (spec.toTypeSpec hspec) := by
    intro name spec hspec
    refine ⟨(hclosed.of_lookup hspec).2, ?_⟩
    refine (RegistryDicts.getType_toRegistry hclosed).mpr ⟨spec, _, ?_, rfl⟩
    unfold RegistryDicts.getType
    rw [hspec]
  obtain ⟨hconfigured, loaded, hloaded, hgiven, hsame⟩ :=
    (buildRegistry_eq_ok_iff calls).mp hregistry
  rw [hplugins] at hloaded
  cases hloaded
  obtain ⟨hconfigs, hbase⟩ := hconfigured.lookup
  obtain ⟨hgivens, hkept⟩ := hgiven.lookup
  rw [← hsame] at hgivens hkept
  refine ⟨fun spec hspec => ?_, fun name spec hspec => ?_⟩
  · have happend : Registration.types (configured calls ++ given calls) =
        Registration.types (configured calls) ++ Registration.types (given calls) :=
      List.filterMap_append
    rw [happend, List.mem_append] at hspec
    rcases hspec with hspec | hspec
    · exact hget (hkept _ _ (hconfigs spec hspec))
    · exact hget (hgivens spec hspec)
  · unfold RegistryDicts.getType at hspec
    cases hlookup : (base calls host).types.lookup name with
    | none =>
      rw [hlookup] at hspec
      cases hspec
    | some found =>
      rw [hlookup] at hspec
      cases hspec
      exact hget (hkept _ _ (hbase _ _ hlookup))

/-- The type of the configuration is found. -/
theorem getType_of_build_lake :
    (after lakeCalls).build emptyHost [] = .ok lakeExtension ∧
      ∃ hclosed : lakeExtension.registry.Closed, ∃ hspec,
        (lakeExtension.registry.toRegistry hclosed).getType "delta" =
          .ok (deltaType.toTypeSpec hspec) := by
  have hbuild : (after lakeCalls).build emptyHost [] = .ok lakeExtension := rfl
  obtain ⟨hclosed, htypes, -⟩ := getType_of_build hbuild rfl
  exact ⟨hbuild, hclosed, htypes deltaType List.mem_cons_self⟩

end DBConnectionExtensionBuilder

end DbConnection
