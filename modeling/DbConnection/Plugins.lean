import DbConnection.ClassifiedErrors
import DbConnection.Registration

/-!
# Plugins

`plugins.py`. A plugin is an entry point of a group, whose bootstrap is called with a registry. The
plugins that are asked for are looked for first, and are then loaded in the order of their names
(`run_loadRegistryPlugins_iff`). Whatever a plugin does, no exception comes out of the loading that
is not one of the package, and the registry stays closed (`loadRegistryPlugins_contained`).
-/

namespace DbConnection

open PyData NamedEntries Sessions

/-! ## Builds -/

/-- An exception of a build. -/
inductive BuildError where
  | raised (e : PyError)
  /-- `InfrastructureError` or `SecretDecryptionError`, which no call on connections raises. -/
  | packageError (cls message : String) (details : Dict Json)
  deriving DecidableEq

/-- The class of the exception derives from `DBConnectionError`. -/
def BuildError.isDBConnectionError : BuildError → Bool
  | .raised e => e.isDBConnectionError
  | .packageError _ _ _ => true

/-- `InfrastructureError`. -/
def infrastructureError (message : String) (details : Dict Json) : BuildError :=
  .packageError "InfrastructureError" message details

/-- A part of a build, which changes the registry that is built and may raise. -/
abbrev BuildCall := ExceptT BuildError (StateM RegistryDicts)

/-- A call on a registry, as a part of a build. -/
def RegistryCall.inBuild (call : RegistryCall) : BuildCall Unit :=
  ExceptT.mk fun self => ((call.run.run self).1.mapError BuildError.raised, (call.run.run self).2)

/-- A call returns in a build when it returns. -/
theorem run_inBuild_iff {call : RegistryCall} {self self' : RegistryDicts} :
    call.inBuild.run.run self = (.ok (), self') ↔ call.run.run self = (.ok (), self') := by
  have hrun : call.inBuild.run.run self =
      ((call.run.run self).1.mapError BuildError.raised, (call.run.run self).2) := rfl
  rw [hrun]
  rcases call.run.run self with ⟨outcome, after⟩
  cases outcome with
  | ok u => exact ⟨fun h => by cases h; rfl, fun h => by cases h; rfl⟩
  | error e => exact iff_of_false (fun h => by cases h) fun h => by cases h

/-! ## Entry points -/

/-- What a bootstrap does with the registry that it is called with. It may catch what a registration
raises. -/
inductive Bootstrap where
  | returns
  | raises (e : BuildError)
  | registersKind (spec : KindSpecObject) (overwrite : Bool)
      (next : Except PyError Unit → Bootstrap)
  | registersType (given : TypeSpecObject) (overwrite : Bool)
      (next : Except PyError Unit → Bootstrap)
  | reads (next : RegistryDicts → Bootstrap)

/-- `bootstrap(registry)`. -/
def Bootstrap.call : Bootstrap → RegistryDicts → Except BuildError Unit × RegistryDicts
  | .returns, self => (.ok (), self)
  | .raises e, self => (.error e, self)
  | .registersKind spec overwrite next, self =>
    let outcome := (DbConnection.registerKind spec overwrite).run.run self
    (next outcome.1).call outcome.2
  | .registersType given overwrite next, self =>
    let outcome := (registerMade given overwrite).run.run self
    (next outcome.1).call outcome.2
  | .reads next, self => (next self).call self

/-- The bootstrap, as a part of a build. -/
def Bootstrap.inBuild (bootstrap : Bootstrap) : BuildCall Unit := ExceptT.mk bootstrap.call

/-- What `load` makes of an entry point. -/
inductive LoadedObject where
  | raised
  | notCallable
  | callable (bootstrap : Bootstrap)

/-- An entry point. -/
structure EntryPoint where
  name : String
  group : String
  load : LoadedObject

/-- The details of an error about one plugin. -/
def pluginDetails (group plugin : String) : Dict Json :=
  [("group", .str group), ("plugin", .str plugin)]

/-- `_load_plugin_callable`. -/
def loadPluginCallable (plugin : EntryPoint) : Except BuildError Bootstrap :=
  match plugin.load with
  | .raised => .error (infrastructureError "DB Connection plugin could not be imported."
      (pluginDetails plugin.group plugin.name))
  | .notCallable => .error (infrastructureError
      "DB Connection plugin must resolve to a callable bootstrap."
      (pluginDetails plugin.group plugin.name))
  | .callable bootstrap => .ok bootstrap

section Loading

variable (installed : List EntryPoint) (group : String) (names : Option (List String))

/-- `_entry_points_for_group`, of the entry points that are installed. -/
def entryPointsForGroup : List EntryPoint :=
  (installed.filter fun plugin => plugin.group == group).insertionSort fun a b => a.name ≤ b.name

/-- `_select_entry_points`. -/
def selectEntryPoints : Except BuildError (List EntryPoint) :=
  let selected := entryPointsForGroup installed group
  match names with
  | none => .ok selected
  | some names =>
    let filtered := selected.filter fun plugin => names.contains plugin.name
    let missing := sortedNames (names.toFinset \ (filtered.map EntryPoint.name).toFinset)
    if missing.isEmpty then .ok filtered
    else .error (infrastructureError "DB Connection plugins were not found."
      [("group", .str group), ("plugins", .arr (missing.map Json.str))])

/-- What `load_registry_plugins` does with one plugin. -/
def loadPlugin (plugin : EntryPoint) : BuildCall String := do
  let bootstrap ← MonadExcept.ofExcept (loadPluginCallable plugin)
  tryCatch bootstrap.inBuild fun e =>
    if e.isDBConnectionError then throw e
    else throw (infrastructureError "DB Connection plugin bootstrap failed."
      (pluginDetails group plugin.name))
  return plugin.name

/-- `load_registry_plugins`. -/
def loadRegistryPlugins : BuildCall (List String) := do
  let plugins ← MonadExcept.ofExcept (selectEntryPoints installed group names)
  plugins.mapM (loadPlugin group)

end Loading

/-! ## What loading does -/

section Properties

variable {installed : List EntryPoint} {group : String} {names : Option (List String)}
  {self self' : RegistryDicts}

/-- A bootstrap leaves a registry closed, whatever it does and wherever it stops. -/
theorem Bootstrap.closed_call (bootstrap : Bootstrap) (h : self.Closed) :
    (bootstrap.call self).2.Closed := by
  induction bootstrap generalizing self with
  | returns => exact h
  | raises e => exact h
  | registersKind spec overwrite next ih =>
    exact ih _ (RegistryDicts.closed_registerKind h spec overwrite)
  | registersType given overwrite next ih =>
    exact ih _ (RegistryDicts.closed_registerMade h given overwrite)
  | reads next ih => exact ih _ h

/-- The plugins that are asked for. -/
def wanted (installed : List EntryPoint) (group : String) (names : Option (List String)) :
    List EntryPoint :=
  (entryPointsForGroup installed group).filter fun plugin =>
    names.all fun names => names.contains plugin.name

/-- Every name that is asked for is the name of a plugin of the group. -/
def Found (installed : List EntryPoint) (group : String) (names : Option (List String)) : Prop :=
  ∀ requested, names = some requested → ∀ name ∈ requested,
    ∃ plugin ∈ installed, plugin.group = group ∧ plugin.name = name

/-- The plugins of a group. -/
theorem mem_entryPointsForGroup {plugin : EntryPoint} :
    plugin ∈ entryPointsForGroup installed group ↔ plugin ∈ installed ∧ plugin.group = group := by
  unfold entryPointsForGroup
  rw [(List.perm_insertionSort _ _).mem_iff, List.mem_filter, beq_iff_eq]

/-- The plugins that are asked for are selected, if all of them are found. -/
theorem selectEntryPoints_eq_ok_iff {plugins : List EntryPoint} :
    selectEntryPoints installed group names = .ok plugins ↔
      Found installed group names ∧ plugins = wanted installed group names := by
  unfold selectEntryPoints wanted Found sortedNames
  cases names with
  | none => simp [eq_comm]
  | some requested =>
    dsimp only [Option.all_some]
    generalize hfiltered : ((entryPointsForGroup installed group).filter fun plugin =>
      requested.contains plugin.name) = filtered
    have hmissing : ((requested.toFinset \ (filtered.map EntryPoint.name).toFinset).sort).isEmpty =
          true ↔ ∀ names, some requested = some names → ∀ name ∈ names,
            ∃ plugin ∈ installed, plugin.group = group ∧ plugin.name = name := by
      rw [List.isEmpty_iff, ← List.toFinset_eq_empty_iff, Finset.sort_toFinset,
        Finset.sdiff_eq_empty_iff_subset]
      simp only [Option.some.injEq, forall_eq', Finset.subset_iff, List.mem_toFinset, List.mem_map,
        ← hfiltered, List.mem_filter, mem_entryPointsForGroup, List.contains_iff_mem]
      constructor
      · intro h name hname
        obtain ⟨plugin, ⟨⟨hinstalled, hgroup⟩, -⟩, hplugin⟩ := h hname
        exact ⟨plugin, hinstalled, hgroup, hplugin⟩
      · intro h name hname
        obtain ⟨plugin, hinstalled, hgroup, rfl⟩ := h name hname
        exact ⟨plugin, ⟨⟨hinstalled, hgroup⟩, hname⟩, rfl⟩
    rw [← hmissing]
    split
    · rename_i hempty
      rw [Except.ok.injEq, eq_comm, and_iff_right hempty]
    · rename_i hsome
      exact iff_of_false (fun h => by cases h) fun h => hsome h.1

/-- A plugin that is loaded has a bootstrap. -/
theorem loadPluginCallable_eq_ok_iff {plugin : EntryPoint} {bootstrap : Bootstrap} :
    loadPluginCallable plugin = .ok bootstrap ↔ plugin.load = .callable bootstrap := by
  unfold loadPluginCallable
  cases plugin.load <;> simp

/-- One plugin is loaded, and its bootstrap is called with the registry. -/
theorem run_loadPlugin_iff {plugin : EntryPoint} {loaded : String} :
    (loadPlugin group plugin).run.run self = (.ok loaded, self') ↔
      loaded = plugin.name ∧ ∃ bootstrap, plugin.load = .callable bootstrap ∧
        bootstrap.inBuild.run.run self = (.ok (), self') := by
  have hcaught : ∀ {bootstrap : Bootstrap} {handler : BuildError → BuildCall Unit}
      (_ : ∀ e, ∃ e', handler e = throw e'),
      (tryCatch bootstrap.inBuild handler).run.run self = (.ok (), self') ↔
        bootstrap.inBuild.run.run self = (.ok (), self') := by
    intro bootstrap handler hhandler
    rcases hrun : bootstrap.inBuild.run.run self with ⟨outcome, after⟩
    cases outcome with
    | ok u => rw [run_tryCatch_ok hrun]
    | error e =>
      obtain ⟨e', he'⟩ := hhandler e
      rw [run_tryCatch_error hrun, he']
      exact iff_of_false (fun h => by cases h) fun h => by cases h
  unfold loadPlugin
  rw [run_ofExcept_bind_eq_ok_iff]
  constructor
  · rintro ⟨bootstrap, hload, h⟩
    obtain ⟨_, _, hrun, hname⟩ := run_bind_eq_ok_iff.mp h
    cases hname
    refine ⟨rfl, bootstrap, loadPluginCallable_eq_ok_iff.mp hload, (hcaught fun e => ?_).mp hrun⟩
    cases e.isDBConnectionError <;> exact ⟨_, rfl⟩
  · rintro ⟨rfl, bootstrap, hload, hrun⟩
    refine ⟨bootstrap, loadPluginCallable_eq_ok_iff.mpr hload, ?_⟩
    refine run_bind_eq_ok_iff.mpr ⟨(), self', (hcaught fun e => ?_).mpr hrun, rfl⟩
    cases e.isDBConnectionError <;> exact ⟨_, rfl⟩

/-- Plugins are loaded one after the other, each on what those before it left. -/
theorem run_loadPlugins_iff {plugins : List EntryPoint} {loaded : List String} :
    (plugins.mapM (loadPlugin group)).run.run self = (.ok loaded, self') ↔
      loaded = plugins.map EntryPoint.name ∧ ∃ bootstraps,
        List.Forall₂ (fun plugin bootstrap => plugin.load = .callable bootstrap) plugins
            bootstraps ∧
          (bootstraps.forM Bootstrap.inBuild).run.run self = (.ok (), self') := by
  induction plugins generalizing self loaded with
  | nil =>
    rw [List.mapM_nil, List.map_nil]
    constructor
    · intro h
      cases h
      exact ⟨rfl, [], .nil, rfl⟩
    · rintro ⟨rfl, bootstraps, hnil, hrun⟩
      cases hnil
      cases hrun
      rfl
  | cons plugin plugins ih =>
    have hcons : ∀ bootstrap bootstraps, (bootstrap :: bootstraps).forM Bootstrap.inBuild =
        (bootstrap.inBuild >>= fun _ => bootstraps.forM Bootstrap.inBuild) := fun _ _ => rfl
    rw [List.mapM_cons, List.map_cons, run_bind_eq_ok_iff]
    constructor
    · rintro ⟨first, between, hfirst, h⟩
      obtain ⟨rest, _, hrest, hloaded⟩ := run_bind_eq_ok_iff.mp h
      cases hloaded
      obtain ⟨rfl, bootstrap, hload, hcall⟩ := run_loadPlugin_iff.mp hfirst
      obtain ⟨rfl, bootstraps, hloads, hcalls⟩ := ih.mp hrest
      refine ⟨rfl, bootstrap :: bootstraps, .cons hload hloads, ?_⟩
      rw [hcons]
      exact run_bind_eq_ok_iff.mpr ⟨(), between, hcall, hcalls⟩
    · rintro ⟨rfl, bootstraps, hloads, hrun⟩
      cases hloads with
      | cons hload hloads =>
        rw [hcons] at hrun
        obtain ⟨_, between, hcall, hcalls⟩ := run_bind_eq_ok_iff.mp hrun
        refine ⟨plugin.name, between, run_loadPlugin_iff.mpr ⟨rfl, _, hload, hcall⟩, ?_⟩
        exact run_bind_eq_ok_iff.mpr ⟨_, self', ih.mpr ⟨rfl, _, hloads, hcalls⟩, rfl⟩

/-- The plugins that are asked for are loaded, each called with the registry once and in the order of
their names, exactly when all of them are found, all have a bootstrap, and no bootstrap raises. -/
theorem run_loadRegistryPlugins_iff {loaded : List String} :
    (loadRegistryPlugins installed group names).run.run self = (.ok loaded, self') ↔
      Found installed group names ∧ loaded = (wanted installed group names).map EntryPoint.name ∧
        ∃ bootstraps,
          List.Forall₂ (fun plugin bootstrap => plugin.load = .callable bootstrap)
              (wanted installed group names) bootstraps ∧
            (bootstraps.forM Bootstrap.inBuild).run.run self = (.ok (), self') := by
  unfold loadRegistryPlugins
  rw [run_ofExcept_bind_eq_ok_iff]
  constructor
  · rintro ⟨plugins, hselected, h⟩
    obtain ⟨hfound, rfl⟩ := selectEntryPoints_eq_ok_iff.mp hselected
    exact ⟨hfound, run_loadPlugins_iff.mp h⟩
  · rintro ⟨hfound, h⟩
    exact ⟨_, selectEntryPoints_eq_ok_iff.mpr ⟨hfound, rfl⟩, run_loadPlugins_iff.mpr h⟩

/-- Loading plugins leaves a registry closed, whatever they do and wherever it stops. -/
theorem closed_loadRegistryPlugins (h : self.Closed) :
    ((loadRegistryPlugins installed group names).run.run self).2.Closed := by
  have hplugin : ∀ plugin : EntryPoint, ∀ r : RegistryDicts, r.Closed →
      ((loadPlugin group plugin).run.run r).2.Closed := by
    intro plugin r hr
    unfold loadPlugin
    refine run_bind_keeps ?_ fun bootstrap r' hr' => run_bind_keeps ?_ fun _ r'' hr'' => hr''
    · rw [run_ofExcept]
      exact hr
    · rcases hrun : bootstrap.inBuild.run.run r' with ⟨outcome, after⟩
      have hafter : after.Closed := by
        have hcall := bootstrap.closed_call hr'
        rw [show bootstrap.call r' = (outcome, after) from hrun] at hcall
        exact hcall
      cases outcome with
      | ok u =>
        rw [run_tryCatch_ok hrun]
        exact hafter
      | error e =>
        rw [run_tryCatch_error hrun]
        cases e.isDBConnectionError <;> exact hafter
  unfold loadRegistryPlugins
  refine run_bind_keeps ?_ fun plugins r hr => run_mapM_keeps (fun plugin _ => hplugin plugin) hr
  rw [run_ofExcept]
  exact h

/-- What comes out of loading plugins is an exception of the package. -/
theorem raises_loadRegistryPlugins :
    Raises (fun e => e.isDBConnectionError = true) (loadRegistryPlugins installed group names) := by
  refine (raises_ofExcept fun e h => ?_).bind fun plugins => Raises.mapM (fun plugin => ?_) plugins
  · unfold selectEntryPoints at h
    cases names with
    | none => cases h
    | some requested =>
      dsimp only at h
      split at h
      · cases h
      · cases h
        rfl
  · refine (raises_ofExcept fun e h => ?_).bind fun bootstrap => Raises.bind ?_ fun _ => raises_pure _
    · unfold loadPluginCallable at h
      cases hload : plugin.load <;> rw [hload] at h <;> cases h <;> rfl
    · intro r e r' h
      rcases hrun : bootstrap.inBuild.run.run r with ⟨outcome, after⟩
      cases outcome with
      | ok u =>
        rw [run_tryCatch_ok hrun] at h
        cases h
      | error raised =>
        rw [run_tryCatch_error hrun] at h
        cases hpackage : raised.isDBConnectionError with
        | true =>
          rw [hpackage] at h
          cases h
          exact hpackage
        | false =>
          rw [hpackage] at h
          cases h
          rfl

/-- Where a name is not found, no plugin is loaded, and the error has the names that are not. -/
theorem run_loadRegistryPlugins_missing (self : RegistryDicts)
    (h : ¬ Found installed group names) : ∃ missing : Finset String,
      (loadRegistryPlugins installed group names).run.run self =
          (.error (infrastructureError "DB Connection plugins were not found."
            [("group", .str group), ("plugins", .arr (missing.sort.map Json.str))]), self) ∧
        ∀ name, name ∈ missing ↔ (∃ requested, names = some requested ∧ name ∈ requested) ∧
          ∀ plugin ∈ installed, plugin.group = group → plugin.name ≠ name := by
  cases names with
  | none => exact absurd (fun _ hnone => by cases hnone) h
  | some requested =>
    refine ⟨requested.toFinset \ (((entryPointsForGroup installed group).filter fun plugin =>
      requested.contains plugin.name).map EntryPoint.name).toFinset, ?_, fun name => ?_⟩
    · unfold loadRegistryPlugins
      refine run_bind_error ?_
      rw [run_ofExcept]
      cases hselected : selectEntryPoints installed group (some requested) with
      | ok plugins => exact absurd (selectEntryPoints_eq_ok_iff.mp hselected).1 h
      | error e =>
        unfold selectEntryPoints at hselected
        dsimp only at hselected
        split at hselected
        · cases hselected
        · cases hselected
          rfl
    · simp only [Finset.mem_sdiff, List.mem_toFinset, List.mem_map, List.mem_filter,
        mem_entryPointsForGroup, List.contains_iff_mem, Option.some.injEq, exists_eq_left', ne_eq,
        not_exists, not_and]
      refine and_congr_right fun hname => ⟨fun hno plugin hplugin hgroup heq => ?_, ?_⟩
      · exact hno plugin ⟨⟨hplugin, hgroup⟩, heq ▸ hname⟩ heq
      · exact fun hno plugin hplugin heq => hno plugin hplugin.1.1 hplugin.1.2 heq

/-- Whatever the plugins do, only exceptions of the package come out of loading them, and the
registry stays closed; and where a name is not found, the registry is left as it was, by an error
that has the names that are not. -/
theorem loadRegistryPlugins_contained (installed : List EntryPoint) (group : String)
    (names : Option (List String)) :
    Raises (fun e => e.isDBConnectionError = true) (loadRegistryPlugins installed group names) ∧
      (∀ self : RegistryDicts, self.Closed →
        ((loadRegistryPlugins installed group names).run.run self).2.Closed) ∧
      (¬ Found installed group names → ∀ self : RegistryDicts, ∃ missing : Finset String,
        (loadRegistryPlugins installed group names).run.run self =
            (.error (infrastructureError "DB Connection plugins were not found."
              [("group", .str group), ("plugins", .arr (missing.sort.map Json.str))]), self) ∧
          ∀ name, name ∈ missing ↔ (∃ requested, names = some requested ∧ name ∈ requested) ∧
            ∀ plugin ∈ installed, plugin.group = group → plugin.name ≠ name) :=
  ⟨raises_loadRegistryPlugins, fun _ h => closed_loadRegistryPlugins h,
    fun h self => run_loadRegistryPlugins_missing self h⟩

end Properties

end DbConnection
