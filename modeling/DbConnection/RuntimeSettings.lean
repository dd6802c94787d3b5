import DbConnection.Lifecycle
import DbConnection.Mapper

/-!
# Settings that change at run time

`runtime/settings.py`, and `update_settings` of the extension. The runtime builds a new service when
its settings change, and each call is made of the service in place when it starts. The limit in
force is the one that the last accepted update set (`settings_of_run`), and the active connections
of a run stay within the limits that were in force while connections were created
(`activeCount_of_run_le`).
-/

namespace DbConnection

open PyData Pydantic ReadCommitted

/-- `DBConnectionSettings`. -/
structure DBConnectionSettings where
  maxConnections : Option Int
  deriving DecidableEq, Repr

/-- `DBConnectionSettingsPatch`. -/
structure DBConnectionSettingsPatch where
  maxConnections : PatchValue (Option Int)
  deriving DecidableEq, Repr

/-- The fields of `DBConnectionSettingsPatch`. -/
def settingsPatchDecl : ModelDecl :=
  .ofFields [packageRef "runtime.settings" "DBConnectionSettingsPatch", baseModelRef]
    [.optional "max_connections" .int] .ignore

/-- An integer, or `None`. -/
def toInt? : Json → Option Int
  | .int n => some n
  | _ => none

/-- `DBConnectionSettingsPatch.model_validate`. -/
def DBConnectionSettingsPatch.modelValidate (payload : Dict Json) :
    Except ModelError DBConnectionSettingsPatch :=
  (settingsPatchDecl.parse (.obj payload)).map fun parsed =>
    ⟨patchValue parsed.dumpSet "max_connections" toInt?⟩

/-- `model_dump(exclude_unset=True)`. -/
def DBConnectionSettingsPatch.modelDump (patch : DBConnectionSettingsPatch) : Dict Json :=
  match patch.maxConnections with
  | .unset => []
  | .set limit => [("max_connections", (limit.map Json.int).getD .null)]

/-- `model_copy(update=...)`. -/
def DBConnectionSettings.modelCopy (settings : DBConnectionSettings) (update : Dict Json) :
    DBConnectionSettings where
  maxConnections := (patchValue update "max_connections" toInt?).getD settings.maxConnections

/-- `DBConnectionRuntime._build_service`, of the runtime's other parts. -/
def buildService {C : Type} (parts : ConnectionService C) (settings : DBConnectionSettings) :
    ConnectionService C :=
  { parts with maxConnections := settings.maxConnections }

/-- `DBConnectionRuntime`. -/
structure DBConnectionRuntime (C : Type) where
  settings : DBConnectionSettings
  /-- The registry, the policies, the resolver and the storage. -/
  parts : ConnectionService C
  service : ConnectionService C
  /-- The service is the one of the settings. -/
  service_eq : service = buildService parts settings

/-- What `update_settings` takes: a patch, or a dictionary. -/
inductive SettingsArgument where
  | patch (patch : DBConnectionSettingsPatch)
  | data (payload : Dict Json)
  deriving DecidableEq, Repr

/-- The patch, validated if it is a dictionary. -/
def SettingsArgument.model : SettingsArgument → Except ModelError DBConnectionSettingsPatch
  | .patch model => .ok model
  | .data payload => DBConnectionSettingsPatch.modelValidate payload

namespace DBConnectionRuntime

variable {C : Type}

/-- `DBConnectionRuntime(...)`. -/
def start (settings : DBConnectionSettings) (parts : ConnectionService C) :
    DBConnectionRuntime C :=
  ⟨settings, parts, buildService parts settings, rfl⟩

/-- `DBConnectionRuntime.update_settings`. -/
def updateSettings (runtime : DBConnectionRuntime C) (argument : SettingsArgument) :
    Except ModelError DBConnectionSettings × DBConnectionRuntime C :=
  match argument.model with
  | .error e => (.error e, runtime)
  | .ok patch =>
    let settings := runtime.settings.modelCopy patch.modelDump
    -- The service that calls in progress were made of stays as it was.
    (.ok settings, start settings runtime.parts)

end DBConnectionRuntime

/-- The payload that `update_settings` of the extension validates: the patch, and the keyword
arguments over it. -/
def settingsPayload (argument : Option SettingsArgument) (kwargs : Dict Json) : Dict Json :=
  Dict.update (match argument with
    | none => []
    | some (.patch patch) => patch.modelDump
    | some (.data payload) => payload) kwargs

/-- `DBConnectionExtension.update_settings`. -/
def updateSettings {C : Type} (runtime : DBConnectionRuntime C)
    (argument : Option SettingsArgument) (kwargs : Dict Json) :
    Except ModelError DBConnectionSettings × DBConnectionRuntime C :=
  match DBConnectionSettingsPatch.modelValidate (settingsPayload argument kwargs) with
  | .error e => (.error e, runtime)
  | .ok patch => runtime.updateSettings (.patch patch)

/-- What happens to an extension: its settings are updated, or its service is called. -/
inductive RuntimeEvent where
  | updateSettings (argument : Option SettingsArgument) (kwargs : Dict Json)
  | call (inv : Invocation)
  deriving DecidableEq, Repr

/-- The runtime and the store after an event. -/
def RuntimeEvent.apply {C : Type} (event : RuntimeEvent) :
    DBConnectionRuntime C × List (Row C) → DBConnectionRuntime C × List (Row C)
  | (runtime, store) =>
    match event with
    | .updateSettings argument kwargs =>
      ((DbConnection.updateSettings runtime argument kwargs).2, store)
    | .call inv => (runtime, ((inv.prog runtime.service).run store).2)

/-- The runtime and the store after events one after another. -/
def runEvents {C : Type} (events : List RuntimeEvent)
    (state : DBConnectionRuntime C × List (Row C)) : DBConnectionRuntime C × List (Row C) :=
  events.foldl (fun state event => event.apply state) state

/-- A limit as a payload gives it: `None`, or what is read as an integer. -/
def readLimit : Json → Option (Option Int)
  | .null => some none
  | value => (readInt value).map some

/-- The limit that an event puts in force: the one that its payload gives, if it is read. -/
def RuntimeEvent.limitSet : RuntimeEvent → Option (Option Int)
  | .updateSettings argument kwargs =>
    ((settingsPayload argument kwargs).lookup "max_connections").bind readLimit
  | .call _ => none

/-! ## Updates -/

section Updates

variable {C : Type} (runtime : DBConnectionRuntime C)

/-- A patch of settings is what its one field was read as, if it was. -/
theorem modelValidate_of_readFields {payload : Dict Json} {fields : FieldsRead}
    {failures : List Failure}
    (h : readFields (toFieldInputs payload) settingsPatchDecl.fields [] [] = (fields, failures)) :
    (DBConnectionSettingsPatch.modelValidate payload).toOption =
      if failures = [] then
        some ⟨patchValue (toJsonDict (readingOf fields [] []).valuesSet) "max_connections" toInt?⟩
      else none := by
  have hparse : settingsPatchDecl.parse (.obj payload) =
      settingsPatchDecl.parseInputs (toFieldInputs payload) := rfl
  unfold DBConnectionSettingsPatch.modelValidate
  rw [hparse]
  by_cases hfailures : failures = []
  · subst hfailures
    rw [ModelDecl.parseInputs_eq_ok_iff.mpr ⟨fields, [], h, rfl, rfl, rfl⟩, if_pos rfl]
    rfl
  · rw [if_neg hfailures]
    cases hp : settingsPatchDecl.parseInputs (toFieldInputs payload) with
    | error e => rfl
    | ok p =>
      -- What is accepted was read without a failure.
      obtain ⟨_, _, hread, -⟩ := ModelDecl.parseInputs_eq_ok_iff.mp hp
      rw [h] at hread
      exact absurd (Prod.mk.inj hread).2 hfailures

/-- What the field of a limit reads. -/
theorem readFields_settingsPatch (payload : Dict Json) :
    readFields (toFieldInputs payload) settingsPatchDecl.fields [] [] =
      match payload.lookup "max_connections" with
      | none => ([("max_connections", .json .null, false)], [])
      | some value =>
        match (FieldType.nullable .int).readJson value with
        | .ok reading => ([("max_connections", reading, true)], [])
        | .error e => ([], [(Field.optional "max_connections" .int).failure (.json value) e]) := by
  unfold settingsPatchDecl ModelDecl.ofFields readFields readFields
  dsimp only [Field.optional, Field.of, Field.lookup, Option.bind_none, Option.none_or]
  rw [lookup_toFieldInputs]
  cases payload.lookup "max_connections" with
  | none => rfl
  | some value =>
    dsimp only [Option.map_some, Field.readInput]
    cases hr : (FieldType.nullable .int).readJson value with
    | error e => rfl
    | ok reading =>
      -- The validators of the field keep what it read.
      dsimp only
      cases hv : reading.value with
      | datetime t => rfl
      | json w => simp

/-- The field of a limit reads what is a limit. -/
theorem readJson_limit (value : Json) :
    ((FieldType.nullable .int).readJson value).toOption =
      (readLimit value).map fun limit => .json ((limit.map Json.int).getD .null) := by
  by_cases hnull : value = .null
  · subst hnull
    rfl
  · have hread : (FieldType.nullable .int).readJson value = FieldType.int.readJson value := by
      cases value <;> first | rfl | contradiction
    have hlimit : readLimit value = (readInt value).map some := by
      cases value <;> first | rfl | contradiction
    rw [hread, hlimit]
    unfold FieldType.readJson
    cases readInt value <;> rfl

/-- A patch of settings is read of a payload whose limit is an integer, `None` or missing. -/
theorem modelValidate_eq (payload : Dict Json) :
    (DBConnectionSettingsPatch.modelValidate payload).toOption =
      match payload.lookup "max_connections" with
      | none => some ⟨.unset⟩
      | some value => (readLimit value).map fun limit => ⟨.set limit⟩ := by
  have hfields := readFields_settingsPatch payload
  cases hl : payload.lookup "max_connections" with
  | none =>
    rw [hl] at hfields
    rw [modelValidate_of_readFields hfields]
    rfl
  | some value =>
    rw [hl] at hfields
    dsimp only at hfields ⊢
    have hread := readJson_limit value
    cases hr : (FieldType.nullable .int).readJson value with
    | error e =>
      rw [hr] at hread hfields
      rw [modelValidate_of_readFields hfields, Option.map_eq_none_iff.mp hread.symm]
      rfl
    | ok reading =>
      rw [hr] at hread hfields
      obtain ⟨limit, hlimit, hreading⟩ := Option.map_eq_some_iff.mp hread.symm
      subst hreading
      rw [modelValidate_of_readFields hfields, hlimit]
      cases limit <;> rfl

/-- The settings that a patch leaves. -/
theorem modelCopy_modelDump (settings : DBConnectionSettings) (patch : DBConnectionSettingsPatch) :
    settings.modelCopy patch.modelDump = ⟨patch.maxConnections.getD settings.maxConnections⟩ := by
  obtain ⟨limit | limit⟩ := patch
  · rfl
  · cases limit <;> rfl

/-- An event leaves the settings that it puts in force, and those of before if it puts none. -/
theorem settings_apply (event : RuntimeEvent) (store : List (Row C)) :
    (event.apply (runtime, store)).1.settings =
      ⟨event.limitSet.getD runtime.settings.maxConnections⟩ := by
  cases event with
  | call inv => rfl
  | updateSettings argument kwargs =>
    have hmodel := modelValidate_eq (settingsPayload argument kwargs)
    unfold RuntimeEvent.apply RuntimeEvent.limitSet DbConnection.updateSettings
    dsimp only
    cases hv : DBConnectionSettingsPatch.modelValidate (settingsPayload argument kwargs) with
    | error e =>
      rw [hv] at hmodel
      dsimp only
      -- A payload that is refused gave a limit that is not read.
      cases hl : (settingsPayload argument kwargs).lookup "max_connections" with
      | none => simp [hl, Except.toOption] at hmodel
      | some value =>
        rw [hl] at hmodel
        rw [Option.bind_some, Option.map_eq_none_iff.mp hmodel.symm]
        rfl
    | ok patch =>
      rw [hv] at hmodel
      unfold DBConnectionRuntime.updateSettings SettingsArgument.model DBConnectionRuntime.start
      dsimp only
      rw [modelCopy_modelDump]
      cases hl : (settingsPayload argument kwargs).lookup "max_connections" with
      | none =>
        rw [hl] at hmodel
        cases hmodel
        rfl
      | some value =>
        rw [hl] at hmodel
        obtain ⟨limit, hlimit, rfl⟩ := Option.map_eq_some_iff.mp hmodel.symm
        rw [Option.bind_some, hlimit]
        rfl

/-- An event leaves the other parts of the runtime. -/
theorem parts_apply (event : RuntimeEvent) (store : List (Row C)) :
    (event.apply (runtime, store)).1.parts = runtime.parts := by
  cases event with
  | call inv => rfl
  | updateSettings argument kwargs =>
    unfold RuntimeEvent.apply DbConnection.updateSettings
    dsimp only
    cases DBConnectionSettingsPatch.modelValidate (settingsPayload argument kwargs) <;> rfl

end Updates

/-- After any run the limit in force is the one that the last update set that was not refused and
set one, or the one of before, and the service is built of the settings in force and of the parts
that the runtime started with. -/
theorem settings_of_run {C : Type} (events : List RuntimeEvent) (runtime : DBConnectionRuntime C)
    (store : List (Row C)) :
    (runEvents events (runtime, store)).1.settings =
        ⟨((events.filterMap RuntimeEvent.limitSet).getLast?).getD runtime.settings.maxConnections⟩ ∧
      (runEvents events (runtime, store)).1.service =
        buildService runtime.parts (runEvents events (runtime, store)).1.settings := by
  induction events generalizing runtime store with
  | nil => exact ⟨rfl, runtime.service_eq⟩
  | cons event events ih =>
    rcases hstep : event.apply (runtime, store) with ⟨runtime', store'⟩
    have hsettings := settings_apply runtime event store
    have hparts := parts_apply runtime event store
    rw [hstep] at hsettings hparts
    obtain ⟨hlimit, hservice⟩ := ih runtime' store'
    have hrun : runEvents (event :: events) (runtime, store) =
        runEvents events (runtime', store') := congrArg (runEvents events) hstep
    rw [hrun, ← hparts]
    refine ⟨hlimit.trans ?_, hservice⟩
    rw [hsettings]
    cases hset : event.limitSet with
    | none =>
      rw [List.filterMap_cons_none hset]
      rfl
    | some limit =>
      rw [List.filterMap_cons_some hset, List.getLast?_cons]
      rfl

/-! ## The limit -/

section Limit

variable {C : Type} (svc : ConnectionService C)

/-- The active rows of a list are those of its rest, and its first if that is active. -/
theorem activeCount_cons (row : Row C) (rows : List (Row C)) :
    activeCount (row :: rows) = (if row.isActive then 1 else 0) + activeCount rows := by
  unfold activeCount
  rw [List.filter_cons]
  split
  · rw [List.length_cons, Nat.add_comm]
  · rw [Nat.zero_add]

/-- Writing over a row one that is active only if that one was adds no active row. -/
theorem activeCount_put_le {store : List (Row C)} {row row' : Row C}
    (hf : find row'.id store = some row) (h : row'.isActive = true → row.isActive = true) :
    activeCount (put store row') ≤ activeCount store := by
  induction store with
  | nil => cases hf
  | cons x xs ih =>
    by_cases hx : x.id = row'.id
    · have hrow : x = row := by simpa [find, key, hx] using hf
      subst hrow
      have hput : put (x :: xs) row' = row' :: xs := by simp [put, key, hx]
      rw [hput, activeCount_cons, activeCount_cons]
      by_cases ha : row'.isActive = true
      · rw [if_pos ha, if_pos (h ha)]
      · rw [if_neg ha]
        omega
    · have hf' : find row'.id xs = some row := by simpa [find, key, hx] using hf
      have hput : put (x :: xs) row' = x :: put xs row' := by simp [put, key, hx]
      have hrest := ih hf'
      rw [hput, activeCount_cons, activeCount_cons]
      omega

/-- Writing a row under a new id adds one active row at most. -/
theorem activeCount_put_new {store : List (Row C)} {row : Row C} (hf : find row.id store = none) :
    activeCount (put store row) ≤ activeCount store + 1 := by
  rw [put_of_find_eq_none hf]
  unfold activeCount
  rw [List.filter_append, List.length_append]
  have hone : ([row].filter Row.isActive).length ≤ 1 := List.length_filter_le _ _
  omega

/-- A call adds an active row at most, and none where the limit is reached. -/
theorem activeCount_run_le (inv : Invocation) (store : List (Row C)) :
    activeCount ((inv.prog svc).run store).2 ≤ activeCount store ∨
      svc.limitReached store = none ∧
        activeCount ((inv.prog svc).run store).2 ≤ activeCount store + 1 := by
  by_cases hm : inv.call.mutates = true
  · obtain ⟨call, actor, env⟩ := inv
    unfold Invocation.prog
    -- An update or a delete writes over the row of its connection, which is active.
    have hanswer : ∀ {id : String} {written : Row C → Except PyError (Row C)}
        (_ : ∀ row row', written row = .ok row' → row'.id = row.id ∧ row.deletedAt = none),
        activeCount (svc.answer id store written).2 ≤ activeCount store := by
      intro id written hwritten
      unfold ConnectionService.answer
      cases hf : find id store with
      | none => exact Nat.le_refl _
      | some row =>
        dsimp only
        cases hw : written row with
        | error e => exact Nat.le_refl _
        | ok row' =>
          obtain ⟨hid, hactive⟩ := hwritten row row' hw
          have hkey : row'.id = id := hid.trans (find_eq_some hf).2
          refine activeCount_put_le (hkey ▸ hf) fun _ => ?_
          rw [Row.isActive, hactive]
          rfl
    cases call with
    | create payload =>
      rw [run_map, svc.run_create]
      cases hc : svc.createdRow env actor store payload with
      | error e => exact .inl le_rfl
      | ok row =>
        obtain ⟨_, _, _, -, hlimit, -, hfresh, rfl⟩ := createdRow_eq_ok_iff.mp hc
        exact .inr ⟨hlimit, activeCount_put_new hfresh⟩
    | update id patch =>
      rw [run_map, svc.run_update]
      refine .inl (hanswer fun row row' hw => ?_)
      obtain ⟨resolved, spec, validated, hu⟩ := updates_of_updatedRow hw
      exact ⟨hu.id, hu.active⟩
    | delete id =>
      rw [run_map, svc.run_delete]
      refine .inl (hanswer fun row row' hw => ?_)
      obtain ⟨hactive, -, -, rfl⟩ := deletedRow_eq_ok_iff.mp hw
      exact ⟨rfl, hactive⟩
    | _ => cases hm
  · rw [run_of_not_mutates svc store (by simpa using hm)]
    exact .inl le_rfl

/-- A create fails where the limit is reached. -/
theorem run_create_of_limitReached {store : List (Row C)} {limit : Int}
    (hlimit : svc.limitReached store = some limit) (env : CallEnv) (actor : Json)
    (payload : ConnectionDraft) :
    ∃ e, (Invocation.prog svc ⟨.create payload, actor, env⟩).run store = (.error e, store) := by
  unfold Invocation.prog
  rw [run_map, svc.run_create]
  cases hc : svc.createdRow env actor store payload with
  | error e => exact ⟨e, rfl⟩
  | ok row =>
    obtain ⟨_, _, _, -, hnone, -⟩ := createdRow_eq_ok_iff.mp hc
    rw [hlimit] at hnone
    cases hnone

end Limit

/-- A bound on the limits that the events put in force, on the limit at the start and on the active
connections at the start bounds the active connections after any run. -/
theorem activeCount_runEvents_le {C : Type} {bound : Int} {events : List RuntimeEvent}
    (hset : ∀ event ∈ events, ∀ limit, event.limitSet = some limit → ∃ n, limit = some n ∧ n ≤ bound)
    {runtime : DBConnectionRuntime C}
    (hlimit : ∃ n, runtime.settings.maxConnections = some n ∧ n ≤ bound)
    {store : List (Row C)} (hstore : activeCount store ≤ bound) :
    activeCount (runEvents events (runtime, store)).2 ≤ bound := by
  induction events generalizing runtime store with
  | nil => exact hstore
  | cons event events ih =>
    rcases hstep : event.apply (runtime, store) with ⟨runtime', store'⟩
    have hsettings := settings_apply runtime event store
    rw [hstep] at hsettings
    have hrun : runEvents (event :: events) (runtime, store) =
        runEvents events (runtime', store') := congrArg (runEvents events) hstep
    rw [hrun]
    refine ih (fun e he => hset e (List.mem_cons_of_mem _ he)) ?_ ?_
    · rw [hsettings]
      cases hs : event.limitSet with
      | none => exact hlimit
      | some limit => exact hset event List.mem_cons_self limit hs
    · cases event with
      | updateSettings argument kwargs =>
        cases hstep
        exact hstore
      | call inv =>
        cases hstep
        obtain ⟨n, hn, hle⟩ := hlimit
        rcases activeCount_run_le runtime.service inv store with hsame | ⟨hroom, hone⟩
        · omega
        · -- There was room under the limit in force, which is within the bound.
          have hmax : runtime.service.maxConnections = some n := by
            rw [runtime.service_eq]
            exact hn
          have hlt : ¬ n ≤ activeCount store := by
            unfold ConnectionService.limitReached at hroom
            rw [hmax] at hroom
            simpa [Option.filter] using hroom
          omega

/-- Whatever the limits in force were, a bound on them, on the limit at the start and on the active
connections at the start bounds the active connections after any run. Another update of the settings
then leaves the store, and while the limit in force is reached, every create fails and leaves it. -/
theorem activeCount_of_run_le {C : Type} (events : List RuntimeEvent)
    (runtime : DBConnectionRuntime C) (store : List (Row C)) :
    (∀ bound : Int,
      (∀ event ∈ events, ∀ limit, event.limitSet = some limit → ∃ n, limit = some n ∧ n ≤ bound) →
      (∃ n, runtime.settings.maxConnections = some n ∧ n ≤ bound) → activeCount store ≤ bound →
      activeCount (runEvents events (runtime, store)).2 ≤ bound) ∧
    (∀ argument kwargs, (RuntimeEvent.apply (.updateSettings argument kwargs)
      (runEvents events (runtime, store))).2 = (runEvents events (runtime, store)).2) ∧
    ∀ n, (runEvents events (runtime, store)).1.settings.maxConnections = some n →
      n ≤ activeCount (runEvents events (runtime, store)).2 → ∀ env actor payload, ∃ e,
        (Invocation.prog (runEvents events (runtime, store)).1.service
          ⟨.create payload, actor, env⟩).run (runEvents events (runtime, store)).2 =
            (.error e, (runEvents events (runtime, store)).2) := by
  refine ⟨fun bound hset hlimit hstore => activeCount_runEvents_le hset hlimit hstore,
    fun _ _ => rfl, ?_⟩
  rcases runEvents events (runtime, store) with ⟨runtime', store'⟩
  intro n hn hfull env actor payload
  have hmax : runtime'.service.maxConnections = some n := by
    rw [runtime'.service_eq]
    exact hn
  have hreached : runtime'.service.limitReached store' = some n := by
    unfold ConnectionService.limitReached
    rw [hmax]
    simpa [Option.filter] using hfull
  exact run_create_of_limitReached runtime'.service hreached env actor payload

/-- A create, an update that lowers the limit, and a create that it refuses. -/
def loweredLimit : List RuntimeEvent :=
  [.call (twoCreates true), .updateSettings (some (.data [("max_connections", .str "1")])) [],
    .call (twoCreates false)]

/-- A limit of two that is lowered to one after the first create. -/
theorem activeCount_of_run_le_loweredLimit :
    (loweredLimit.filterMap RuntimeEvent.limitSet) = [some 1] ∧
      activeCount (runEvents loweredLimit (.start ⟨some 2⟩ (defaultService none), [])).2 = 1 ∧
      (activeCount (runEvents loweredLimit (.start ⟨some 2⟩ (defaultService none), [])).2 : Int) ≤
        2 := by
  refine ⟨by decide +kernel, by decide +kernel, ?_⟩
  refine (activeCount_of_run_le loweredLimit (.start ⟨some 2⟩ (defaultService none)) []).1 2
    (fun event hevent limit hlimit => ?_) ⟨2, rfl, le_rfl⟩ (by decide)
  have hmem : limit ∈ loweredLimit.filterMap RuntimeEvent.limitSet :=
    List.mem_filterMap.mpr ⟨event, hevent, hlimit⟩
  have hone : loweredLimit.filterMap RuntimeEvent.limitSet = [some 1] := by decide +kernel
  rw [hone] at hmem
  exact ⟨1, List.mem_singleton.mp hmem, by decide⟩

end DbConnection
