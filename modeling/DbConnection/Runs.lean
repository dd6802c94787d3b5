import DbConnection.Connectors
import DbConnection.ReadBack

/-!
# What a run of writes stores

Creates, updates and deletes run one after another from the empty store, each with its own unit of
work. A `WriteLog` keeps beside the store what the last successful create or update of each
connection validated. `LogInv` says that every active row is written as that connection, and
`reads_back_as_validated` concludes that it reads back as it.
-/

namespace DbConnection

open PyData Pydantic ReadCommitted

/-- A request that writes. -/
inductive WriteRequest where
  | create (payload : ConnectionDraft)
  | update (connectionId : String) (patch : ConnectionPatch)
  | delete (connectionId : String)

/-- A call that writes, with its actor and what it takes from its environment. -/
structure WriteCall where
  request : WriteRequest
  actor : Json
  env : CallEnv

/-- Driver options that the request gives as an instance read back. -/
def WriteRequest.WellTyped (importer : Importer) : WriteRequest → Prop
  | .create payload => payload.driverOptions.ReadBack importer
  | .update _ patch => ∀ options, patch.driverOptions = .set options → options.ReadBack importer
  | .delete _ => True

/-- The ownership resolver keeps drafts and patches well typed. -/
structure KeepsWellTyped {C : Type} (svc : ConnectionService C) : Prop where
  create : ∀ ctx draft resolved, draft.driverOptions.ReadBack svc.storage.importer →
    svc.ownershipResolver.resolveCreate ctx draft = .ok resolved →
      resolved.driverOptions.ReadBack svc.storage.importer
  patch : ∀ ctx record patch resolved,
    (DriverOptions.ofOption record.driverOptions).ReadBack svc.storage.importer →
    (∀ options, patch.driverOptions = .set options → options.ReadBack svc.storage.importer) →
    svc.ownershipResolver.resolvePatch ctx record patch = .ok resolved →
      ∀ options, resolved.driverOptions = .set options → options.ReadBack svc.storage.importer

/-- The store, and what the last successful create or update of each connection validated. -/
structure WriteLog (C : Type) where
  store : List (Row C)
  validated : String → Option ValidatedConnection

namespace ConnectionService

variable {C : Type} (svc : ConnectionService C)

/-- The transaction of a call. -/
def writeTxn (call : WriteCall) : Txn C ConnectionRecord :=
  match call.request with
  | .create payload => svc.create call.env call.actor payload
  | .update connectionId patch => svc.update call.env call.actor connectionId patch
  | .delete connectionId => svc.delete call.env call.actor connectionId

/-- What a create or an update validates over a store. -/
def validatedBy (store : List (Row C)) (call : WriteCall) : Option ValidatedConnection :=
  match call.request with
  | .create payload => (svc.prepareCreate call.actor payload).toOption.map Prod.snd
  | .update connectionId patch => do
    let row ← find connectionId store
    let existing ← (svc.admitGet call.actor connectionId (toRecord svc.storage row)).toOption
    (svc.prepareUpdate call.actor connectionId patch existing).toOption.map Prod.snd
  | .delete _ => none

/-- The log after a call. -/
def logAfter (log : WriteLog C) (call : WriteCall) : WriteLog C :=
  match (svc.writeTxn call).run log.store with
  | (.error _, store) => ⟨store, log.validated⟩
  | (.ok record, store) =>
    match svc.validatedBy log.store call with
    | none => ⟨store, log.validated⟩
    | some v => ⟨store, Function.update log.validated record.id (some v)⟩

/-- The log of a run from the empty store. -/
def runWrites (calls : List WriteCall) : WriteLog C := calls.foldl svc.logAfter ⟨[], fun _ => none⟩

end ConnectionService

/-- Every active row is written as what its last successful create or update validated. -/
structure LogInv {C : Type} (svc : ConnectionService C) (log : WriteLog C) : Prop where
  keys : (log.store.map Row.id).Nodup
  written : ∀ connectionId row, find connectionId log.store = some row → row.deletedAt = none →
    ∃ v, log.validated connectionId = some v ∧ Written svc row v

section Run

variable {C : Type} {svc : ConnectionService C} {log : WriteLog C} {call : WriteCall}

/-- The options of a merged draft are the patch's or the record's, and read back as these do. -/
theorem readBack_merge (hresolver : KeepsWellTyped svc) {ctx : AccessContext}
    {record : ConnectionRecord} {patch resolved : ConnectionPatch}
    (hrecord : (DriverOptions.ofOption record.driverOptions).ReadBack svc.storage.importer)
    (htyped : ∀ options, patch.driverOptions = .set options →
      options.ReadBack svc.storage.importer)
    (h : svc.ownershipResolver.resolvePatch ctx record patch = .ok resolved) :
    (merge record resolved).driverOptions.ReadBack svc.storage.importer := by
  dsimp only [merge]
  cases ho : resolved.driverOptions with
  | unset => exact hrecord
  | set options => exact hresolver.patch _ _ _ _ hrecord htyped h options ho

/-- Writing one row keeps the invariant if the row, where it is active, is written as what the log
then has for it. -/
theorem LogInv.put (h : LogInv svc log) {row : Row C}
    {validated : String → Option ValidatedConnection}
    (hrow : row.deletedAt = none → ∃ v, validated row.id = some v ∧ Written svc row v)
    (hothers : ∀ connectionId, connectionId ≠ row.id →
      validated connectionId = log.validated connectionId) :
    LogInv svc ⟨put log.store row, validated⟩ := by
  refine ⟨nodup_put h.keys row, fun connectionId found hf ha => ?_⟩
  by_cases hid : row.id = connectionId
  · subst hid
    have hself : find row.id (ReadCommitted.put log.store row) = some row := find_put_self _ _
    rw [hself] at hf
    cases hf
    exact hrow ha
  · rw [find_put_of_ne _ _ hid] at hf
    obtain ⟨v, hv, hw⟩ := h.written connectionId found hf ha
    exact ⟨v, (hothers connectionId (Ne.symm hid)).trans hv, hw⟩

/-- A create keeps the invariant. -/
theorem LogInv.create (hback : ReadsBack svc) (hresolver : KeepsWellTyped svc)
    (h : LogInv svc log) {payload : ConnectionDraft} {actor : Json} {env : CallEnv}
    (htyped : payload.driverOptions.ReadBack svc.storage.importer) :
    LogInv svc (svc.logAfter log ⟨.create payload, actor, env⟩) := by
  unfold ConnectionService.logAfter ConnectionService.writeTxn ConnectionService.validatedBy
  dsimp only
  cases hr : (svc.create env actor payload).run log.store with
  | mk result store =>
    cases result with
    | error e =>
      have hstore : store = log.store := by
        rw [svc.run_create] at hr
        split at hr <;> cases hr
        rfl
      rw [hstore]
      exact h
    | ok record =>
      obtain ⟨resolved, validated, row, hp, hs, hid, rfl, rfl⟩ := run_create_eq_ok hr
      rw [hp]
      simp only [Except.toOption, Option.map_some]
      obtain ⟨hd, -, spec, hvalid⟩ := prepareCreate_eq_ok_iff.mp hp
      -- The row that `create` inserted stores what it validated.
      have hw := written_of_storedAs hback (hresolver.create _ _ _ htyped hd) hvalid hs
      have hrecord : (toRecord svc.storage row).id = row.id := rfl
      refine h.put (fun _ => ⟨_, by rw [hrecord, Function.update_self], hw⟩) fun id hne => ?_
      rw [hrecord, Function.update_of_ne hne]

/-- An update keeps the invariant. -/
theorem LogInv.update (hback : ReadsBack svc) (hresolver : KeepsWellTyped svc)
    (h : LogInv svc log) {connectionId : String} {patch : ConnectionPatch} {actor : Json}
    {env : CallEnv} (htyped : ∀ options, patch.driverOptions = .set options →
      options.ReadBack svc.storage.importer) :
    LogInv svc (svc.logAfter log ⟨.update connectionId patch, actor, env⟩) := by
  unfold ConnectionService.logAfter ConnectionService.writeTxn ConnectionService.validatedBy
  dsimp only
  cases hr : (svc.update env actor connectionId patch).run log.store with
  | mk result store =>
    cases result with
    | error e =>
      have hstore : store = log.store := by
        rw [svc.run_update] at hr
        unfold ConnectionService.answer at hr
        split at hr
        · cases hr
          rfl
        · split at hr <;> cases hr
          rfl
      rw [hstore]
      exact h
    | ok record =>
      obtain ⟨row, row', resolved, spec, v, hf, hu, rfl, rfl⟩ := run_update_eq_ok hr
      obtain ⟨old, -, hold⟩ := h.written connectionId row hf hu.active
      have hget : svc.admitGet actor connectionId (some (toRecord svc.storage row)) =
          .ok (toRecord svc.storage row) :=
        admitGet_eq_ok_iff.mpr ⟨hu.active, hu.canGetOne, rfl⟩
      -- The log takes the validation from the same merge that the update wrote.
      have hprepare : svc.prepareUpdate actor connectionId patch (toRecord svc.storage row) =
          .ok (merge (toRecord svc.storage row) resolved, v) := by
        unfold ConnectionService.prepareUpdate
        rw [hu.resolve, ok_bind, hu.canUpdate, ok_bind, hu.guard, ok_bind]
        dsimp only
        rw [validate_eq_ok_iff.mpr ⟨spec, hu.validates⟩, ok_bind]
        rfl
      -- Options that the patch does not set come from the old row, which was written too.
      have hmerged : (merge (toRecord svc.storage row) resolved).driverOptions.ReadBack
          svc.storage.importer :=
        readBack_merge hresolver hold.driverOptions htyped hu.resolve
      have hw := written_of_storedAs hback hmerged hu.validates hu.stored
      have hrecord : (toRecord svc.storage row').id = row'.id := rfl
      simp only [hf, Option.bind_eq_bind, Option.bind_some, hget, Except.toOption, hprepare,
        Option.map_some]
      refine h.put (fun _ => ⟨_, by rw [hrecord, Function.update_self], hw⟩) fun id hne => ?_
      rw [hrecord, Function.update_of_ne hne]

/-- A delete keeps the invariant. -/
theorem LogInv.delete (h : LogInv svc log) {connectionId : String} {actor : Json}
    {env : CallEnv} : LogInv svc (svc.logAfter log ⟨.delete connectionId, actor, env⟩) := by
  unfold ConnectionService.logAfter ConnectionService.writeTxn ConnectionService.validatedBy
  dsimp only
  rw [svc.run_delete]
  unfold ConnectionService.answer
  cases hf : find connectionId log.store with
  | none => exact h
  | some row =>
    dsimp only
    cases hd : svc.deletedRow env actor connectionId row with
    | error e => exact h
    | ok row' =>
      -- The row is no longer active, so nothing is asked of it.
      have hdeleted : row'.deletedAt = some env.now := by
        unfold ConnectionService.deletedRow at hd
        simp only [bind_eq_ok_iff, pure, Except.pure, Except.ok.injEq] at hd
        obtain ⟨_, _, _, _, rfl⟩ := hd
        rfl
      exact h.put (fun ha => absurd ha (by simp [hdeleted])) fun _ _ => rfl

/-- A call keeps the invariant. -/
theorem logInv_logAfter (hback : ReadsBack svc) (hresolver : KeepsWellTyped svc)
    (htyped : call.request.WellTyped svc.storage.importer) (h : LogInv svc log) :
    LogInv svc (svc.logAfter log call) := by
  obtain ⟨request, actor, env⟩ := call
  cases request with
  | create payload => exact h.create hback hresolver htyped
  | update connectionId patch => exact h.update hback hresolver htyped
  | delete connectionId => exact h.delete

/-- Along a run of well-typed calls, every active row is written as what its last successful create
or update validated. -/
theorem logInv_runWrites (hback : ReadsBack svc) (hresolver : KeepsWellTyped svc)
    {calls : List WriteCall}
    (htyped : ∀ call ∈ calls, call.request.WellTyped svc.storage.importer) :
    LogInv svc (svc.runWrites calls) := by
  unfold ConnectionService.runWrites
  have hstart : LogInv svc ⟨[], fun _ => none⟩ := ⟨List.nodup_nil, fun _ _ hf => by cases hf⟩
  generalize (⟨[], fun _ => none⟩ : WriteLog C) = log at hstart
  -- The invariant holds of the empty store, and each call keeps it.
  induction calls generalizing log with
  | nil => exact hstart
  | cons call calls ih =>
    exact ih (fun c hc => htyped c (List.mem_cons_of_mem _ hc)) _
      (logInv_logAfter hback hresolver (htyped call List.mem_cons_self) hstart)

end Run

/-- Every active row at the end of a run of creates, updates and deletes from the empty store reads
without an issue, has a public view, and is validated as what its last successful create or update
validated. -/
theorem reads_back_as_validated {C : Type} (svc : ConnectionService C) (hback : ReadsBack svc)
    (hpublic : PublicAccepts svc) (hresolver : KeepsWellTyped svc) (calls : List WriteCall)
    (htyped : ∀ call ∈ calls, call.request.WellTyped svc.storage.importer) (row : Row C)
    (hrow : row ∈ (svc.runWrites calls).store) (hactive : row.deletedAt = none) :
    ∃ v, (svc.runWrites calls).validated row.id = some v ∧
      (toRecord svc.storage row).readIssues = [] ∧
      (∃ view, buildAny svc.registry (toRecord svc.storage row) = .ok (.view view)) ∧
      validate svc.registry (toRecord svc.storage row).toDraft = .ok v := by
  have hinv := logInv_runWrites hback hresolver htyped
  have hf : find row.id (svc.runWrites calls).store = some row := find_of_mem hinv.keys hrow
  obtain ⟨v, hv, hw⟩ := hinv.written row.id row hf hactive
  exact ⟨v, hv, hw.readIssues, hw.exists_view hpublic, hw.validate⟩

/-! ## An instance -/

/-- The only type of the registry with ODBC options. -/
theorem eq_of_mem_odbcRegistry {spec : TypeSpec}
    (h : (spec.name, spec) ∈ odbcService.registry.types) :
    spec = builtinSqlType "odbc" mssqlTcpProperties (.ofOptions "pyodbc" odbcDriverOptions)
      [.ofOptions "aioodbc" odbcDriverOptions] := by
  have hm := List.mem_singleton.mp h
  exact (Prod.mk.inj hm).2

/-- The options model of each of its drivers. -/
theorem optionsModel_of_mem_odbcRegistry {spec : TypeSpec} {driverSpec : DriverSpec}
    (h : (spec.name, spec) ∈ odbcService.registry.types) (hd : driverSpec ∈ spec.driverSpecs) :
    driverSpec.optionsModel = odbcDriverOptions ∧
      driverSpec.publicOptionsModel = odbcDriverOptions.toModelClass := by
  rw [eq_of_mem_odbcRegistry h] at hd
  rcases List.mem_cons.mp hd with rfl | hd
  · exact ⟨rfl, rfl⟩
  · rw [List.mem_singleton.mp hd]
    exact ⟨rfl, rfl⟩

/-- ODBC options are found by their class and read back. -/
theorem optionsReadBack_odbcDriverOptions {payload : Json} {v : Instance}
    (h : odbcDriverOptions.validate payload = .ok v) : OptionsReadBack packageImporter v := by
  have hmro := (ModelDecl.instance_of_validate h).1
  refine ⟨odbcDriverOptions.toModelClass, ?_, odbcDriverOptions.derives,
    odbcDriverOptions_readsBack payload v h⟩
  have hcls : v.cls = packageRef "domain.drivers" "ODBCDriverOptions" := by
    unfold Instance.cls
    rw [hmro]
    rfl
  rw [hcls]
  rfl

/-- `NoDriverOptions` has one instance. -/
theorem eq_of_validate_noDriverOptions {payload : Json} {v : Instance}
    (h : noDriverOptions.validate payload = .ok v) : v = noDriverOptionsInstance := by
  unfold ModelClass.validate noDriverOptions at h
  dsimp only at h
  split at h
  · rename_i r hr
    cases h
    split at hr <;> cases hr
    rfl
  · cases h

/-- The package's importer finds two classes of driver options. -/
theorem resolveModelRef_packageImporter {modelRef : String} {m : ModelClass}
    (h : resolveModelRef packageImporter modelRef = .ok m) :
    m = odbcDriverOptions.toModelClass ∨ m = noDriverOptions.toModelClass := by
  unfold resolveModelRef at h
  dsimp only at h
  split at h
  · cases h
  · unfold packageImporter at h
    split at h
    · cases h
    · cases h
    · rename_i found hf
      cases h
      split at hf
      · split at hf
        · exact .inl (by cases hf; rfl)
        · split at hf
          · exact .inr (by cases hf; rfl)
          · cases hf
      · cases hf

theorem readsBack_odbcService : ReadsBack odbcService where
  encryption _ _ := rfl
  properties spec h := by
    rw [eq_of_mem_odbcRegistry h]
    exact mssqlTcpProperties_readsBack
  secrets spec h m hm := by
    rw [eq_of_mem_odbcRegistry h] at hm
    cases hm
    exact sqlSecrets_readsBack
  driverOptions spec h driverSpec hd payload v hv := by
    rw [(optionsModel_of_mem_odbcRegistry h hd).1] at hv
    exact optionsReadBack_odbcDriverOptions hv

theorem publicAccepts_odbcService : PublicAccepts odbcService where
  properties spec h payload v hv := by
    rw [eq_of_mem_odbcRegistry h] at hv ⊢
    rw [(ModelDecl.instance_of_validate hv).2]
    exact ⟨v, mssqlTcpProperties_readsBack payload v hv⟩
  driverOptions spec h driverSpec hd hno raw v hraw hv := by
    obtain ⟨ho, hp⟩ := optionsModel_of_mem_odbcRegistry h hd
    rw [ho] at hv
    rw [hp]
    -- Whatever they were given as, the options are what the class read.
    obtain ⟨payload, hread⟩ : ∃ payload, odbcDriverOptions.validate payload = .ok v := by
      cases raw with
      | none => exact ⟨.null, hv⟩
      | raw items => exact ⟨.obj items, hv⟩
      | model w =>
        have hi := OptionsModel.isInstance_of_validateOptions hv
        have hw : w = v := by
          simp only [OptionsModel.validateOptions, ModelClass.validateInstance] at hv
          split at hv <;> cases hv
          rfl
        subst hw
        obtain ⟨m, hm, -, hback⟩ := hraw
        rcases resolveModelRef_packageImporter hm with rfl | rfl
        · exact ⟨_, hback⟩
        · rw [eq_of_validate_noDriverOptions hback] at hi
          exact absurd hi (by decide)
    rw [(ModelDecl.instance_of_validate hread).2]
    exact ⟨v, odbcDriverOptions_readsBack payload v hread⟩

theorem keepsWellTyped_odbcService : KeepsWellTyped odbcService where
  create ctx draft resolved h hr := by
    cases hr
    exact h
  patch ctx record patch resolved _ h hr := by
    cases hr
    exact h

/-- A create and an update of its labels. -/
def createAndLabel : List WriteCall :=
  [⟨.create (odbcDraft "main"), .null, ⟨1, "a", 0⟩⟩,
    ⟨.update "a" { ConnectionPatch.empty with labels := .set (some [("team", "web")]) }, .null,
      ⟨2, "", 0⟩⟩]

/-- The connection that a create and an update left reads back. -/
theorem reads_back_as_validated_createAndLabel :
    ∃ row ∈ (odbcService.runWrites createAndLabel).store, ∃ v,
      (odbcService.runWrites createAndLabel).validated row.id = some v ∧
      (toRecord odbcService.storage row).readIssues = [] ∧
      (∃ view, buildAny odbcService.registry (toRecord odbcService.storage row) =
        .ok (.view view)) ∧
      validate odbcService.registry (toRecord odbcService.storage row).toDraft = .ok v := by
  obtain ⟨row, hrow, hactive⟩ : ∃ row ∈ (odbcService.runWrites createAndLabel).store,
      row.deletedAt = none := by
    decide +kernel
  refine ⟨row, hrow, reads_back_as_validated odbcService readsBack_odbcService
    publicAccepts_odbcService keepsWellTyped_odbcService createAndLabel ?_ row hrow hactive⟩
  intro call hc
  rcases List.mem_cons.mp hc with rfl | hc
  · trivial
  · rw [List.mem_singleton.mp hc]
    intro options ho
    cases ho

end DbConnection
