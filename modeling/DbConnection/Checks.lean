import DbConnection.Runs

/-!
# Checks and writes

`check_payload` and `check_stored` go their own way to the connector: they resolve, guard, merge
and validate as `create` and `update` do, but store nothing, and a later `check_stored` starts from
the stored row. `checks_agree_with_writes` says that under the assumptions of `CheckAssumptions`
the three ways agree: a check reaches the connector exactly when the write of the same data
succeeds, a check of what was written then reaches it with the same connection, and when one
fails, the other fails with the same error.
-/

namespace DbConnection

open PyData Pydantic ReadCommitted

/-- What the resolver makes of a draft or a patch does not depend on the operation. -/
structure OwnershipResolver.IgnoresOperation (resolver : OwnershipResolver) : Prop where
  create : ∀ ctx operation draft,
    resolver.resolveCreate { ctx with operation := operation } draft =
      resolver.resolveCreate ctx draft
  patch : ∀ ctx operation record patch,
    resolver.resolvePatch { ctx with operation := operation } record patch =
      resolver.resolvePatch ctx record patch

/-- The resolver takes no name away. -/
structure OwnershipResolver.KeepsNames (resolver : OwnershipResolver) : Prop where
  create : ∀ ctx draft resolved, draft.name ≠ none → resolver.resolveCreate ctx draft = .ok resolved →
    resolved.name ≠ none
  patch : ∀ ctx record patch resolved, patch.name ≠ .set none →
    resolver.resolvePatch ctx record patch = .ok resolved → resolved.name ≠ .set none

/-- What the agreement of checks and writes rests on. -/
structure CheckAssumptions {C : Type} (svc : ConnectionService C) : Prop where
  /-- Dumps, ciphertexts and driver options read back. -/
  readsBack : ReadsBack svc
  /-- So do the driver options of any class that an import finds. -/
  imported : ∀ modelRef m, resolveModelRef svc.storage.importer modelRef = .ok m →
    driverOptionsBaseRef ∈ m.mro → ∀ payload v, m.validate payload = .ok v →
      OptionsReadBack svc.storage.importer v
  allowAll : svc.accessPolicy = allowAllAccessPolicy
  ignoresOperation : svc.ownershipResolver.IgnoresOperation
  keepsWellTyped : KeepsWellTyped svc
  keepsNames : svc.ownershipResolver.KeepsNames

/-- A check and the write of the same data agree over a store. -/
structure Agrees {C : Type} (svc : ConnectionService C) (actor : Json) (store : List (Row C))
    (check : Except PyError ConnectorCall) (write : Txn C ConnectionRecord) : Prop where
  /-- Where the check reaches the connector the write succeeds, and checking what it stored
  reaches the connector with the same connection. -/
  reaches : ∀ call, check = .ok call → ∃ record store', write.run store = (.ok record, store') ∧
    (svc.checkStored actor record.id none).run store' = (.ok call, store')
  /-- Where the check fails the write fails with the same error and stores nothing. -/
  fails : ∀ e, check = .error e → write.run store = (.error e, store)

section Agreement

variable {C : Type} {svc : ConnectionService C} {env : CallEnv} {actor : Json}
  {connectionId : String} {store : List (Row C)}

/-- `check_stored` run alone. -/
theorem run_checkStored (patch : Option ConnectionPatch) :
    (svc.checkStored actor connectionId patch).run store =
      (match find connectionId store with
        | none => .error (.connectionNotFound connectionId)
        | some row => svc.admitGet actor connectionId (some (toRecord svc.storage row)) >>=
            svc.checkRecord actor connectionId patch, store) := by
  have hrow : (store.filter (byKey connectionId)).head? = find connectionId store :=
    head?_filter_key store connectionId
  unfold Prog.run ConnectionService.checkStored ConnectionService.get Repository.get
    Repository.fetchRow
  simp only [bind, Prog.bind, Prog.exec, overlay_nil, hrow, pure]
  cases find connectionId store with
  | none => rfl
  | some row =>
    simp only [Option.map_some]
    cases svc.admitGet actor connectionId (some (toRecord svc.storage row)) with
    | error e => rfl
    | ok existing =>
      simp only [Prog.ofExcept, Prog.bind, Except.bind]
      cases svc.checkRecord actor connectionId patch existing <;> rfl

/-- Under the policy that allows all, `get` lets every row through that is not deleted. -/
theorem admitGet_of_allowAll (hpolicy : svc.accessPolicy = allowAllAccessPolicy) {row : Row C} :
    svc.admitGet actor connectionId (some (toRecord svc.storage row)) =
      if row.deletedAt.isSome then .error (.connectionNotFound connectionId)
      else .ok (toRecord svc.storage row) := by
  unfold ConnectionService.admitGet
  rw [hpolicy]
  rfl

/-- The connector of a validated connection's type is called with it. -/
theorem checkValidated_eq_ok {spec : TypeSpec} {v : ValidatedConnection} {connector : String}
    (htype : svc.registry.getType v.type = .ok spec)
    (hconnector : spec.connectorFactory = some connector) :
    svc.checkValidated v = .ok ⟨connector, v⟩ := by
  unfold ConnectionService.checkValidated
  rw [htype, ok_bind]
  simp only [hconnector]
  rfl

/-- A written row that is not deleted is checked as what it was written as. -/
theorem Written.run_checkStored (hpolicy : svc.accessPolicy = allowAllAccessPolicy) {row : Row C}
    {v : ValidatedConnection} (h : Written svc row v) (hf : find connectionId store = some row)
    (hactive : row.deletedAt = none) :
    (svc.checkStored actor connectionId none).run store = (svc.checkValidated v, store) := by
  rw [DbConnection.run_checkStored, hf]
  dsimp only
  rw [admitGet_of_allowAll hpolicy, hactive]
  -- The row reads without an issue, so the guard passes.
  have hguard : ensureReadableSecrets (toRecord svc.storage row) = .ok () := by
    simp [ensureReadableSecrets, ConnectionRecord.hasReadIssue, h.readIssues]
  simp only [Option.isSome_none, Bool.false_eq_true, if_false, ok_bind,
    ConnectionService.checkRecord, hguard, h.validate]

/-- The columns of a validated draft with a name and options that read back can be bound. -/
theorem exists_bindColumns (env : CallEnv) {storage : Storage C} {draft : ConnectionDraft}
    {v : ValidatedConnection} (hname : draft.name ≠ none)
    (hoptions : ∀ o, v.driverOptions = some o → OptionsReadBack storage.importer o) :
    ∃ columns, Repository.bindColumns storage env (toPersistedDraft draft v) = .ok columns := by
  obtain ⟨json, hj⟩ : ∃ json, processBindParam (.ofOption v.driverOptions) = .ok json := by
    cases ho : v.driverOptions with
    | none => exact ⟨.null, rfl⟩
    | some o => exact ⟨_, (hoptions o ho).exists_bound⟩
  obtain ⟨name, hn⟩ := Option.ne_none_iff_exists'.mp hname
  unfold Repository.bindColumns toPersistedDraft
  dsimp only
  rw [hj, hn]
  exact ⟨_, rfl⟩

/-- The options of an accepted draft read back if those of the draft do. -/
theorem Validates.optionsReadBack (hback : ReadsBack svc) {draft : ConnectionDraft}
    {spec : TypeSpec} {v : ValidatedConnection} (h : Validates svc.registry draft spec v)
    (hraw : draft.driverOptions.ReadBack svc.storage.importer) :
    ∀ o, v.driverOptions = some o → OptionsReadBack svc.storage.importer o := by
  intro o ho
  have hmem := ConnectionRegistry.mem_types_of_getType h.type
  exact optionsReadBack_of_validate (hback.driverOptions spec hmem) hraw (ho ▸ h.driverOptions)

/-- `check_payload` does what `create` does before its transaction, and calls the connector. -/
theorem checkPayload_eq (hcheck : CheckAssumptions svc) (draft : ConnectionDraft) :
    svc.checkPayload actor draft =
      svc.prepareCreate actor draft >>= fun prepared => svc.checkValidated prepared.2 := by
  unfold ConnectionService.checkPayload ConnectionService.prepareCreate
  -- The resolver sees the same call but for the operation, and the policy refuses nothing.
  rw [hcheck.ignoresOperation.create
    ⟨actor, "create", none, some (payloadWithExtra draft.asdict)⟩ "check_payload" draft,
    hcheck.allowAll]
  cases svc.ownershipResolver.resolveCreate
      ⟨actor, "create", none, some (payloadWithExtra draft.asdict)⟩ draft with
  | error e => rfl
  | ok resolved =>
    simp only [ok_bind, allowAllAccessPolicy]
    cases validate svc.registry resolved <;> rfl

/-- `check_stored` with a patch does to the record what `update` does before it writes, and calls
the connector. -/
theorem checkRecord_eq (hcheck : CheckAssumptions svc) (patch : ConnectionPatch)
    (record : ConnectionRecord) :
    svc.checkRecord actor connectionId (some patch) record =
      svc.prepareUpdate actor connectionId patch record >>= fun prepared =>
        svc.checkValidated prepared.2 := by
  unfold ConnectionService.checkRecord ConnectionService.prepareUpdate
  dsimp only
  -- As for drafts: the operation and the policy make no difference.
  rw [hcheck.ignoresOperation.patch
    ⟨actor, "update", some connectionId, some (payloadWithExtra patch.toDict)⟩ "check_stored"
    record patch, hcheck.allowAll]
  cases svc.ownershipResolver.resolvePatch
      ⟨actor, "update", some connectionId, some (payloadWithExtra patch.toDict)⟩ record patch with
  | error e => rfl
  | ok resolved =>
    simp only [ok_bind, allowAllAccessPolicy]
    cases ensurePatchCanReplaceUnreadableSecrets record resolved with
    | error e => rfl
    | ok =>
      simp only [ok_bind]
      cases validate svc.registry (merge record resolved) <;> rfl

/-- Decoded driver options read back. -/
theorem readBack_toRecord (hcheck : CheckAssumptions svc) (row : Row C) :
    (DriverOptions.ofOption (toRecord svc.storage row).driverOptions).ReadBack
      svc.storage.importer := by
  have hv : (toRecord svc.storage row).driverOptions =
      (decodeDriverOptions svc.storage.importer row.driverOptionsJson).value := rfl
  rw [hv]
  rcases decodeDriverOptions_cases svc.storage.importer row.driverOptionsJson with
    ⟨-, hd⟩ | ⟨v, hv, hd⟩ | ⟨issue, hd, -⟩
  · rw [hd]
    trivial
  · rw [hd]
    -- Decoded options were read by a class that the import found.
    unfold processResultValue at hv
    split at hv
    · split at hv
      · split at hv
        · cases hv
        · rename_i m hm
          split at hv
          · rename_i hbase
            split at hv
            · rename_i w hw
              cases hv
              exact hcheck.imported _ m hm (by simpa using hbase) _ v hw
            · cases hv
          · cases hv
      · cases hv
    · cases hv
  · rw [hd]
    trivial

/-- A check that fails agrees with a write that fails with the same error and stores nothing. -/
theorem agrees_of_error {write : Txn C ConnectionRecord} {e : PyError}
    (h : write.run store = (.error e, store)) :
    Agrees svc actor store (.error e) write := by
  refine ⟨fun call hc => ?_, fun e' he => ?_⟩
  · cases hc
  · cases he
    exact h

/-- A check that reaches the connector with `v` agrees with a write that leaves an active row
written as `v`. -/
theorem agrees_of_written (hcheck : CheckAssumptions svc) {write : Txn C ConnectionRecord}
    {row : Row C} {v : ValidatedConnection} {call : ConnectorCall}
    (hcall : svc.checkValidated v = .ok call) (hwritten : Written svc row v)
    (hactive : row.deletedAt = none)
    (h : write.run store = (.ok (toRecord svc.storage row), put store row)) :
    Agrees svc actor store (svc.checkValidated v) write := by
  refine ⟨fun call' hc => ⟨_, _, h, ?_⟩, fun e he => ?_⟩
  · rw [← hc]
    exact hwritten.run_checkStored hcheck.allowAll (find_put_self store row) hactive
  · rw [hcall] at he
    cases he

/-- `check_payload` and `create` agree. -/
theorem agrees_create (hcheck : CheckAssumptions svc) {draft : ConnectionDraft}
    (hname : draft.name ≠ none) (htyped : draft.driverOptions.ReadBack svc.storage.importer)
    (hconnector : ∀ ctx resolved spec, svc.ownershipResolver.resolveCreate ctx draft = .ok resolved →
      svc.registry.getType resolved.type = .ok spec → spec.connectorFactory ≠ none)
    (hroom : svc.limitReached store = none) (hfresh : find env.uuid store = none) :
    Agrees svc actor store (svc.checkPayload actor draft) (svc.create env actor draft) := by
  rw [checkPayload_eq hcheck]
  cases hp : svc.prepareCreate actor draft with
  | error e =>
    refine agrees_of_error ?_
    rw [svc.run_create]
    unfold ConnectionService.createdRow
    rw [hp]
    rfl
  | ok prepared =>
    obtain ⟨resolved, v⟩ := prepared
    -- The resolved draft is well typed and accepted, and its type has a connector.
    obtain ⟨hd, -, spec, hvalid⟩ := prepareCreate_eq_ok_iff.mp hp
    have hdname := hcheck.keepsNames.create _ _ _ hname hd
    have hdtyped := hcheck.keepsWellTyped.create _ _ _ htyped hd
    obtain ⟨connector, hconn⟩ := Option.ne_none_iff_exists'.mp (hconnector _ _ _ hd hvalid.type)
    obtain ⟨columns, hb⟩ := exists_bindColumns env hdname
      (hvalid.optionsReadBack hcheck.readsBack hdtyped)
    -- With room under the limit and an unused id, nothing else can refuse the row.
    have hcreated : svc.createdRow env actor store draft =
        .ok (Repository.newRow env columns) :=
      createdRow_eq_ok_iff.mpr ⟨resolved, v, columns, hp, hroom, hb, hfresh, rfl⟩
    rw [ok_bind]
    refine agrees_of_written hcheck (checkValidated_eq_ok (by rw [hvalid.type_eq, hvalid.type]) hconn)
      (written_of_storedAs hcheck.readsBack hdtyped hvalid (storedAs_of_bindColumns hb).1) rfl ?_
    rw [svc.run_create, hcreated]

/-- `check_stored` with a patch and `update` agree on an active row. -/
theorem agrees_update_of_active (hcheck : CheckAssumptions svc) {patch : ConnectionPatch}
    (hname : patch.name ≠ .set none)
    (htyped : ∀ options, patch.driverOptions = .set options →
      options.ReadBack svc.storage.importer) {row : Row C}
    (hconnector : ∀ spec, svc.registry.getType row.type = .ok spec → spec.connectorFactory ≠ none)
    (hf : find connectionId store = some row) (hactive : row.deletedAt = none) :
    Agrees svc actor store
      (svc.checkRecord actor connectionId (some patch) (toRecord svc.storage row))
      (svc.update env actor connectionId patch) := by
  have hget : svc.admitGet actor connectionId (some (toRecord svc.storage row)) =
      .ok (toRecord svc.storage row) := by
    rw [admitGet_of_allowAll hcheck.allowAll, hactive]
    rfl
  rw [checkRecord_eq hcheck]
  cases hp : svc.prepareUpdate actor connectionId patch (toRecord svc.storage row) with
  | error e =>
    refine agrees_of_error ?_
    rw [svc.run_update_of_find env actor connectionId hf]
    unfold ConnectionService.updatedRow
    rw [hget, ok_bind, hp]
    rfl
  | ok prepared =>
    obtain ⟨merged, v⟩ := prepared
    obtain ⟨resolved, spec, hr, rfl, hvalid⟩ := validates_of_prepareUpdate hp
    -- The merged draft has a name, and options that read back.
    have hmname : (merge (toRecord svc.storage row) resolved).name ≠ none := by
      have hn := hcheck.keepsNames.patch _ _ _ _ hname hr
      dsimp only [merge]
      cases hrn : resolved.name with
      | unset => simp
      | set name =>
        rw [hrn] at hn
        exact fun he => hn (congrArg PatchValue.set he)
    have hmtyped : (merge (toRecord svc.storage row) resolved).driverOptions.ReadBack
        svc.storage.importer :=
      readBack_merge hcheck.keepsWellTyped (readBack_toRecord hcheck row) htyped hr
    obtain ⟨connector, hconn⟩ := Option.ne_none_iff_exists'.mp (hconnector spec hvalid.type)
    obtain ⟨columns, hb⟩ := exists_bindColumns env hmname
      (hvalid.optionsReadBack hcheck.readsBack hmtyped)
    -- The row is active and its columns can be bound, so the UPDATE writes it.
    have hupdated : svc.updatedRow env actor connectionId patch row =
        .ok (Repository.replacedRow env columns row) := by
      unfold ConnectionService.updatedRow
      rw [hget, ok_bind, hp, ok_bind]
      dsimp only
      rw [hb, ok_bind]
      rfl
    rw [ok_bind]
    refine agrees_of_written hcheck (checkValidated_eq_ok (by rw [hvalid.type_eq, hvalid.type]) hconn)
      (written_of_storedAs hcheck.readsBack hmtyped hvalid ((storedAs_of_bindColumns hb).2 row))
      hactive ?_
    rw [svc.run_update_of_find env actor connectionId hf, hupdated]

/-- `check_stored` with a patch and `update` agree. -/
theorem agrees_update (hcheck : CheckAssumptions svc) {patch : ConnectionPatch}
    (hname : patch.name ≠ .set none)
    (htyped : ∀ options, patch.driverOptions = .set options →
      options.ReadBack svc.storage.importer)
    (hconnector : ∀ row spec, find connectionId store = some row →
      svc.registry.getType row.type = .ok spec → spec.connectorFactory ≠ none) :
    Agrees svc actor store ((svc.checkStored actor connectionId (some patch)).run store).1
      (svc.update env actor connectionId patch) := by
  rw [run_checkStored]
  cases hf : find connectionId store with
  | none =>
    refine agrees_of_error ?_
    rw [svc.run_update]
    unfold ConnectionService.answer
    rw [hf]
  | some row =>
    dsimp only
    rw [admitGet_of_allowAll hcheck.allowAll]
    cases hdel : row.deletedAt with
    -- Both sides stop in `get`, which finds no deleted row.
    | some t =>
      refine agrees_of_error ?_
      rw [svc.run_update_of_find env actor connectionId hf]
      unfold ConnectionService.updatedRow
      rw [admitGet_of_allowAll hcheck.allowAll, hdel]
      rfl
    | none =>
      exact agrees_update_of_active hcheck hname htyped (fun spec => hconnector row spec hf) hf hdel

end Agreement

/-- Checking before saving checks what saving stores, for drafts and for patches of stored rows,
where the types concerned have a connector. -/
theorem checks_agree_with_writes {C : Type} (svc : ConnectionService C)
    (hcheck : CheckAssumptions svc) (env : CallEnv) (actor : Json) (store : List (Row C)) :
    (∀ draft : ConnectionDraft, draft.name ≠ none →
      draft.driverOptions.ReadBack svc.storage.importer →
      (∀ ctx resolved spec, svc.ownershipResolver.resolveCreate ctx draft = .ok resolved →
        svc.registry.getType resolved.type = .ok spec → spec.connectorFactory ≠ none) →
      svc.limitReached store = none → find env.uuid store = none →
        Agrees svc actor store (svc.checkPayload actor draft) (svc.create env actor draft)) ∧
      ∀ (connectionId : String) (patch : ConnectionPatch), patch.name ≠ .set none →
        (∀ options, patch.driverOptions = .set options →
          options.ReadBack svc.storage.importer) →
        (∀ row spec, find connectionId store = some row →
          svc.registry.getType row.type = .ok spec → spec.connectorFactory ≠ none) →
          Agrees svc actor store ((svc.checkStored actor connectionId (some patch)).run store).1
              (svc.update env actor connectionId patch) ∧
            ∀ record store',
              (svc.update env actor connectionId patch).run store = (.ok record, store') →
                record.id = connectionId := by
  refine ⟨fun draft hname htyped hconnector hroom hfresh =>
      agrees_create hcheck hname htyped hconnector hroom hfresh,
    fun connectionId patch hname htyped hconnector =>
      ⟨agrees_update hcheck hname htyped hconnector, fun record store' h => ?_⟩⟩
  obtain ⟨row, row', resolved, spec, v, hf, hu, rfl, -⟩ := run_update_eq_ok h
  have hid : row.id = connectionId := (find_eq_some hf).2
  rw [← hid, ← hu.id]
  rfl

/-- The service with ODBC options meets the assumptions. -/
theorem checkAssumptions_odbcService : CheckAssumptions odbcService where
  readsBack := readsBack_odbcService
  imported modelRef m hm _ payload v hv := by
    rcases resolveModelRef_packageImporter hm with rfl | rfl
    · exact optionsReadBack_odbcDriverOptions hv
    · rw [eq_of_validate_noDriverOptions hv]
      exact ⟨noDriverOptions.toModelClass, rfl, noDriverOptions.derives, rfl⟩
  allowAll := rfl
  ignoresOperation := ⟨fun _ _ _ => rfl, fun _ _ _ _ => rfl⟩
  keepsWellTyped := keepsWellTyped_odbcService
  keepsNames := ⟨fun _ _ _ h hr => by cases hr; exact h, fun _ _ _ _ h hr => by cases hr; exact h⟩

/-- The types of the service with ODBC options have connectors. -/
theorem connectorFactory_odbcService {name : String} {spec : TypeSpec}
    (h : odbcService.registry.getType name = .ok spec) : spec.connectorFactory ≠ none := by
  have hmem := ConnectionRegistry.mem_types_of_getType h
  rw [eq_of_mem_odbcRegistry hmem]
  simp [builtinSqlType]

/-- A check of a new connection and of a new password of the stored one reach the connector, and
agree with storing them. -/
theorem checks_agree_with_writes_odbc :
    ∃ store, store = (odbcService.runWrites createAndLabel).store ∧
      Agrees odbcService .null store (odbcService.checkPayload .null (odbcDraft "replica"))
        (odbcService.create ⟨3, "b", 0⟩ .null (odbcDraft "replica")) ∧
      (odbcService.checkPayload .null (odbcDraft "replica")).toOption.isSome ∧
      Agrees odbcService .null store
        ((odbcService.checkStored .null "a" (some { ConnectionPatch.empty with
          secrets := .set (some [("password", .str "new")]) })).run store).1
        (odbcService.update ⟨3, "b", 0⟩ .null "a" { ConnectionPatch.empty with
          secrets := .set (some [("password", .str "new")]) }) := by
  obtain ⟨hcreate, hupdate⟩ := checks_agree_with_writes odbcService checkAssumptions_odbcService
    ⟨3, "b", 0⟩ .null (odbcService.runWrites createAndLabel).store
  refine ⟨_, rfl, ?_, by decide +kernel, ?_⟩
  · exact hcreate (odbcDraft "replica") (by decide) trivial
      (fun ctx resolved spec hr ht => connectorFactory_odbcService ht) (by decide +kernel)
      (by decide +kernel)
  · exact (hupdate "a" _ (by simp [ConnectionPatch.empty]) (fun options ho => by cases ho)
      fun row spec hf ht => connectorFactory_odbcService ht).1

end DbConnection
