import DbConnection.Service

/-!
# Calls of the service run alone

`update` and `delete` read the row of the connection, decide on it, write it and read it back: they
are read-modify-write transactions (`update_eq_rmw`, `delete_eq_rmw`). From that follows what a call
does when it runs alone over a store: `run_update`, `run_delete` and `run_create` say whether the
call succeeds, what it returns and what it leaves in the store.
-/

namespace DbConnection

open PyData Pydantic ReadCommitted

/-- The row is not soft-deleted. -/
def Row.isActive {C : Type} (row : Row C) : Bool := row.deletedAt.isNone

/-- How many rows are active. -/
def activeCount {C : Type} (rows : List (Row C)) : Nat := (rows.filter Row.isActive).length

/-- The unfiltered list reads the active rows. -/
theorem matchesStatement_all {C : Type} (storage : Storage C) :
    Repository.matchesStatement storage ConnectionListQuery.all = Row.isActive := by
  funext row
  simp [Repository.matchesStatement, ConnectionListQuery.all, Row.isActive]

/-- The unfiltered list returns a record for each row it reads. -/
theorem filter_matchesFilters_all (records : List ConnectionRecord) :
    records.filter (fun record => Repository.matchesFilters record ConnectionListQuery.all) =
      records := by
  simp [Repository.matchesFilters, Repository.matchesMappingFilters, ConnectionListQuery.all]

namespace ConnectionService

variable {C : Type} (svc : ConnectionService C) (env : CallEnv) (actor : Json)
  (connectionId : String)

/-- `update` as a read-modify-write transaction. -/
def updateRmw (patch : ConnectionPatch) : Rmw (Row C) PyError ConnectionRecord where
  row := connectionId
  decide row := do
    let existing ← svc.admitGet actor connectionId (row.map (toRecord svc.storage))
    let (merged, validated) ← svc.prepareUpdate actor connectionId patch existing
    return Repository.replaceUpdate svc.storage env (toPersistedDraft merged validated)
  gone := .connectionNotFound connectionId
  lost := .assertionError
  out := toRecord svc.storage

/-- `delete` as a read-modify-write transaction. -/
def deleteRmw : Rmw (Row C) PyError ConnectionRecord where
  row := connectionId
  decide row := do
    let existing ← svc.admitGet actor connectionId (row.map (toRecord svc.storage))
    svc.admitDelete actor connectionId existing
    return Repository.deleteUpdate env
  gone := .connectionNotFound connectionId
  lost := .assertionError
  out := toRecord svc.storage

/-- The rest of `update` and `delete` after their decision: the method of the repository, the
answer to a row it did not find, and the commit. -/
theorem write_eq_check (m : Rmw (Row C) PyError ConnectionRecord)
    (u : ColumnUpdate (Row C) PyError) (hout : m.out = toRecord svc.storage)
    (hlost : m.lost = .assertionError) :
    owned (do
      match ← (do
        match ← Repository.fetchRow m.row with
        | none => return none
        | some _ =>
          Prog.update m.row u (.pure ())
          match ← Repository.fetchRow m.row with
          | none => .throw .assertionError
          | some row => return some (toRecord svc.storage row) :
            Txn C (Option ConnectionRecord)) with
      | none => .throw m.gone
      | some record => return record) = m.check u := by
  simp only [owned, Repository.fetchRow, Rmw.check, Rmw.write, Rmw.readBack, bind, Prog.bind, pure,
    hout, hlost]
  congr 1
  funext rows
  cases rows.head? with
  | none => rfl
  | some row =>
    simp only [Prog.bind]
    congr 2
    funext rows'
    cases rows'.head? <;> rfl

/-- `update` reads, decides, writes and reads back. -/
theorem update_eq_rmw (patch : ConnectionPatch) :
    svc.update env actor connectionId patch =
      (svc.updateRmw env actor connectionId patch).prog := by
  simp only [update, owned, updateIn, get, Repository.get, Repository.fetchRow, updateRmw,
    Rmw.prog, bind, Prog.bind, pure]
  congr 1
  funext rows
  -- The hooks and the validation run between the first SELECT and the second.
  cases ha : svc.admitGet actor connectionId (rows.head?.map (toRecord svc.storage)) with
  | error e => rfl
  | ok existing =>
    cases hp : svc.prepareUpdate actor connectionId patch existing with
    | error e => simp only [Prog.ofExcept, Prog.bind, hp, Except.bind]
    | ok prepared =>
      simp only [Prog.ofExcept, Prog.bind, hp, Except.bind, Except.pure]
      exact write_eq_check svc (svc.updateRmw env actor connectionId patch) _ rfl rfl

/-- `delete` reads, decides, writes and reads back. -/
theorem delete_eq_rmw :
    svc.delete env actor connectionId = (svc.deleteRmw env actor connectionId).prog := by
  simp only [delete, owned, deleteIn, get, Repository.get, Repository.fetchRow, deleteRmw,
    Rmw.prog, bind, Prog.bind, pure]
  congr 1
  funext rows
  cases ha : svc.admitGet actor connectionId (rows.head?.map (toRecord svc.storage)) with
  | error e => rfl
  | ok existing =>
    cases hd : svc.admitDelete actor connectionId existing with
    | error e => simp only [Prog.ofExcept, Prog.bind, hd, Except.bind]
    | ok =>
      simp only [Prog.ofExcept, Prog.bind, hd, Except.bind, Except.pure]
      exact write_eq_check svc (svc.deleteRmw env actor connectionId) _ rfl rfl

/-- The row that `update` writes over `row`. -/
def updatedRow (patch : ConnectionPatch) (row : Row C) : Except PyError (Row C) := do
  let existing ← svc.admitGet actor connectionId (some (toRecord svc.storage row))
  let (merged, validated) ← svc.prepareUpdate actor connectionId patch existing
  let columns ← Repository.bindColumns svc.storage env (toPersistedDraft merged validated)
  return Repository.replacedRow env columns row

/-- The row that `delete` writes over `row`. -/
def deletedRow (row : Row C) : Except PyError (Row C) := do
  let existing ← svc.admitGet actor connectionId (some (toRecord svc.storage row))
  svc.admitDelete actor connectionId existing
  return { row with deletedAt := some env.now, updatedAt := env.now }

/-- What a call over the row of its connection returns and leaves, from the row it writes. -/
def answer (store : List (Row C)) (written : Row C → Except PyError (Row C)) :
    Except PyError ConnectionRecord × List (Row C) :=
  match find connectionId store with
  | none => (.error (.connectionNotFound connectionId), store)
  | some row =>
    match written row with
    | .error e => (.error e, store)
    | .ok row' => (.ok (toRecord svc.storage row'), put store row')

/-- `update` run alone. -/
theorem run_update (patch : ConnectionPatch) (store : List (Row C)) :
    (svc.update env actor connectionId patch).run store =
      svc.answer connectionId store (svc.updatedRow env actor connectionId patch) := by
  rw [update_eq_rmw, Rmw.run_prog]
  unfold answer
  dsimp only [updateRmw]
  cases hf : find connectionId store with
  | none => rfl
  | some row =>
    -- Run alone, every SELECT of the call reads this row.
    simp only [Option.map_some, updatedRow, bind, Except.bind]
    cases hg : svc.admitGet actor connectionId (some (toRecord svc.storage row)) with
    | error e => rfl
    | ok existing =>
      dsimp only
      cases hp : svc.prepareUpdate actor connectionId patch existing with
      | error e => rfl
      | ok prepared =>
        simp only [pure, Except.pure, Repository.replaceUpdate]
        cases hb : Repository.bindColumns svc.storage env
            (toPersistedDraft prepared.1 prepared.2) with
        | error e => rfl
        | ok columns => rfl

/-- `update` run alone over a store that has the row. -/
theorem run_update_of_find {patch : ConnectionPatch} {store : List (Row C)} {row : Row C}
    (hf : find connectionId store = some row) :
    (svc.update env actor connectionId patch).run store =
      match svc.updatedRow env actor connectionId patch row with
      | .error e => (.error e, store)
      | .ok row' => (.ok (toRecord svc.storage row'), put store row') := by
  rw [run_update]
  unfold answer
  rw [hf]

/-- `delete` run alone. -/
theorem run_delete (store : List (Row C)) :
    (svc.delete env actor connectionId).run store =
      svc.answer connectionId store (svc.deletedRow env actor connectionId) := by
  rw [delete_eq_rmw, Rmw.run_prog]
  unfold answer
  dsimp only [deleteRmw]
  cases hf : find connectionId store with
  | none => rfl
  | some row =>
    simp only [Option.map_some, deletedRow, bind, Except.bind]
    cases hg : svc.admitGet actor connectionId (some (toRecord svc.storage row)) with
    | error e => rfl
    | ok existing =>
      dsimp only
      cases hd : svc.admitDelete actor connectionId existing with
      | error e => rfl
      | ok => rfl

/-- The limit that refuses another active row, where it is reached. -/
def limitReached (store : List (Row C)) : Option Int :=
  svc.maxConnections.filter fun limit => limit ≤ activeCount store

/-- The row that `create` inserts. -/
def createdRow (store : List (Row C)) (payload : ConnectionDraft) : Except PyError (Row C) := do
  let (resolved, validated) ← svc.prepareCreate actor payload
  match svc.limitReached store with
  | some limit => .error (.connectionLimitExceeded limit)
  | none => .ok ()
  let columns ← Repository.bindColumns svc.storage env (toPersistedDraft resolved validated)
  match find env.uuid store with
  | some _ => .error (.integrityError "UNIQUE constraint failed: db_connections.id")
  | none => .ok (Repository.newRow env columns)

/-- The limit check reads the store and passes unless the limit is reached. -/
theorem exec_checkLimit (store : List (Row C)) :
    svc.checkLimit.exec store [] =
      match svc.limitReached store with
      | some limit => (.error (.connectionLimitExceeded limit), store, [])
      | none => (.ok (), store, []) := by
  unfold checkLimit limitReached
  cases svc.maxConnections with
  | none => rfl
  | some limit =>
    -- No filter is set, so the records counted are those of the active rows.
    have hcount : ((((overlay store []).filter (Repository.matchesStatement svc.storage
        ConnectionListQuery.all)).map (toRecord svc.storage)).filter fun record =>
          Repository.matchesFilters record ConnectionListQuery.all).length = activeCount store := by
      rw [filter_matchesFilters_all, List.length_map, matchesStatement_all]
      rfl
    simp only [Prog.exec_bind, Repository.list, Prog.exec, hcount]
    by_cases hl : limit ≤ activeCount store
    · simp [hl, Prog.exec, Option.filter]
    · simp [hl, Prog.exec, Option.filter]

/-- `create` of the repository over a store, in a transaction that has written nothing. -/
theorem exec_create (draft : ConnectionDraft) (store : List (Row C)) :
    (Repository.create svc.storage env draft).exec store [] =
      match Repository.bindColumns svc.storage env draft with
      | .error e => (.error e, store, [])
      | .ok columns =>
        match find env.uuid store with
        | some _ =>
          (.error (.integrityError "UNIQUE constraint failed: db_connections.id"), store, [])
        | none =>
          (.ok (toRecord svc.storage (Repository.newRow env columns)), store,
            [Repository.newRow env columns]) := by
  unfold Repository.create
  cases hb : Repository.bindColumns svc.storage env draft with
  | error e => rfl
  | ok columns =>
    have hkey : key (Repository.newRow env columns) = env.uuid := rfl
    simp only [Prog.ofExcept, Prog.exec_bind, Prog.exec, overlay_nil, hkey]
    cases hf : find env.uuid store with
    | some row => rfl
    | none =>
      -- The row read back is the one just inserted.
      have hself : find env.uuid (overlay store [Repository.newRow env columns]) =
          some (Repository.newRow env columns) :=
        find_put_self store (Repository.newRow env columns)
      have hrow : ∀ rows : List (Row C), (rows.filter (byKey env.uuid)).head? =
          find env.uuid rows := fun rows => head?_filter_key rows env.uuid
      simp only [put, Repository.fetchRow, Prog.exec, hrow, hself]
      rfl

/-- `create` run alone. -/
theorem run_create (payload : ConnectionDraft) (store : List (Row C)) :
    (svc.create env actor payload).run store =
      match svc.createdRow env actor store payload with
      | .error e => (.error e, store)
      | .ok row => (.ok (toRecord svc.storage row), put store row) := by
  unfold Prog.run create owned createIn createdRow
  cases hp : svc.prepareCreate actor payload with
  | error e => rfl
  | ok prepared =>
    obtain ⟨resolved, validated⟩ := prepared
    rw [Prog.exec_bind, Prog.exec_bind]
    dsimp only [Prog.ofExcept, Prog.exec]
    -- The transaction: the limit check, then the insert over what it read.
    rw [Prog.exec_bind, exec_checkLimit, ok_bind]
    cases hl : svc.limitReached store with
    | some limit => rfl
    | none =>
      dsimp only
      rw [exec_create, ok_bind]
      cases hb : Repository.bindColumns svc.storage env (toPersistedDraft resolved validated) with
      | error e => rfl
      | ok columns =>
        rw [ok_bind]
        dsimp only
        cases hf : find env.uuid store with
        | some row => rfl
        | none => rfl

end ConnectionService

/-! ## What a successful call wrote -/

/-- The row stores a validated draft: the draft's own name, driver, labels, metadata and extra, and
the dumps of what its properties, secrets and driver options were validated as. -/
structure StoredAs {C : Type} (storage : Storage C) (env : CallEnv) (draft : ConnectionDraft)
    (validated : ValidatedConnection) (row : Row C) : Prop where
  name : draft.name = some row.name
  kind : row.kind = draft.kind
  type : row.type = draft.type
  driver : row.driver = draft.driver
  driverOptions :
    processBindParam (.ofOption validated.driverOptions) = .ok row.driverOptionsJson
  properties : row.propertiesJson = .obj validated.properties.dumpJson
  secrets : row.secretsCiphertext = storage.encryption.encrypt env.nonce
    (.obj ((validated.secrets.map Instance.dumpJson).getD []))
  labels : row.labelsJson = labelsJson draft.labels
  metadata : row.metadataJson = Json.ofObj? draft.metadata
  extra : row.extraJson = Json.ofObj? draft.extra

/-- What `update` went through to write `row'` over `row`: the patch that the resolver made of the
given one, the type, and what the merged draft was validated as. -/
structure Updates {C : Type} (svc : ConnectionService C) (env : CallEnv) (actor : Json)
    (connectionId : String) (patch : ConnectionPatch) (row row' : Row C)
    (resolved : ConnectionPatch) (spec : TypeSpec) (validated : ValidatedConnection) : Prop where
  /-- The row was not deleted. -/
  active : row.deletedAt = none
  /-- The policy let the actor get the record. -/
  canGetOne : svc.accessPolicy.canGetOne ⟨actor, "get", some connectionId, none⟩
    (toRecord svc.storage row) = .ok ()
  resolve : svc.ownershipResolver.resolvePatch
    ⟨actor, "update", some connectionId, some (payloadWithExtra patch.toDict)⟩
    (toRecord svc.storage row) patch = .ok resolved
  /-- The policy let the actor update the record. -/
  canUpdate : svc.accessPolicy.canUpdate
    ⟨actor, "update", some connectionId, some (payloadWithExtra resolved.toDict)⟩
    (toRecord svc.storage row) resolved = .ok ()
  /-- The patch sets the secrets if they cannot be read. -/
  guard : ensurePatchCanReplaceUnreadableSecrets (toRecord svc.storage row) resolved = .ok ()
  validates : Validates svc.registry (merge (toRecord svc.storage row) resolved) spec validated
  stored : StoredAs svc.storage env (merge (toRecord svc.storage row) resolved) validated row'
  /-- The other columns. -/
  id : row'.id = row.id
  createdAt : row'.createdAt = row.createdAt
  updatedAt : row'.updatedAt = env.now
  deletedAt : row'.deletedAt = row.deletedAt

section Written

variable {C : Type} {svc : ConnectionService C} {env : CallEnv} {actor : Json}
  {connectionId : String}

/-- The columns bound from a persisted draft store it. -/
theorem storedAs_of_bindColumns {storage : Storage C} {draft : ConnectionDraft}
    {validated : ValidatedConnection} {columns : Columns C}
    (h : Repository.bindColumns storage env (toPersistedDraft draft validated) = .ok columns) :
    StoredAs storage env draft validated (Repository.newRow env columns) ∧
      ∀ row, StoredAs storage env draft validated (Repository.replacedRow env columns row) := by
  unfold Repository.bindColumns toPersistedDraft at h
  dsimp only at h
  cases hp : processBindParam (.ofOption validated.driverOptions) with
  | error e => simp [hp] at h
  | ok options =>
    cases hn : draft.name with
    | none => simp [hp, hn] at h
    | some name =>
      simp only [hp, hn, Except.ok.injEq] at h
      subst h
      exact ⟨⟨hn, rfl, rfl, rfl, hp, rfl, rfl, rfl, rfl, rfl⟩,
        fun row => ⟨hn, rfl, rfl, rfl, hp, rfl, rfl, rfl, rfl, rfl⟩⟩

/-- What `create` went through when it inserted a row. -/
theorem createdRow_eq_ok_iff {payload : ConnectionDraft} {store : List (Row C)} {row : Row C} :
    svc.createdRow env actor store payload = .ok row ↔
      ∃ resolved validated columns, svc.prepareCreate actor payload = .ok (resolved, validated) ∧
        svc.limitReached store = none ∧
        Repository.bindColumns svc.storage env (toPersistedDraft resolved validated) =
          .ok columns ∧
        find env.uuid store = none ∧ row = Repository.newRow env columns := by
  unfold ConnectionService.createdRow
  rw [bind_eq_ok_iff]
  constructor
  · rintro ⟨⟨resolved, validated⟩, hp, hc⟩
    dsimp only at hc
    cases hl : svc.limitReached store with
    | some limit => simp [hl, error_bind] at hc
    | none =>
      simp only [hl, ok_bind] at hc
      obtain ⟨columns, hb, hc⟩ := bind_eq_ok_iff.mp hc
      cases hf : find env.uuid store with
      | some found => simp [hf] at hc
      | none =>
        simp only [hf, Except.ok.injEq] at hc
        exact ⟨resolved, validated, columns, hp, rfl, hb, rfl, hc.symm⟩
  · rintro ⟨resolved, validated, columns, hp, hl, hb, hf, rfl⟩
    refine ⟨(resolved, validated), hp, ?_⟩
    dsimp only
    simp only [hl, ok_bind, hb, hf]

/-- A successful `create` run alone inserted one row. -/
theorem run_create_eq_ok {payload : ConnectionDraft} {store store' : List (Row C)}
    {record : ConnectionRecord}
    (h : (svc.create env actor payload).run store = (.ok record, store')) :
    ∃ resolved validated row, svc.prepareCreate actor payload = .ok (resolved, validated) ∧
      StoredAs svc.storage env resolved validated row ∧ row.id = env.uuid ∧
      record = toRecord svc.storage row ∧ store' = put store row := by
  rw [svc.run_create] at h
  cases hc : svc.createdRow env actor store payload with
  | error e => simp [hc] at h
  | ok row =>
    simp only [hc, Prod.mk.injEq, Except.ok.injEq] at h
    obtain ⟨resolved, validated, columns, hp, -, hb, -, rfl⟩ := createdRow_eq_ok_iff.mp hc
    exact ⟨resolved, validated, _, hp, (storedAs_of_bindColumns hb).1, rfl, h.1.symm, h.2.symm⟩

/-- `get` lets a record through that is not deleted and that the policy accepts. -/
theorem admitGet_eq_ok_iff {record existing : ConnectionRecord} :
    svc.admitGet actor connectionId (some record) = .ok existing ↔
      record.deletedAt = none ∧
        svc.accessPolicy.canGetOne ⟨actor, "get", some connectionId, none⟩ record = .ok () ∧
          existing = record := by
  unfold ConnectionService.admitGet
  dsimp only
  cases hd : record.deletedAt with
  | some t => simp
  | none =>
    rw [if_neg (by simp), bind_eq_ok_iff]
    simp only [pure, Except.pure, Except.ok.injEq, true_and]
    constructor
    · rintro ⟨⟨⟩, hc, rfl⟩
      exact ⟨hc, rfl⟩
    · rintro ⟨hc, rfl⟩
      exact ⟨(), hc, rfl⟩

/-- What `create` goes through before its transaction. -/
theorem prepareCreate_eq_ok_iff {payload resolved : ConnectionDraft} {v : ValidatedConnection} :
    svc.prepareCreate actor payload = .ok (resolved, v) ↔
      svc.ownershipResolver.resolveCreate
          ⟨actor, "create", none, some (payloadWithExtra payload.asdict)⟩ payload = .ok resolved ∧
        svc.accessPolicy.canCreate
          ⟨actor, "create", none, some (payloadWithExtra resolved.asdict)⟩ resolved = .ok () ∧
        ∃ spec, Validates svc.registry resolved spec v := by
  unfold ConnectionService.prepareCreate
  simp only [bind_eq_ok_iff, pure, Except.pure, Except.ok.injEq, Prod.mk.injEq]
  constructor
  · rintro ⟨resolved', hr, ⟨⟩, hc, v', hv, rfl, rfl⟩
    exact ⟨hr, hc, validate_eq_ok_iff.mp hv⟩
  · rintro ⟨hr, hc, hv⟩
    exact ⟨resolved, hr, (), hc, v, validate_eq_ok_iff.mpr hv, rfl, rfl⟩

/-- What `update` went through between its `get` and its `replace`. -/
theorem validates_of_prepareUpdate {patch : ConnectionPatch} {existing : ConnectionRecord}
    {merged : ConnectionDraft} {v : ValidatedConnection}
    (h : svc.prepareUpdate actor connectionId patch existing = .ok (merged, v)) :
    ∃ resolved spec, svc.ownershipResolver.resolvePatch
        ⟨actor, "update", some connectionId, some (payloadWithExtra patch.toDict)⟩ existing patch =
          .ok resolved ∧
      merged = merge existing resolved ∧ Validates svc.registry merged spec v := by
  unfold ConnectionService.prepareUpdate at h
  simp only [bind_eq_ok_iff, pure, Except.pure, Except.ok.injEq, Prod.mk.injEq] at h
  obtain ⟨resolved, hr, ⟨⟩, -, ⟨⟩, -, v', hv, rfl, rfl⟩ := h
  obtain ⟨spec, hvalid⟩ := validate_eq_ok_iff.mp hv
  exact ⟨resolved, spec, hr, rfl, hvalid⟩

/-- What `update` went through when it wrote a row. -/
theorem updates_of_updatedRow {patch : ConnectionPatch} {row row' : Row C}
    (h : svc.updatedRow env actor connectionId patch row = .ok row') :
    ∃ resolved spec validated,
      Updates svc env actor connectionId patch row row' resolved spec validated := by
  unfold ConnectionService.updatedRow ConnectionService.prepareUpdate at h
  simp only [bind_eq_ok_iff, pure, Except.pure, Except.ok.injEq] at h
  obtain ⟨existing, hg, ⟨merged, validated⟩, ⟨resolved, hr, ⟨⟩, hu, ⟨⟩, hs, validated', hv, he⟩,
    columns, hb, rfl⟩ := h
  obtain ⟨ha, hc, rfl⟩ := admitGet_eq_ok_iff.mp hg
  simp only [Prod.mk.injEq] at he
  obtain ⟨rfl, rfl⟩ := he
  obtain ⟨spec, hspec⟩ := validate_eq_ok_iff.mp hv
  exact ⟨resolved, spec, validated', ha, hc, hr, hu, hs, hspec,
    (storedAs_of_bindColumns hb).2 row, rfl, rfl, rfl, rfl⟩

/-- What `delete` went through when it wrote a row. -/
theorem deletedRow_eq_ok_iff {row row' : Row C} :
    svc.deletedRow env actor connectionId row = .ok row' ↔
      row.deletedAt = none ∧
        svc.accessPolicy.canGetOne ⟨actor, "get", some connectionId, none⟩
          (toRecord svc.storage row) = .ok () ∧
        svc.admitDelete actor connectionId (toRecord svc.storage row) = .ok () ∧
        row' = { row with deletedAt := some env.now, updatedAt := env.now } := by
  unfold ConnectionService.deletedRow
  simp only [bind_eq_ok_iff, admitGet_eq_ok_iff, pure, Except.pure, Except.ok.injEq]
  constructor
  · rintro ⟨existing, ⟨hactive, hget, rfl⟩, ⟨⟩, hcan, rfl⟩
    exact ⟨hactive, hget, hcan, rfl⟩
  · rintro ⟨hactive, hget, hcan, rfl⟩
    exact ⟨_, ⟨hactive, hget, rfl⟩, (), hcan, rfl⟩

/-- A successful `update` run alone wrote one row over the row of its connection. -/
theorem run_update_eq_ok {patch : ConnectionPatch} {store store' : List (Row C)}
    {record : ConnectionRecord}
    (h : (svc.update env actor connectionId patch).run store = (.ok record, store')) :
    ∃ row row' resolved spec validated, find connectionId store = some row ∧
      Updates svc env actor connectionId patch row row' resolved spec validated ∧
      record = toRecord svc.storage row' ∧ store' = put store row' := by
  rw [svc.run_update] at h
  unfold ConnectionService.answer at h
  cases hf : find connectionId store with
  | none => simp [hf] at h
  | some row =>
    simp only [hf] at h
    cases hw : svc.updatedRow env actor connectionId patch row with
    | error e => simp [hw] at h
    | ok row' =>
      simp only [hw, Prod.mk.injEq, Except.ok.injEq] at h
      obtain ⟨resolved, spec, validated, hu⟩ := updates_of_updatedRow hw
      exact ⟨row, row', resolved, spec, validated, rfl, hu, h.1.symm, h.2.symm⟩

end Written
end DbConnection
