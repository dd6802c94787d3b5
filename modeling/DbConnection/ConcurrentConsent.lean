import DbConnection.ConcurrentRows
import DbConnection.Consent
import DbConnection.Lib.RowResults

/-!
# The policy's consent under concurrent calls

The calls share no lock, so the row that a call writes over may have changed since the policy saw
its record. What the policy still guards, in any order of the statements: every version of a row is
made by calls whose hooks accepted a version of it that was made so before (`Lawful`,
`lawful_of_reaches`); a call returns the records of such versions, after its hooks accepted one of
them (`reveals_of_reaches`); and a row that the hooks let no caller change stays as it is
(`untouched_of_reaches`).
-/

namespace DbConnection

open PyData Pydantic ReadCommitted

/-- How a row came about: it was there at the start, or calls made it to which the hooks consented,
over versions that came about so. -/
inductive Lawful {C ι : Type} (svc : ConnectionService C) (calls : ι → Invocation)
    (store : List (Row C)) : Row C → Prop where
  | start {row : Row C} : row ∈ store → Lawful svc calls store row
  /-- A `create` stored the draft that `can_create` accepted. -/
  | created {i : ι} {payload resolved : ConnectionDraft} {actor : Json} {env : CallEnv}
      {spec : TypeSpec} {validated : ValidatedConnection} {row : Row C} :
    calls i = ⟨.create payload, actor, env⟩ →
    svc.ownershipResolver.resolveCreate
      ⟨actor, "create", none, some (payloadWithExtra payload.asdict)⟩ payload = .ok resolved →
    svc.accessPolicy.canCreate
      ⟨actor, "create", none, some (payloadWithExtra resolved.asdict)⟩ resolved = .ok () →
    Validates svc.registry resolved spec validated →
    StoredAs svc.storage env resolved validated row →
    Lawful svc calls store row
  /-- An `update` stored the merge of the patch and of the version that `can_get_one` and
  `can_update` accepted, over a version that may be another. -/
  | updated {i : ι} {connectionId : String} {patch resolved : ConnectionPatch} {actor : Json}
      {env : CallEnv} {read old row : Row C} {spec : TypeSpec} {validated : ValidatedConnection} :
    calls i = ⟨.update connectionId patch, actor, env⟩ →
    Lawful svc calls store read → read.id = connectionId →
    Lawful svc calls store old → old.id = connectionId →
    read.deletedAt = none →
    svc.accessPolicy.canGetOne ⟨actor, "get", some connectionId, none⟩
      (toRecord svc.storage read) = .ok () →
    svc.ownershipResolver.resolvePatch
      ⟨actor, "update", some connectionId, some (payloadWithExtra patch.toDict)⟩
      (toRecord svc.storage read) patch = .ok resolved →
    svc.accessPolicy.canUpdate
      ⟨actor, "update", some connectionId, some (payloadWithExtra resolved.toDict)⟩
      (toRecord svc.storage read) resolved = .ok () →
    Validates svc.registry (merge (toRecord svc.storage read) resolved) spec validated →
    StoredAs svc.storage env (merge (toRecord svc.storage read) resolved) validated row →
    row.id = old.id → row.createdAt = old.createdAt → row.deletedAt = old.deletedAt →
    Lawful svc calls store row
  /-- A `delete` of the row whose version `can_get_one` and `can_delete` accepted. -/
  | deleted {i : ι} {connectionId : String} {actor : Json} {env : CallEnv} {read old : Row C} :
    calls i = ⟨.delete connectionId, actor, env⟩ →
    Lawful svc calls store read → read.id = connectionId →
    Lawful svc calls store old → old.id = connectionId →
    read.deletedAt = none →
    svc.accessPolicy.canGetOne ⟨actor, "get", some connectionId, none⟩
      (toRecord svc.storage read) = .ok () →
    svc.accessPolicy.canDelete ⟨actor, "delete", some connectionId, none⟩
      (toRecord svc.storage read) = .ok () →
    Lawful svc calls store (old.deleteAt env.now)

section Lawful

variable {C ι : Type} {svc : ConnectionService C} {calls : ι → Invocation} {store : List (Row C)}

/-- What `update` asked of the hooks between its `get` and its `replace`. -/
theorem consents_of_prepareUpdate {actor : Json} {connectionId : String} {patch : ConnectionPatch}
    {existing : ConnectionRecord} {merged : ConnectionDraft} {v : ValidatedConnection}
    (h : svc.prepareUpdate actor connectionId patch existing = .ok (merged, v)) :
    ∃ resolved spec, svc.ownershipResolver.resolvePatch
        ⟨actor, "update", some connectionId, some (payloadWithExtra patch.toDict)⟩ existing patch =
          .ok resolved ∧
      svc.accessPolicy.canUpdate
        ⟨actor, "update", some connectionId, some (payloadWithExtra resolved.toDict)⟩ existing
          resolved = .ok () ∧
      merged = merge existing resolved ∧ Validates svc.registry merged spec v := by
  unfold ConnectionService.prepareUpdate at h
  simp only [bind_eq_ok_iff, pure, Except.pure, Except.ok.injEq, Prod.mk.injEq] at h
  obtain ⟨resolved, hresolve, ⟨⟩, hcan, ⟨⟩, -, v', hv, rfl, rfl⟩ := h
  obtain ⟨spec, hvalid⟩ := validate_eq_ok_iff.mp hv
  exact ⟨resolved, spec, hresolve, hcan, rfl, hvalid⟩

/-- What `update` decided on. -/
theorem consents_of_updateRmw {env : CallEnv} {actor : Json} {connectionId : String}
    {patch : ConnectionPatch} {row : Option (Row C)} {u : ColumnUpdate (Row C) PyError}
    (h : (svc.updateRmw env actor connectionId patch).decide row = .ok u) :
    ∃ read resolved spec v, row = some read ∧ read.deletedAt = none ∧
      svc.accessPolicy.canGetOne ⟨actor, "get", some connectionId, none⟩
        (toRecord svc.storage read) = .ok () ∧
      svc.ownershipResolver.resolvePatch
        ⟨actor, "update", some connectionId, some (payloadWithExtra patch.toDict)⟩
        (toRecord svc.storage read) patch = .ok resolved ∧
      svc.accessPolicy.canUpdate
        ⟨actor, "update", some connectionId, some (payloadWithExtra resolved.toDict)⟩
        (toRecord svc.storage read) resolved = .ok () ∧
      Validates svc.registry (merge (toRecord svc.storage read) resolved) spec v ∧
      u = Repository.replaceUpdate svc.storage env
        (toPersistedDraft (merge (toRecord svc.storage read) resolved) v) := by
  simp only [ConnectionService.updateRmw, bind_eq_ok_iff] at h
  obtain ⟨existing, hget, ⟨merged, v⟩, hprepare, hu⟩ := h
  cases hu
  obtain ⟨resolved, spec, hresolve, hcan, rfl, hvalid⟩ := consents_of_prepareUpdate hprepare
  cases row with
  | none => cases hget
  | some read =>
    obtain ⟨hactive, hone, rfl⟩ := admitGet_eq_ok_iff.mp hget
    exact ⟨read, resolved, spec, v, rfl, hactive, hone, hresolve, hcan, hvalid, rfl⟩

/-- What `delete` decided on. -/
theorem consents_of_deleteRmw {env : CallEnv} {actor : Json} {connectionId : String}
    {row : Option (Row C)} {u : ColumnUpdate (Row C) PyError}
    (h : (svc.deleteRmw env actor connectionId).decide row = .ok u) :
    ∃ read, row = some read ∧ read.deletedAt = none ∧
      svc.accessPolicy.canGetOne ⟨actor, "get", some connectionId, none⟩
        (toRecord svc.storage read) = .ok () ∧
      svc.accessPolicy.canDelete ⟨actor, "delete", some connectionId, none⟩
        (toRecord svc.storage read) = .ok () ∧
      u = Repository.deleteUpdate env := by
  simp only [ConnectionService.deleteRmw, bind_eq_ok_iff] at h
  obtain ⟨existing, hget, ⟨⟩, hcan, hu⟩ := h
  cases hu
  cases row with
  | none => cases hget
  | some read =>
    obtain ⟨hactive, hone, rfl⟩ := admitGet_eq_ok_iff.mp hget
    exact ⟨read, rfl, hactive, hone, hcan, rfl⟩

/-- A call writes lawful rows. -/
theorem lawful_call (i : ι) : ((calls i).prog svc).Writes (Lawful svc calls store) := by
  by_cases hm : (calls i).call.mutates = true
  · rcases hi : calls i with ⟨call, actor, env⟩
    rw [hi] at hm
    unfold Invocation.prog
    cases call with
    | create payload =>
      have h : (svc.create env actor payload).Inserting (Lawful svc calls store) := by
        refine inserting_create svc env actor fun draft v columns hp hb => ?_
        obtain ⟨hresolve, hcan, spec, hvalid⟩ := prepareCreate_eq_ok_iff.mp hp
        exact .created hi hresolve hcan hvalid (storedAs_of_bindColumns hb).1
      exact h.writes.map ServiceResult.record
    | update connectionId patch =>
      have h : (svc.update env actor connectionId patch).Writes (Lawful svc calls store) := by
        rw [svc.update_eq_rmw]
        refine Rmw.writes_prog _ fun row u hrow hd old new hold hlawful ha => ?_
        obtain ⟨read, resolved, spec, v, rfl, hactive, hone, hresolve, hcan, hvalid, rfl⟩ :=
          consents_of_updateRmw hd
        obtain ⟨hid, hread⟩ := hrow read rfl
        simp only [Repository.replaceUpdate] at ha
        cases hb : Repository.bindColumns svc.storage env
            (toPersistedDraft (merge (toRecord svc.storage read) resolved) v) with
        | error e => simp [hb, Except.map] at ha
        | ok columns =>
          simp only [hb, Except.map, Except.ok.injEq] at ha
          subst ha
          exact .updated hi hread hid hlawful hold hactive hone hresolve hcan hvalid
            ((storedAs_of_bindColumns hb).2 old) rfl rfl rfl
      exact h.map ServiceResult.record
    | delete connectionId =>
      have h : (svc.delete env actor connectionId).Writes (Lawful svc calls store) := by
        rw [svc.delete_eq_rmw]
        refine Rmw.writes_prog _ fun row u hrow hd old new hold hlawful ha => ?_
        obtain ⟨read, rfl, hactive, hone, hcan, rfl⟩ := consents_of_deleteRmw hd
        obtain ⟨hid, hread⟩ := hrow read rfl
        cases ha
        exact .deleted hi hread hid hlawful hold hactive hone hcan
      exact h.map ServiceResult.record
    | _ => cases hm
  · exact (finishes_of_not_mutates svc (by simpa using hm)).writes

end Lawful

/-- In every run of calls, in any order of their statements, each committed row came about by calls
that the hooks consented to. -/
theorem lawful_of_reaches {C ι : Type} [DecidableEq ι] (svc : ConnectionService C)
    (calls : ι → Invocation) (store : List (Row C)) (σ : Sys ι (Row C) PyError ServiceResult)
    (hr : Reaches (fun _ _ => True) (Sys.start store fun i => (calls i).prog svc) σ)
    (row : Row C) (hrow : row ∈ σ.committed) : Lawful svc calls store row := by
  have hversions : Versions (Lawful svc calls store) σ :=
    Versions.of_reaches (fun r hr => .start hr) (fun i => lawful_call i) hr
  exact hversions.committed row hrow

/-- The row that a rename stored over a delete that it did not see came about lawfully. -/
theorem lawful_of_reaches_deleteAndRename :
    ∃ row : Row Json, row.deletedAt = some 1 ∧ row.name = "archive" ∧
      Lawful (defaultService none) deleteAndRename [bucketRow "a"] row := by
  have hrun : ((runScheduleIf (fun _ _ => true)
        (Sys.start [bucketRow "a"] fun i => (deleteAndRename i).prog (defaultService none))
        [false, true, true, true, true, true, false, false, false, false]).map fun σ =>
      (find "a" σ.committed).map fun row => (row.deletedAt, row.name)) =
      some (some (some 1, "archive")) := by
    decide +kernel
  obtain ⟨σ, hr, hσ⟩ := exists_reaches_of_runScheduleIf (fun _ _ => True)
    (fun _ _ _ => trivial) hrun
  obtain ⟨row, hf, hrow⟩ := Option.map_eq_some_iff.mp hσ
  simp only [Prod.mk.injEq] at hrow
  exact ⟨row, hrow.1, hrow.2, lawful_of_reaches (defaultService none) deleteAndRename
    [bucketRow "a"] σ hr row (find_eq_some hf).1⟩

/-! ## What calls reveal -/

/-- A result of a call, made of rows that satisfy `P` and that its hooks let the actor see. -/
inductive Reveals {C : Type} (svc : ConnectionService C) (P : Row C → Prop) (actor : Json) :
    ServiceCall → ServiceResult → Prop where
  | created {payload resolved : ConnectionDraft} {row : Row C} :
    svc.ownershipResolver.resolveCreate
      ⟨actor, "create", none, some (payloadWithExtra payload.asdict)⟩ payload = .ok resolved →
    svc.accessPolicy.canCreate
      ⟨actor, "create", none, some (payloadWithExtra resolved.asdict)⟩ resolved = .ok () →
    P row →
    Reveals svc P actor (.create payload) (.record (toRecord svc.storage row))
  /-- The scope of `scope_list` selects every record of a list. -/
  | listed {query scopedQuery : ConnectionListQuery} {rows : List (Row C)} :
    svc.accessPolicy.scopeList ⟨actor, "list", none, none⟩ query = .ok scopedQuery →
    (∀ row ∈ rows, P row ∧ Repository.matchesStatement svc.storage scopedQuery row = true ∧
      Repository.matchesFilters (toRecord svc.storage row) scopedQuery = true) →
    Reveals svc P actor (.list query) (.records (rows.map (toRecord svc.storage)))
  | got {row : Row C} :
    P row → row.deletedAt = none →
    svc.accessPolicy.canGetOne ⟨actor, "get", some row.id, none⟩ (toRecord svc.storage row) =
      .ok () →
    Reveals svc P actor (.get row.id) (.record (toRecord svc.storage row))
  /-- An `update` returns the row that it read back, after the hooks accepted a version of it. -/
  | updated {patch resolved : ConnectionPatch} {read row : Row C} :
    P read → read.id = row.id → read.deletedAt = none →
    svc.accessPolicy.canGetOne ⟨actor, "get", some row.id, none⟩ (toRecord svc.storage read) =
      .ok () →
    svc.ownershipResolver.resolvePatch
      ⟨actor, "update", some row.id, some (payloadWithExtra patch.toDict)⟩
      (toRecord svc.storage read) patch = .ok resolved →
    svc.accessPolicy.canUpdate
      ⟨actor, "update", some row.id, some (payloadWithExtra resolved.toDict)⟩
      (toRecord svc.storage read) resolved = .ok () →
    P row →
    Reveals svc P actor (.update row.id patch) (.record (toRecord svc.storage row))
  | deleted {read row : Row C} :
    P read → read.id = row.id → read.deletedAt = none →
    svc.accessPolicy.canGetOne ⟨actor, "get", some row.id, none⟩ (toRecord svc.storage read) =
      .ok () →
    svc.accessPolicy.canDelete ⟨actor, "delete", some row.id, none⟩ (toRecord svc.storage read) =
      .ok () →
    P row →
    Reveals svc P actor (.delete row.id) (.record (toRecord svc.storage row))
  /-- A check of a payload sees no row. -/
  | checkedPayload {payload : ConnectionDraft} {call : ConnectorCall} :
    svc.checkPayload actor payload = .ok call →
    Reveals svc P actor (.checkPayload payload) (.checked call)
  | checkedStored {row : Row C} {patch : Option ConnectionPatch} {call : ConnectorCall} :
    P row → row.deletedAt = none →
    svc.accessPolicy.canGetOne ⟨actor, "get", some row.id, none⟩ (toRecord svc.storage row) =
      .ok () →
    svc.checkRecord actor row.id patch (toRecord svc.storage row) = .ok call →
    Reveals svc P actor (.checkStored row.id patch) (.checked call)

section Reveals

variable {C : Type} (svc : ConnectionService C) (P : Row C → Prop) (env : CallEnv) (actor : Json)

/-- The row that a SELECT by id found. -/
theorem head_of_byKey {connectionId : String} {rows : List (Row C)}
    (hrows : ∀ r ∈ rows, byKey connectionId r = true ∧ P r) {row : Row C}
    (h : rows.head? = some row) : row.id = connectionId ∧ P row :=
  (hrows row (List.mem_of_mem_head? h)).imp_left of_decide_eq_true

/-- `get` returns the record of a row that the policy accepted. -/
theorem returns_get (connectionId : String) :
    (svc.get actor connectionId).Returns P fun record => ∃ row : Row C, row.id = connectionId ∧
      P row ∧ row.deletedAt = none ∧ record = toRecord svc.storage row ∧
      svc.accessPolicy.canGetOne ⟨actor, "get", some connectionId, none⟩ record = .ok () := by
  intro rows hrows
  refine Prog.returns_ofExcept fun record h => ?_
  cases hhead : rows.head? with
  | none =>
    rw [hhead] at h
    cases h
  | some row =>
    rw [hhead] at h
    obtain ⟨hid, hrow⟩ := head_of_byKey P hrows hhead
    obtain ⟨hactive, hone, rfl⟩ := admitGet_eq_ok_iff.mp h
    exact ⟨row, hid, hrow, hactive, rfl, hone⟩

/-- `create` returns the record of the row it read back, after the hooks accepted the draft. -/
theorem returns_create (payload : ConnectionDraft) :
    (svc.create env actor payload).Returns P fun record =>
      Reveals svc P actor (.create payload) (.record record) := by
  simp only [ConnectionService.create, ConnectionService.owned, ConnectionService.createIn]
  cases hp : svc.prepareCreate actor payload with
  | error e => trivial
  | ok prepared =>
    obtain ⟨draft, v⟩ := prepared
    obtain ⟨hresolve, hcan, -⟩ := prepareCreate_eq_ok_iff.mp hp
    have hinsert : ((Repository.create svc.storage env (toPersistedDraft draft v)).bind
        fun record => Prog.commit (.pure record)).Returns P fun record =>
          Reveals svc P actor (.create payload) (.record record) := by
      unfold Repository.create
      cases Repository.bindColumns svc.storage env (toPersistedDraft draft v) with
      | error e => trivial
      | ok columns =>
        intro rows hrows
        dsimp only
        cases hhead : rows.head? with
        | none => trivial
        | some row => exact .created hresolve hcan (head_of_byKey P hrows hhead).2
    unfold ConnectionService.checkLimit
    cases svc.maxConnections with
    | none => exact hinsert
    | some limit =>
      intro rows _
      dsimp only [Prog.bind]
      split
      · trivial
      · exact hinsert

/-- What a call returns of rows that satisfy `P`. -/
theorem returns_call (inv : Invocation) :
    (inv.prog svc).Returns P (Reveals svc P inv.actor inv.call) := by
  obtain ⟨call, actor, env⟩ := inv
  unfold Invocation.prog
  cases call with
  | create payload => exact (returns_create svc P env actor payload).map fun _ h => h
  | list query =>
    have h : (svc.list actor query).Returns P fun records =>
        Reveals svc P actor (.list query) (.records records) := by
      unfold ConnectionService.list
      cases hs : svc.accessPolicy.scopeList ⟨actor, "list", none, none⟩ query with
      | error e => trivial
      | ok scopedQuery =>
        intro rows hrows
        -- The records that pass the filters are those of the rows whose record passes them.
        dsimp only
        rw [List.filter_map]
        refine Reveals.listed hs fun row hrow => ?_
        obtain ⟨hmem, hfilters⟩ := List.mem_filter.mp hrow
        exact ⟨(hrows row hmem).2, (hrows row hmem).1, hfilters⟩
    exact h.map fun _ h => h
  | get connectionId =>
    refine (returns_get svc P actor connectionId).map fun record h => ?_
    obtain ⟨row, rfl, hrow, hactive, rfl, hone⟩ := h
    exact .got hrow hactive hone
  | update connectionId patch =>
    have h : (svc.update env actor connectionId patch).Returns P fun record =>
        Reveals svc P actor (.update connectionId patch) (.record record) := by
      rw [svc.update_eq_rmw]
      refine Rmw.returns_prog _ fun row u hrow hd r hid hr => ?_
      obtain ⟨read, resolved, -, -, rfl, hactive, hone, hresolve, hcan, -⟩ :=
        consents_of_updateRmw hd
      obtain ⟨hread, hP⟩ := hrow read rfl
      cases hid
      exact .updated hP hread hactive hone hresolve hcan hr
    exact h.map fun _ h => h
  | delete connectionId =>
    have h : (svc.delete env actor connectionId).Returns P fun record =>
        Reveals svc P actor (.delete connectionId) (.record record) := by
      rw [svc.delete_eq_rmw]
      refine Rmw.returns_prog _ fun row u hrow hd r hid hr => ?_
      obtain ⟨read, rfl, hactive, hone, hcan, -⟩ := consents_of_deleteRmw hd
      obtain ⟨hread, hP⟩ := hrow read rfl
      cases hid
      exact .deleted hP hread hactive hone hcan hr
    exact h.map fun _ h => h
  | checkPayload payload =>
    exact (Prog.returns_ofExcept fun call h => h).map fun call h => .checkedPayload h
  | checkStored connectionId patch =>
    have h : (svc.checkStored actor connectionId patch).Returns P fun call =>
        Reveals svc P actor (.checkStored connectionId patch) (.checked call) := by
      refine (returns_get svc P actor connectionId).bind fun record h => ?_
      obtain ⟨row, rfl, hrow, hactive, rfl, hone⟩ := h
      exact Prog.returns_ofExcept fun call hcheck => .checkedStored hrow hactive hone hcheck
    exact h.map fun _ h => h

end Reveals

/-- In every run of calls, in any order of their statements, a call returns the records of rows that
came about lawfully and that its hooks let the actor see. -/
theorem reveals_of_reaches {C ι : Type} [DecidableEq ι] (svc : ConnectionService C)
    (calls : ι → Invocation) (store : List (Row C)) (σ : Sys ι (Row C) PyError ServiceResult)
    (hr : Reaches (fun _ _ => True) (Sys.start store fun i => (calls i).prog svc) σ) (i : ι)
    (result : ServiceResult) (ho : (σ.tx i).prog.outcome = some (.ok result)) :
    Reveals svc (Lawful svc calls store) (calls i).actor (calls i).call result :=
  returned_of_reaches (fun _ hrow => .start hrow) (fun j => lawful_call j)
    (fun j => returns_call svc (Lawful svc calls store) (calls j)) hr ho

/-- A `get` between the statements of a delete returns the record of a lawful row. -/
theorem reveals_of_reaches_deleteAndGet :
    ∃ (σ : Sys Bool (Row Json) PyError ServiceResult) (result : ServiceResult),
      σ.Locked false "a" ∧ (σ.tx false).prog.outcome = some (.ok result) ∧
        Reveals (defaultService none) (Lawful (defaultService none) deleteAndGet [bucketRow "a"])
          .null (.get "a") result := by
  have hrun : ((runScheduleIf (fun _ _ => true)
        (Sys.start [bucketRow "a"] fun i => (deleteAndGet i).prog (defaultService none))
        [true, true, true, false]).map fun σ =>
      (decide (σ.Locked false "a"), (σ.tx false).prog.outcome.map Except.isOk)) =
      some (true, some true) := by
    decide +kernel
  obtain ⟨σ, hr, hσ⟩ := exists_reaches_of_runScheduleIf (fun _ _ => True)
    (fun _ _ _ => trivial) hrun
  simp only [Prod.mk.injEq, decide_eq_true_eq] at hσ
  obtain ⟨hlocked, hget⟩ := hσ
  obtain ⟨outcome, ho, hok⟩ := Option.map_eq_some_iff.mp hget
  cases outcome with
  | error e => cases hok
  | ok result =>
    exact ⟨σ, result, hlocked, ho, reveals_of_reaches (defaultService none) deleteAndGet
      [bucketRow "a"] σ hr false result ho⟩

/-! ## Rows that no call may change -/

section Leaves

variable {C : Type} (svc : ConnectionService C) {row : Row C}

/-- A read-modify-write transaction that needs a row, and that fails alone over this one if it is
about it, leaves it. -/
theorem leaves_rmw (m : Rmw (Row C) PyError ConnectionRecord) (hnone : ∀ u, m.decide none ≠ .ok u)
    (h : m.row = row.id →
      ∃ e, (Prog.run (m.prog >>= fun record => pure (ServiceResult.record record)) [row]).1 =
        .error e) : m.prog.Leaves row := by
  by_cases hrow : m.row = row.id
  · obtain ⟨e, he⟩ := h hrow
    rw [run_map] at he
    cases hrun : (m.prog.run [row]).1 with
    | ok record => simp [hrun, Except.map] at he
    | error e' => exact m.leaves_of_run hrow hnone hrun
  · exact m.leaves_prog fun hid => absurd hid hrow

/-- A call leaves a row if it does not change rows of that id, or fails alone over it. -/
theorem leaves_call {inv : Invocation}
    (h : inv.call.mutates = true → inv.call.target = some row.id →
      ∃ e, ((inv.prog svc).run [row]).1 = .error e) : (inv.prog svc).Leaves row := by
  by_cases hm : inv.call.mutates = true
  · obtain ⟨call, actor, env⟩ := inv
    unfold Invocation.prog at h ⊢
    cases call with
    | create payload =>
      have hcreate : (svc.create env actor payload).Inserting fun _ => True :=
        inserting_create svc env actor fun _ _ _ _ _ => trivial
      exact hcreate.leaves.map ServiceResult.record
    | update connectionId patch =>
      simp only [svc.update_eq_rmw] at h ⊢
      refine Prog.Leaves.map (leaves_rmw _ (fun u hd => ?_) fun hid => ?_) ServiceResult.record
      · obtain ⟨read, -, -, -, hread, -⟩ := consents_of_updateRmw hd
        cases hread
      · exact h rfl (congrArg some hid)
    | delete connectionId =>
      simp only [svc.delete_eq_rmw] at h ⊢
      refine Prog.Leaves.map (leaves_rmw _ (fun u hd => ?_) fun hid => ?_) ServiceResult.record
      · obtain ⟨read, hread, -⟩ := consents_of_deleteRmw hd
        cases hread
      · exact h rfl (congrArg some hid)
    | _ => cases hm
  · exact (finishes_of_not_mutates svc (by simpa using hm)).leaves

end Leaves

/-- If each update and each delete of a row fails alone over it, as it does where a hook raises, the
row stays as it is in every run, in any order of the statements: no call changes it for another. -/
theorem untouched_of_reaches {C ι : Type} [DecidableEq ι] (svc : ConnectionService C)
    (calls : ι → Invocation) (store : List (Row C)) (hkeys : (store.map Row.id).Nodup)
    (row : Row C) (hrow : row ∈ store)
    (hfails : ∀ i, (calls i).call.mutates = true → (calls i).call.target = some row.id →
      ∃ e, (((calls i).prog svc).run [row]).1 = .error e)
    (σ : Sys ι (Row C) PyError ServiceResult)
    (hr : Reaches (fun _ _ => True) (Sys.start store fun i => (calls i).prog svc) σ) :
    find row.id σ.committed = some row :=
  left_of_reaches hkeys (find_of_mem hkeys hrow) (fun i => leaves_call svc (hfails i)) hr

/-- A service whose policy lets nobody update or delete. -/
def readOnlyService : ConnectionService Json where
  __ := defaultService none
  accessPolicy :=
    { allowAllAccessPolicy with
      canUpdate := fun _ _ _ => .error (.accessDenied "read only")
      canDelete := fun _ _ => .error (.accessDenied "read only") }

/-- A rename and a delete that the policy refuses, beside each other. -/
theorem untouched_of_reaches_readOnlyService :
    ∃ σ : Sys Bool (Row Json) PyError ServiceResult, (∀ i, (σ.tx i).prog.outcome.isSome) ∧
      find "a" σ.committed = some (bucketRow "a") := by
  have hrun : ((runScheduleIf (fun _ _ => true)
        (Sys.start [bucketRow "a"] fun i => (deleteAndRename i).prog readOnlyService)
        [false, true]).map fun σ => decide (∀ i, (σ.tx i).prog.outcome.isSome)) = some true := by
    decide +kernel
  obtain ⟨σ, hr, hσ⟩ := exists_reaches_of_runScheduleIf (fun _ _ => True)
    (fun _ _ _ => trivial) hrun
  refine ⟨σ, of_decide_eq_true hσ, untouched_of_reaches readOnlyService deleteAndRename
    [bucketRow "a"] (by decide) (bucketRow "a") (by simp) (fun i _ _ => ?_) σ hr⟩
  refine ⟨.accessDenied "read only", congrArg Prod.fst (run_of_hookRaises _ _ ?_)⟩
  have hf : find "a" [bucketRow "a"] = some (bucketRow "a") := rfl
  cases i with
  | false => exact .canUpdate hf rfl rfl rfl
  | true => exact .canDelete hf rfl rfl

end DbConnection
