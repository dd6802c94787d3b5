import DbConnection.SharedUnits

/-!
# The policy's consent

The access policy sees objects that the service goes on to transform: a draft after the ownership
resolver, a record beside a patch. `Consented` ties each write and each record that a call reveals
to the very objects that the policy accepted: what is stored is the validated form of the draft, or
of the merge of the record and the patch, that the hooks saw. A hook that raises ends the call
before it stores anything and before a connector is called (`HookRaises`). A call in a unit of work
that it is given does the same to what its transaction sees.
-/

namespace DbConnection

open PyData Pydantic ReadCommitted

/-- What `delete` writes over a row. -/
def Row.deleteAt {C : Type} (row : Row C) (now : Nat) : Row C :=
  { row with deletedAt := some now, updatedAt := now }

/-- A hook that the call asks over the store raises `e`. A hook is asked when the ones before it
have let the call pass. -/
inductive HookRaises {C : Type} (svc : ConnectionService C) (actor : Json) (store : List (Row C)) :
    ServiceCall → PyError → Prop where
  | resolveCreate {payload : ConnectionDraft} {e : PyError} :
    svc.ownershipResolver.resolveCreate
      ⟨actor, "create", none, some (payloadWithExtra payload.asdict)⟩ payload = .error e →
    HookRaises svc actor store (.create payload) e
  | canCreate {payload resolved : ConnectionDraft} {e : PyError} :
    svc.ownershipResolver.resolveCreate
      ⟨actor, "create", none, some (payloadWithExtra payload.asdict)⟩ payload = .ok resolved →
    svc.accessPolicy.canCreate
      ⟨actor, "create", none, some (payloadWithExtra resolved.asdict)⟩ resolved = .error e →
    HookRaises svc actor store (.create payload) e
  | resolvePayload {payload : ConnectionDraft} {e : PyError} :
    svc.ownershipResolver.resolveCreate
      ⟨actor, "check_payload", none, some (payloadWithExtra payload.asdict)⟩ payload = .error e →
    HookRaises svc actor store (.checkPayload payload) e
  | scopeList {query : ConnectionListQuery} {e : PyError} :
    svc.accessPolicy.scopeList ⟨actor, "list", none, none⟩ query = .error e →
    HookRaises svc actor store (.list query) e
  | canGetOne {call : ServiceCall} {connectionId : String} {row : Row C} {e : PyError} :
    call.target = some connectionId → find connectionId store = some row → row.deletedAt = none →
    svc.accessPolicy.canGetOne ⟨actor, "get", some connectionId, none⟩
      (toRecord svc.storage row) = .error e →
    HookRaises svc actor store call e
  | resolvePatch {connectionId : String} {patch : ConnectionPatch} {row : Row C} {e : PyError} :
    find connectionId store = some row →
    svc.admitGet actor connectionId (some (toRecord svc.storage row)) =
      .ok (toRecord svc.storage row) →
    svc.ownershipResolver.resolvePatch
      ⟨actor, "update", some connectionId, some (payloadWithExtra patch.toDict)⟩
      (toRecord svc.storage row) patch = .error e →
    HookRaises svc actor store (.update connectionId patch) e
  | canUpdate {connectionId : String} {patch resolved : ConnectionPatch} {row : Row C}
      {e : PyError} :
    find connectionId store = some row →
    svc.admitGet actor connectionId (some (toRecord svc.storage row)) =
      .ok (toRecord svc.storage row) →
    svc.ownershipResolver.resolvePatch
      ⟨actor, "update", some connectionId, some (payloadWithExtra patch.toDict)⟩
      (toRecord svc.storage row) patch = .ok resolved →
    svc.accessPolicy.canUpdate
      ⟨actor, "update", some connectionId, some (payloadWithExtra resolved.toDict)⟩
      (toRecord svc.storage row) resolved = .error e →
    HookRaises svc actor store (.update connectionId patch) e
  | canDelete {connectionId : String} {row : Row C} {e : PyError} :
    find connectionId store = some row →
    svc.admitGet actor connectionId (some (toRecord svc.storage row)) =
      .ok (toRecord svc.storage row) →
    svc.accessPolicy.canDelete ⟨actor, "delete", some connectionId, none⟩
      (toRecord svc.storage row) = .error e →
    HookRaises svc actor store (.delete connectionId) e
  | resolveStored {connectionId : String} {patch : ConnectionPatch} {row : Row C} {e : PyError} :
    find connectionId store = some row →
    svc.admitGet actor connectionId (some (toRecord svc.storage row)) =
      .ok (toRecord svc.storage row) →
    svc.ownershipResolver.resolvePatch
      ⟨actor, "check_stored", some connectionId, some (payloadWithExtra patch.toDict)⟩
      (toRecord svc.storage row) patch = .error e →
    HookRaises svc actor store (.checkStored connectionId (some patch)) e

/-- A service writes and reveals no more than its policy accepted, whatever its hooks are. -/
structure Consented {C : Type} (svc : ConnectionService C) : Prop where
  /-- A created row is the validated form of the draft that `can_create` accepted. -/
  create : ∀ (env : CallEnv) (actor : Json) (payload : ConnectionDraft) (store : List (Row C)),
    ((svc.create env actor payload).run store).2 ≠ store →
      ∃ resolved spec validated row,
        svc.ownershipResolver.resolveCreate
          ⟨actor, "create", none, some (payloadWithExtra payload.asdict)⟩ payload =
            .ok resolved ∧
        svc.accessPolicy.canCreate
          ⟨actor, "create", none, some (payloadWithExtra resolved.asdict)⟩ resolved = .ok () ∧
        Validates svc.registry resolved spec validated ∧
        StoredAs svc.storage env resolved validated row ∧
        ((svc.create env actor payload).run store).2 = put store row
  /-- An updated row is the validated merge of the record and the patch that `can_get_one` and
  `can_update` accepted. -/
  update : ∀ (env : CallEnv) (actor : Json) (connectionId : String) (patch : ConnectionPatch)
      (store : List (Row C)),
    ((svc.update env actor connectionId patch).run store).2 ≠ store →
      ∃ row row' resolved spec validated, find connectionId store = some row ∧
        Updates svc env actor connectionId patch row row' resolved spec validated ∧
        ((svc.update env actor connectionId patch).run store).2 = put store row'
  /-- A row is deleted if `can_get_one` and `can_delete` accepted its record. -/
  delete : ∀ (env : CallEnv) (actor : Json) (connectionId : String) (store : List (Row C)),
    ((svc.delete env actor connectionId).run store).2 ≠ store →
      ∃ row, find connectionId store = some row ∧ row.deletedAt = none ∧
        svc.accessPolicy.canGetOne ⟨actor, "get", some connectionId, none⟩
          (toRecord svc.storage row) = .ok () ∧
        svc.accessPolicy.canDelete ⟨actor, "delete", some connectionId, none⟩
          (toRecord svc.storage row) = .ok () ∧
        ((svc.delete env actor connectionId).run store).2 =
          put store (row.deleteAt env.now)
  /-- A record that `get` returns was accepted for the actor. -/
  get : ∀ (actor : Json) (connectionId : String) (store : List (Row C)) (record : ConnectionRecord),
    ((svc.get actor connectionId).run store).1 = .ok record →
      ∃ row, find connectionId store = some row ∧ row.deletedAt = none ∧
        record = toRecord svc.storage row ∧
        svc.accessPolicy.canGetOne ⟨actor, "get", some connectionId, none⟩ record = .ok ()
  /-- `check_stored` ends with the error of its `get`, or goes on with an accepted record. -/
  checkStored : ∀ (actor : Json) (connectionId : String) (patch : Option ConnectionPatch)
      (store : List (Row C)),
    (∃ e, (svc.get actor connectionId).run store = (.error e, store) ∧
        (svc.checkStored actor connectionId patch).run store = (.error e, store)) ∨
      ∃ row, find connectionId store = some row ∧ row.deletedAt = none ∧
        svc.accessPolicy.canGetOne ⟨actor, "get", some connectionId, none⟩
          (toRecord svc.storage row) = .ok () ∧
        (svc.checkStored actor connectionId patch).run store =
          (svc.checkRecord actor connectionId patch (toRecord svc.storage row), store)
  /-- `list` runs the statement of the query that `scope_list` returned, and nothing else. -/
  list : ∀ (actor : Json) (query scopedQuery : ConnectionListQuery),
    svc.accessPolicy.scopeList ⟨actor, "list", none, none⟩ query = .ok scopedQuery →
      svc.list actor query = Repository.list svc.storage scopedQuery
  /-- A hook that raises ends the call, which stores nothing and calls no connector. -/
  refused : ∀ (inv : Invocation) (store : List (Row C)) (e : PyError),
    HookRaises svc inv.actor store inv.call e → (inv.prog svc).run store = (.error e, store)
  /-- In a unit of work that it is given, which may have written rows, a call does to what the
  transaction sees what it does to a store in its own. -/
  shared : ∀ (inv : Invocation) (committed pend : List (Row C)), (pend.map key).Nodup →
    (inv.progIn svc).runIn committed pend = (inv.prog svc).run (overlay committed pend)

section Consent

variable {C : Type} (svc : ConnectionService C) (env : CallEnv) (actor : Json)
  (connectionId : String) (store : List (Row C))

/-- A call that a policy hook or the resolver refuses in `get` fails with the hook's error. -/
theorem admitGet_of_refused {row : Row C} {e : PyError} (hactive : row.deletedAt = none)
    (h : svc.accessPolicy.canGetOne ⟨actor, "get", some connectionId, none⟩
      (toRecord svc.storage row) = .error e) :
    svc.admitGet actor connectionId (some (toRecord svc.storage row)) = .error e := by
  have hs : (toRecord svc.storage row).deletedAt.isSome = false := by
    have hd : (toRecord svc.storage row).deletedAt = row.deletedAt := rfl
    rw [hd, hactive]
    rfl
  unfold ConnectionService.admitGet
  simp only [hs, h]
  rfl

/-- A call about a row that its `get` refuses fails as the `get` does. -/
theorem run_of_admitGet_error {inv : Invocation} {row : Row C} {e : PyError}
    (ht : inv.call.target = some connectionId) (hf : find connectionId store = some row)
    (h : svc.admitGet inv.actor connectionId (some (toRecord svc.storage row)) = .error e) :
    (inv.prog svc).run store = (.error e, store) := by
  obtain ⟨call, actor, env⟩ := inv
  unfold Invocation.prog
  cases call with
  | get id =>
    cases ht
    rw [run_map, run_get, hf, Option.map_some, h]
    rfl
  | update id patch =>
    cases ht
    rw [run_map, svc.run_update_of_find env actor connectionId hf]
    unfold ConnectionService.updatedRow
    rw [h]
    rfl
  | delete id =>
    cases ht
    rw [run_map, svc.run_delete]
    unfold ConnectionService.answer ConnectionService.deletedRow
    simp only [hf, h]
    rfl
  | checkStored id patch =>
    cases ht
    rw [run_map, run_checkStored, hf]
    simp only [h]
    rfl
  | _ => cases ht

/-- An update whose preparation raises fails and stores nothing. -/
theorem run_update_of_prepareUpdate_error {patch : ConnectionPatch} {row : Row C} {e : PyError}
    (hf : find connectionId store = some row)
    (hget : svc.admitGet actor connectionId (some (toRecord svc.storage row)) =
      .ok (toRecord svc.storage row))
    (h : svc.prepareUpdate actor connectionId patch (toRecord svc.storage row) = .error e) :
    (svc.update env actor connectionId patch).run store = (.error e, store) := by
  rw [svc.run_update_of_find env actor connectionId hf]
  unfold ConnectionService.updatedRow
  rw [hget, ok_bind, h]
  rfl

/-- A hook that raises ends the call. -/
theorem run_of_hookRaises {inv : Invocation} {e : PyError}
    (h : HookRaises svc inv.actor store inv.call e) :
    (inv.prog svc).run store = (.error e, store) := by
  obtain ⟨call, actor, env⟩ := inv
  cases h with
  | resolveCreate hr =>
    unfold Invocation.prog
    rw [run_map, svc.run_create]
    unfold ConnectionService.createdRow ConnectionService.prepareCreate
    rw [hr]
    rfl
  | canCreate hr hc =>
    unfold Invocation.prog
    rw [run_map, svc.run_create]
    unfold ConnectionService.createdRow ConnectionService.prepareCreate
    rw [hr, ok_bind, hc]
    rfl
  | resolvePayload hr =>
    unfold Invocation.prog ConnectionService.checkPayload
    rw [run_map, hr]
    rfl
  | scopeList hs =>
    unfold Invocation.prog
    rw [run_map, run_list, hs]
    rfl
  | canGetOne ht hf hactive hc =>
    exact run_of_admitGet_error svc _ store ht hf (admitGet_of_refused svc actor _ hactive hc)
  | resolvePatch hf hget hr =>
    unfold Invocation.prog
    rw [run_map, run_update_of_prepareUpdate_error svc env actor _ store hf hget]
    · rfl
    · unfold ConnectionService.prepareUpdate
      rw [hr]
      rfl
  | canUpdate hf hget hr hu =>
    unfold Invocation.prog
    rw [run_map, run_update_of_prepareUpdate_error svc env actor _ store hf hget]
    · rfl
    · unfold ConnectionService.prepareUpdate
      rw [hr, ok_bind, hu]
      rfl
  | canDelete hf hget hd =>
    unfold Invocation.prog
    rw [run_map, svc.run_delete]
    unfold ConnectionService.answer ConnectionService.deletedRow ConnectionService.admitDelete
    simp only [hf, hget, ok_bind, hd]
    rfl
  | resolveStored hf hget hr =>
    unfold Invocation.prog
    rw [run_map, run_checkStored, hf]
    simp only [hget, ok_bind, ConnectionService.checkRecord, hr]
    rfl

/-- A `create` that changes the store stored the draft that the policy accepted. -/
theorem consented_create {payload : ConnectionDraft}
    (h : ((svc.create env actor payload).run store).2 ≠ store) :
    ∃ resolved spec validated row,
      svc.ownershipResolver.resolveCreate
        ⟨actor, "create", none, some (payloadWithExtra payload.asdict)⟩ payload = .ok resolved ∧
      svc.accessPolicy.canCreate
        ⟨actor, "create", none, some (payloadWithExtra resolved.asdict)⟩ resolved = .ok () ∧
      Validates svc.registry resolved spec validated ∧
      StoredAs svc.storage env resolved validated row ∧
      ((svc.create env actor payload).run store).2 = put store row := by
  rw [svc.run_create] at h ⊢
  cases hc : svc.createdRow env actor store payload with
  | error e => exact absurd (by rw [hc]) h
  | ok row =>
    obtain ⟨resolved, validated, columns, hp, -, hb, -, rfl⟩ := createdRow_eq_ok_iff.mp hc
    obtain ⟨hr, hcan, spec, hvalid⟩ := prepareCreate_eq_ok_iff.mp hp
    exact ⟨resolved, spec, validated, _, hr, hcan, hvalid, (storedAs_of_bindColumns hb).1, rfl⟩

/-- An `update` that changes the store stored the merge that the policy accepted. -/
theorem consented_update {patch : ConnectionPatch}
    (h : ((svc.update env actor connectionId patch).run store).2 ≠ store) :
    ∃ row row' resolved spec validated, find connectionId store = some row ∧
      Updates svc env actor connectionId patch row row' resolved spec validated ∧
      ((svc.update env actor connectionId patch).run store).2 = put store row' := by
  cases hr : (svc.update env actor connectionId patch).run store with
  | mk result store' =>
    cases result with
    | ok record =>
      obtain ⟨row, row', resolved, spec, validated, hf, hu, -, rfl⟩ := run_update_eq_ok hr
      exact ⟨row, row', resolved, spec, validated, hf, hu, rfl⟩
    | error e =>
      -- An update that failed has left the store as it was.
      rw [svc.run_update] at hr h
      unfold ConnectionService.answer at hr h
      split at hr
      · cases hr
        simp_all
      · split at hr <;> cases hr
        simp_all

/-- A `delete` that changes the store deleted a row whose record the policy accepted. -/
theorem consented_delete (h : ((svc.delete env actor connectionId).run store).2 ≠ store) :
    ∃ row, find connectionId store = some row ∧ row.deletedAt = none ∧
      svc.accessPolicy.canGetOne ⟨actor, "get", some connectionId, none⟩
        (toRecord svc.storage row) = .ok () ∧
      svc.accessPolicy.canDelete ⟨actor, "delete", some connectionId, none⟩
        (toRecord svc.storage row) = .ok () ∧
      ((svc.delete env actor connectionId).run store).2 = put store (row.deleteAt env.now) := by
  rw [svc.run_delete] at h ⊢
  unfold ConnectionService.answer at h ⊢
  cases hf : find connectionId store with
  | none => exact absurd (by rw [hf]) h
  | some row =>
    cases hd : svc.deletedRow env actor connectionId row with
    | error e => exact absurd (by simp only [hf, hd]) h
    | ok row' =>
      simp only [hd]
      unfold ConnectionService.deletedRow at hd
      obtain ⟨existing, hget, hd⟩ := bind_eq_ok_iff.mp hd
      obtain ⟨⟨⟩, hcan, hd⟩ := bind_eq_ok_iff.mp hd
      cases hd
      obtain ⟨hactive, hone, rfl⟩ := admitGet_eq_ok_iff.mp hget
      exact ⟨row, rfl, hactive, hone, hcan, rfl⟩

/-- `check_stored` goes on with an accepted record, or fails as its `get` does. -/
theorem consented_checkStored (patch : Option ConnectionPatch) :
    (∃ e, (svc.get actor connectionId).run store = (.error e, store) ∧
        (svc.checkStored actor connectionId patch).run store = (.error e, store)) ∨
      ∃ row, find connectionId store = some row ∧ row.deletedAt = none ∧
        svc.accessPolicy.canGetOne ⟨actor, "get", some connectionId, none⟩
          (toRecord svc.storage row) = .ok () ∧
        (svc.checkStored actor connectionId patch).run store =
          (svc.checkRecord actor connectionId patch (toRecord svc.storage row), store) := by
  rw [run_get, run_checkStored]
  cases hf : find connectionId store with
  | none => exact .inl ⟨_, rfl, rfl⟩
  | some row =>
    rw [Option.map_some]
    cases hget : svc.admitGet actor connectionId (some (toRecord svc.storage row)) with
    | error e => exact .inl ⟨e, rfl, by simp only [hget]; rfl⟩
    | ok existing =>
      obtain ⟨hactive, hone, rfl⟩ := admitGet_eq_ok_iff.mp hget
      exact .inr ⟨row, rfl, hactive, hone, by simp only [hget]; rfl⟩

end Consent

/-- Whatever its registry, its policy and its resolver are, a service writes and reveals no more
than the policy accepted. -/
theorem consented {C : Type} (svc : ConnectionService C) : Consented svc where
  create env actor payload store := consented_create svc env actor store
  update env actor connectionId patch store := consented_update svc env actor connectionId store
  delete env actor connectionId store := consented_delete svc env actor connectionId store
  get actor connectionId store record h := by
    rw [run_get] at h
    cases hf : find connectionId store with
    | none =>
      rw [hf] at h
      cases h
    | some row =>
      rw [hf] at h
      obtain ⟨hactive, hone, rfl⟩ := admitGet_eq_ok_iff.mp h
      exact ⟨row, rfl, hactive, rfl, hone⟩
  checkStored actor connectionId patch store :=
    consented_checkStored svc actor connectionId store patch
  list actor query scopedQuery h := by
    unfold ConnectionService.list
    rw [h]
    rfl
  refused inv store e h := run_of_hookRaises svc store h
  shared inv committed pend hpend := runIn_progIn svc inv committed hpend

end DbConnection
