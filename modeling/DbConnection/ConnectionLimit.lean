import DbConnection.Lib.CountLimit
import DbConnection.Serializability

/-!
# The connection limit under concurrency

`create` counts the active rows in one statement and inserts a row in a later one, with nothing
in between that another transaction would wait for. So two creates can count the same rows. The
limit holds of every run in which each create that finds room leaves room for the creates that
have counted and not ended (`LeavesRoom`), over any number of concurrent calls of the service.
-/

namespace DbConnection

open PyData Pydantic ReadCommitted

/-- A call of the service, with a unit of work of its own. -/
inductive ServiceCall where
  | create (payload : ConnectionDraft)
  | list (query : ConnectionListQuery)
  | get (connectionId : String)
  | update (connectionId : String) (patch : ConnectionPatch)
  | delete (connectionId : String)
  | checkPayload (payload : ConnectionDraft)
  | checkStored (connectionId : String) (patch : Option ConnectionPatch)
  deriving DecidableEq, Repr

/-- What a call returns. -/
inductive ServiceResult where
  | record (record : ConnectionRecord)
  | records (records : List ConnectionRecord)
  | checked (call : ConnectorCall)
  deriving DecidableEq, Repr

/-- A call by an actor, with what it takes from its environment. -/
structure Invocation where
  call : ServiceCall
  actor : Json
  env : CallEnv
  deriving DecidableEq, Repr

/-- The call is a `create`. -/
def ServiceCall.isCreate : ServiceCall → Bool
  | .create _ => true
  | _ => false

/-- The transaction of a call. -/
def Invocation.prog {C : Type} (svc : ConnectionService C) (inv : Invocation) :
    Txn C ServiceResult :=
  match inv.call with
  | .create payload => return .record (← svc.create inv.env inv.actor payload)
  | .list query => return .records (← svc.list inv.actor query)
  | .get connectionId => return .record (← svc.get inv.actor connectionId)
  | .update connectionId patch =>
    return .record (← svc.update inv.env inv.actor connectionId patch)
  | .delete connectionId => return .record (← svc.delete inv.env inv.actor connectionId)
  | .checkPayload payload => return .checked (← Prog.ofExcept (svc.checkPayload inv.actor payload))
  | .checkStored connectionId patch =>
    return .checked (← svc.checkStored inv.actor connectionId patch)

section Keeps

variable {C : Type} (svc : ConnectionService C) (env : CallEnv) (actor : Json)

theorem keeps_ofExcept {α : Type} (x : Except PyError α) :
    (Prog.ofExcept x : Txn C α).Keeps Row.isActive := by
  cases x <;> trivial

/-- `get` writes nothing. -/
theorem keeps_get (connectionId : String) : (svc.get actor connectionId).Keeps Row.isActive :=
  fun _ => keeps_ofExcept _

/-- `list` writes nothing. -/
theorem keeps_list (query : ConnectionListQuery) : (svc.list actor query).Keeps Row.isActive := by
  unfold ConnectionService.list
  cases svc.accessPolicy.scopeList ⟨actor, "list", none, none⟩ query with
  | error e => trivial
  | ok q => exact fun _ => trivial

/-- `check_stored` writes nothing. -/
theorem keeps_checkStored (connectionId : String) (patch : Option ConnectionPatch) :
    (svc.checkStored actor connectionId patch).Keeps Row.isActive := by
  intro rows
  change Prog.Keeps _ (Prog.bind (Prog.ofExcept _) _)
  cases svc.admitGet actor connectionId (rows.head?.map (toRecord svc.storage)) with
  | error e => trivial
  | ok record => exact keeps_ofExcept _

/-- `update` writes a row that is active only if the one it replaces was. -/
theorem keeps_update (connectionId : String) (patch : ConnectionPatch) :
    (svc.update env actor connectionId patch).Keeps Row.isActive := by
  rw [svc.update_eq_rmw]
  refine Rmw.keeps_prog _ fun row u r r' hd ha hr => ?_
  simp only [ConnectionService.updateRmw, bind_eq_ok_iff] at hd
  obtain ⟨existing, -, ⟨merged, validated⟩, -, hu⟩ := hd
  cases hu
  simp only [Repository.replaceUpdate] at ha
  cases hb : Repository.bindColumns svc.storage env (toPersistedDraft merged validated) with
  | error e => simp [hb, Except.map] at ha
  | ok columns =>
    simp only [hb, Except.map, Except.ok.injEq] at ha
    -- The UPDATE leaves the deletion time as it is.
    subst ha
    exact hr

/-- `delete` writes a row that is not active. -/
theorem keeps_delete (connectionId : String) :
    (svc.delete env actor connectionId).Keeps Row.isActive := by
  rw [svc.delete_eq_rmw]
  refine Rmw.keeps_prog _ fun row u r r' hd ha hr => ?_
  simp only [ConnectionService.deleteRmw, bind_eq_ok_iff] at hd
  obtain ⟨existing, -, -, -, hu⟩ := hd
  cases hu
  cases ha
  cases hr

/-- `create` under a limit gives up or counts the active rows and inserts one. -/
theorem counts_create {limit : Int} (hlimit : svc.maxConnections = some limit)
    (payload : ConnectionDraft) :
    (svc.create env actor payload).Counts Row.isActive limit := by
  simp only [ConnectionService.create, ConnectionService.owned, ConnectionService.createIn]
  cases svc.prepareCreate actor payload with
  | error e => rfl
  | ok prepared =>
    obtain ⟨resolved, validated⟩ := prepared
    simp only [ConnectionService.checkLimit, hlimit]
    -- The first statement is the count; what it read decides whether there is room.
    refine ⟨matchesStatement_all svc.storage, fun rows => ?_⟩
    simp only [Prog.bind, filter_matchesFilters_all, List.length_map]
    split
    · exact .inl rfl
    · rename_i hlt
      simp only [Prog.bind, pure, Repository.create]
      cases Repository.bindColumns svc.storage env (toPersistedDraft resolved validated) with
      | error e => exact .inl rfl
      | ok columns =>
        -- There was room: the next statement inserts the row, and the commit follows.
        refine .inr ⟨by omega, fun rows' => ?_⟩
        dsimp only
        cases rows'.head? with
        | none => trivial
        | some row => rfl

end Keeps

section Limit

variable {C ι : Type} [Fintype ι] [DecidableEq ι] {svc : ConnectionService C} {limit : Int}

/-- The call is a `create`. -/
def isCreateAt (calls : ι → Invocation) (i : ι) : Bool := (calls i).call.isCreate

/-- How many creates have counted and not ended. -/
def createsInFlight (calls : ι → Invocation) (σ : Sys ι (Row C) PyError ServiceResult) : Nat :=
  flights (isCreateAt calls) σ.tx

/-- If call `i` is a create about to count, and fewer than `limit` rows are active, then the
active rows and the creates that have counted and not ended are together fewer than `limit`. -/
def LeavesRoom (limit : Int) (calls : ι → Invocation)
    (σ : Sys ι (Row C) PyError ServiceResult) (i : ι) : Prop :=
  isCreateAt calls i = true → (σ.tx i).reads = [] → (σ.tx i).prog.outcome = none →
    activeCount σ.committed < limit →
      activeCount σ.committed + createsInFlight calls σ < limit

/-- Over any finite set of calls of the service, in every run whose creates leave room, the
active rows stay within the limit. -/
theorem activeCount_le_of_leavesRoom (svc : ConnectionService C) (limit : Int)
    (hlimit : svc.maxConnections = some limit) (calls : ι → Invocation) (store : List (Row C))
    (hkeys : (store.map Row.id).Nodup) (hstore : activeCount store ≤ limit)
    (σ : Sys ι (Row C) PyError ServiceResult)
    (hr : Reaches (LeavesRoom limit calls) (Sys.start store fun i => (calls i).prog svc) σ) :
    activeCount σ.committed ≤ limit := by
  refine length_le_of_reaches (isCreateAt calls) hkeys hstore ?_ ?_ hr
  · intro i hi
    rcases hcall : calls i with ⟨call, actor, env⟩
    simp only [isCreateAt, hcall] at hi
    cases call with
    | create payload => exact (counts_create svc env actor hlimit payload).map ServiceResult.record
    | _ => simp [ServiceCall.isCreate] at hi
  · intro i hi
    rcases hcall : calls i with ⟨call, actor, env⟩
    simp only [isCreateAt, hcall] at hi
    cases call with
    | create payload => simp [ServiceCall.isCreate] at hi
    | list query => exact (keeps_list svc actor query).map ServiceResult.records
    | get connectionId => exact (keeps_get svc actor connectionId).map ServiceResult.record
    | update connectionId patch =>
      exact (keeps_update svc env actor connectionId patch).map ServiceResult.record
    | delete connectionId =>
      exact (keeps_delete svc env actor connectionId).map ServiceResult.record
    | checkPayload payload => exact (keeps_ofExcept _).map ServiceResult.checked
    | checkStored connectionId patch =>
      exact (keeps_checkStored svc actor connectionId patch).map ServiceResult.checked

end Limit

instance {C ι : Type} [Fintype ι] (limit : Int) (calls : ι → Invocation)
    (σ : Sys ι (Row C) PyError ServiceResult) (i : ι) : Decidable (LeavesRoom limit calls σ i) :=
  inferInstanceAs (Decidable (_ → _))

/-- Two creates, under the ids `a` and `b`. -/
def twoCreates (i : Bool) : Invocation where
  call := .create (bucketDraft (if i then "first" else "second"))
  actor := .null
  env := ⟨1, if i then "a" else "b", 0⟩

/-- Two creates one after the other under a limit of one: the second is refused. -/
theorem activeCount_le_one_of_twoCreates :
    ∃ σ : Sys Bool (Row Json) PyError ServiceResult,
      (σ.tx true).prog.succeeded = true ∧ (σ.tx false).prog.succeeded = false ∧
        activeCount σ.committed ≤ (1 : Int) := by
  have hrun : ((runScheduleIf (fun σ i => decide (LeavesRoom 1 twoCreates σ i))
        (Sys.start [] fun i => (twoCreates i).prog (defaultService (some 1)))
        [true, true, true, true, false]).map fun σ =>
      ((σ.tx true).prog.succeeded, (σ.tx false).prog.succeeded)) = some (true, false) := by
    decide +kernel
  obtain ⟨σ, hr, hσ⟩ := exists_reaches_of_runScheduleIf (LeavesRoom 1 twoCreates)
    (fun _ _ => of_decide_eq_true) hrun
  simp only [Prod.mk.injEq] at hσ
  exact ⟨σ, hσ.1, hσ.2, activeCount_le_of_leavesRoom (defaultService (some 1)) 1 rfl twoCreates []
    (by decide) (by decide) σ hr⟩

/-- Two creates that both count before either inserts store two rows under a limit of one. -/
theorem concurrent_creates_exceed_limit :
    ∃ σ, Reaches (fun _ _ => True)
        (Sys.start [] fun i => (twoCreates i).prog (defaultService (some 1))) σ ∧
      ¬ activeCount σ.committed ≤ (1 : Int) := by
  have hrun : ((runScheduleIf (fun _ _ => true)
        (Sys.start [] fun i => (twoCreates i).prog (defaultService (some 1)))
        [true, false, true, false, true, false, true, false]).map fun σ =>
      activeCount σ.committed) = some 2 := by
    decide +kernel
  obtain ⟨σ, hr, hσ⟩ := exists_reaches_of_runScheduleIf (fun _ _ => True)
    (fun _ _ _ => trivial) hrun
  exact ⟨σ, hr, by rw [hσ]; decide⟩

end DbConnection
