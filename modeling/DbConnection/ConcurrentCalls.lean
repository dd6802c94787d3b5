import DbConnection.ConcurrentRows
import DbConnection.Lib.SeparateRows

/-!
# How concurrent calls end

Each call of the service writes at most one row, after its reads, and commits right after it reads
the row back. So concurrent calls never wait for each other in a circle, and every run of finitely
many calls ends with all of them answered (`all_answered`). Calls about different rows do not
notice each other at all (`separate_calls_serializable`): only calls about the same row, a list and
a create under a limit can see that others run.
-/

namespace DbConnection

open PyData Pydantic ReadCommitted

/-! ## Every call is answered -/

section Brief

variable {C : Type} (svc : ConnectionService C) (env : CallEnv) (actor : Json)

/-- `get` is one SELECT. -/
theorem brief_get (connectionId : String) : (svc.get actor connectionId).Brief 1 false :=
  fun _ => Prog.brief_ofExcept _ 0 false

/-- `check_stored` is one SELECT. -/
theorem brief_checkStored (connectionId : String) (patch : Option ConnectionPatch) :
    (svc.checkStored actor connectionId patch).Brief 1 false := by
  intro rows
  change Prog.Brief (Prog.bind (Prog.ofExcept _) _) 0 false
  cases svc.admitGet actor connectionId (rows.head?.map (toRecord svc.storage)) with
  | error e => trivial
  | ok record => exact Prog.brief_ofExcept _ 0 false

/-- `list` is one SELECT. -/
theorem brief_list (query : ConnectionListQuery) : (svc.list actor query).Brief 1 false := by
  unfold ConnectionService.list
  cases svc.accessPolicy.scopeList ⟨actor, "list", none, none⟩ query with
  | error e => trivial
  | ok q => exact fun _ => trivial

/-- `create` inserts one row, after the limit check, and reads it back. -/
theorem brief_create (payload : ConnectionDraft) : (svc.create env actor payload).Brief 4 false := by
  simp only [ConnectionService.create, ConnectionService.owned, ConnectionService.createIn]
  cases svc.prepareCreate actor payload with
  | error e => trivial
  | ok prepared =>
    obtain ⟨draft, v⟩ := prepared
    have hinsert : ((Repository.create svc.storage env (toPersistedDraft draft v)).bind
        fun record => Prog.commit (.pure record)).Brief 3 false := by
      unfold Repository.create
      cases Repository.bindColumns svc.storage env (toPersistedDraft draft v) with
      | error e => trivial
      | ok columns =>
        refine ⟨rfl, fun rows => ?_⟩
        dsimp only
        cases rows.head? with
        | none => trivial
        | some row => trivial
    unfold ConnectionService.checkLimit
    cases svc.maxConnections with
    | none => exact hinsert.mono (by decide)
    | some limit =>
      intro rows
      dsimp only [Prog.bind]
      split
      · trivial
      · exact hinsert

/-- A call runs at most five statements, and writes nothing while it holds a row. -/
theorem brief_call (inv : Invocation) : (inv.prog svc).Brief 5 false := by
  obtain ⟨call, actor, env⟩ := inv
  unfold Invocation.prog
  cases call with
  | create payload =>
    exact ((brief_create svc env actor payload).mono (by decide)).map ServiceResult.record
  | list query => exact ((brief_list svc actor query).mono (by decide)).map ServiceResult.records
  | get connectionId =>
    exact ((brief_get svc actor connectionId).mono (by decide)).map ServiceResult.record
  | update connectionId patch =>
    have h : (svc.update env actor connectionId patch).Brief 5 false := by
      rw [svc.update_eq_rmw]
      exact Rmw.brief_prog _
    exact h.map ServiceResult.record
  | delete connectionId =>
    have h : (svc.delete env actor connectionId).Brief 5 false := by
      rw [svc.delete_eq_rmw]
      exact Rmw.brief_prog _
    exact h.map ServiceResult.record
  | checkPayload payload => exact (Prog.brief_ofExcept _ 5 false).map ServiceResult.checked
  | checkStored connectionId patch =>
    exact ((brief_checkStored svc actor connectionId patch).mono (by decide)).map
      ServiceResult.checked

end Brief

/-- Any run of finitely many calls has at most six steps for each, does not stop before all are
answered and hold no row, and leads on to a state where they are. -/
theorem all_answered {C ι : Type} [Fintype ι] [DecidableEq ι] (svc : ConnectionService C)
    (calls : ι → Invocation) (store : List (Row C)) (k : Nat)
    (σ : Sys ι (Row C) PyError ServiceResult)
    (hs : Steps (Sys.start store fun i => (calls i).prog svc) k σ) :
    k ≤ 6 * Fintype.card ι ∧ ((∀ i, (σ.tx i).Done) ∨ ∃ i σ', Step σ i σ') ∧
      ∃ σ', Reaches (fun _ _ => True) σ σ' ∧ ∀ i, (σ'.tx i).Done := by
  have hbrief : ∀ i, ((calls i).prog svc).Brief 5 false := fun i => brief_call svc (calls i)
  have hleft := hs.left (left_start hbrief)
  refine ⟨hs.length_le hbrief, ?_, hleft.exists_done⟩
  by_cases hdone : ∀ i, (σ.tx i).Done
  · exact .inl hdone
  · obtain ⟨i, hi⟩ := not_forall.mp hdone
    obtain ⟨n, hn, -⟩ := hleft.exists_left
    exact .inr (exists_step (fun j => ⟨n j, hn j⟩) hi)

/-- A rename that waits for the row that a delete holds: both are answered in the end. -/
theorem all_answered_deleteAndRename :
    ∃ σ : Sys Bool (Row Json) PyError ServiceResult, σ.Locked false "a" ∧
      ((∀ i, (σ.tx i).Done) ∨ ∃ i σ', Step σ i σ') ∧
      ∃ σ', Reaches (fun _ _ => True) σ σ' ∧ ∀ i, (σ'.tx i).Done := by
  have hrun : ((runScheduleIf (fun _ _ => true)
        (Sys.start [bucketRow "a"] fun i => (deleteAndRename i).prog (defaultService none))
        [false, false, true, true, true]).map fun σ => decide (σ.Locked false "a")) =
      some true := by
    decide +kernel
  obtain ⟨σ, hs, hσ⟩ := exists_steps_of_runScheduleIf hrun
  exact ⟨σ, of_decide_eq_true hσ,
    (all_answered (defaultService none) deleteAndRename [bucketRow "a"] _ σ hs).2⟩

/-! ## Calls about different rows -/

/-- The call is about the row of an id alone. -/
def Invocation.About (inv : Invocation) (connectionId : String) : Prop :=
  match inv.call with
  | .create _ => connectionId = inv.env.uuid
  | .list _ => False
  | .get id => connectionId = id
  | .update id _ => connectionId = id
  | .delete id => connectionId = id
  | .checkPayload _ => True
  | .checkStored id _ => connectionId = id

section Local

variable {C : Type} (svc : ConnectionService C)

/-- A SELECT by key selects rows of the key. -/
theorem key_eq_of_byKey {connectionId : String} (row : Row C)
    (h : byKey connectionId row = true) : key row = connectionId :=
  of_decide_eq_true h

/-- `create` without a limit is local to the row it inserts. -/
theorem local_create (hlimit : svc.maxConnections = none) (env : CallEnv) (actor : Json)
    (payload : ConnectionDraft) : (svc.create env actor payload).Local env.uuid := by
  simp only [ConnectionService.create, ConnectionService.owned, ConnectionService.createIn,
    ConnectionService.checkLimit, hlimit]
  cases svc.prepareCreate actor payload with
  | error e => trivial
  | ok prepared =>
    obtain ⟨draft, v⟩ := prepared
    simp only [Prog.ofExcept, bind, Prog.bind, Repository.create]
    cases Repository.bindColumns svc.storage env (toPersistedDraft draft v) with
    | error e => trivial
    | ok columns =>
      refine ⟨rfl, key_eq_of_byKey, fun rows => ?_⟩
      dsimp only
      cases rows.head? with
      | none => trivial
      | some row => trivial

/-- A call about the row of an id is local to it. -/
theorem local_call {inv : Invocation} {connectionId : String} (h : inv.About connectionId)
    (hlimit : inv.call.isCreate = true → svc.maxConnections = none) :
    (inv.prog svc).Local connectionId := by
  obtain ⟨call, actor, env⟩ := inv
  have hget : ∀ id, (svc.get actor id).Local id := fun id =>
    ⟨key_eq_of_byKey, fun _ => Prog.local_ofExcept id _⟩
  unfold Invocation.prog
  cases call with
  | create payload =>
    cases h
    exact (local_create svc (hlimit rfl) env actor payload).bind fun _ => trivial
  | list query => cases h
  | get id =>
    cases h
    exact (hget connectionId).bind fun _ => trivial
  | update id patch =>
    cases h
    have hrmw : (svc.update env actor connectionId patch).Local connectionId := by
      rw [svc.update_eq_rmw]
      exact Rmw.local_prog _
    exact hrmw.bind fun _ => trivial
  | delete id =>
    cases h
    have hrmw : (svc.delete env actor connectionId).Local connectionId := by
      rw [svc.delete_eq_rmw]
      exact Rmw.local_prog _
    exact hrmw.bind fun _ => trivial
  | checkPayload payload => exact (Prog.local_ofExcept _ _).bind fun _ => trivial
  | checkStored id patch =>
    cases h
    exact ((hget connectionId).bind fun _ => Prog.local_ofExcept connectionId _).bind
      fun _ => trivial

end Local

/-- Calls about different rows, none of them a create under a limit: in every run each returns what
it returns alone over the starting store, and when all are answered the results and the rows are
those of running the calls one after another, in any order. -/
theorem separate_calls_serializable {C ι : Type} [DecidableEq ι] (svc : ConnectionService C)
    (calls : ι → Invocation) (rowOf : ι → String) (hrows : Function.Injective rowOf)
    (habout : ∀ i, (calls i).About (rowOf i))
    (hlimit : ∀ i, (calls i).call.isCreate = true → svc.maxConnections = none)
    (store : List (Row C)) (hkeys : (store.map Row.id).Nodup)
    (σ : Sys ι (Row C) PyError ServiceResult)
    (hr : Reaches (fun _ _ => True) (Sys.start store fun i => (calls i).prog svc) σ) :
    (∀ i r, (σ.tx i).prog.outcome = some r → r = (((calls i).prog svc).run store).1) ∧
      ((∀ i, (σ.tx i).Done) → ∀ order : List ι, order.Nodup → (∀ i, i ∈ order) →
        order.map (fun i => (σ.tx i).prog.outcome) =
            (serialRun (order.map fun i => (calls i).prog svc) store).1.map some ∧
          ∀ connectionId, find connectionId σ.committed =
            find connectionId (serialRun (order.map fun i => (calls i).prog svc) store).2) := by
  have hlocal : ∀ i, ((calls i).prog svc).Local (rowOf i) := fun i =>
    local_call svc (habout i) (hlimit i)
  have hinv := separateInv_of_reaches hkeys hrows hlocal hr
  exact ⟨fun i r ho => hinv.outcome_eq ho, fun hdone order hnodup hall =>
    hinv.serial hrows hlocal hkeys hdone hnodup hall⟩

/-- Two creates whose statements alternate return what they return one after the other. -/
theorem separate_calls_serializable_twoOdbcCreates :
    ∃ σ : Sys Bool (Row Json) PyError ServiceResult, activeCount σ.committed = 2 ∧
      [true, false].map (fun i => (σ.tx i).prog.outcome) =
        (serialRun ([true, false].map fun i => (twoOdbcCreates i).prog odbcService) []).1.map
          some := by
  have hrun : ((runScheduleIf (fun _ _ => true)
        (Sys.start [] fun i => (twoOdbcCreates i).prog odbcService)
        [true, false, true, false, true, false]).map fun σ =>
      (activeCount σ.committed, decide (∀ i, (σ.tx i).prog.outcome.isSome ∧
        (σ.tx i).pend.isEmpty))) = some (2, true) := by
    decide +kernel
  obtain ⟨σ, hr, hσ⟩ := exists_reaches_of_runScheduleIf (fun _ _ => True)
    (fun _ _ _ => trivial) hrun
  simp only [Prod.mk.injEq, decide_eq_true_eq, List.isEmpty_iff] at hσ
  have hserial := (separate_calls_serializable odbcService twoOdbcCreates
    (fun i => if i then "a" else "b") (by decide) (fun _ => rfl) (by decide) [] (by decide) σ hr).2
    hσ.2 [true, false] (by decide) (by decide)
  exact ⟨σ, hσ.1, hserial.1⟩

end DbConnection
