import DbConnection.AllOrNothing
import DbConnection.Lib.SharedTransaction

/-!
# Units of work given to a call

A call of the service may be given a unit of work, which may have written rows before and which the
call does not commit. `runIn_progIn` says that such a call does to what its transaction sees what it
does to the store in a unit of work of its own, so that what holds of calls run alone holds of these
too.
-/

namespace DbConnection

open PyData Pydantic ReadCommitted

/-- The program of a call in a unit of work that it is given. -/
def Invocation.progIn {C : Type} (svc : ConnectionService C) (inv : Invocation) :
    Txn C ServiceResult :=
  match inv.call with
  | .create payload => return .record (← svc.createIn inv.env inv.actor payload)
  | .update connectionId patch =>
    return .record (← svc.updateIn inv.env inv.actor connectionId patch)
  | .delete connectionId => return .record (← svc.deleteIn inv.env inv.actor connectionId)
  | _ => inv.prog svc

section Shared

variable {C : Type} (svc : ConnectionService C) (env : CallEnv) (actor : Json)
  (connectionId : String) (store : List (Row C))

/-- A call does not commit a unit of work that it is given. -/
theorem ends_progIn (inv : Invocation) : (inv.progIn svc).Ends false := by
  obtain ⟨call, actor, env⟩ := inv
  unfold Invocation.progIn
  cases call with
  | create payload =>
    refine ends_map _ (ends_bind (ends_ofExcept _) fun prepared => ?_)
    exact ends_bind (ends_checkLimit svc) fun _ => ends_repository_create svc.storage env _
  | update connectionId patch => exact ends_map _ (ends_updateIn svc actor env connectionId patch)
  | delete connectionId => exact ends_map _ (ends_deleteIn svc actor env connectionId)
  | list query =>
    refine ends_map _ (ends_bind (ends_ofExcept _) fun scopedQuery => ?_)
    exact fun _ => rfl
  | get connectionId => exact ends_map _ (ends_get svc actor connectionId)
  | checkPayload payload => exact ends_map _ (ends_ofExcept _)
  | checkStored connectionId patch =>
    exact ends_map _ (ends_bind (ends_get svc actor connectionId) fun _ => ends_ofExcept _)

/-- A program with its result renamed, in a transaction that has begun. -/
theorem runIn_map {α β : Type} (p : Txn C α) (f : α → β) (pend : List (Row C)) :
    Prog.runIn (p >>= fun a => pure (f a)) store pend =
      ((p.runIn store pend).1.map f, (p.runIn store pend).2) := by
  unfold Prog.runIn
  rw [Prog.exec_bind]
  rcases p.exec store pend with ⟨result, committed, pend'⟩
  cases result with
  | error e => rfl
  | ok a => rfl

/-- The rest of `update` and `delete` after their decision, without the commit. -/
theorem write_eq_checkIn (m : Rmw (Row C) PyError ConnectionRecord)
    (u : ColumnUpdate (Row C) PyError) (hout : m.out = toRecord svc.storage)
    (hlost : m.lost = .assertionError) :
    (do
      match ← (do
        match ← Repository.fetchRow m.row with
        | none => return none
        | some _ =>
          Prog.update m.row u (.pure ())
          match ← Repository.fetchRow m.row with
          | none => .throw .assertionError
          | some row => return some (toRecord svc.storage row) :
            Txn C (Option ConnectionRecord)) with
      | none => .throw m.gone
      | some record => return record) = m.checkIn u := by
  simp only [Repository.fetchRow, Rmw.checkIn, bind, Prog.bind, pure, hout, hlost]
  congr 1
  funext rows
  cases rows.head? with
  | none => rfl
  | some row =>
    simp only [Prog.bind]
    congr 2
    funext rows'
    cases rows'.head? <;> rfl

/-- `update` in a unit of work that it is given reads, decides, writes and reads back. -/
theorem updateIn_eq_body (patch : ConnectionPatch) :
    svc.updateIn env actor connectionId patch =
      (svc.updateRmw env actor connectionId patch).body := by
  simp only [ConnectionService.updateIn, ConnectionService.get, Repository.get,
    Repository.fetchRow, ConnectionService.updateRmw, Rmw.body, bind, Prog.bind, pure]
  congr 1
  funext rows
  cases ha : svc.admitGet actor connectionId (rows.head?.map (toRecord svc.storage)) with
  | error e => rfl
  | ok existing =>
    cases hp : svc.prepareUpdate actor connectionId patch existing with
    | error e => simp only [Prog.ofExcept, Prog.bind, hp, Except.bind]
    | ok prepared =>
      simp only [Prog.ofExcept, Prog.bind, hp, Except.bind, Except.pure]
      exact write_eq_checkIn svc (svc.updateRmw env actor connectionId patch) _ rfl rfl

/-- So does `delete`. -/
theorem deleteIn_eq_body :
    svc.deleteIn env actor connectionId = (svc.deleteRmw env actor connectionId).body := by
  simp only [ConnectionService.deleteIn, ConnectionService.get, Repository.get,
    Repository.fetchRow, ConnectionService.deleteRmw, Rmw.body, bind, Prog.bind, pure]
  congr 1
  funext rows
  cases ha : svc.admitGet actor connectionId (rows.head?.map (toRecord svc.storage)) with
  | error e => rfl
  | ok existing =>
    cases hd : svc.admitDelete actor connectionId existing with
    | error e => simp only [Prog.ofExcept, Prog.bind, hd, Except.bind]
    | ok =>
      simp only [Prog.ofExcept, Prog.bind, hd, Except.bind, Except.pure]
      exact write_eq_checkIn svc (svc.deleteRmw env actor connectionId) _ rfl rfl

/-- `create` in a unit of work that has written nothing does what it does alone. -/
theorem runIn_createIn (payload : ConnectionDraft) :
    (svc.createIn env actor payload).runIn store [] =
      (svc.create env actor payload).run store := by
  rw [svc.run_create]
  unfold Prog.runIn ConnectionService.createIn ConnectionService.createdRow
  cases hp : svc.prepareCreate actor payload with
  | error e => rfl
  | ok prepared =>
    obtain ⟨resolved, validated⟩ := prepared
    rw [Prog.exec_bind]
    dsimp only [Prog.ofExcept, Prog.exec]
    rw [Prog.exec_bind, svc.exec_checkLimit, ok_bind]
    cases hl : svc.limitReached store with
    | some limit => rfl
    | none =>
      dsimp only
      rw [svc.exec_create, ok_bind]
      cases hb : Repository.bindColumns svc.storage env (toPersistedDraft resolved validated) with
      | error e => rfl
      | ok columns =>
        rw [ok_bind]
        dsimp only
        cases hf : find env.uuid store with
        | some row => rfl
        | none => rfl

theorem reads_ofExcept {α : Type} (x : Except PyError α) : (Prog.ofExcept x : Txn C α).Reads := by
  cases x <;> trivial

/-- A call in a unit of work that it is given does to what its transaction sees what it does to a
store in a unit of work of its own. -/
theorem runIn_progIn (inv : Invocation) (committed : List (Row C)) {pend : List (Row C)}
    (hpend : (pend.map key).Nodup) :
    (inv.progIn svc).runIn committed pend = (inv.prog svc).run (overlay committed pend) := by
  rw [Prog.runIn_eq (ends_progIn svc inv) committed hpend]
  generalize overlay committed pend = store
  obtain ⟨call, actor, env⟩ := inv
  unfold Invocation.progIn Invocation.prog
  cases call with
  | create payload => rw [run_map, runIn_map, runIn_createIn]
  | update connectionId patch =>
    rw [run_map, runIn_map, updateIn_eq_body, svc.update_eq_rmw, Rmw.runIn_body]
  | delete connectionId =>
    rw [run_map, runIn_map, deleteIn_eq_body, svc.delete_eq_rmw, Rmw.runIn_body]
  | list query =>
    rw [run_map, runIn_map]
    have hreads : (svc.list actor query).Reads := by
      unfold ConnectionService.list
      cases svc.accessPolicy.scopeList ⟨actor, "list", none, none⟩ query with
      | error e => trivial
      | ok scopedQuery => exact fun _ => trivial
    rw [hreads.runIn_eq_run]
  | get connectionId =>
    rw [run_map, runIn_map]
    have hreads : (svc.get actor connectionId).Reads := fun _ => reads_ofExcept _
    rw [hreads.runIn_eq_run]
  | checkPayload payload =>
    rw [run_map, runIn_map, (reads_ofExcept _).runIn_eq_run]
  | checkStored connectionId patch =>
    rw [run_map, runIn_map]
    have hreads : (svc.checkStored actor connectionId patch).Reads := by
      intro rows
      change Prog.Reads (Prog.bind (Prog.ofExcept _) _)
      cases svc.admitGet actor connectionId (rows.head?.map (toRecord svc.storage)) with
      | error e => trivial
      | ok record => exact reads_ofExcept _
    rw [hreads.runIn_eq_run]

end Shared
end DbConnection
