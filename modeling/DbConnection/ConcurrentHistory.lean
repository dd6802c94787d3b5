import DbConnection.ConcurrentRows
import DbConnection.Lib.History

/-!
# The history of concurrent calls

However the statements of concurrent calls alternate, the calls took effect one after another: the
commits, in their order, each put one row into the store, which a call that succeeded returns and
a call that failed did not write. A call that reads answers as it does alone over the store at one
point of this history, and at none before it began (`history_of_reaches`).
-/

namespace DbConnection

open PyData Pydantic ReadCommitted

section Calls

variable {C : Type} (svc : ConnectionService C) (env : CallEnv) (actor : Json)

/-- `create` inserts one row and returns its record. -/
theorem oneWrite_create (payload : ConnectionDraft) :
    (svc.create env actor payload).OneWrite (toRecord svc.storage) [] := by
  simp only [ConnectionService.create, ConnectionService.owned, ConnectionService.createIn]
  cases svc.prepareCreate actor payload with
  | error e => trivial
  | ok prepared =>
    obtain ⟨draft, v⟩ := prepared
    have hinsert : ∀ read, ((Repository.create svc.storage env (toPersistedDraft draft v)).bind
        fun record => Prog.commit (.pure record)).OneWrite (toRecord svc.storage) read := by
      intro read
      unfold Repository.create
      cases Repository.bindColumns svc.storage env (toPersistedDraft draft v) with
      | error e => trivial
      | ok columns =>
        refine ⟨rfl, fun rows row hrow => ?_⟩
        simp only [hrow]
        rfl
    unfold ConnectionService.checkLimit
    cases svc.maxConnections with
    | none => exact hinsert []
    | some limit =>
      intro rows _
      dsimp only [Prog.bind]
      split
      · trivial
      · exact hinsert _

/-- A call that mutates writes one row and returns its record. -/
theorem oneWrite_call {inv : Invocation} (h : inv.call.mutates = true) :
    (inv.prog svc).OneWrite (ServiceResult.record ∘ toRecord svc.storage) [] := by
  obtain ⟨call, actor, env⟩ := inv
  unfold Invocation.prog
  cases call with
  | create payload => exact (oneWrite_create svc env actor payload).map ServiceResult.record
  | update connectionId patch =>
    have hupdate :
        (svc.update env actor connectionId patch).OneWrite (toRecord svc.storage) [] := by
      rw [svc.update_eq_rmw]
      exact Rmw.oneWrite_prog _
    exact hupdate.map ServiceResult.record
  | delete connectionId =>
    have hdelete : (svc.delete env actor connectionId).OneWrite (toRecord svc.storage) [] := by
      rw [svc.delete_eq_rmw]
      exact Rmw.oneWrite_prog _
    exact hdelete.map ServiceResult.record
  | _ => cases h

/-- A call that does not mutate runs one SELECT at most. -/
theorem oneRead_call {inv : Invocation} (h : inv.call.mutates = false) :
    (inv.prog svc).OneRead := by
  have hend : ∀ {α : Type} (x : Except PyError α),
      (Prog.ofExcept x : Txn C α).outcome.isSome := by
    intro α x
    cases x <;> rfl
  obtain ⟨call, actor, env⟩ := inv
  unfold Invocation.prog
  cases call with
  | list query =>
    have hlist : (svc.list actor query).OneRead := by
      unfold ConnectionService.list
      cases svc.accessPolicy.scopeList ⟨actor, "list", none, none⟩ query with
      | error e => trivial
      | ok q => exact fun _ => rfl
    exact hlist.map _
  | get connectionId =>
    have hget : (svc.get actor connectionId).OneRead := fun _ => hend _
    exact hget.map _
  | checkPayload payload => exact (Prog.oneRead_ofExcept _).map _
  | checkStored connectionId patch =>
    have hcheck : (svc.checkStored actor connectionId patch).OneRead := by
      intro rows
      change (Prog.bind (Prog.ofExcept _) _).outcome.isSome
      cases svc.admitGet actor connectionId (rows.head?.map (toRecord svc.storage)) with
      | error e => rfl
      | ok record => exact hend _
    exact hcheck.map _
  | _ => cases h

end Calls

/-- In every run of calls, in any order of their statements, the store is the starting one with the
rows of a history of commits put into it one after another. A call that mutates is in it once if it
succeeded, with the row whose record it returned, and not at all if it failed. A call that does not
mutate returned what it does alone over the store of a part of the history, which has all that was
committed before the call began. -/
theorem history_of_reaches {C ι : Type} [DecidableEq ι] (svc : ConnectionService C)
    (calls : ι → Invocation) (store : List (Row C)) (σ σ' : Sys ι (Row C) PyError ServiceResult)
    (hr : Reaches (fun _ _ => True) (Sys.start store fun i => (calls i).prog svc) σ)
    (hr' : Reaches (fun _ _ => True) σ σ') :
    ∃ history : List (ι × Row C), σ'.log = history.map Prod.fst ∧ σ'.log.Nodup ∧
      σ'.committed = replay store (history.map Prod.snd) ∧
      σ.committed = replay store ((history.take σ.log.length).map Prod.snd) ∧
      (∀ i row, (i, row) ∈ history → (calls i).call.mutates = true ∧
        (σ'.tx i).prog.outcome = some (.ok (.record (toRecord svc.storage row)))) ∧
      (∀ i result, (calls i).call.mutates = true → (σ'.tx i).prog.outcome = some (.ok result) →
        ∃ row, (i, row) ∈ history) ∧
      ∀ i result, (calls i).call.mutates = false → (σ'.tx i).prog.outcome = some result →
        ∃ n ≤ history.length, ((σ.tx i).prog = (calls i).prog svc → σ.log.length ≤ n) ∧
          result =
            (((calls i).prog svc).run (replay store ((history.take n).map Prod.snd))).1 := by
  classical
  have hreader : ∀ i, (calls i).call.mutates = false → ((calls i).prog svc).OneRead :=
    fun i hi => oneRead_call svc hi
  obtain ⟨before, hbefore⟩ := (history_start fun i hi => oneWrite_call svc hi).of_reaches hreader hr
  rw [List.nil_append] at hbefore
  -- The calls that have not begun read no less than what is committed now.
  let since : ι → Nat := fun i => if (σ.tx i).prog = (calls i).prog svc then before.length else 0
  have hsince : History (fun i => (calls i).prog svc) (fun i => (calls i).call.mutates)
      (ServiceResult.record ∘ toRecord svc.storage) store since σ before := by
    refine hbefore.resume (fun i _ hi => ?_) fun i => ?_
    · by_contra hprog
      simp [since, hprog] at hi
    · dsimp only [since]
      split
      · exact Nat.le_refl _
      · exact Nat.zero_le _
  obtain ⟨added, h⟩ := hsince.of_reaches hreader hr'
  have hlength : σ.log.length = before.length := by rw [hbefore.log, List.length_map]
  refine ⟨before ++ added, h.log, h.log ▸ h.nodup, h.committed, ?_, fun i row hrow => ?_,
    fun i result hi ho => ?_, fun i result hi ho => ?_⟩
  · rw [hlength, List.take_left']
    · exact hbefore.committed
    · rfl
  · exact h.outcome_of_mem hrow
  · exact h.mem_of_outcome hi ho
  · obtain ⟨n, hn, hle, hrun⟩ := h.read_of_outcome hi ho
    refine ⟨n, hn, fun hprog => ?_, hrun⟩
    rw [hlength]
    simpa [since, hprog] using hle

/-- A `get` that begins when a delete has committed answers over a store that has the deletion. -/
theorem history_of_reaches_deleteAndGet :
    ∃ (σ' : Sys Bool (Row Json) PyError ServiceResult) (history : List (Bool × Row Json))
      (result : Except PyError ServiceResult),
      σ'.committed = replay [bucketRow "a"] (history.map Prod.snd) ∧
        (σ'.tx false).prog.outcome = some result ∧
        ∃ n ≤ history.length, 1 ≤ n ∧
          result = (((deleteAndGet false).prog (defaultService none)).run
            (replay [bucketRow "a"] ((history.take n).map Prod.snd))).1 := by
  have hrun : ((runScheduleIf (fun _ _ => true)
        (Sys.start [bucketRow "a"] fun i => (deleteAndGet i).prog (defaultService none))
        [true, true, true, true, true]).bind fun τ =>
      (runScheduleIf (fun _ _ => true) τ [false]).map fun τ' =>
        ((τ.log, (τ.tx false).reads.isEmpty), (τ'.tx false).prog.outcome.isSome)) =
      some (([true], true), true) := by
    decide +kernel
  obtain ⟨σ, σ', hr, hr', hσ, ho⟩ := exists_reaches_of_two_schedules
    (fun τ => (τ.log, (τ.tx false).reads.isEmpty))
    (fun τ => (τ.tx false).prog.outcome.isSome) hrun
  simp only [Prod.mk.injEq, List.isEmpty_iff] at hσ
  obtain ⟨hlog, hreads⟩ := hσ
  obtain ⟨result, ho⟩ := Option.isSome_iff_exists.mp ho
  obtain ⟨history, -, -, hcommitted, -, -, -, hread⟩ := history_of_reaches (defaultService none)
    deleteAndGet [bucketRow "a"] σ σ' hr hr'
  obtain ⟨n, hn, hbegan, hresult⟩ := hread false result rfl ho
  -- The `get` had read nothing, so it had not begun.
  have hstart : σ.tx false = Tx.start ((deleteAndGet false).prog (defaultService none)) :=
    tx_eq_start_of_reads_eq_nil (i := false) hr rfl hreads
  refine ⟨σ', history, result, hcommitted, ho, n, hn, ?_, hresult⟩
  rw [hlog, hstart] at hbegan
  exact hbegan rfl

end DbConnection
