import DbConnection.Lib.FaultInjection
import DbConnection.Lifecycle

/-!
# Calls under faults

Each call of the service with the unit of work it opens: `create` and `list` ask their first hooks
before the session is opened, the others open it first, and the `get` inside an `update`, a `delete`
or a `check_stored` runs in the session of the call around it. Any step may raise. By the contract
of units of work a call that raises stores nothing, and one that returns did what it does without
faults (`attempt_spec`), so that a sequence of calls does what its successful calls do alone
(`replays_attemptAll`).
-/

namespace DbConnection

open PyData Pydantic ReadCommitted

/-- The unit of work of a call. -/
def Invocation.uow {C : Type} (svc : ConnectionService C) (inv : Invocation) :
    UnitOfWork (Row C) PyError ServiceResult :=
  match inv.call with
  | .create payload =>
    -- The resolver, the policy and the validation come before the session.
    (svc.prepareCreate inv.actor payload).map fun prepared => do
      return .record (← ConnectionService.owned (do
        svc.checkLimit
        Repository.create svc.storage inv.env (toPersistedDraft prepared.1 prepared.2)))
  | .list query =>
    (svc.accessPolicy.scopeList ⟨inv.actor, "list", none, none⟩ query).map fun scopedQuery => do
      return .records (← Repository.list svc.storage scopedQuery)
  | _ => .ok (inv.prog svc)

/-- A call under faults. -/
def Invocation.attempt {C : Type} (svc : ConnectionService C) (inv : Invocation)
    (faults : Faults PyError) (store : List (Row C)) : Ending (Row C) PyError ServiceResult :=
  match inv.call with
  -- `check_payload` opens no session.
  | .checkPayload payload =>
    ⟨match faults.prologue with
      | some e => .error e
      | none => (svc.checkPayload inv.actor payload).map .checked, store, []⟩
  | _ => (inv.uow svc).attempt faults store

/-- What a call that returned has stored. -/
def Invocation.Stored {C : Type} (svc : ConnectionService C) (inv : Invocation)
    (store : List (Row C)) (result : ServiceResult) (store' : List (Row C)) : Prop :=
  match inv.call with
  -- One row under a new id, after the others.
  | .create _ => ∃ row, row.id = inv.env.uuid ∧ find inv.env.uuid store = none ∧
      result = .record (toRecord svc.storage row) ∧ store' = store ++ [row]
  -- The row of the connection, and no other.
  | .update connectionId _ => ∃ row row', find connectionId store = some row ∧
      row'.id = connectionId ∧ row'.updatedAt = inv.env.now ∧
      result = .record (toRecord svc.storage row') ∧ store' = put store row' ∧
      ∀ other, other ≠ connectionId → find other store' = find other store
  | .delete connectionId => ∃ row, find connectionId store = some row ∧ row.deletedAt = none ∧
      result = .record (toRecord svc.storage
        { row with deletedAt := some inv.env.now, updatedAt := inv.env.now }) ∧
      store' = put store { row with deletedAt := some inv.env.now, updatedAt := inv.env.now } ∧
      ∀ other, other ≠ connectionId → find other store' = find other store
  | _ => store' = store

/-- Calls under faults, one after another. Gives those that returned, with what they returned, and
the store in the end. -/
def ConnectionService.attemptAll {C : Type} (svc : ConnectionService C) :
    List (Invocation × Faults PyError) → List (Row C) →
      List (Invocation × ServiceResult) × List (Row C)
  | [], store => ([], store)
  | (inv, faults) :: calls, store =>
    let ending := inv.attempt svc faults store
    let rest := svc.attemptAll calls ending.committed
    ((ending.result.toOption.map fun result => (inv, result)).toList ++ rest.1, rest.2)

/-- The calls return these results when they run one after another without faults, and lead from
one store to the other. -/
def Replays {C : Type} (svc : ConnectionService C) :
    List (Invocation × ServiceResult) → List (Row C) → List (Row C) → Prop
  | [], store, store' => store' = store
  | (inv, result) :: calls, store, store' =>
    ∃ store₁, (inv.prog svc).run store = (.ok result, store₁) ∧ Replays svc calls store₁ store'

section Ends

variable {C : Type} {α β : Type}

/-- A program that goes on from one that does not commit ends as what it goes on with. -/
theorem ends_bind {commits : Bool} {p : Txn C α} {f : α → Txn C β} (h : p.Ends false)
    (hf : ∀ a, (f a).Ends commits) : (p >>= f).Ends commits := by
  change (p.bind f).Ends commits
  induction p with
  | pure a => exact hf a
  | throw e => trivial
  | select q next ih => exact fun rows => ih rows (h rows)
  | insert row dup next ih => exact ih h
  | update id set next ih => exact ih h
  | commit next ih => cases h.1

/-- Renaming the result keeps how a program ends. -/
theorem ends_map {commits : Bool} {p : Txn C α} (f : α → β) (h : p.Ends commits) :
    (p >>= fun a => pure (f a)).Ends commits := by
  change (p.bind fun a => .pure (f a)).Ends commits
  induction p with
  | pure a => exact h
  | throw e => trivial
  | select q next ih => exact fun rows => ih rows (h rows)
  | insert row dup next ih => exact ih h
  | update id set next ih => exact ih h
  | commit next ih =>
    obtain ⟨hcommits, a, rfl⟩ := h
    exact ⟨hcommits, f a, rfl⟩

theorem ends_ofExcept (x : Except PyError α) : (Prog.ofExcept x : Txn C α).Ends false := by
  cases x with
  | error e => trivial
  | ok a => rfl

/-- A method that commits at its end. -/
theorem ends_owned {body : Txn C α} (h : body.Ends false) :
    (ConnectionService.owned body).Ends true :=
  ends_bind h fun a => ⟨rfl, a, rfl⟩

theorem ends_fetchRow (connectionId : String) :
    (Repository.fetchRow connectionId : Txn C (Option (Row C))).Ends false :=
  fun _ => rfl

theorem ends_repository_create (storage : Storage C) (env : CallEnv) (draft : ConnectionDraft) :
    (Repository.create storage env draft).Ends false := by
  refine ends_bind (ends_ofExcept _) fun columns => ?_
  refine ends_bind (α := Unit) (p := .insert _ _ (.pure ())) rfl fun _ => ?_
  refine ends_bind (ends_fetchRow env.uuid) fun created => ?_
  cases created with
  | none => trivial
  | some row => rfl

theorem ends_replace (storage : Storage C) (env : CallEnv) (connectionId : String)
    (draft : ConnectionDraft) :
    (Repository.replace storage env connectionId draft).Ends false := by
  refine ends_bind (ends_fetchRow connectionId) fun found => ?_
  cases found with
  | none => rfl
  | some row =>
    refine ends_bind (α := Unit) (p := .update _ _ (.pure ())) rfl fun _ => ?_
    refine ends_bind (ends_fetchRow connectionId) fun updated => ?_
    cases updated with
    | none => trivial
    | some row' => rfl

theorem ends_repository_delete (storage : Storage C) (env : CallEnv) (connectionId : String) :
    (Repository.delete storage env connectionId).Ends false := by
  refine ends_bind (ends_fetchRow connectionId) fun found => ?_
  cases found with
  | none => rfl
  | some row =>
    refine ends_bind (α := Unit) (p := .update _ _ (.pure ())) rfl fun _ => ?_
    refine ends_bind (ends_fetchRow connectionId) fun deleted => ?_
    cases deleted with
    | none => trivial
    | some row' => rfl

variable (svc : ConnectionService C) (actor : Json)

theorem ends_checkLimit : svc.checkLimit.Ends false := by
  unfold ConnectionService.checkLimit
  cases svc.maxConnections with
  | none => rfl
  | some limit =>
    refine ends_bind (fun _ => rfl) fun active => ?_
    split
    · trivial
    · rfl

theorem ends_get (connectionId : String) : (svc.get actor connectionId).Ends false :=
  ends_bind (fun _ => rfl) fun _ => ends_ofExcept _

theorem ends_updateIn (env : CallEnv) (connectionId : String) (patch : ConnectionPatch) :
    (svc.updateIn env actor connectionId patch).Ends false := by
  refine ends_bind (ends_get svc actor connectionId) fun existing => ?_
  refine ends_bind (ends_ofExcept _) fun prepared => ?_
  refine ends_bind (ends_replace svc.storage env connectionId _) fun updated => ?_
  cases updated with
  | none => trivial
  | some record => rfl

theorem ends_deleteIn (env : CallEnv) (connectionId : String) :
    (svc.deleteIn env actor connectionId).Ends false := by
  refine ends_bind (ends_get svc actor connectionId) fun existing => ?_
  refine ends_bind (ends_ofExcept _) fun _ => ?_
  refine ends_bind (ends_repository_delete svc.storage env connectionId) fun deleted => ?_
  cases deleted with
  | none => trivial
  | some record => rfl

end Ends

section Attempts

variable {C : Type} (svc : ConnectionService C)

/-- The transaction of a call commits exactly if the call mutates. -/
theorem ends_uow {inv : Invocation} {p : Txn C ServiceResult} (h : inv.uow svc = .ok p) :
    p.Ends inv.call.mutates := by
  obtain ⟨call, actor, env⟩ := inv
  unfold Invocation.uow at h
  cases call with
  | create payload =>
    dsimp only at h
    cases hp : svc.prepareCreate actor payload with
    | error e => simp [hp, Except.map] at h
    | ok prepared =>
      simp only [hp, Except.map, Except.ok.injEq] at h
      subst h
      exact ends_map _ (ends_owned (ends_bind (ends_checkLimit svc) fun _ =>
        ends_repository_create svc.storage env _))
  | list query =>
    dsimp only at h
    cases hs : svc.accessPolicy.scopeList ⟨actor, "list", none, none⟩ query with
    | error e => simp [hs, Except.map] at h
    | ok scopedQuery =>
      simp only [hs, Except.map, Except.ok.injEq] at h
      subst h
      exact ends_map _ fun _ => rfl
  | get connectionId =>
    cases h
    exact ends_map _ (ends_get svc actor connectionId)
  | update connectionId patch =>
    cases h
    exact ends_map _ (ends_owned (ends_updateIn svc actor env connectionId patch))
  | delete connectionId =>
    cases h
    exact ends_map _ (ends_owned (ends_deleteIn svc actor env connectionId))
  | checkPayload payload =>
    cases h
    exact ends_map _ (ends_ofExcept _)
  | checkStored connectionId patch =>
    cases h
    exact ends_map _ (ends_bind (ends_get svc actor connectionId) fun _ => ends_ofExcept _)

/-- The transaction of a call is that of its unit of work, with what comes before the session. -/
theorem uow_prog (inv : Invocation) : (inv.uow svc).prog = inv.prog svc := by
  obtain ⟨call, actor, env⟩ := inv
  unfold Invocation.uow Invocation.prog
  cases call with
  | create payload =>
    unfold ConnectionService.create ConnectionService.createIn
    dsimp only
    cases svc.prepareCreate actor payload <;> rfl
  | list query =>
    unfold ConnectionService.list
    dsimp only
    cases svc.accessPolicy.scopeList ⟨actor, "list", none, none⟩ query <;> rfl
  | _ => rfl

/-- Without faults a call does what its transaction does alone. -/
theorem Invocation.attempt_none (inv : Invocation) (store : List (Row C)) :
    ((inv.attempt svc .none store).result, (inv.attempt svc .none store).committed) =
      (inv.prog svc).run store := by
  have huow := UnitOfWork.attempt_none (inv.uow svc) store
  rw [uow_prog] at huow
  obtain ⟨call, actor, env⟩ := inv
  cases call with
  | checkPayload payload =>
    unfold Invocation.prog
    rw [run_map]
    simp only [Invocation.attempt, Faults.none]
    cases svc.checkPayload actor payload <;> rfl
  | _ => exact huow

/-- The contract of a call under faults: where it raises, nothing was committed; where it returns,
it committed once if it mutates and did what it does without faults; and it closed the session it
opened once. -/
theorem attempt_spec (inv : Invocation) (faults : Faults PyError) (store : List (Row C)) :
    (∀ e, (inv.attempt svc faults store).result = .error e →
        (inv.attempt svc faults store).committed = store ∧
          (inv.attempt svc faults store).events.count .committed = 0) ∧
      (∀ result, (inv.attempt svc faults store).result = .ok result →
        (inv.attempt svc faults store).events.count .committed = inv.call.mutates.toNat ∧
          (inv.prog svc).run store = (.ok result, (inv.attempt svc faults store).committed)) ∧
      (inv.attempt svc faults store).events.count .closed =
        (inv.attempt svc faults store).events.count .opened ∧
      (inv.attempt svc faults store).events.count .opened ≤ 1 := by
  have hends : ∀ p, inv.uow svc = .ok p → p.Ends inv.call.mutates := fun p hp => ends_uow svc hp
  have huow := UnitOfWork.attempt_spec hends faults store
  rw [uow_prog] at huow
  obtain ⟨call, actor, env⟩ := inv
  cases call with
  | checkPayload payload =>
    refine ⟨fun e he => ⟨rfl, rfl⟩, fun result h => ⟨rfl, ?_⟩, rfl, Nat.zero_le 1⟩
    simp only [Invocation.attempt] at h
    unfold Invocation.prog
    rw [run_map]
    cases hf : faults.prologue with
    | some e => simp [hf] at h
    | none =>
      cases hc : svc.checkPayload actor payload with
      | error e => simp [hf, hc, Except.map] at h
      | ok call =>
        simp only [hf, hc, Except.map, Except.ok.injEq] at h
        subst h
        simp [hc, Invocation.attempt, Prog.run, Prog.ofExcept, Prog.exec, Except.map]
  | _ => exact huow

/-- A call that returns a result stores what belongs to it. -/
theorem stored_of_run {inv : Invocation} {store store' : List (Row C)} {result : ServiceResult}
    (h : (inv.prog svc).run store = (.ok result, store')) :
    inv.Stored svc store result store' := by
  by_cases hm : inv.call.mutates = true
  · obtain ⟨call, actor, env⟩ := inv
    unfold Invocation.prog at h
    cases call with
    | create payload =>
      rw [run_map, svc.run_create] at h
      cases hc : svc.createdRow env actor store payload with
      | error e => simp [hc, Except.map] at h
      | ok row =>
        simp only [hc, Except.map, Prod.mk.injEq, Except.ok.injEq] at h
        obtain ⟨rfl, rfl⟩ := h
        obtain ⟨resolved, validated, columns, -, -, -, hfresh, rfl⟩ := createdRow_eq_ok_iff.mp hc
        exact ⟨_, rfl, hfresh, rfl, put_of_find_eq_none hfresh⟩
    | update connectionId patch =>
      rw [run_map] at h
      cases hr : (svc.update env actor connectionId patch).run store with
      | mk r s =>
        cases r with
        | error e => simp [hr, Except.map] at h
        | ok record =>
          simp only [hr, Except.map, Prod.mk.injEq, Except.ok.injEq] at h
          obtain ⟨rfl, rfl⟩ := h
          obtain ⟨row, row', resolved, spec, validated, hf, hu, rfl, rfl⟩ := run_update_eq_ok hr
          have hid : row'.id = connectionId := hu.id.trans (find_eq_some hf).2
          refine ⟨row, row', hf, hid, hu.updatedAt, rfl, rfl, fun other hne => ?_⟩
          exact find_put_of_ne store row' fun hk => hne (hk.symm.trans hid)
    | delete connectionId =>
      rw [run_map, svc.run_delete] at h
      unfold ConnectionService.answer at h
      cases hf : find connectionId store with
      | none => simp [hf, Except.map] at h
      | some row =>
        simp only [hf] at h
        cases hd : svc.deletedRow env actor connectionId row with
        | error e => simp [hd, Except.map] at h
        | ok row' =>
          simp only [hd, Except.map, Prod.mk.injEq, Except.ok.injEq] at h
          obtain ⟨rfl, rfl⟩ := h
          unfold ConnectionService.deletedRow at hd
          obtain ⟨existing, hget, hd⟩ := bind_eq_ok_iff.mp hd
          obtain ⟨-, -, hd⟩ := bind_eq_ok_iff.mp hd
          cases hd
          have hid : row.id = connectionId := (find_eq_some hf).2
          refine ⟨row, hf, (admitGet_eq_ok_iff.mp hget).1, rfl, rfl, fun other hne => ?_⟩
          exact find_put_of_ne store _ fun hk => hne (hk.symm.trans hid)
    | _ => cases hm
  · have hreads : inv.call.mutates = false := by simpa using hm
    have hstore := run_of_not_mutates svc store hreads
    rw [h] at hstore
    obtain ⟨call, actor, env⟩ := inv
    cases call with
    | create payload => exact absurd rfl hm
    | update connectionId patch => exact absurd rfl hm
    | delete connectionId => exact absurd rfl hm
    | _ => exact hstore

/-- A sequence of calls under faults leaves the store that its successful calls alone leave. -/
theorem replays_attemptAll (calls : List (Invocation × Faults PyError)) (store : List (Row C)) :
    Replays svc (svc.attemptAll calls store).1 store (svc.attemptAll calls store).2 := by
  induction calls generalizing store with
  | nil => rfl
  | cons call calls ih =>
    obtain ⟨inv, faults⟩ := call
    obtain ⟨herror, hok, -, -⟩ := attempt_spec svc inv faults store
    unfold ConnectionService.attemptAll
    dsimp only
    cases hr : (inv.attempt svc faults store).result with
    | error e =>
      -- A call that raised has left the store as it was.
      rw [(herror e hr).1]
      exact ih store
    | ok result => exact ⟨_, (hok result hr).2, ih _⟩

end Attempts

/-- Every call, whichever of its steps raise: if it raises, the committed store is the one before
it; if it returns, it committed once for `create`, `update` and `delete` and not for the others, and
stored its one row or nothing; and a session that it opened was closed once. So after any sequence
of calls the store is the one that the successful calls lead to alone. -/
theorem all_or_nothing {C : Type} (svc : ConnectionService C) :
    (∀ (inv : Invocation) (faults : Faults PyError) (store : List (Row C)),
      (∀ e, (inv.attempt svc faults store).result = .error e →
          (inv.attempt svc faults store).committed = store ∧
            (inv.attempt svc faults store).events.count .committed = 0) ∧
        (∀ result, (inv.attempt svc faults store).result = .ok result →
          (inv.attempt svc faults store).events.count .committed = inv.call.mutates.toNat ∧
            inv.Stored svc store result (inv.attempt svc faults store).committed) ∧
        (inv.attempt svc faults store).events.count .closed =
          (inv.attempt svc faults store).events.count .opened ∧
        (inv.attempt svc faults store).events.count .opened ≤ 1) ∧
      ∀ (calls : List (Invocation × Faults PyError)) (store : List (Row C)),
        Replays svc (svc.attemptAll calls store).1 store (svc.attemptAll calls store).2 := by
  refine ⟨fun inv faults store => ?_, replays_attemptAll svc⟩
  obtain ⟨herror, hok, hclosed, hopened⟩ := attempt_spec svc inv faults store
  refine ⟨herror, fun result h => ?_, hclosed, hopened⟩
  obtain ⟨hcommits, hrun⟩ := hok result h
  exact ⟨hcommits, stored_of_run svc hrun⟩

end DbConnection
