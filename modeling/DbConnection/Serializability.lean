import DbConnection.Connectors
import DbConnection.Sequential

/-!
# Concurrent calls on one connection

`update` and `delete` each read the row in `get`, decide on it, and then write it by its id alone
in `replace` or `delete`. Nothing ties the write to the row that was read. So two calls on one
connection that both succeed are equal to one after the other when each write meets an undisturbed
row (`Undisturbed`), and not in general.
-/

namespace DbConnection

open PyData Pydantic ReadCommitted

/-- A call that changes a row. -/
inductive Mutation where
  | update (patch : ConnectionPatch)
  | delete
  deriving DecidableEq, Repr

/-- A call of `update` or `delete`, by an actor and with what it takes from its environment. -/
structure MutatingCall where
  mutation : Mutation
  actor : Json
  env : CallEnv
  deriving DecidableEq, Repr

namespace MutatingCall

variable {C : Type} (svc : ConnectionService C) (connectionId : String)

/-- The transaction of a call. -/
def prog (call : MutatingCall) : Txn C ConnectionRecord :=
  match call.mutation with
  | .update patch => svc.update call.env call.actor connectionId patch
  | .delete => svc.delete call.env call.actor connectionId

/-- The call as a read-modify-write transaction. -/
def rmw (call : MutatingCall) : Rmw (Row C) PyError ConnectionRecord :=
  match call.mutation with
  | .update patch => svc.updateRmw call.env call.actor connectionId patch
  | .delete => svc.deleteRmw call.env call.actor connectionId

theorem prog_eq_rmw (call : MutatingCall) :
    call.prog svc connectionId = (call.rmw svc connectionId).prog := by
  obtain ⟨mutation, actor, env⟩ := call
  cases mutation with
  | update patch => exact svc.update_eq_rmw env actor connectionId patch
  | delete => exact svc.delete_eq_rmw env actor connectionId

theorem rmw_row (call : MutatingCall) : (call.rmw svc connectionId).row = connectionId := by
  obtain ⟨mutation, actor, env⟩ := call
  cases mutation <;> rfl

end MutatingCall

/-- The transaction is about to run an UPDATE. -/
def AtUpdate {C α : Type} (t : Tx (Row C) PyError α) : Prop :=
  ∃ k u next, t.prog = .update k u next

/-- If call `i` is about to run its UPDATE, then the committed row is the one that its `get` read,
if it is an update, and one that is active and that the policy lets it get and delete, if it is a
delete. -/
def Undisturbed {C : Type} (svc : ConnectionService C) (connectionId : String)
    (calls : Bool → MutatingCall) (σ : Sys Bool (Row C) PyError ConnectionRecord) (i : Bool) :
    Prop :=
  AtUpdate (σ.tx i) →
    match (calls i).mutation with
    | .update _ => find connectionId σ.committed = (σ.tx i).reads.head?.bind List.head?
    | .delete => ∃ row record, find connectionId σ.committed = some row ∧
        svc.admitGet (calls i).actor connectionId (some (toRecord svc.storage row)) = .ok record ∧
        svc.admitDelete (calls i).actor connectionId record = .ok ()

section Pair

variable {C : Type} {svc : ConnectionService C} {connectionId : String}
  {calls : Bool → MutatingCall} {store : List (Row C)}

/-- An undisturbed step is a fresh one. -/
theorem fresh_of_undisturbed {σ : Sys Bool (Row C) PyError ConnectionRecord} {i : Bool}
    (h : SerialInv (fun i => (calls i).rmw svc connectionId) store σ)
    (hu : Undisturbed svc connectionId calls σ i) :
    Fresh (fun i => (calls i).rmw svc connectionId) σ i := by
  intro u hp
  dsimp only at hp ⊢
  have hu := hu ⟨_, _, _, hp⟩
  have hph := h.phase i
  -- Before its UPDATE the call has decided on the row of its first SELECT.
  obtain ⟨rows, rows', hr, hd⟩ : ∃ rows rows', (σ.tx i).reads = [rows, rows'] ∧
      ((calls i).rmw svc connectionId).decide rows.head? = .ok u := by
    cases hph with
    | @checked u' rows rows' hp' hn hr hd =>
      rw [hp] at hp'
      simp only [Rmw.write, Prog.update.injEq] at hp'
      obtain ⟨-, rfl, -⟩ := hp'
      exact ⟨rows, rows', hr, hd⟩
    | start hp' => simp [hp, Rmw.prog, Rmw.write] at hp'
    | read hp' => simp [hp, Rmw.check, Rmw.write] at hp'
    | written hp' => simp [hp, Rmw.readBack, Rmw.write] at hp'
    | readAgain hp' => simp [hp, Rmw.write] at hp'
    | done hp' => simp [hp, Rmw.write] at hp'
    | failed hp' => simp [hp, Rmw.write] at hp'
  rw [MutatingCall.rmw_row]
  generalize hc : calls i = call at *
  obtain ⟨mutation, actor, env⟩ := call
  cases mutation with
  -- An update decided on the row that is still the committed one.
  | update patch =>
    simp only [hr, List.head?_cons, Option.bind_some] at hu
    cases hrow : rows.head? with
    | none => simp [MutatingCall.rmw, ConnectionService.updateRmw, hrow,
        ConnectionService.admitGet, bind, Except.bind] at hd
    | some row =>
      rw [hrow] at hu hd
      exact ⟨row, u, hu, hd, rfl⟩
  -- A delete decides the same on any row that it is let delete.
  | delete =>
    obtain ⟨row, record, hf, ha, hdel⟩ := hu
    dsimp only at ha hdel
    refine ⟨row, Repository.deleteUpdate env, hf, ?_, ?_⟩
    · simp [MutatingCall.rmw, ConnectionService.deleteRmw, ha, hdel, bind, Except.bind, pure,
        Except.pure]
    · simp only [MutatingCall.rmw, ConnectionService.deleteRmw, bind_eq_ok_iff] at hd
      obtain ⟨_, _, _, _, hu⟩ := hd
      cases hu
      rfl

/-- Along every run whose updates are undisturbed, the calls that committed ran as one after
another. -/
theorem serialInv_of_undisturbed (hkeys : (store.map Row.id).Nodup)
    {σ : Sys Bool (Row C) PyError ConnectionRecord}
    (hr : Reaches (Undisturbed svc connectionId calls)
      (Sys.start store fun i => (calls i).prog svc connectionId) σ) :
    SerialInv (fun i => (calls i).rmw svc connectionId) store σ := by
  have hprog : (fun i => (calls i).prog svc connectionId) =
      fun i => ((calls i).rmw svc connectionId).prog :=
    funext fun i => (calls i).prog_eq_rmw svc connectionId
  rw [hprog] at hr
  exact serialInv_of_reaches hkeys (fun _ _ hi hu => fresh_of_undisturbed hi hu) hr

/-- Two calls of `update` or `delete` on one connection, run in any interleaving whose updates are
undisturbed, that both succeed give the results and the rows of running them one after the other
in one of the two orders. -/
theorem serializable_of_undisturbed (svc : ConnectionService C) (connectionId : String)
    (calls : Bool → MutatingCall) (store : List (Row C)) (hkeys : (store.map Row.id).Nodup)
    (σ : Sys Bool (Row C) PyError ConnectionRecord)
    (hr : Reaches (Undisturbed svc connectionId calls)
      (Sys.start store fun i => (calls i).prog svc connectionId) σ)
    (r : Bool → ConnectionRecord) (hok : ∀ i, (σ.tx i).prog.outcome = some (.ok (r i))) :
    ∃ i, serialRun [(calls i).prog svc connectionId, (calls !i).prog svc connectionId] store =
      ([.ok (r i), .ok (r !i)], σ.committed) := by
  have hp : ∀ i, (σ.tx i).prog = .pure (r i) := fun i => by
    have := hok i
    cases h : (σ.tx i).prog <;> simp_all [Prog.outcome]
  obtain ⟨i, hi⟩ := (serialInv_of_undisturbed hkeys hr).pair hp
  exact ⟨i, by simpa only [MutatingCall.prog_eq_rmw] using hi⟩

end Pair

/-- One update sets the name and the other sets the labels. -/
def nameAndLabels (i : Bool) : MutatingCall where
  mutation := .update (if i then { ConnectionPatch.empty with name := .set (some "archive") }
    else { ConnectionPatch.empty with labels := .set (some [("team", "data")]) })
  actor := .null
  env := ⟨1, "", 0⟩

/-- What the two updates set, of each row. -/
def namesAndLabels (rows : List (Row Json)) : List (String × Json) :=
  rows.map fun row => (row.name, row.labelsJson)

/-- A test for `Undisturbed` of updates. -/
def undisturbedUpdate {C α : Type} [DecidableEq C] (connectionId : String)
    (σ : Sys Bool (Row C) PyError α) (i : Bool) : Bool :=
  match (σ.tx i).prog with
  | .update _ _ _ => find connectionId σ.committed == (σ.tx i).reads.head?.bind List.head?
  | _ => true

theorem undisturbed_of_undisturbedUpdate {C : Type} [DecidableEq C] {svc : ConnectionService C}
    {connectionId : String} {calls : Bool → MutatingCall}
    (hcalls : ∀ i, ∃ patch, (calls i).mutation = .update patch)
    {σ : Sys Bool (Row C) PyError ConnectionRecord} {i : Bool}
    (h : undisturbedUpdate connectionId σ i = true) : Undisturbed svc connectionId calls σ i := by
  rintro ⟨k, u, next, hp⟩
  obtain ⟨patch, hpatch⟩ := hcalls i
  simp only [undisturbedUpdate, hp, beq_iff_eq] at h
  simpa only [hpatch] using h

/-- The update of the labels starts when that of the name has committed: both take effect. -/
theorem serializable_of_undisturbed_names_labels :
    ∃ (σ : Sys Bool (Row Json) PyError ConnectionRecord) (r : Bool → ConnectionRecord),
      (∃ i, serialRun [(nameAndLabels i).prog (defaultService none) "a",
        (nameAndLabels !i).prog (defaultService none) "a"] [bucketRow "a"] =
          ([.ok (r i), .ok (r !i)], σ.committed)) ∧
      namesAndLabels σ.committed = [("archive", .obj [("team", .str "data")])] := by
  have hrun : ((runScheduleIf (undisturbedUpdate "a")
        (Sys.start [bucketRow "a"] fun i => (nameAndLabels i).prog (defaultService none) "a")
        [true, true, true, true, true, false, false, false, false, false]).map fun σ =>
      ((σ.tx true).prog.succeeded, (σ.tx false).prog.succeeded, namesAndLabels σ.committed)) =
      some (true, true, [("archive", .obj [("team", .str "data")])]) := by
    decide +kernel
  obtain ⟨σ, hr, hσ⟩ := exists_reaches_of_runScheduleIf
    (Undisturbed (defaultService none) "a" nameAndLabels)
    (fun _ _ => undisturbed_of_undisturbedUpdate fun i => ⟨_, rfl⟩) hrun
  simp only [Prod.mk.injEq] at hσ
  obtain ⟨ht, hf, hc⟩ := hσ
  obtain ⟨rt, hrt⟩ := Prog.exists_outcome_of_succeeded ht
  obtain ⟨rf, hrf⟩ := Prog.exists_outcome_of_succeeded hf
  refine ⟨σ, fun i => if i then rt else rf, ?_, hc⟩
  refine serializable_of_undisturbed (defaultService none) "a" nameAndLabels [bucketRow "a"]
    (by decide) σ hr _ fun i => ?_
  cases i
  · exact hrf
  · exact hrt

/-- The second update reads the row before the first one commits, both succeed, and the labels are
lost: neither order of the two gives the committed row. -/
theorem concurrent_updates_lose_labels :
    ∃ σ, Reaches (fun _ _ => True)
        (Sys.start [bucketRow "a"] fun i => (nameAndLabels i).prog (defaultService none) "a") σ ∧
      (∀ i, ∃ r, (σ.tx i).prog.outcome = some (.ok r)) ∧
      ∀ i, namesAndLabels (serialRun [(nameAndLabels i).prog (defaultService none) "a",
        (nameAndLabels !i).prog (defaultService none) "a"] [bucketRow "a"]).2 ≠
          namesAndLabels σ.committed := by
  have hrun : ((runScheduleIf (fun _ _ => true)
        (Sys.start [bucketRow "a"] fun i => (nameAndLabels i).prog (defaultService none) "a")
        [true, false, false, false, false, false, true, true, true, true]).map fun σ =>
      ((σ.tx true).prog.succeeded, (σ.tx false).prog.succeeded, namesAndLabels σ.committed)) =
      some (true, true, [("archive", .obj [])]) := by
    decide +kernel
  obtain ⟨σ, hr, hσ⟩ := exists_reaches_of_runScheduleIf (fun _ _ => True)
    (fun _ _ _ => trivial) hrun
  simp only [Prod.mk.injEq] at hσ
  obtain ⟨ht, hf, hc⟩ := hσ
  refine ⟨σ, hr, fun i => ?_, fun i => ?_⟩
  · cases i
    · exact Prog.exists_outcome_of_succeeded hf
    · exact Prog.exists_outcome_of_succeeded ht
  · rw [hc]
    revert i
    decide +kernel

end DbConnection
