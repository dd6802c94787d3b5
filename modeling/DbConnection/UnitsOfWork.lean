import DbConnection.Classification
import DbConnection.ConcurrentCalls
import DbConnection.SharedUnits

/-!
# Calls in one unit of work, and calls after a write

Calls that are given one unit of work are one transaction: each sees what the calls before it wrote,
and all of it is committed at the end or none (`run_sharedUnit`). What a call returned of a record
is what every later `get` reads, as long as no call in between is about the record
(`read_your_writes`).
-/

namespace DbConnection

open PyData Pydantic ReadCommitted

/-! ## One unit of work -/

namespace ConnectionService

variable {C : Type} (svc : ConnectionService C)

/-- Calls that are given one unit of work, one after another up to the first that raises. -/
def callsIn : List Invocation → Txn C (List ServiceResult)
  | [] => return []
  | inv :: calls => do
    let result ← inv.progIn svc
    let results ← callsIn calls
    return result :: results

/-- A unit of work around calls, which the caller commits at the end. -/
def sharedUnit (calls : List Invocation) : Txn C (List ServiceResult) := owned (svc.callsIn calls)

/-- Calls with a unit of work each, one after another up to the first that raises. -/
def callsAlone : List Invocation → List (Row C) → Except PyError (List ServiceResult) × List (Row C)
  | [], store => (.ok [], store)
  | inv :: calls, store =>
    match (inv.prog svc).run store with
    | (.error e, store') => (.error e, store')
    | (.ok result, store') =>
      let (results, store'') := callsAlone calls store'
      (results.map fun results => result :: results, store'')

end ConnectionService

section Unit

variable {C : Type} (svc : ConnectionService C)

/-- Without a commit, a program leaves the committed rows, and versions of distinct rows. -/
theorem exec_of_ends {α : Type} {p : Txn C α} (h : p.Ends false) (committed : List (Row C))
    {pend : List (Row C)} (hpend : (pend.map key).Nodup) :
    (p.exec committed pend).2.1 = committed ∧ ((p.exec committed pend).2.2.map key).Nodup := by
  induction p generalizing pend with
  | pure a => exact ⟨rfl, hpend⟩
  | throw e => exact ⟨rfl, hpend⟩
  | select q next ih => exact ih _ (h _) hpend
  | insert row dup next ih =>
    simp only [Prog.exec]
    split
    · exact ⟨rfl, hpend⟩
    · exact ih h (nodup_put hpend row)
  | update k set next ih =>
    simp only [Prog.exec]
    split
    · exact ih h hpend
    · split
      · exact ⟨rfl, hpend⟩
      · exact ih h (nodup_put hpend _)
  | commit next ih => cases h.1

/-- The calls do not commit. -/
theorem ends_callsIn (calls : List Invocation) : (svc.callsIn calls).Ends false := by
  induction calls with
  | nil => rfl
  | cons inv calls ih => exact ends_bind (ends_progIn svc inv) fun _ => ends_map _ ih

/-- Calls in one unit of work do to what it sees what they do to a store one after another. -/
theorem runIn_callsIn (calls : List Invocation) (committed : List (Row C)) {pend : List (Row C)}
    (hpend : (pend.map key).Nodup) :
    (svc.callsIn calls).runIn committed pend = svc.callsAlone calls (overlay committed pend) := by
  induction calls generalizing pend with
  | nil => rfl
  | cons inv calls ih =>
    have hcall := runIn_progIn svc inv committed hpend
    obtain ⟨hcommitted, hpend'⟩ := exec_of_ends (ends_progIn svc inv) committed hpend
    unfold ConnectionService.callsIn ConnectionService.callsAlone
    unfold Prog.runIn at hcall ⊢
    rw [Prog.exec_bind, ← hcall]
    rcases hexec : (inv.progIn svc).exec committed pend with ⟨result, committed', pend'⟩
    rw [hexec] at hcommitted hpend'
    dsimp only at hcommitted hpend' ⊢
    subst hcommitted
    cases result with
    | error e => rfl
    | ok a =>
      -- The next call sees what this one wrote.
      have hrest := ih hpend'
      have hmap := runIn_map committed' (svc.callsIn calls) (fun results => a :: results) pend'
      rw [hrest] at hmap
      exact hmap

end Unit

/-- Calls in one unit of work return what they return one after another, each with a unit of work of
its own, and leave the store that these leave; if one of them raises, the unit raises what that one
raises there, and the store is as it was. -/
theorem run_sharedUnit {C : Type} (svc : ConnectionService C) (calls : List Invocation)
    (store : List (Row C)) :
    (svc.sharedUnit calls).run store =
      match svc.callsAlone calls store with
      | (.ok results, store') => (.ok results, store')
      | (.error e, _) => (.error e, store) := by
  have hnil : (([] : List (Row C)).map key).Nodup := List.nodup_nil
  have hcalls := runIn_callsIn svc calls store hnil
  obtain ⟨hcommitted, -⟩ := exec_of_ends (ends_callsIn svc calls) store hnil
  rw [overlay_nil] at hcalls
  rw [← hcalls]
  unfold ConnectionService.sharedUnit ConnectionService.owned Prog.run Prog.runIn
  rw [Prog.exec_bind]
  rcases hexec : (svc.callsIn calls).exec store [] with ⟨result, committed, pend⟩
  rw [hexec] at hcommitted
  dsimp only at hcommitted ⊢
  subst hcommitted
  cases result with
  | error e => rfl
  | ok results => rfl

/-! ## Calls after a write -/

/-- The connection that a call writes. -/
def Invocation.written (inv : Invocation) : Option String :=
  match inv.call with
  | .create _ => some inv.env.uuid
  | .update connectionId _ => some connectionId
  | .delete connectionId => some connectionId
  | _ => none

/-- The call is a `delete`. -/
def ServiceCall.isDelete : ServiceCall → Bool
  | .delete _ => true
  | _ => false

section Written

variable {C : Type} (svc : ConnectionService C)

/-- A call that mutates writes a connection. -/
theorem exists_written_of_mutates {inv : Invocation} (h : inv.call.mutates = true) :
    ∃ connectionId, inv.written = some connectionId := by
  obtain ⟨call, actor, env⟩ := inv
  cases call with
  | create payload => exact ⟨_, rfl⟩
  | update connectionId patch => exact ⟨_, rfl⟩
  | delete connectionId => exact ⟨_, rfl⟩
  | _ => cases h

/-- What a call that wrote a row returned: the record of that row, which is deleted by a delete
only. -/
theorem record_of_run {inv : Invocation} {connectionId : String} (hw : inv.written = some connectionId)
    {store store' : List (Row C)} {result : ServiceResult}
    (h : (inv.prog svc).run store = (.ok result, store')) :
    ∃ row, result = .record (toRecord svc.storage row) ∧ find connectionId store' = some row ∧
      row.id = connectionId ∧ row.deletedAt.isSome = inv.call.isDelete := by
  obtain ⟨call, actor, env⟩ := inv
  have hanswer : ∀ {id : String} {written : Row C → Except PyError (Row C)} {deleted : Bool}
      (_ : ∀ row row', written row = .ok row' → row'.id = row.id ∧ row'.deletedAt.isSome = deleted),
      ((svc.answer id store written).1.map ServiceResult.record,
          (svc.answer id store written).2) = (.ok result, store') →
        ∃ row, result = .record (toRecord svc.storage row) ∧ find id store' = some row ∧
          row.id = id ∧ row.deletedAt.isSome = deleted := by
    intro id written deleted hwritten h
    unfold ConnectionService.answer at h
    cases hf : find id store with
    | none => simp [hf, Except.map] at h
    | some row =>
      cases hrow : written row with
      | error e => simp [hf, hrow, Except.map] at h
      | ok row' =>
        simp only [hf, hrow, Except.map, Prod.mk.injEq, Except.ok.injEq] at h
        obtain ⟨rfl, rfl⟩ := h
        obtain ⟨hid, hdeleted⟩ := hwritten row row' hrow
        have hkey : row.id = id := (find_eq_some hf).2
        refine ⟨row', rfl, ?_, hid.trans hkey, hdeleted⟩
        rw [← hkey, ← hid]
        exact find_put_self store row'
  unfold Invocation.prog at h
  cases call with
  | create payload =>
    cases hw
    dsimp only at h
    rw [run_map, svc.run_create] at h
    cases hc : svc.createdRow env actor store payload with
    | error e => simp [hc, Except.map] at h
    | ok row =>
      simp only [hc, Except.map, Prod.mk.injEq, Except.ok.injEq] at h
      obtain ⟨rfl, rfl⟩ := h
      obtain ⟨_, _, columns, -, -, -, -, rfl⟩ := createdRow_eq_ok_iff.mp hc
      have hself := find_put_self store (Repository.newRow env columns)
      exact ⟨_, rfl, hself, rfl, rfl⟩
  | update id patch =>
    cases hw
    dsimp only at h
    rw [run_map, svc.run_update] at h
    refine hanswer (fun row row' hrow => ?_) h
    obtain ⟨resolved, spec, validated, hu⟩ := updates_of_updatedRow hrow
    exact ⟨hu.id, by rw [hu.deletedAt, hu.active]; rfl⟩
  | delete id =>
    cases hw
    dsimp only at h
    rw [run_map, svc.run_delete] at h
    refine hanswer (fun row row' hrow => ?_) h
    obtain ⟨-, -, -, rfl⟩ := deletedRow_eq_ok_iff.mp hrow
    exact ⟨rfl, rfl⟩
  | _ => cases hw

/-- A call that is not about a row, or does not mutate, leaves it. -/
theorem find_run_of_not_about {inv : Invocation} {connectionId : String} {row : Row C}
    {store : List (Row C)} (hf : find connectionId store = some row)
    (h : inv.call.mutates = true → inv.call.target ≠ some connectionId) :
    find connectionId ((inv.prog svc).run store).2 = some row := by
  by_cases hm : inv.call.mutates = true
  · have hnil : (([] : List (Row C)).map key).Nodup := List.nodup_nil
    have hne := h hm
    -- A call about another row is local to it.
    have hother : ∀ {other : String}, inv.call.target = some other →
        (inv.prog svc).Local other →
          find connectionId ((inv.prog svc).run store).2 = some row := by
      intro other ht hlocal
      have hids : connectionId ≠ other := fun e => hne (e ▸ ht)
      exact (hlocal.find_exec_of_ne hnil (fun _ hv => absurd hv (by simp)) hids).trans hf
    rcases hinv : inv with ⟨call, actor, env⟩
    rw [← hinv]
    rw [hinv] at hm
    cases call with
    | create payload =>
      -- The created row has an id that no row had.
      have hprog : inv.prog svc = (svc.create env actor payload >>= fun record =>
          pure (.record record)) := by rw [hinv]; rfl
      rw [hprog, run_map, svc.run_create]
      cases hc : svc.createdRow env actor store payload with
      | error e => exact hf
      | ok created =>
        obtain ⟨_, _, _, -, -, -, hfresh, rfl⟩ := createdRow_eq_ok_iff.mp hc
        have hids : env.uuid ≠ connectionId := fun e => by
          rw [e, hf] at hfresh
          cases hfresh
        exact (find_put_of_ne store (Repository.newRow env _) hids).trans hf
    | update other patch =>
      refine hother (by rw [hinv]; rfl) (local_call svc ?_ ?_)
      · rw [hinv]
        rfl
      · rw [hinv]
        exact fun hc => by cases hc
    | delete other =>
      refine hother (by rw [hinv]; rfl) (local_call svc ?_ ?_)
      · rw [hinv]
        rfl
      · rw [hinv]
        exact fun hc => by cases hc
    | _ => cases hm
  · rw [run_of_not_mutates svc store (by simpa using hm)]
    exact hf

/-- Nor does a run of such calls change it. -/
theorem find_runCalls_of_not_about {connectionId : String} {row : Row C} {store : List (Row C)}
    (hf : find connectionId store = some row) {calls : List Invocation}
    (h : ∀ inv ∈ calls, inv.call.mutates = true → inv.call.target ≠ some connectionId) :
    find connectionId (svc.runCalls calls store) = some row := by
  induction calls generalizing store with
  | nil => exact hf
  | cons inv calls ih =>
    exact ih (find_run_of_not_about svc hf (h inv List.mem_cons_self))
      fun c hc => h c (List.mem_cons_of_mem _ hc)

end Written

/-- The record that a successful create, update or delete returns is the one that `get` reads from
then on, through any run of calls of which none mutates that connection: `get` returns it where the
policy lets it, and finds no connection where the call deleted it. -/
theorem read_your_writes {C : Type} (svc : ConnectionService C) (inv : Invocation)
    (hm : inv.call.mutates = true) (store store' : List (Row C)) (result : ServiceResult)
    (h : (inv.prog svc).run store = (.ok result, store')) :
    ∃ record, result = .record record ∧ ∀ later : List Invocation,
      (∀ c ∈ later, c.call.mutates = true → c.call.target ≠ some record.id) →
      ∀ actor, ((svc.get actor record.id).run (svc.runCalls later store')).1 =
        if record.deletedAt.isSome then .error (.connectionNotFound record.id)
        else (svc.accessPolicy.canGetOne ⟨actor, "get", some record.id, none⟩ record).map
          fun _ => record := by
  obtain ⟨connectionId, hw⟩ := exists_written_of_mutates hm
  obtain ⟨row, rfl, hf, rfl, -⟩ := record_of_run svc hw h
  refine ⟨toRecord svc.storage row, rfl, fun later hlater actor => ?_⟩
  have hid : (toRecord svc.storage row).id = row.id := rfl
  rw [hid] at hlater ⊢
  rw [run_get, find_runCalls_of_not_about svc hf hlater]
  unfold ConnectionService.admitGet
  dsimp only [Option.map_some]
  split
  · rfl
  · cases svc.accessPolicy.canGetOne ⟨actor, "get", some row.id, none⟩
      (toRecord svc.storage row) <;> rfl

/-- A connection that was created is read back after another create. -/
theorem read_your_writes_twoCreates :
    ∃ record store', ((twoCreates true).prog (defaultService none)).run [] =
        (.ok (.record record), store') ∧
      ∀ actor, (((defaultService none).get actor record.id).run
          ((defaultService none).runCalls [twoCreates false] store')).1 =
        if record.deletedAt.isSome then .error (.connectionNotFound record.id)
        else .ok record := by
  have hok : (((twoCreates true).prog (defaultService none)).run []).1.isOk = true := by
    decide +kernel
  rcases hrun : ((twoCreates true).prog (defaultService none)).run [] with ⟨outcome, store'⟩
  rw [hrun] at hok
  obtain ⟨result, rfl⟩ := exists_of_isOk hok
  obtain ⟨record, rfl, hget⟩ :=
    read_your_writes (defaultService none) (twoCreates true) rfl [] store' result hrun
  refine ⟨record, store', rfl, fun actor => hget [twoCreates false] ?_ actor⟩
  intro c hc _
  rw [List.mem_singleton.mp hc]
  exact fun ht => by cases ht

end DbConnection
