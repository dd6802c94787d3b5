import DbConnection.ConnectionLimit
import DbConnection.Lib.RowVersions
import DbConnection.Lifecycle
import DbConnection.Runs

/-!
# Rows under concurrent calls

What becomes of a row while any calls of the service run, each in its own transaction and in any
order of their statements. A committed row stays, and what identifies it and that it is deleted
stay with it (`Follows`): `update` merges into the record it read and writes no deletion time. An
active row was stored whole by one call, as what the call validated (`StoredBy`), so it reads back
although the calls share no lock.
-/

namespace DbConnection

open PyData Pydantic ReadCommitted

/-! ## Calls that read, and a call that inserts -/

section Calls

variable {C : Type} (svc : ConnectionService C) (env : CallEnv) (actor : Json)

/-- A call that does not mutate only reads. -/
theorem finishes_of_not_mutates {inv : Invocation} (h : inv.call.mutates = false) :
    (inv.prog svc).Finishes := by
  obtain ⟨call, actor, env⟩ := inv
  have hofExcept : ∀ {α : Type} (x : Except PyError α),
      (Prog.ofExcept x : Txn C α).Finishes := by
    intro α x
    cases x <;> trivial
  unfold Invocation.prog
  cases call with
  | create payload => cases h
  | update connectionId patch => cases h
  | delete connectionId => cases h
  | list query =>
    have hlist : (svc.list actor query).Finishes := by
      unfold ConnectionService.list
      cases svc.accessPolicy.scopeList ⟨actor, "list", none, none⟩ query with
      | error e => trivial
      | ok q => exact fun _ => trivial
    exact hlist.map _
  | get connectionId =>
    have hget : (svc.get actor connectionId).Finishes := fun _ => hofExcept _
    exact hget.map _
  | checkPayload payload => exact (hofExcept _).map _
  | checkStored connectionId patch =>
    have hcheck : (svc.checkStored actor connectionId patch).Finishes := by
      intro rows
      change Prog.Finishes (Prog.bind (Prog.ofExcept _) _)
      cases svc.admitGet actor connectionId (rows.head?.map (toRecord svc.storage)) with
      | error e => trivial
      | ok record => exact hofExcept _
    exact hcheck.map _

/-- `create` inserts the row of the columns it bound, or nothing. -/
theorem inserting_create {P : Row C → Prop} {payload : ConnectionDraft}
    (h : ∀ draft v columns, svc.prepareCreate actor payload = .ok (draft, v) →
      Repository.bindColumns svc.storage env (toPersistedDraft draft v) = .ok columns →
        P (Repository.newRow env columns)) : (svc.create env actor payload).Inserting P := by
  simp only [ConnectionService.create, ConnectionService.owned, ConnectionService.createIn]
  cases hp : svc.prepareCreate actor payload with
  | error e => trivial
  | ok prepared =>
    obtain ⟨draft, v⟩ := prepared
    -- The insert, after the limit check.
    have hinsert : ((Repository.create svc.storage env (toPersistedDraft draft v)).bind
        fun record => Prog.commit (.pure record)).Inserting P := by
      unfold Repository.create
      cases hb : Repository.bindColumns svc.storage env (toPersistedDraft draft v) with
      | error e => trivial
      | ok columns =>
        refine ⟨h draft v columns hp hb, fun rows => ?_⟩
        dsimp only
        cases rows.head? with
        | none => trivial
        | some row => rfl
    unfold ConnectionService.checkLimit
    cases svc.maxConnections with
    | none => exact hinsert
    | some limit =>
      intro rows
      dsimp only [Prog.bind]
      split
      · trivial
      · exact hinsert

end Calls

/-! ## What may become of a row -/

/-- What may become of a row while calls run concurrently. -/
structure Follows {C : Type} (row row' : Row C) : Prop where
  id : row'.id = row.id
  kind : row'.kind = row.kind
  type : row'.type = row.type
  createdAt : row'.createdAt = row.createdAt
  /-- A deleted row stays deleted. -/
  deleted : row.deletedAt ≠ none → row'.deletedAt ≠ none

instance {C : Type} : IsPreorder (Row C) Follows where
  refl _ := ⟨rfl, rfl, rfl, rfl, id⟩
  trans _ _ _ h h' := ⟨h'.id.trans h.id, h'.kind.trans h.kind, h'.type.trans h.type,
    h'.createdAt.trans h.createdAt, h'.deleted ∘ h.deleted⟩

section Follow

variable {C : Type} (svc : ConnectionService C) (env : CallEnv) (actor : Json)
  (connectionId : String)

/-- `update` writes what may become of the row, however it changed since it was read. -/
theorem climbs_update (patch : ConnectionPatch) :
    (svc.update env actor connectionId patch).Climbs Follows [] := by
  rw [svc.update_eq_rmw]
  refine Rmw.climbs_prog _ fun row u hrow hd old new hold hread ha => ?_
  simp only [ConnectionService.updateRmw, bind_eq_ok_iff] at hd
  obtain ⟨existing, hget, ⟨merged, validated⟩, hprepare, hu⟩ := hd
  cases hu
  obtain ⟨resolved, spec, -, rfl, -⟩ := validates_of_prepareUpdate hprepare
  simp only [Repository.replaceUpdate] at ha
  cases hb : Repository.bindColumns svc.storage env
      (toPersistedDraft (merge existing resolved) validated) with
  | error e => simp [hb, Except.map] at ha
  | ok columns =>
    simp only [hb, Except.map, Except.ok.injEq] at ha
    subst ha
    cases row with
    | none => cases hget
    | some r =>
      -- The kind and the type are those of the row it read, which the row has kept.
      obtain ⟨-, -, rfl⟩ := admitGet_eq_ok_iff.mp hget
      have hfollows := hread r rfl
      have hs := (storedAs_of_bindColumns hb).2 old
      exact ⟨rfl, hs.kind.trans hfollows.kind.symm, hs.type.trans hfollows.type.symm, rfl, id⟩

/-- `delete` writes the deleted row. -/
theorem climbs_delete : (svc.delete env actor connectionId).Climbs Follows [] := by
  rw [svc.delete_eq_rmw]
  refine Rmw.climbs_prog _ fun row u hrow hd old new hold hread ha => ?_
  simp only [ConnectionService.deleteRmw, bind_eq_ok_iff] at hd
  obtain ⟨existing, -, -, -, hu⟩ := hd
  cases hu
  cases ha
  exact ⟨rfl, rfl, rfl, rfl, fun _ => by simp⟩

/-- A call writes what may become of the row it writes over. -/
theorem climbs_call (inv : Invocation) : (inv.prog svc).Climbs Follows [] := by
  by_cases hm : inv.call.mutates = true
  · obtain ⟨call, actor, env⟩ := inv
    unfold Invocation.prog
    cases call with
    | create payload =>
      have h : (svc.create env actor payload).Inserting fun _ => True :=
        inserting_create svc env actor fun _ _ _ _ _ => trivial
      exact h.climbs.map ServiceResult.record
    | update connectionId patch =>
      exact (climbs_update svc env actor connectionId patch).map ServiceResult.record
    | delete connectionId =>
      exact (climbs_delete svc env actor connectionId).map ServiceResult.record
    | _ => cases hm
  · exact (finishes_of_not_mutates svc (by simpa using hm)).climbs

/-- `get` does not find a deleted row. -/
theorem refuses_get : (svc.get actor connectionId).Refuses connectionId
    (fun row => row.deletedAt ≠ none) (.connectionNotFound connectionId) := by
  refine ⟨_, rfl, fun rows row hrow hd => ?_⟩
  have hget := admitGet_of_deleted svc actor connectionId hd
  simp only [hrow, Prog.bind, pure, Option.map_some, hget]
  rfl

/-- Nor does a call about it, which gets it first. -/
theorem refuses_deleted {inv : Invocation} (ht : inv.call.target = some connectionId) :
    (inv.prog svc).Refuses connectionId (fun row => row.deletedAt ≠ none)
      (.connectionNotFound connectionId) := by
  obtain ⟨call, actor, env⟩ := inv
  have hget := refuses_get svc actor connectionId
  unfold Invocation.prog
  cases call with
  | get id =>
    cases ht
    exact hget.bind _
  | update id patch =>
    cases ht
    exact ((hget.bind _).bind _).bind _
  | delete id =>
    cases ht
    exact ((hget.bind _).bind _).bind _
  | checkStored id patch =>
    cases ht
    exact (hget.bind _).bind _
  | _ => cases ht

end Follow

section Runs

variable {C ι : Type} [DecidableEq ι]

/-- Along every run of calls, in any order of their statements, a committed row stays under its id,
with its kind, its type, its creation time and its deletion. -/
theorem follows_of_reaches (svc : ConnectionService C) (calls : ι → Invocation)
    (store : List (Row C)) (hkeys : (store.map Row.id).Nodup)
    (σ σ' : Sys ι (Row C) PyError ServiceResult)
    (hr : Reaches (fun _ _ => True) (Sys.start store fun i => (calls i).prog svc) σ)
    (hr' : Reaches (fun _ _ => True) σ σ') (connectionId : String) (row : Row C)
    (hf : find connectionId σ.committed = some row) :
    ∃ row', find connectionId σ'.committed = some row' ∧ Follows row row' :=
  climbs_of_reaches hkeys (fun i => climbs_call svc (calls i)) hr hr' hf

end Runs

/-- What two schedules one after the other lead to is seen of two reachable states. -/
theorem exists_reaches_of_two_schedules {C ι α β γ : Type} [Fintype ι] [DecidableEq ι]
    (f : Sys ι (Row C) PyError α → β) (g : Sys ι (Row C) PyError α → γ)
    {σ : Sys ι (Row C) PyError α} {is js : List ι} {b : β} {c : γ}
    (h : ((runScheduleIf (fun _ _ => true) σ is).bind fun τ =>
      (runScheduleIf (fun _ _ => true) τ js).map fun τ' => (f τ, g τ')) = some (b, c)) :
    ∃ τ τ', Reaches (fun _ _ => True) σ τ ∧ Reaches (fun _ _ => True) τ τ' ∧ f τ = b ∧ g τ' = c := by
  obtain ⟨τ, hτ, h⟩ := Option.bind_eq_some_iff.mp h
  obtain ⟨τ', hτ', h⟩ := Option.map_eq_some_iff.mp h
  cases h
  have hgood : ∀ (_ : Sys ι (Row C) PyError α) (_ : ι), true = true → True := fun _ _ _ => trivial
  exact ⟨τ, τ', reaches_of_runScheduleIf hgood hτ, reaches_of_runScheduleIf hgood hτ', rfl, rfl⟩

/-- A delete, and an update of the name. -/
def deleteAndRename (i : Bool) : Invocation where
  call := if i then .delete "a"
    else .update "a" { ConnectionPatch.empty with name := .set (some "archive") }
  actor := .null
  env := ⟨if i then 1 else 2, "", 0⟩

/-- An update that read the row before the delete renames the deleted row, which stays deleted. -/
theorem follows_of_reaches_deleteAndRename :
    ∃ row row' : Row Json, row.deletedAt = some 1 ∧ row'.name = "archive" ∧ Follows row row' := by
  have hrun : ((runScheduleIf (fun _ _ => true)
        (Sys.start [bucketRow "a"] fun i => (deleteAndRename i).prog (defaultService none))
        [false, true, true, true, true, true]).bind fun τ =>
      (runScheduleIf (fun _ _ => true) τ [false, false, false, false]).map fun τ' =>
        ((find "a" τ.committed).map Row.deletedAt, (find "a" τ'.committed).map Row.name)) =
      some (some (some 1), some "archive") := by
    decide +kernel
  obtain ⟨σ, σ', hr, hr', hf, hf'⟩ := exists_reaches_of_two_schedules
    (fun τ => (find "a" τ.committed).map Row.deletedAt)
    (fun τ => (find "a" τ.committed).map Row.name) hrun
  obtain ⟨row, hrow, hd⟩ := Option.map_eq_some_iff.mp hf
  obtain ⟨row', hrow', hn⟩ := Option.map_eq_some_iff.mp hf'
  obtain ⟨found, hfound, hfollows⟩ := follows_of_reaches (defaultService none) deleteAndRename
    [bucketRow "a"] (by decide) σ σ' hr hr' "a" row hrow
  rw [hrow'] at hfound
  cases hfound
  exact ⟨row, row', hd, hn, hfollows⟩

section Runs

variable {C ι : Type} [DecidableEq ι]

/-- Once the deletion of a row is committed, a call about it that has read nothing yet ends with no
connection found, whatever the calls that had begun still write. -/
theorem not_found_of_deleted (svc : ConnectionService C) (calls : ι → Invocation)
    (store : List (Row C)) (hkeys : (store.map Row.id).Nodup)
    (σ σ' : Sys ι (Row C) PyError ServiceResult)
    (hr : Reaches (fun _ _ => True) (Sys.start store fun i => (calls i).prog svc) σ)
    (hr' : Reaches (fun _ _ => True) σ σ') (connectionId : String) (row : Row C)
    (hf : find connectionId σ.committed = some row) (hd : row.deletedAt ≠ none) (i : ι)
    (ht : (calls i).call.target = some connectionId) (hi : (σ.tx i).reads = [])
    (r : Except PyError ServiceResult) (ho : (σ'.tx i).prog.outcome = some r) :
    r = .error (.connectionNotFound connectionId) :=
  refused_of_reaches hkeys (fun i => climbs_call svc (calls i)) (fun _ _ h => h.deleted) hr hr' hf
    hd (refuses_deleted svc connectionId ht) hi ho

end Runs

/-- A delete, and a `get` of the same row. -/
def deleteAndGet (i : Bool) : Invocation where
  call := if i then .delete "a" else .get "a"
  actor := .null
  env := ⟨1, "", 0⟩

/-- A `get` that begins when the delete has committed finds no connection. -/
theorem not_found_of_deleted_deleteAndGet :
    ∃ (σ' : Sys Bool (Row Json) PyError ServiceResult) (r : Except PyError ServiceResult),
      (σ'.tx false).prog.outcome = some r ∧ r = .error (.connectionNotFound "a") := by
  have hrun : ((runScheduleIf (fun _ _ => true)
        (Sys.start [bucketRow "a"] fun i => (deleteAndGet i).prog (defaultService none))
        [true, true, true, true, true]).bind fun τ =>
      (runScheduleIf (fun _ _ => true) τ [false]).map fun τ' =>
        (((find "a" τ.committed).map Row.deletedAt, (τ.tx false).reads.isEmpty),
          (τ'.tx false).prog.outcome.isSome)) = some ((some (some 1), true), true) := by
    decide +kernel
  obtain ⟨σ, σ', hr, hr', hf, ho⟩ := exists_reaches_of_two_schedules
    (fun τ => ((find "a" τ.committed).map Row.deletedAt, (τ.tx false).reads.isEmpty))
    (fun τ => (τ.tx false).prog.outcome.isSome) hrun
  simp only [Prod.mk.injEq, List.isEmpty_iff] at hf
  obtain ⟨row, hrow, hd⟩ := Option.map_eq_some_iff.mp hf.1
  obtain ⟨r, ho⟩ := Option.isSome_iff_exists.mp ho
  exact ⟨σ', r, ho, not_found_of_deleted (defaultService none) deleteAndGet [bucketRow "a"]
    (by decide) σ σ' hr hr' "a" row hrow (by simp [hd]) false rfl hf.2 r ho⟩

/-! ## Rows are written whole -/

/-- What a call writes under an id: the draft it prepared, as it was validated. -/
def Prepares {C : Type} (svc : ConnectionService C) (inv : Invocation) (connectionId : String)
    (draft : ConnectionDraft) (v : ValidatedConnection) : Prop :=
  match inv.call with
  | .create payload =>
    connectionId = inv.env.uuid ∧ svc.prepareCreate inv.actor payload = .ok (draft, v)
  | .update id patch => connectionId = id ∧ ∃ row : Row C, row.id = id ∧ row.deletedAt = none ∧
      svc.prepareUpdate inv.actor id patch (toRecord svc.storage row) = .ok (draft, v)
  | _ => False

/-- The row is stored whole by one call, as what the call validated. -/
structure StoredBy {C : Type} (svc : ConnectionService C) (inv : Invocation) (row : Row C)
    (draft : ConnectionDraft) (v : ValidatedConnection) : Prop where
  prepares : Prepares svc inv row.id draft v
  stored : StoredAs svc.storage inv.env draft v row
  updatedAt : row.updatedAt = inv.env.now

/-- Driver options that the call gives as an instance read back. -/
def ServiceCall.WellTyped (importer : Importer) : ServiceCall → Prop
  | .create payload => payload.driverOptions.ReadBack importer
  | .update _ patch => ∀ options, patch.driverOptions = .set options → options.ReadBack importer
  | _ => True

/-- An active row was there at the start or is stored by one of the calls, and is written as one
validated connection. -/
def Whole {C ι : Type} (svc : ConnectionService C) (calls : ι → Invocation) (store : List (Row C))
    (row : Row C) : Prop :=
  row.deletedAt = none → (row ∈ store ∧ ∃ v, Written svc row v) ∨
    ∃ i draft v, StoredBy svc (calls i) row draft v ∧ Written svc row v

section Whole

variable {C ι : Type} {svc : ConnectionService C} {calls : ι → Invocation} {store : List (Row C)}

/-- A whole row that is active is written as some connection. -/
theorem Whole.exists_written {row : Row C} (h : Whole svc calls store row)
    (ha : row.deletedAt = none) : ∃ v, Written svc row v := by
  rcases h ha with ⟨-, v, hw⟩ | ⟨_, _, v, -, hw⟩
  · exact ⟨v, hw⟩
  · exact ⟨v, hw⟩

/-- `update` writes whole rows. -/
theorem writes_update (hback : ReadsBack svc) (hresolver : KeepsWellTyped svc) {i : ι}
    {env : CallEnv} {actor : Json} {connectionId : String} {patch : ConnectionPatch}
    (hi : calls i = ⟨.update connectionId patch, actor, env⟩)
    (htyped : ∀ options, patch.driverOptions = .set options →
      options.ReadBack svc.storage.importer) :
    (svc.update env actor connectionId patch).Writes (Whole svc calls store) := by
  rw [svc.update_eq_rmw]
  refine Rmw.writes_prog _ fun row u hrow hd old new hold _ ha _ => .inr ?_
  simp only [ConnectionService.updateRmw, bind_eq_ok_iff] at hd
  obtain ⟨existing, hget, ⟨merged, validated⟩, hprepare, hu⟩ := hd
  cases hu
  obtain ⟨resolved, spec, hresolve, rfl, hvalid⟩ := validates_of_prepareUpdate hprepare
  simp only [Repository.replaceUpdate] at ha
  cases hb : Repository.bindColumns svc.storage env
      (toPersistedDraft (merge existing resolved) validated) with
  | error e => simp [hb, Except.map] at ha
  | ok columns =>
    simp only [hb, Except.map, Except.ok.injEq] at ha
    subst ha
    cases row with
    | none => cases hget
    | some r =>
      obtain ⟨hactive, -, rfl⟩ := admitGet_eq_ok_iff.mp hget
      obtain ⟨hid, hwhole⟩ := hrow r rfl
      -- Every column but the id, the creation and the deletion time comes from the merged draft.
      have hs := (storedAs_of_bindColumns hb).2 old
      obtain ⟨v, hwritten⟩ := hwhole.exists_written hactive
      have hraw := readBack_merge hresolver hwritten.driverOptions htyped hresolve
      refine ⟨i, _, validated, ⟨?_, by rw [hi]; exact hs, by rw [hi]; rfl⟩,
        written_of_storedAs hback hraw hvalid hs⟩
      simp only [Prepares, hi]
      exact ⟨hold, r, hid, hactive, hprepare⟩

/-- A call writes whole rows. -/
theorem writes_call (hback : ReadsBack svc) (hresolver : KeepsWellTyped svc) (i : ι)
    (htyped : (calls i).call.WellTyped svc.storage.importer) :
    ((calls i).prog svc).Writes (Whole svc calls store) := by
  by_cases hm : (calls i).call.mutates = true
  · rcases hi : calls i with ⟨call, actor, env⟩
    rw [hi] at hm htyped
    unfold Invocation.prog
    cases call with
    | create payload =>
      have h : (svc.create env actor payload).Inserting (Whole svc calls store) := by
        refine inserting_create svc env actor fun draft v columns hp hb _ => .inr ?_
        obtain ⟨hresolve, -, spec, hvalid⟩ := prepareCreate_eq_ok_iff.mp hp
        have hs := (storedAs_of_bindColumns hb).1
        have hraw := hresolver.create _ _ _ htyped hresolve
        refine ⟨i, draft, v, ⟨?_, by rw [hi]; exact hs, by rw [hi]; rfl⟩,
          written_of_storedAs hback hraw hvalid hs⟩
        simp only [Prepares, hi]
        exact ⟨rfl, hp⟩
      exact h.writes.map ServiceResult.record
    | update connectionId patch =>
      exact (writes_update hback hresolver hi htyped).map ServiceResult.record
    | delete connectionId =>
      have h : (svc.delete env actor connectionId).Writes (Whole svc calls store) := by
        rw [svc.delete_eq_rmw]
        refine Rmw.writes_prog _ fun row u _ hd old new _ _ ha hactive => ?_
        simp only [ConnectionService.deleteRmw, bind_eq_ok_iff] at hd
        obtain ⟨existing, -, -, -, hu⟩ := hd
        cases hu
        cases ha
        cases hactive
      exact h.map ServiceResult.record
    | _ => cases hm
  · exact (finishes_of_not_mutates svc (by simpa using hm)).writes

end Whole

/-- In every run of well-typed calls, in any order of their statements, an active row is one that
the store had at the start or is stored whole by one call, as what that call validated. Either way
it reads without an issue, has a public view and is validated as one connection. -/
theorem whole_of_reaches {C ι : Type} [DecidableEq ι] (svc : ConnectionService C)
    (hback : ReadsBack svc) (hpublic : PublicAccepts svc) (hresolver : KeepsWellTyped svc)
    (calls : ι → Invocation) (htyped : ∀ i, (calls i).call.WellTyped svc.storage.importer)
    (store : List (Row C))
    (hstore : ∀ row ∈ store, row.deletedAt = none → ∃ v, Written svc row v)
    (σ : Sys ι (Row C) PyError ServiceResult)
    (hr : Reaches (fun _ _ => True) (Sys.start store fun i => (calls i).prog svc) σ)
    (row : Row C) (hrow : row ∈ σ.committed) (hactive : row.deletedAt = none) :
    ∃ v, (row ∈ store ∨ ∃ i draft, StoredBy svc (calls i) row draft v) ∧
      (toRecord svc.storage row).readIssues = [] ∧
      (∃ view, buildAny svc.registry (toRecord svc.storage row) = .ok (.view view)) ∧
      validate svc.registry (toRecord svc.storage row).toDraft = .ok v := by
  have hversions : Versions (Whole svc calls store) σ :=
    Versions.of_reaches (fun r hr ha => .inl ⟨hr, hstore r hr ha⟩)
      (fun i => writes_call hback hresolver i (htyped i)) hr
  rcases hversions.committed row hrow hactive with ⟨hmem, v, hw⟩ | ⟨i, draft, v, hs, hw⟩
  · exact ⟨v, .inl hmem, hw.readIssues, hw.exists_view hpublic, hw.validate⟩
  · exact ⟨v, .inr ⟨i, draft, hs⟩, hw.readIssues, hw.exists_view hpublic, hw.validate⟩

/-- Two creates of connections with driver options, under the ids `a` and `b`. -/
def twoOdbcCreates (i : Bool) : Invocation where
  call := .create (odbcDraft (if i then "first" else "second"))
  actor := .null
  env := ⟨1, if i then "a" else "b", 0⟩

/-- Two creates whose statements alternate store two rows, each whole. -/
theorem whole_of_reaches_twoOdbcCreates :
    ∃ σ : Sys Bool (Row Json) PyError ServiceResult, activeCount σ.committed = 2 ∧
      ∀ row ∈ σ.committed, row.deletedAt = none →
        ∃ v, (row ∈ ([] : List (Row Json)) ∨
            ∃ i draft, StoredBy odbcService (twoOdbcCreates i) row draft v) ∧
          (toRecord odbcService.storage row).readIssues = [] ∧
          (∃ view, buildAny odbcService.registry (toRecord odbcService.storage row) =
            .ok (.view view)) ∧
          validate odbcService.registry (toRecord odbcService.storage row).toDraft = .ok v := by
  have hrun : ((runScheduleIf (fun _ _ => true)
        (Sys.start [] fun i => (twoOdbcCreates i).prog odbcService)
        [true, false, true, false, true, false]).map fun σ => activeCount σ.committed) = some 2 := by
    decide +kernel
  obtain ⟨σ, hr, hσ⟩ := exists_reaches_of_runScheduleIf (fun _ _ => True)
    (fun _ _ _ => trivial) hrun
  exact ⟨σ, hσ, whole_of_reaches odbcService readsBack_odbcService publicAccepts_odbcService
    keepsWellTyped_odbcService twoOdbcCreates (fun _ => trivial) [] (by simp) σ hr⟩

end DbConnection
