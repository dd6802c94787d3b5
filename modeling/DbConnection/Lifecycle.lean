import DbConnection.Checks
import DbConnection.ConnectionLimit

/-!
# The life cycle of a row

Calls of the service run one after another, each with its own unit of work. The repository's
`replace` and `delete` find their row by its id alone, so what protects a deleted row, and a row's
kind and type, is what the service does before it calls them. `step_cases` lists the three things a
call can do to the store; the invariants of whole runs (`Kept`) follow from it by induction on the
run.
-/

namespace DbConnection

open PyData Pydantic ReadCommitted

/-- The connection that a call is about, where it is about one. -/
def ServiceCall.target : ServiceCall → Option String
  | .get connectionId => some connectionId
  | .update connectionId _ => some connectionId
  | .delete connectionId => some connectionId
  | .checkStored connectionId _ => some connectionId
  | _ => none

/-- The call stores what it did. -/
def ServiceCall.mutates : ServiceCall → Bool
  | .create _ => true
  | .update _ _ => true
  | .delete _ => true
  | _ => false

/-- The store after calls run one after another. -/
def ConnectionService.runCalls {C : Type} (svc : ConnectionService C) (calls : List Invocation)
    (store : List (Row C)) : List (Row C) :=
  calls.foldl (fun store inv => ((inv.prog svc).run store).2) store

/-- What may become of a row. -/
structure Evolves {C : Type} (row row' : Row C) : Prop where
  id : row'.id = row.id
  kind : row'.kind = row.kind
  type : row'.type = row.type
  createdAt : row'.createdAt = row.createdAt
  /-- A deleted row stays as it is, in every column. -/
  frozen : row.deletedAt ≠ none → row' = row

/-- Every row of the store is in the other in its place, as what may become of it. -/
def Kept {C : Type} (store store' : List (Row C)) : Prop :=
  ∀ (i : Nat) (row : Row C), store[i]? = some row → ∃ row', store'[i]? = some row' ∧ Evolves row row'

section Rows

variable {C : Type} {store store' : List (Row C)} {row row' : Row C} {connectionId : String}

theorem Evolves.refl (row : Row C) : Evolves row row := ⟨rfl, rfl, rfl, rfl, fun _ => rfl⟩

theorem Evolves.trans {row'' : Row C} (h : Evolves row row') (h' : Evolves row' row'') :
    Evolves row row'' where
  id := h'.id.trans h.id
  kind := h'.kind.trans h.kind
  type := h'.type.trans h.type
  createdAt := h'.createdAt.trans h.createdAt
  frozen hd := by
    have hrow := h.frozen hd
    subst hrow
    exact h'.frozen hd

theorem Kept.refl (store : List (Row C)) : Kept store store :=
  fun _ row hrow => ⟨row, hrow, Evolves.refl row⟩

theorem Kept.trans {store'' : List (Row C)} (h : Kept store store') (h' : Kept store' store'') :
    Kept store store'' := by
  intro i row hrow
  obtain ⟨row', hrow', he⟩ := h i row hrow
  obtain ⟨row'', hrow'', he'⟩ := h' i row' hrow'
  exact ⟨row'', hrow'', he.trans he'⟩

/-- A row that is found is still found, as what became of it. -/
theorem Kept.find (h : Kept store store') (hf : find connectionId store = some row) :
    ∃ row', find connectionId store' = some row' ∧ Evolves row row' := by
  induction store generalizing store' with
  | nil => cases hf
  | cons x xs ih =>
    obtain ⟨y, hy, hxy⟩ := h 0 x rfl
    cases store' with
    | nil => cases hy
    | cons z zs =>
      have hz : z = y := by simpa using hy
      subst hz
      have hid : z.id = x.id := hxy.id
      by_cases hx : x.id = connectionId
      · -- The first row with the id is the one found, before and after.
        have hrow : x = row := by simpa [ReadCommitted.find, key, hx] using hf
        subst hrow
        exact ⟨z, by simp [ReadCommitted.find, key, hid, hx], hxy⟩
      · have hf' : ReadCommitted.find connectionId xs = some row := by
          simpa [ReadCommitted.find, key, hx] using hf
        obtain ⟨row', hrow', he⟩ := ih (fun i r hr => h (i + 1) r hr) hf'
        exact ⟨row', by simpa [ReadCommitted.find, key, hid, hx] using hrow', he⟩

/-- Writing what became of the row of its id keeps every row. -/
theorem kept_put (hf : find row'.id store = some row) (he : Evolves row row') :
    Kept store (put store row') := by
  induction store with
  | nil => cases hf
  | cons x xs ih =>
    by_cases hx : x.id = row'.id
    · have hrow : x = row := by simpa [find, key, hx] using hf
      subst hrow
      intro i r hr
      cases i with
      | zero =>
        have hr' : x = r := by simpa using hr
        subst hr'
        exact ⟨row', by simp [put, key, hx], he⟩
      | succ i => exact ⟨r, by simpa [put, key, hx] using hr, Evolves.refl r⟩
    · have hf' : find row'.id xs = some row := by simpa [find, key, hx] using hf
      intro i r hr
      cases i with
      | zero => exact ⟨r, by simpa [put, key, hx] using hr, Evolves.refl r⟩
      | succ i =>
        obtain ⟨r', hr', he'⟩ := ih hf' i r (by simpa using hr)
        exact ⟨r', by simpa [put, key, hx] using hr', he'⟩

/-- A row under a new id is written after the others. -/
theorem put_of_find_eq_none (hf : find row.id store = none) : put store row = store ++ [row] := by
  induction store with
  | nil => rfl
  | cons x xs ih =>
    by_cases hx : x.id = row.id
    · simp [find, key, hx] at hf
    · have hf' : find row.id xs = none := by simpa [find, key, hx] using hf
      simp [put, key, hx, ih hf']

/-- Writing a row under a new id keeps every row. -/
theorem kept_put_new (hf : find row.id store = none) : Kept store (put store row) := by
  intro i r hr
  rw [put_of_find_eq_none hf]
  have hi : i < store.length := (List.getElem?_eq_some_iff.mp hr).1
  exact ⟨r, by rw [List.getElem?_append_left hi, hr], Evolves.refl r⟩

end Rows

section Calls

variable {C : Type} (svc : ConnectionService C) (env : CallEnv) (actor : Json)
  (connectionId : String) (store : List (Row C))

/-- A transaction with its result renamed, run alone. -/
theorem run_map {α β : Type} (p : Txn C α) (f : α → β) :
    Prog.run (p >>= fun a => pure (f a)) store = ((p.run store).1.map f, (p.run store).2) := by
  unfold Prog.run
  rw [Prog.exec_bind]
  rcases p.exec store [] with ⟨result, committed, pend⟩
  cases result with
  | error e => rfl
  | ok a => rfl

/-- `get` run alone. -/
theorem run_get :
    (svc.get actor connectionId).run store =
      (svc.admitGet actor connectionId ((find connectionId store).map (toRecord svc.storage)),
        store) := by
  have hrow : (store.filter (byKey connectionId)).head? = find connectionId store :=
    head?_filter_key store connectionId
  unfold Prog.run ConnectionService.get Repository.get Repository.fetchRow
  simp only [bind, Prog.bind, Prog.exec, overlay_nil, hrow, pure]
  cases svc.admitGet actor connectionId ((find connectionId store).map (toRecord svc.storage)) <;> rfl

/-- The records that `list` of the repository returns. -/
def listed (storage : Storage C) (query : ConnectionListQuery) (store : List (Row C)) :
    List ConnectionRecord :=
  ((store.filter (Repository.matchesStatement storage query)).map (toRecord storage)).filter
    fun record => Repository.matchesFilters record query

/-- `list` run alone. -/
theorem run_list (query : ConnectionListQuery) :
    (svc.list actor query).run store =
      ((svc.accessPolicy.scopeList ⟨actor, "list", none, none⟩ query).map fun scopedQuery =>
        listed svc.storage scopedQuery store, store) := by
  unfold Prog.run ConnectionService.list
  cases svc.accessPolicy.scopeList ⟨actor, "list", none, none⟩ query with
  | error e => rfl
  | ok scopedQuery => rfl

/-- A call that does not mutate leaves the store as it is. -/
theorem run_of_not_mutates {inv : Invocation} (h : inv.call.mutates = false) :
    ((inv.prog svc).run store).2 = store := by
  obtain ⟨call, actor, env⟩ := inv
  unfold Invocation.prog
  cases call with
  | create payload => cases h
  | update connectionId patch => cases h
  | delete connectionId => cases h
  | list query => rw [run_map, run_list]
  | get connectionId => rw [run_map, run_get]
  | checkStored connectionId patch => rw [run_map, run_checkStored]
  | checkPayload payload =>
    rw [run_map]
    cases svc.checkPayload actor payload <;> rfl

/-- What a call does to the store: nothing, a new row, or a change of the active row of its
connection. -/
theorem step_cases (inv : Invocation) :
    ((inv.prog svc).run store).2 = store ∨
      (∃ row, find row.id store = none ∧ ((inv.prog svc).run store).2 = put store row) ∨
      ∃ row row', find row'.id store = some row ∧ row.deletedAt = none ∧ Evolves row row' ∧
        ((inv.prog svc).run store).2 = put store row' := by
  by_cases hm : inv.call.mutates = true
  · obtain ⟨call, actor, env⟩ := inv
    unfold Invocation.prog
    cases call with
    | create payload =>
      rw [run_map, svc.run_create]
      cases hc : svc.createdRow env actor store payload with
      | error e => exact .inl rfl
      | ok row =>
        obtain ⟨resolved, validated, columns, -, -, -, hfresh, rfl⟩ := createdRow_eq_ok_iff.mp hc
        exact .inr (.inl ⟨_, hfresh, rfl⟩)
    | update connectionId patch =>
      rw [run_map, svc.run_update]
      unfold ConnectionService.answer
      cases hf : find connectionId store with
      | none => exact .inl rfl
      | some row =>
        dsimp only
        cases hu : svc.updatedRow env actor connectionId patch row with
        | error e => exact .inl rfl
        | ok row' =>
          obtain ⟨resolved, spec, validated, h⟩ := updates_of_updatedRow hu
          have hid : row'.id = connectionId := h.id.trans (find_eq_some hf).2
          -- The merged draft has the kind and the type of the row.
          have he : Evolves row row' := ⟨h.id, h.stored.kind, h.stored.type, h.createdAt,
            fun hd => absurd h.active hd⟩
          exact .inr (.inr ⟨row, row', by rw [hid, hf], h.active, he, rfl⟩)
    | delete connectionId =>
      rw [run_map, svc.run_delete]
      unfold ConnectionService.answer
      cases hf : find connectionId store with
      | none => exact .inl rfl
      | some row =>
        dsimp only
        cases hd : svc.deletedRow env actor connectionId row with
        | error e => exact .inl rfl
        | ok row' =>
          unfold ConnectionService.deletedRow at hd
          obtain ⟨existing, hget, hd⟩ := bind_eq_ok_iff.mp hd
          obtain ⟨-, -, hd⟩ := bind_eq_ok_iff.mp hd
          cases hd
          have hactive : row.deletedAt = none := (admitGet_eq_ok_iff.mp hget).1
          have hid : row.id = connectionId := (find_eq_some hf).2
          have he : Evolves row
              { row with deletedAt := some env.now, updatedAt := env.now } :=
            ⟨rfl, rfl, rfl, rfl, fun hd => absurd hactive hd⟩
          exact .inr (.inr ⟨row, _, by rw [← hf, ← hid], hactive, he, rfl⟩)
    | _ => cases hm
  · exact .inl (run_of_not_mutates svc store (by simpa using hm))

/-- A call keeps every row. -/
theorem kept_run (inv : Invocation) : Kept store ((inv.prog svc).run store).2 := by
  rcases step_cases svc store inv with h | ⟨row, hf, h⟩ | ⟨row, row', hf, -, he, h⟩
  · rw [h]
    exact Kept.refl store
  · rw [h]
    exact kept_put_new hf
  · rw [h]
    exact kept_put hf he

/-- So does a run of calls. -/
theorem kept_runCalls (calls : List Invocation) : Kept store (svc.runCalls calls store) := by
  induction calls generalizing store with
  | nil => exact Kept.refl store
  | cons inv calls ih => exact (kept_run svc store inv).trans (ih _)

/-- A run goes on from the store that its first part left. -/
theorem runCalls_append (past later : List Invocation) :
    svc.runCalls (past ++ later) store = svc.runCalls later (svc.runCalls past store) := by
  unfold ConnectionService.runCalls
  rw [List.foldl_append]

/-- `get` does not find a deleted row. -/
theorem admitGet_of_deleted {row : Row C} (hd : row.deletedAt ≠ none) :
    svc.admitGet actor connectionId (some (toRecord svc.storage row)) =
      .error (.connectionNotFound connectionId) := by
  have hs : (toRecord svc.storage row).deletedAt.isSome = true := Option.isSome_iff_ne_none.mpr hd
  unfold ConnectionService.admitGet
  simp only [hs, if_true]

/-- No call that is about a deleted row finds it. -/
theorem run_of_deleted {inv : Invocation} {row : Row C} (ht : inv.call.target = some connectionId)
    (hf : find connectionId store = some row) (hd : row.deletedAt ≠ none) :
    (inv.prog svc).run store = (.error (.connectionNotFound connectionId), store) := by
  obtain ⟨call, actor, env⟩ := inv
  have hget := admitGet_of_deleted svc actor connectionId hd
  unfold Invocation.prog
  cases call with
  | get id =>
    cases ht
    rw [run_map, run_get, hf, Option.map_some, hget]
    rfl
  | update id patch =>
    cases ht
    rw [run_map, svc.run_update_of_find env actor connectionId hf]
    unfold ConnectionService.updatedRow
    rw [hget]
    rfl
  | delete id =>
    cases ht
    rw [run_map, svc.run_delete]
    unfold ConnectionService.answer ConnectionService.deletedRow
    simp only [hf, hget]
    rfl
  | checkStored id patch =>
    cases ht
    rw [run_map, run_checkStored, hf]
    simp only [hget]
    rfl
  | _ => cases ht

/-- A deleted row is listed only where the query asks for deleted rows. -/
theorem includeDeleted_of_mem_listed {storage : Storage C} {query : ConnectionListQuery}
    {record : ConnectionRecord} (h : record ∈ listed storage query store)
    (hd : record.deletedAt ≠ none) : query.includeDeleted = true := by
  obtain ⟨row, hrow, rfl⟩ := List.mem_map.mp (List.mem_of_mem_filter h)
  have hm := (List.mem_filter.mp hrow).2
  simp only [Repository.matchesStatement, Bool.and_eq_true, Bool.or_eq_true] at hm
  rcases hm.1.1.1 with hinclude | hactive
  · exact hinclude
  · exact absurd (Option.isNone_iff_eq_none.mp hactive) hd

end Calls

/-- The life cycle of rows along a run, from any store and up to any point of the run: the rows
there are kept to its end, and no more than active rows change (`Kept`); a row that is deleted then
is found by no call that is about it, then or later; and the calls that do not mutate change
nothing and list deleted rows only where the scoped query asks for them. -/
theorem life_cycle {C : Type} (svc : ConnectionService C) (store : List (Row C))
    (past later : List Invocation) :
    Kept (svc.runCalls past store) (svc.runCalls (past ++ later) store) ∧
      (∀ connectionId row, find connectionId (svc.runCalls past store) = some row →
        row.deletedAt ≠ none →
          find connectionId (svc.runCalls (past ++ later) store) = some row ∧
            ∀ inv : Invocation, inv.call.target = some connectionId →
              (inv.prog svc).run (svc.runCalls (past ++ later) store) =
                (.error (.connectionNotFound connectionId),
                  svc.runCalls (past ++ later) store)) ∧
      (∀ inv : Invocation, inv.call.mutates = false →
        ((inv.prog svc).run (svc.runCalls past store)).2 = svc.runCalls past store) ∧
      ∀ actor query records,
        ((svc.list actor query).run (svc.runCalls past store)).1 = .ok records →
          ∃ scopedQuery,
            svc.accessPolicy.scopeList ⟨actor, "list", none, none⟩ query = .ok scopedQuery ∧
            ∀ record ∈ records, record.deletedAt ≠ none → scopedQuery.includeDeleted = true := by
  rw [runCalls_append]
  generalize svc.runCalls past store = before
  have hkept := kept_runCalls svc before later
  refine ⟨hkept, fun connectionId row hf hd => ?_, fun inv hm => run_of_not_mutates svc before hm,
    fun actor query records h => ?_⟩
  · obtain ⟨row', hf', he⟩ := hkept.find hf
    have hrow : row' = row := he.frozen hd
    subst hrow
    exact ⟨hf', fun inv ht => run_of_deleted svc connectionId _ ht hf' hd⟩
  · rw [run_list] at h
    cases hs : svc.accessPolicy.scopeList ⟨actor, "list", none, none⟩ query with
    | error e => simp [hs, Except.map] at h
    | ok scopedQuery =>
      simp only [hs, Except.map, Except.ok.injEq] at h
      refine ⟨scopedQuery, rfl, fun record hrecord hd => ?_⟩
      exact includeDeleted_of_mem_listed before (h ▸ hrecord) hd

end DbConnection
