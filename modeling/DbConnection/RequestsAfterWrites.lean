import DbConnection.RefusedRequests

/-!
# Requests after a write

The body that a write was answered with is the one that every later `GET` of the connection is
answered with (`getConnection_after_write`), and a list is answered with what a `GET` of each of its
connections is answered with, or not at all (`listConnections_iff`).
-/

namespace DbConnection

open PyData Pydantic ReadCommitted

/-- The request deletes a connection. -/
def Request.isDelete : Request → Bool
  | .deleteConnection _ => true
  | _ => false

/-- The call of a request that writes a row of a given id is about a connection that the request
changes. -/
theorem changes_of_target {C : Type} {ext : DBConnectionExtension C} {request : Request}
    {call : ServiceCall} {connectionId : String} (h : ext.serviceCall request = .ok call)
    (hm : call.mutates = true) (ht : call.target = some connectionId) :
    request.changes = some connectionId := by
  obtain ⟨_, _, rfl, rfl⟩ | ⟨_, _, _, rfl, rfl⟩ | ⟨_, rfl, rfl⟩ | ⟨hno, -, -⟩ := serviceCall_cases h
  · cases ht
  · exact ht
  · exact ht
  · rw [hno] at hm
    cases hm

section Served

variable {C : Type} (ext : DBConnectionExtension C) {connectionId : String} {row : Row C}

/-- A request that does not change a connection leaves its row. -/
theorem find_handle {store : List (Row C)} (hf : find connectionId store = some row)
    {exchange : Exchange} (h : exchange.request.changes ≠ some connectionId) :
    find connectionId (ext.handle exchange store).2 = some row := by
  rw [ext.handle_eq]
  cases hcall : ext.serviceCall exchange.request with
  | error e => exact hf
  | ok call =>
    refine find_run_of_not_about ext.service hf fun hm ht => h ?_
    exact changes_of_target hcall hm ht

/-- Nor does a run of such requests change it. -/
theorem find_serve {store : List (Row C)} (hf : find connectionId store = some row)
    {exchanges : List Exchange}
    (h : ∀ exchange ∈ exchanges, exchange.request.changes ≠ some connectionId) :
    find connectionId (ext.serve exchanges store).2 = some row := by
  induction exchanges generalizing store with
  | nil => exact hf
  | cons exchange exchanges ih =>
    exact ih (find_handle ext hf (h exchange List.mem_cons_self))
      fun other hother => h other (List.mem_cons_of_mem _ hother)

/-- The answer to a `GET` of a connection that the store has. -/
theorem handle_getConnection {store : List (Row C)} (hf : find connectionId store = some row)
    (reader : Json) (env : CallEnv) :
    ext.handle ⟨.getConnection connectionId, reader, env⟩ store =
      (.respond .connection (if row.deletedAt.isSome then .error (.connectionNotFound connectionId)
        else do
          ext.service.accessPolicy.canGetOne ⟨reader, "get", some connectionId, none⟩
            (toRecord ext.service.storage row)
          ext.readResponse (toRecord ext.service.storage row)), store) := by
  unfold DBConnectionExtension.handle DBConnectionExtension.getConnection
  dsimp only
  rw [run_get, hf]
  unfold ConnectionService.admitGet
  dsimp only [Option.map_some]
  have hdeleted : (toRecord ext.service.storage row).deletedAt = row.deletedAt := rfl
  rw [hdeleted]
  split
  · rfl
  · cases ext.service.accessPolicy.canGetOne ⟨reader, "get", some connectionId, none⟩
      (toRecord ext.service.storage row) <;> rfl

/-- The response to a new connection of well-formed models is the one to its record read again. -/
theorem readResponse_of_create {ext : DBConnectionExtension C} (hback : ReadsBack ext.service)
    (hpublic : PublicAccepts ext.service) (hresolver : KeepsWellTyped ext.service)
    {env : CallEnv} {actor : Json} {raw : Dict Json} {store store' : List (Row C)}
    {record : ConnectionRecord}
    (hrun : (ext.service.create env actor (toCreateDraft raw)).run store = (.ok record, store')) :
    createdResponse ext.service ext.schemas record = ext.readResponse record := by
  obtain ⟨view, hview⟩ := exists_view_of_create hback hpublic hresolver
    (readBack_toCreateDraft _ raw) hrun
  unfold createdResponse DBConnectionExtension.readResponse buildReadResponse
  rw [build_of_buildAny hview, hview]
  rfl

/-- A request that writes a connection and is answered with a body wrote a row whose record has that
body as its response. -/
theorem exists_row_of_handle {ext : DBConnectionExtension C} (hback : ReadsBack ext.service)
    (hpublic : PublicAccepts ext.service) (hresolver : KeepsWellTyped ext.service)
    {exchange : Exchange} (hwritten : exchange.written = some connectionId)
    {store store' : List (Row C)} {body : Parsed}
    (h : ext.handle exchange store = (.connection body, store')) :
    ∃ row, find connectionId store' = some row ∧
      row.deletedAt.isSome = exchange.request.isDelete ∧
      ext.readResponse (toRecord ext.service.storage row) = .ok body := by
  rw [ext.handle_eq] at h
  cases hcall : ext.serviceCall exchange.request with
  | error answer =>
    rw [hcall] at h
    cases h
    rcases refused_of_serviceCall hcall with ⟨_, he⟩ | ⟨_, he⟩ <;> cases he
  | ok call =>
    rw [hcall] at h
    dsimp only [Prod.map_apply, id_eq] at h
    rcases hrun : ((⟨call, exchange.actor, exchange.env⟩ : Invocation).prog ext.service).run store
      with ⟨result, store''⟩
    rw [hrun, Prod.mk.injEq] at h
    obtain ⟨hanswer, rfl⟩ := h
    -- The call writes the connection that the request does.
    have hcallWritten : (⟨call, exchange.actor, exchange.env⟩ : Invocation).written =
        some connectionId ∧ call.isDelete = exchange.request.isDelete := by
      obtain ⟨request, actor, env⟩ := exchange
      obtain ⟨_, _, rfl, rfl⟩ | ⟨_, _, _, rfl, rfl⟩ | ⟨_, rfl, rfl⟩ | ⟨-, -, hno⟩ :=
        serviceCall_cases hcall
      · exact ⟨hwritten, rfl⟩
      · exact ⟨hwritten, rfl⟩
      · exact ⟨hwritten, rfl⟩
      · rw [hno] at hwritten
        cases hwritten
    cases result with
    | error e => cases hanswer
    | ok result =>
      obtain ⟨row, rfl, hf, -, hdeleted⟩ := record_of_run ext.service hcallWritten.1 hrun
      refine ⟨row, hf, hdeleted.trans hcallWritten.2, ?_⟩
      have hresponse := eq_ok_of_respond hanswer
      split at hresponse
      · rename_i hcreate
        obtain ⟨raw, rfl⟩ := exists_raw_of_isCreate hcall hcreate
        rw [← readResponse_of_create hback hpublic hresolver (run_create_of_prog ext.service hrun)]
        exact hresponse
      · exact hresponse

end Served

/-- The body that a create, an update or a delete is answered with is the one that every `GET` of the
connection is answered with from then on, through any run of requests that do not change it, where
the policy lets the reader have it; after a delete every `GET` is answered that there is no such
connection. -/
theorem getConnection_after_write {C : Type} (ext : DBConnectionExtension C)
    (hback : ReadsBack ext.service) (hpublic : PublicAccepts ext.service)
    (hresolver : KeepsWellTyped ext.service) (exchange : Exchange) (connectionId : String)
    (hwritten : exchange.written = some connectionId) (store store' : List (Row C)) (body : Parsed)
    (h : ext.handle exchange store = (.connection body, store')) (later : List Exchange)
    (hlater : ∀ other ∈ later, other.request.changes ≠ some connectionId) (reader : Json)
    (hget : ∀ record, ext.readResponse record = .ok body → ext.service.accessPolicy.canGetOne
      ⟨reader, "get", some connectionId, none⟩ record = .ok ()) (env : CallEnv) :
    (ext.handle ⟨.getConnection connectionId, reader, env⟩ (ext.serve later store').2).1 =
      if exchange.request.isDelete then
        .httpException (mapException (.connectionNotFound connectionId))
      else .connection body := by
  obtain ⟨row, hf, hdeleted, hresponse⟩ :=
    exists_row_of_handle hback hpublic hresolver hwritten h
  rw [handle_getConnection ext (find_serve ext hf hlater), hdeleted, hget _ hresponse, hresponse]
  cases exchange.request.isDelete <;> rfl

/-- A new connection is read again after a request that is refused. -/
theorem getConnection_after_write_odbc :
    ∃ body store', odbcExtension.handle ⟨.createConnection (odbcBody "first"), .null, ⟨1, "a", 0⟩⟩
        [] = (.connection body, store') ∧
      (odbcExtension.handle ⟨.getConnection "a", .null, ⟨3, "", 0⟩⟩
        (odbcExtension.serve [⟨.deleteConnection "b", .null, ⟨2, "", 0⟩⟩] store').2).1 =
          .connection body := by
  have hbody : (odbcExtension.handle ⟨.createConnection (odbcBody "first"), .null, ⟨1, "a", 0⟩⟩
      []).1.body?.isSome = true := by
    decide +kernel
  rcases h : odbcExtension.handle ⟨.createConnection (odbcBody "first"), .null, ⟨1, "a", 0⟩⟩ []
    with ⟨answer, store'⟩
  rw [h] at hbody
  cases answer with
  | connection body =>
    have hget := getConnection_after_write odbcExtension readsBack_odbcService
      publicAccepts_odbcService keepsWellTyped_odbcService
      ⟨.createConnection (odbcBody "first"), .null, ⟨1, "a", 0⟩⟩ "a" rfl [] store' body h
      [⟨.deleteConnection "b", .null, ⟨2, "", 0⟩⟩] (by simp [Request.changes]) .null
      (fun _ _ => rfl) ⟨3, "", 0⟩
    exact ⟨body, store', rfl, hget⟩
  | _ => cases hbody

/-- A listed record is that of an active row, if the query does not ask for deleted ones. -/
theorem exists_row_of_listed {C : Type} {storage : Storage C} {query : ConnectionListQuery}
    (hdeleted : query.includeDeleted = false) {store : List (Row C)} {record : ConnectionRecord}
    (h : record ∈ listed storage query store) :
    ∃ row ∈ store, row.deletedAt = none ∧ record = toRecord storage row := by
  unfold listed at h
  obtain ⟨row, hrow, rfl⟩ := List.mem_map.mp (List.mem_of_mem_filter h)
  obtain ⟨hmem, hmatches⟩ := List.mem_filter.mp hrow
  refine ⟨row, hmem, ?_, rfl⟩
  unfold Repository.matchesStatement at hmatches
  simpa [hdeleted] using (Bool.and_eq_true_iff.mp (Bool.and_eq_true_iff.mp
    (Bool.and_eq_true_iff.mp hmatches).1).1).1

/-- Where the filters of a list are read and the policy lets the reader have the listed connections,
the list is answered with bodies exactly when these are what a `GET` of each connection is answered
with, in the store's order; so it fails when one of these does. -/
theorem listConnections_iff {C : Type} (ext : DBConnectionExtension C) (store : List (Row C))
    (hkeys : (store.map Row.id).Nodup) (parameters : ListParameters)
    (query scopedQuery : ConnectionListQuery) (reader : Json)
    (hquery : ext.listQuery parameters = .ok query)
    (hscope : ext.service.accessPolicy.scopeList ⟨reader, "list", none, none⟩ query = .ok scopedQuery)
    (hdeleted : scopedQuery.includeDeleted = false)
    (hget : ∀ record ∈ listed ext.service.storage scopedQuery store,
      ext.service.accessPolicy.canGetOne ⟨reader, "get", some record.id, none⟩ record = .ok ())
    (env : CallEnv) (bodies : List Parsed) :
    (ext.handle ⟨.listConnections parameters, reader, env⟩ store).1 = .connections bodies ↔
      List.Forall₂ (fun record body =>
          (ext.handle ⟨.getConnection record.id, reader, env⟩ store).1 = .connection body)
        (listed ext.service.storage scopedQuery store) bodies := by
  have hlist : (ext.handle ⟨.listConnections parameters, reader, env⟩ store).1 =
      .respond .connections ((listed ext.service.storage scopedQuery store).mapM
        ext.readResponse) := by
    unfold DBConnectionExtension.handle listConnections
    dsimp only
    rw [hquery, ok_bind, run_list, hscope]
    rfl
  -- A listed record is the record of an active row, which `GET` finds.
  have hone : ∀ record ∈ listed ext.service.storage scopedQuery store,
      (ext.handle ⟨.getConnection record.id, reader, env⟩ store).1 =
        .respond .connection (ext.readResponse record) := by
    intro record hrecord
    obtain ⟨row, hrow, hactive, rfl⟩ := exists_row_of_listed hdeleted hrecord
    have hf : find row.id store = some row := find_of_mem hkeys hrow
    have hrecordId : (toRecord ext.service.storage row).id = row.id := rfl
    rw [hrecordId, handle_getConnection ext hf]
    have hg := hget _ hrecord
    rw [hrecordId] at hg
    rw [hactive, hg]
    rfl
  have hbody : ∀ {x : Except PyError Parsed} {body : Parsed},
      Answer.respond .connection x = .connection body ↔ x = .ok body :=
    ⟨eq_ok_of_respond, fun hx => hx ▸ rfl⟩
  have hforall : List.Forall₂ (fun record body =>
        (ext.handle ⟨.getConnection record.id, reader, env⟩ store).1 = .connection body)
      (listed ext.service.storage scopedQuery store) bodies ↔
        List.Forall₂ (fun record body => ext.readResponse record = .ok body)
          (listed ext.service.storage scopedQuery store) bodies := by
    rw [List.forall₂_iff_zip, List.forall₂_iff_zip]
    refine and_congr_right fun _ => forall₂_congr fun record body =>
      forall_congr' fun hmem => ?_
    rw [hone record (List.of_mem_zip hmem).1]
    exact hbody
  rw [hlist, hforall]
  cases hm : (listed ext.service.storage scopedQuery store).mapM ext.readResponse with
  | error e =>
    refine ⟨fun h => (by cases h), fun h => ?_⟩
    rw [mapM_of_forall₂ h] at hm
    cases hm
  | ok bodies' =>
    refine ⟨fun h => ?_, fun h => ?_⟩
    · cases h
      exact forall₂_of_mapM hm
    · rw [mapM_of_forall₂ h] at hm
      cases hm
      rfl

/-- The extension over the default registry. -/
def bucketExtension : DBConnectionExtension Json where
  service := defaultService none
  schemas := noDateSchemas
  brokenRead := brokenConnectionReadResponse fun _ => none
  loads _ := .error .decode
  runCheck call := .ok (checkSuccess call.connection "Connection successful.")

/-- No query parameter. -/
def ListParameters.none : ListParameters := ⟨.none, .none, .none, .none, .none, .none⟩

/-- Two stored connections are listed as a `GET` of each shows them. -/
theorem listConnections_iff_buckets :
    ∃ bodies, (bucketExtension.handle ⟨.listConnections .none, .null, ⟨1, "", 0⟩⟩
        [bucketRow "a", bucketRow "b"]).1 = .connections bodies ∧
      List.Forall₂ (fun record body => (bucketExtension.handle
            ⟨.getConnection record.id, .null, ⟨1, "", 0⟩⟩ [bucketRow "a", bucketRow "b"]).1 =
          .connection body)
        (listed (defaultService none).storage .all [bucketRow "a", bucketRow "b"]) bodies := by
  obtain ⟨bodies, h⟩ : ∃ bodies, (bucketExtension.handle
      ⟨.listConnections .none, .null, ⟨1, "", 0⟩⟩ [bucketRow "a", bucketRow "b"]).1 =
        .connections bodies := by
    have hok : ((listed (defaultService none).storage .all [bucketRow "a", bucketRow "b"]).mapM
        bucketExtension.readResponse).isOk = true := by
      decide +kernel
    obtain ⟨bodies, hbodies⟩ := exists_of_isOk hok
    exact ⟨bodies, congrArg (Answer.respond .connections) hbodies⟩
  exact ⟨bodies, h, (listConnections_iff bucketExtension [bucketRow "a", bucketRow "b"] (by decide)
    .none .all .all .null rfl rfl rfl (fun _ _ => rfl) ⟨1, "", 0⟩ bodies).mp h⟩

end DbConnection
