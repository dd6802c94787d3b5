import DbConnection.ClassifiedErrors
import DbConnection.Checks
import DbConnection.HealthChecks
import DbConnection.Lifecycle
import DbConnection.Mapper

/-!
# HTTP requests

The routes of `fastapi/extension.py` over one store, each request with a unit of work of its own. A
body that the schema refuses is answered before the endpoint runs, the filters of a list are decoded
before the service is called, and what is raised on the way is answered as the error mapper says. A
request is one call of the service, with an answer made of what the call returned (`handle_eq`), or
an answer without a call.
-/

namespace DbConnection

open PyData Pydantic ReadCommitted

/-- The query parameters of a list. The filters are texts that hold JSON. -/
structure ListParameters where
  kind : Option String
  type : Option String
  name : Option String
  labels : Option String
  metadata : Option String
  extra : Option String
  deriving DecidableEq, Repr

/-- A request to the router. -/
inductive Request where
  | listConnections (parameters : ListParameters)
  | createConnection (body : Json)
  | getConnection (connectionId : String)
  | updateConnection (connectionId : String) (body : Json)
  | deleteConnection (connectionId : String)
  | checkConnection (body : Json)
  | checkStoredConnection (connectionId : String) (body : Option Json)
  deriving DecidableEq, Repr

/-- The answer to a request. -/
inductive Answer where
  | connection (body : Parsed)
  | connections (bodies : List Parsed)
  | checked (result : ConnectionCheckResult)
  /-- `RequestValidationError`. -/
  | unprocessable (error : ValidationError)
  | httpException (spec : ErrorResponseSpec)
  deriving DecidableEq, Repr

/-- What `json.loads` raises: a `JSONDecodeError`, or another exception. -/
inductive LoadsError where
  | decode
  | raised (exc : RaisedException)
  deriving DecidableEq, Repr

namespace Answer

/-- The answer to a body that the schema does not read: the route refuses it, and answers what else
a model raises as what an endpoint raises. -/
def ofBody : ModelError → Answer
  | .validation error => .unprocessable error
  | .raised exc => .httpException (mapException (.other exc.cls exc.message))

/-- The status of an answer. -/
def statusCode : Answer → Nat
  | .unprocessable _ => 422
  | .httpException spec => spec.statusCode
  | _ => 200

/-- The body of a connection. -/
def body? : Answer → Option Parsed
  | .connection body => some body
  | _ => none

/-- The request was refused with a client error. -/
def isClientError (answer : Answer) : Bool :=
  400 ≤ answer.statusCode && answer.statusCode < 500

/-- The route handler: what the endpoint raises is answered by `_to_http_exception`. -/
def respond {α : Type} (answer : α → Answer) : Except PyError α → Answer
  | .ok a => answer a
  | .error e => .httpException (mapException e)

end Answer

/-- A request by an actor, with what its endpoint takes from its environment. -/
structure Exchange where
  request : Request
  actor : Json
  env : CallEnv
  deriving DecidableEq, Repr

/-- `DBConnectionExtension`, with the default mapper. -/
structure DBConnectionExtension (C : Type) where
  service : ConnectionService C
  schemas : APISchemaSet
  brokenRead : ModelDecl
  /-- `json.loads`. -/
  loads : String → Except LoadsError Json
  /-- What a connector makes of a check. -/
  runCheck : ConnectorCall → Except PyError ConnectionCheckResult

namespace DBConnectionExtension

variable {C : Type} (ext : DBConnectionExtension C) (env : CallEnv) (actor : Json)
  (connectionId : String) (store : List (Row C))

/-- `_parse_filter_param`. -/
def parseFilterParam (fieldName : String) : Option String → Except PyError (Dict Json)
  | none => .ok []
  | some rawValue =>
    match ext.loads rawValue with
    | .error .decode => .error (.validationFailed
        s!"Query parameter '{fieldName}' must contain valid JSON." [("parameter", .str fieldName)])
    | .error (.raised exc) => .error (.other exc.cls exc.message)
    | .ok (.obj items) => .ok items
    | .ok _ => .error (.validationFailed
        s!"Query parameter '{fieldName}' must decode to a JSON object."
        [("parameter", .str fieldName)])

/-- The query of `list_connections`. -/
def listQuery (parameters : ListParameters) : Except PyError ConnectionListQuery := do
  let labelFilters ← ext.parseFilterParam "labels" parameters.labels
  let metadataFilters ← ext.parseFilterParam "metadata" parameters.metadata
  let extraFilters ← ext.parseFilterParam "extra" parameters.extra
  return ⟨parameters.kind, parameters.type, parameters.name, false, labelFilters, metadataFilters,
    extraFilters⟩

/-- `_build_read_response`. -/
def readResponse (record : ConnectionRecord) : Except PyError Parsed :=
  buildReadResponse ext.service ext.schemas ext.brokenRead record

/-- `get_connection`. -/
def getConnection : Except PyError Parsed := do
  let record ← ((ext.service.get actor connectionId).run store).1
  ext.readResponse record

/-- `update_connection`, of a body that the schema reads. -/
def updateConnection (body : Json) : Except PyError Parsed × List (Row C) :=
  let (record, store') := patchConnection ext.service ext.schemas env actor connectionId body store
  (record.bind ext.readResponse, store')

/-- `delete_connection`. -/
def deleteConnection : Except PyError Parsed × List (Row C) :=
  let (record, store') := (ext.service.delete env actor connectionId).run store
  (record.bind ext.readResponse, store')

/-- `check_connection`, of what the schema read. -/
def checkConnection (payload : Parsed) : Except PyError ConnectionCheckResult := do
  let call ← ext.service.checkPayload actor (toCreateDraft payload.value.dump)
  ext.runCheck call

/-- `check_stored_connection`, of what the schema read. -/
def checkStoredConnection (payload : Option Parsed) : Except PyError ConnectionCheckResult := do
  let patch := payload.map fun payload => toPatch payload.dumpSet
  let call ← ((ext.service.checkStored actor connectionId patch).run store).1
  ext.runCheck call

/-- The body of a check of a stored connection, which may be missing or `null`. -/
def readOptionalBody : Option Json → Except ModelError (Option Parsed)
  | none => .ok none
  | some .null => .ok none
  | some body => (readBody ext.schemas.update body).map some

/-- The answer to a request, with what it leaves in the store. -/
def handle (exchange : Exchange) (store : List (Row C)) : Answer × List (Row C) :=
  match exchange.request with
  | .listConnections parameters =>
    (.respond .connections (do
      let query ← ext.listQuery parameters
      DbConnection.listConnections ext.service ext.schemas exchange.actor ext.brokenRead query
        store), store)
  | .createConnection body =>
    match readBody ext.schemas.create body with
    | .error e => (.ofBody e, store)
    | .ok _ => Prod.map (.respond .connection) id
      (DbConnection.createConnection ext.service ext.schemas exchange.env exchange.actor body store)
  | .getConnection connectionId =>
    (.respond .connection (ext.getConnection exchange.actor connectionId store), store)
  | .updateConnection connectionId body =>
    match readBody ext.schemas.update body with
    | .error e => (.ofBody e, store)
    | .ok _ => Prod.map (.respond .connection) id
      (ext.updateConnection exchange.env exchange.actor connectionId store body)
  | .deleteConnection connectionId =>
    Prod.map (.respond .connection) id
      (ext.deleteConnection exchange.env exchange.actor connectionId store)
  | .checkConnection body =>
    match readBody ext.schemas.create body with
    | .error e => (.ofBody e, store)
    | .ok payload => (.respond .checked (ext.checkConnection exchange.actor payload), store)
  | .checkStoredConnection connectionId body =>
    match ext.readOptionalBody body with
    | .error e => (.ofBody e, store)
    | .ok payload =>
      (.respond .checked (ext.checkStoredConnection exchange.actor connectionId store payload), store)

/-- The answers to requests one after another, with what they leave in the store. -/
def serve : List Exchange → List (Row C) → List Answer × List (Row C)
  | [], store => ([], store)
  | exchange :: exchanges, store =>
    let (answer, store') := ext.handle exchange store
    let (answers, store'') := serve exchanges store'
    (answer :: answers, store'')

/-! ## The service under the routes -/

/-- The call of the service that an endpoint makes, or the answer without a call: to a body that the
schema does not read, or to filters that do not hold JSON objects. -/
def serviceCall : Request → Except Answer ServiceCall
  | .listConnections parameters =>
    ((ext.listQuery parameters).mapError fun e => .httpException (mapException e)).map .list
  | .createConnection body =>
    ((readBody ext.schemas.create body).mapError .ofBody).map fun payload =>
      .create (toCreateDraft payload.value.dump)
  | .getConnection connectionId => .ok (.get connectionId)
  | .updateConnection connectionId body =>
    ((readBody ext.schemas.update body).mapError .ofBody).map fun payload =>
      .update connectionId (toPatch payload.dumpSet)
  | .deleteConnection connectionId => .ok (.delete connectionId)
  | .checkConnection body =>
    ((readBody ext.schemas.create body).mapError .ofBody).map fun payload =>
      .checkPayload (toCreateDraft payload.value.dump)
  | .checkStoredConnection connectionId body =>
    ((ext.readOptionalBody body).mapError .ofBody).map fun payload =>
      .checkStored connectionId (payload.map fun payload => toPatch payload.dumpSet)

/-- What an endpoint makes of what the call returned. -/
def response (isCreate : Bool) : ServiceResult → Answer
  | .record record =>
    .respond .connection (if isCreate then createdResponse ext.service ext.schemas record
      else ext.readResponse record)
  | .records records => .respond .connections (records.mapM ext.readResponse)
  | .checked call => .respond .checked (ext.runCheck call)

/-- The answer to a call that was made. -/
def answerTo (call : ServiceCall) : Except PyError ServiceResult → Answer
  | .ok result => ext.response call.isCreate result
  | .error e => .httpException (mapException e)

/-- A request is one call of the service, or answered without one. -/
theorem handle_eq (exchange : Exchange) (store : List (Row C)) :
    ext.handle exchange store =
      match ext.serviceCall exchange.request with
      | .error answer => (answer, store)
      | .ok call => Prod.map (ext.answerTo call) id
        (((⟨call, exchange.actor, exchange.env⟩ : Invocation).prog ext.service).run store) := by
  obtain ⟨request, actor, env⟩ := exchange
  unfold handle serviceCall
  cases request with
  | listConnections parameters =>
    dsimp only
    cases ext.listQuery parameters with
    | error e => rfl
    | ok query =>
      dsimp only [Except.mapError, Except.map, ok_bind]
      unfold Invocation.prog DbConnection.listConnections
      rw [run_map, run_list]
      dsimp only
      cases ext.service.accessPolicy.scopeList ⟨actor, "list", none, none⟩ query <;> rfl
  | createConnection body =>
    dsimp only
    unfold DbConnection.createConnection
    cases readBody ext.schemas.create body with
    | error e => rfl
    | ok payload =>
      dsimp only [Except.mapError, Except.map]
      unfold Invocation.prog
      rw [run_map]
      rcases (ext.service.create env actor (toCreateDraft payload.value.dump)).run store with
        ⟨result, store'⟩
      cases result <;> rfl
  | getConnection connectionId =>
    dsimp only
    unfold Invocation.prog getConnection
    rw [run_map, run_get]
    dsimp only
    cases ext.service.admitGet actor connectionId
      ((find connectionId store).map (toRecord ext.service.storage)) <;> rfl
  | updateConnection connectionId body =>
    dsimp only
    unfold updateConnection patchConnection
    cases readBody ext.schemas.update body with
    | error e => rfl
    | ok payload =>
      dsimp only [Except.mapError, Except.map]
      unfold Invocation.prog
      rw [run_map]
      rcases (ext.service.update env actor connectionId (toPatch payload.dumpSet)).run store with
        ⟨result, store'⟩
      cases result <;> rfl
  | deleteConnection connectionId =>
    dsimp only
    unfold Invocation.prog deleteConnection
    rw [run_map]
    rcases (ext.service.delete env actor connectionId).run store with ⟨result, store'⟩
    cases result <;> rfl
  | checkConnection body =>
    dsimp only
    cases readBody ext.schemas.create body with
    | error e => rfl
    | ok payload =>
      dsimp only [Except.mapError, Except.map]
      unfold Invocation.prog checkConnection
      dsimp only
      cases ext.service.checkPayload actor (toCreateDraft payload.value.dump) <;> rfl
  | checkStoredConnection connectionId body =>
    dsimp only
    cases ext.readOptionalBody body with
    | error e => rfl
    | ok payload =>
      dsimp only [Except.mapError, Except.map]
      unfold Invocation.prog checkStoredConnection
      dsimp only
      rw [run_map, run_checkStored]
      dsimp only
      cases find connectionId store with
      | none => rfl
      | some row =>
        dsimp only
        cases (ext.service.admitGet actor connectionId (some (toRecord ext.service.storage row)) >>=
          ext.service.checkRecord actor connectionId
            (payload.map fun payload => toPatch payload.dumpSet)) <;> rfl

end DBConnectionExtension

/-! ## What a request writes -/

/-- The connection that a request changes, where it names one. -/
def Request.changes : Request → Option String
  | .updateConnection connectionId _ => some connectionId
  | .deleteConnection connectionId => some connectionId
  | _ => none

/-- The connection that a request writes: the one it changes, or a new one. -/
def Exchange.written (exchange : Exchange) : Option String :=
  match exchange.request with
  | .createConnection _ => some exchange.env.uuid
  | request => request.changes

section Calls

variable {C : Type} {ext : DBConnectionExtension C}

/-- The calls that the endpoints make: a request that changes the store makes the call of its name.
-/
theorem serviceCall_cases {request : Request} {call : ServiceCall}
    (h : ext.serviceCall request = .ok call) :
    (∃ body raw, request = .createConnection body ∧ call = .create (toCreateDraft raw)) ∨
      (∃ connectionId body patch, request = .updateConnection connectionId body ∧
        call = .update connectionId patch) ∨
      (∃ connectionId, request = .deleteConnection connectionId ∧ call = .delete connectionId) ∨
      call.mutates = false ∧ call.isCreate = false ∧
        ∀ actor env, (⟨request, actor, env⟩ : Exchange).written = none := by
  unfold DBConnectionExtension.serviceCall at h
  cases request with
  | listConnections parameters =>
    obtain ⟨query, -, rfl⟩ := map_eq_ok_iff.mp h
    exact .inr (.inr (.inr ⟨rfl, rfl, fun _ _ => rfl⟩))
  | createConnection body =>
    obtain ⟨payload, -, rfl⟩ := map_eq_ok_iff.mp h
    exact .inl ⟨body, _, rfl, rfl⟩
  | updateConnection connectionId body =>
    obtain ⟨payload, -, rfl⟩ := map_eq_ok_iff.mp h
    exact .inr (.inl ⟨connectionId, body, _, rfl, rfl⟩)
  | deleteConnection connectionId =>
    cases h
    exact .inr (.inr (.inl ⟨connectionId, rfl, rfl⟩))
  | checkConnection body =>
    obtain ⟨payload, -, rfl⟩ := map_eq_ok_iff.mp h
    exact .inr (.inr (.inr ⟨rfl, rfl, fun _ _ => rfl⟩))
  | checkStoredConnection connectionId body =>
    obtain ⟨payload, -, rfl⟩ := map_eq_ok_iff.mp h
    exact .inr (.inr (.inr ⟨rfl, rfl, fun _ _ => rfl⟩))
  | _ =>
    cases h
    exact .inr (.inr (.inr ⟨rfl, rfl, fun _ _ => rfl⟩))

/-- A request is answered without a call if a schema does not read its body, or its filters are not
read. -/
theorem serviceCall_error_cases {request : Request} {answer : Answer}
    (h : ext.serviceCall request = .error answer) :
    (∃ e, answer = .ofBody e ∧ ((∃ body, readBody ext.schemas.create body = .error e) ∨
      ∃ body, readBody ext.schemas.update body = .error e)) ∨
      ∃ parameters e, request = .listConnections parameters ∧
        ext.listQuery parameters = .error e ∧ answer = .httpException (mapException e) := by
  unfold DBConnectionExtension.serviceCall at h
  cases request with
  | listConnections parameters =>
    obtain ⟨e, hquery, rfl⟩ := mapError_map_eq_error_iff.mp h
    exact .inr ⟨parameters, e, rfl, hquery, rfl⟩
  | createConnection body =>
    obtain ⟨e, hread, rfl⟩ := mapError_map_eq_error_iff.mp h
    exact .inl ⟨e, rfl, .inl ⟨body, hread⟩⟩
  | updateConnection connectionId body =>
    obtain ⟨e, hread, rfl⟩ := mapError_map_eq_error_iff.mp h
    exact .inl ⟨e, rfl, .inr ⟨body, hread⟩⟩
  | checkConnection body =>
    obtain ⟨e, hread, rfl⟩ := mapError_map_eq_error_iff.mp h
    exact .inl ⟨e, rfl, .inl ⟨body, hread⟩⟩
  | checkStoredConnection connectionId body =>
    obtain ⟨e, hread, rfl⟩ := mapError_map_eq_error_iff.mp h
    unfold DBConnectionExtension.readOptionalBody at hread
    split at hread
    · cases hread
    · cases hread
    · rename_i given _
      cases hbody : readBody ext.schemas.update given with
      | ok p =>
        rw [hbody] at hread
        cases hread
      | error e' =>
        rw [hbody] at hread
        obtain rfl : e' = e := Except.error.inj hread
        exact .inl ⟨e', rfl, .inr ⟨given, hbody⟩⟩
  | _ => cases h

/-- A request that is answered without a call is refused, or failed. -/
theorem refused_of_serviceCall {request : Request} {answer : Answer}
    (h : ext.serviceCall request = .error answer) :
    (∃ error, answer = .unprocessable error) ∨ ∃ e, answer = .httpException (mapException e) := by
  obtain ⟨e, rfl, -⟩ | ⟨_, e, -, -, rfl⟩ := serviceCall_error_cases h
  · cases e with
    | validation error => exact .inl ⟨error, rfl⟩
    | raised exc => exact .inr ⟨_, rfl⟩
  · exact .inr ⟨e, rfl⟩

/-- A create calls the service with what the mapper makes of the body. -/
theorem exists_raw_of_isCreate {request : Request} {call : ServiceCall}
    (h : ext.serviceCall request = .ok call) (hcreate : call.isCreate = true) :
    ∃ raw, call = .create (toCreateDraft raw) := by
  obtain ⟨_, raw, -, rfl⟩ | ⟨_, _, _, -, rfl⟩ | ⟨_, -, rfl⟩ | ⟨-, hno, -⟩ := serviceCall_cases h
  · exact ⟨raw, rfl⟩
  · cases hcreate
  · cases hcreate
  · rw [hno] at hcreate
    cases hcreate

end Calls

end DbConnection
