import DbConnection.Connectors
import DbConnection.PublicProjection
import DbConnection.Schemas
import DbConnection.Sequential

/-!
# The HTTP endpoints

`fastapi/mapper.py`, which turns request bodies into drafts and patches and public views into
responses, and the endpoints of `fastapi/extension.py` that create and update a connection with the
service owning its unit of work. An endpoint computes its response after the service has committed.

A schema has read the body before the mapper sees it, so a value of another type than its field's
does not arise; the conversions then give the empty value. The one exception is `extra` in an update
body, which is no field of the schema: the mapper passes it on as it is if there is no extension
key.
-/

namespace DbConnection

open PyData Pydantic ReadCommitted

/-- `build_draft_fields()`. -/
def draftFields : List String :=
  ["name", "kind", "type", "driver", "driver_options", "properties", "secrets", "labels", "metadata",
    "extra"]

/-- `extract_draft_extra`. -/
def extractDraftExtra (raw : Dict Json) : Dict Json :=
  raw.filter fun item => !draftFields.contains item.1

/-- A key of the extension fields is one that is no draft field. -/
theorem lookup_extractDraftExtra (raw : Dict Json) (key : String) :
    (extractDraftExtra raw).lookup key =
      if key ∈ draftFields then none else raw.lookup key := by
  unfold extractDraftExtra
  rw [Dict.lookup_filter_key fun k => !draftFields.contains k]
  by_cases hk : key ∈ draftFields
  · simp [hk]
  · simp [hk]

/-- A value of a string field. -/
def toStr? (value : Json) : Option String := value.str?

/-- A value of a field of driver options. -/
def toDriverOptions : Json → DriverOptions
  | .obj items => .raw items
  | _ => .none

/-- A value of a dictionary field. -/
def toDict? (value : Json) : Option (Dict Json) := value.obj?

/-- A value of a field of labels. -/
def toLabels? (value : Json) : Option (Dict String) := value.obj?.bind Dict.strings?

/-- `DefaultAPIMapper.to_create_draft` on the payload's dump. -/
def toCreateDraft (raw : Dict Json) : ConnectionDraft where
  name := (raw.lookup "name").bind toStr?
  kind := ((raw.lookup "kind").bind toStr?).getD ""
  type := ((raw.lookup "type").bind toStr?).getD ""
  driver := (raw.lookup "driver").bind toStr?
  driverOptions := toDriverOptions ((raw.lookup "driver_options").getD .null)
  properties := toDict? ((raw.lookup "properties").getD (.obj []))
  secrets := toDict? ((raw.lookup "secrets").getD (.obj []))
  labels := toLabels? ((raw.lookup "labels").getD (.obj []))
  metadata := toDict? ((raw.lookup "metadata").getD (.obj []))
  extra := some (extractDraftExtra raw)

/-- A patch field, set where the payload has it. -/
def patchValue {α : Type} (raw : Dict Json) (name : String) (read : Json → α) : PatchValue α :=
  match raw.lookup name with
  | none => .unset
  | some value => .set (read value)

/-- `DefaultAPIMapper.to_patch` on the payload's dump of the fields that were set. -/
def toPatch (raw : Dict Json) : ConnectionPatch where
  name := patchValue raw "name" toStr?
  driver := patchValue raw "driver" toStr?
  driverOptions := patchValue raw "driver_options" toDriverOptions
  properties := patchValue raw "properties" toDict?
  secrets := patchValue raw "secrets" toDict?
  labels := patchValue raw "labels" toLabels?
  metadata := patchValue raw "metadata" toDict?
  -- The extension keys of the body are a whole new `extra`.
  extra :=
    if extractDraftExtra raw = [] then patchValue raw "extra" id
    else .set (.obj (extractDraftExtra raw))

/-- The data of a response before the extra: the fields of the view. -/
def viewData (view : PublicConnectionView) : Dict FieldInput :=
  [("id", .json (.str view.id)), ("name", .json (.str view.name)), ("kind", .json (.str view.kind)),
    ("type", .json (.str view.type)), ("driver", .json (Json.ofStr? view.driver)),
    ("driver_options",
      .json ((view.driverOptions.map fun v => Json.obj v.dump).getD .null)),
    ("properties", .json (.obj view.properties.dump)),
    ("labels", .json (Json.ofStrDict view.labels)), ("metadata", .json (.obj view.metadata)),
    ("created_at", .datetime view.createdAt), ("updated_at", .datetime view.updatedAt),
    ("deleted_at", (view.deletedAt.map FieldInput.datetime).getD (.json .null))]

/-- The data of a response: `data.update(public_view.extra)`. -/
def responseData (view : PublicConnectionView) : Dict FieldInput :=
  (viewData view).update (toFieldInputs view.extra)

/-- `DefaultAPIMapper.to_response`. -/
def toResponse (schema : List ModelDecl) (view : PublicConnectionView) : Except PyError Parsed :=
  match readInputs schema (responseData view) with
  | .ok r => .ok r
  | .error e => .error (.ofModel .pydanticError e)

/-- An issue in the data of a response. -/
def issueData (issue : StoredConnectionIssue) : Json :=
  .obj [("field", .str issue.field), ("code", .str issue.code), ("message", .str issue.message),
    ("details", .obj issue.details)]

/-- The data of a broken response before the extra: the fields of the view. -/
def brokenViewData (view : BrokenPublicConnectionView) : Dict FieldInput :=
  [("state", .json (.str view.state)), ("id", .json (.str view.id)),
    ("name", .json (.str view.name)), ("kind", .json (.str view.kind)),
    ("type", .json (.str view.type)), ("driver", .json (Json.ofStr? view.driver)),
    ("labels", .json (Json.ofStrDict view.labels)), ("metadata", .json (.obj view.metadata)),
    ("created_at", .datetime view.createdAt), ("updated_at", .datetime view.updatedAt),
    ("deleted_at", (view.deletedAt.map FieldInput.datetime).getD (.json .null)),
    ("issues", .json (.arr (view.issues.map issueData))),
    ("raw_properties", .json view.rawProperties),
    ("raw_driver_options", .json view.rawDriverOptions), ("raw_secrets", .json view.rawSecrets)]

/-- The data of a broken response: `data.update(public_view.extra)`. -/
def brokenResponseData (view : BrokenPublicConnectionView) : Dict FieldInput :=
  (brokenViewData view).update (toFieldInputs view.extra)

/-- `DefaultAPIMapper.to_broken_response`. -/
def toBrokenResponse (schema : ModelDecl) (view : BrokenPublicConnectionView) :
    Except PyError Parsed :=
  match schema.parseInputs (brokenResponseData view) with
  | .ok r => .ok r
  | .error e => .error (.ofModel .pydanticError e)

/-- `APISchemaSet`, of the schemas that the endpoints here use. -/
structure APISchemaSet where
  create : List ModelDecl
  read : List ModelDecl
  update : List ModelDecl

/-- The schemas that the extension generates from its registry. -/
def defaultSchemas (registry : ConnectionRegistry) (parseDatetime : Json → Option Nat) :
    APISchemaSet where
  create := buildConnectionCreateModel registry connectionCreateRequest
  read := buildConnectionReadModel registry parseDatetime (connectionReadResponse parseDatetime)
  update := buildConnectionUpdateModel registry connectionUpdateRequest

/-- The schemas of the default registry, where no text is a date. -/
def noDateSchemas : APISchemaSet := defaultSchemas (defaultRegistry emptyHost) fun _ => none

section Endpoints

variable {C : Type} (svc : ConnectionService C) (schemas : APISchemaSet) (env : CallEnv)
  (actor : Json)

/-- The response to a record that was created. -/
def createdResponse (record : ConnectionRecord) : Except PyError Parsed := do
  let view ← build svc.registry record
  toResponse schemas.read view

/-- `create_connection`, with what it leaves in the store. -/
def createConnection (body : Json) (store : List (Row C)) :
    Except PyError Parsed × List (Row C) :=
  match readBody schemas.create body with
  | .error e => (.error (.ofModel .pydanticError e), store)
  | .ok payload =>
    match (svc.create env actor (toCreateDraft payload.value.dump)).run store with
    | (.error e, store') => (.error e, store')
    -- The service has committed: the row stays stored whatever the response does.
    | (.ok record, store') => (createdResponse svc schemas record, store')

/-- `update_connection` up to its response: the service's answer to the patch, with what it leaves
in the store. -/
def patchConnection (connectionId : String) (body : Json) (store : List (Row C)) :
    Except PyError ConnectionRecord × List (Row C) :=
  match readBody schemas.update body with
  | .error e => (.error (.ofModel .pydanticError e), store)
  | .ok payload => (svc.update env actor connectionId (toPatch payload.dumpSet)).run store

/-- `_build_read_response`, with `broken_read` of the schemas given apart. -/
def buildReadResponse (brokenRead : ModelDecl) (record : ConnectionRecord) :
    Except PyError Parsed := do
  match ← buildAny svc.registry record with
  | .broken view => toBrokenResponse brokenRead view
  | .view view => toResponse schemas.read view

/-- `list_connections`, which leaves the store as it is. -/
def listConnections (brokenRead : ModelDecl) (query : ConnectionListQuery) (store : List (Row C)) :
    Except PyError (List Parsed) := do
  let records ← ((svc.list actor query).run store).1
  -- One record whose response fails fails the whole request.
  records.mapM (buildReadResponse svc schemas brokenRead)

end Endpoints

end DbConnection
