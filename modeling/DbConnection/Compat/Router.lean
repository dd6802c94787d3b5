import DbConnection.Compat.Encryption
import DbConnection.Lib.OwnedTable

/-!
# The legacy router

`compat/routes.py` with `compat/manager.py` and `compat/extension_config.py`, requests served one
after another. A request loads rows through the ORM, changes attributes of what it loaded, and
commits. The application's classes are parameters: the table model with its validation of
assignments, and the schemas, which have read a body before its route sees it. A row's other
constraints are the database's own. Dates stand as counts of microseconds.
-/

namespace DbConnection.Compat

open PyData Pydantic OwnedTable

/-! ## Configuration -/

/-- A row of the table of connections: its columns as they are stored. -/
abbrev TableRow := Dict Json

/-- A user, by the attributes it has. -/
abbrev User := Dict Json

/-- The application's `DBConnectionModel`. -/
structure DBConnectionModel where
  /-- The names of its fields, which are the columns of its table. -/
  fields : List String
  /-- The columns of the primary key. -/
  pks : List String
  /-- The values of fields that are not given, at a time. -/
  defaults : Nat → Dict AttributeValue
  /-- The validation of an assigned value by its field. -/
  assign : String → AttributeValue → Except PyError AttributeValue
  /-- `model_validate` at a time. -/
  modelValidate : Nat → Dict AttributeValue → Except PyError (Dict AttributeValue)
  /-- The constraints of the table beside its primary key, on a row that is about to be written. -/
  constraints : List TableRow → TableRow → Except PyError Unit

/-- The primary key of a row. -/
def DBConnectionModel.key (model : DBConnectionModel) (row : TableRow) : List (Option Json) :=
  model.pks.map fun name => row.lookup name

/-- `extension_config`. -/
structure ExtensionConfig where
  model : DBConnectionModel
  /-- `USE_AUTH`. -/
  useAuth : Bool
  /-- `db_connection_to_user_fks_mapping`: foreign keys of the table and attributes of the user. -/
  userFksMapping : Dict String
  disablePkFiltration : User → Bool
  maxConnections : Option Int
  fernet : Option Fernet
  host : Host

/-- What a request takes from its environment. -/
structure RequestEnv where
  now : Nat
  /-- The primary keys that the database generates where none is given. -/
  generated : Dict Json
  /-- The randomness of the encryption of each field. -/
  random : String → Nat

/-- The table, and the count that the one `ConnectionManager` keeps. -/
structure ServerState (config : ExtensionConfig) where
  table : Table config.model.key
  activeConnections : Option Nat

/-- A body as its schema read it. -/
structure BodyModel where
  attributes : Dict AttributeValue
  fieldsSet : List String

/-- A value as `model_dump` shows it. -/
def AttributeValue.dump : AttributeValue → AttributeValue
  | .json value => .json value
  | .model v => .json (.obj v.dump)

/-- `model_dump()`. -/
def BodyModel.modelDump (body : BodyModel) : Dict AttributeValue :=
  body.attributes.map fun item => (item.1, item.2.dump)

/-- `model_dump(exclude_unset=True)`. -/
def BodyModel.modelDumpSet (body : BodyModel) : Dict AttributeValue :=
  body.modelDump.filter fun item => body.fieldsSet.contains item.1

/-- The attribute `connection_properties`, `None` where there is none. -/
def BodyModel.connectionProperties (body : BodyModel) : AttributeValue :=
  (body.attributes.lookup "connection_properties").getD (.json .null)

/-- An object of the session: the row it was loaded from, and its attributes. -/
structure ConnectionObject where
  row : TableRow
  attributes : Dict AttributeValue
  deriving DecidableEq, Repr

/-- What a route answers with. -/
inductive LegacyResponse where
  /-- The status of a connection that was checked. -/
  | status (checked : ConnectionObject)
  | connection (object : ConnectionObject)
  | connections (objects : List ConnectionObject)

/-- The objects that a response is computed from. -/
def LegacyResponse.objects : LegacyResponse → List ConnectionObject
  | .status checked => [checked]
  | .connection object => [object]
  | .connections objects => objects

/-- `DBConnectionNotFound`. -/
def dbConnectionNotFound (host : Host) (kwargs : Dict Json) : PyError :=
  let detail := " ".intercalate
    ((kwargs.filter fun item => item.2 ≠ .null).map fun item => item.1 ++ "=" ++ pyStr host item.2)
  .other "DBConnectionNotFound" s!"DB connection {detail} not found"

/-- The refusal of a request beyond the limit. -/
def methodNotAllowed : PyError :=
  .other "HTTPException" "Database connections more than allowed, use delete endpoint."

section Session

variable (config : ExtensionConfig) (env : RequestEnv) (user : User)

/-! ## The ORM -/

/-- The stored value of a column, for the value of its attribute. -/
def bindColumn (name : String) (value : AttributeValue) : Except PyError Json :=
  if name = "connection_properties" then processBindParam config.fernet env.random value
  else
    match value with
    | .json value => .ok value
    | .model v => .error (.other "StatementError" s!"type {v.cls.qualname} is not supported")

/-- The value of an attribute, for the stored value of its column. -/
def resultColumn (name : String) (value : Json) : Except PyError AttributeValue :=
  if name = "connection_properties" then processResultValue config.fernet config.host value
  else .ok (.json value)

/-- The object of a row. -/
def loadObject (row : TableRow) : Except PyError ConnectionObject := do
  let attributes ← row.mapM fun item => do
    let value ← resultColumn config item.1 item.2
    return (item.1, value)
  return ⟨row, attributes⟩

/-- `DBConnection._force_is_deleted_default`. -/
def forceIsDeletedDefault (values : Dict AttributeValue) : Dict AttributeValue :=
  match values.lookup "is_deleted" with
  | none | some (.json .null) => values.update [("is_deleted", .json (.bool false))]
  | some _ => values

/-- The type that a value of the attribute `type` is. -/
def connectionType? : AttributeValue → Option ConnectionType
  | .json (.str value) => ConnectionType.ofValue? value
  | _ => none

/-- The refusal of a value that is no type. -/
def unsupportedConnectionType : PyError :=
  .pydanticError ⟨[.obj [("type", .str "value_error"), ("loc", .arr [])]],
    "1 validation error for DBConnection"⟩

/-- `DBConnection._dispatch_properties`. -/
def dispatchProperties (host : Host) (values : Dict AttributeValue) :
    Except PyError (Dict AttributeValue) :=
  match values.lookup "connection_properties" with
  | none | some (.json .null) => .ok values
  | some props =>
    match (values.lookup "type").bind connectionType? with
    | none => .error unsupportedConnectionType
    | some type =>
      match validateAttribute (propertiesModel host type) props with
      | .ok v => .ok (values.update [("connection_properties", .model v)])
      | .error e => .error (.ofModel .pydanticError e)

/-- `setattr` on an object. The ORM sets the value, the validators of the package's model read the
attributes with it, and then its field validates it. -/
def setAttribute (attributes : Dict AttributeValue) (name : String) (value : AttributeValue) :
    Except PyError (Dict AttributeValue) := do
  let values ← dispatchProperties config.host (attributes.update [(name, value)])
  let assigned ← config.model.assign name value
  return (forceIsDeletedDefault values).update [(name, assigned)]

/-- `DBConnectionModel.is_deleted == False`. -/
def TableRow.isActive (row : TableRow) : Bool := row.lookup "is_deleted" == some (.bool false)

/-- The row has each of the values. -/
def TableRow.satisfies (row : TableRow) (conditions : Dict Json) : Bool :=
  conditions.all fun item => row.lookup item.1 == some item.2

/-- `session.exec(statement).first()`, of the active rows with the values given. -/
def selectFirst (rows : List TableRow) (conditions : Dict Json) :
    Except PyError (Option ConnectionObject) :=
  match rows.find? fun row => row.isActive && row.satisfies conditions with
  | none => .ok none
  | some row => do
    let object ← loadObject config row
    return some object

/-- `for key, value in data.items(): setattr(self, key, value)`. -/
def setAttributes (attributes data : Dict AttributeValue) : Except PyError (Dict AttributeValue) :=
  data.foldlM (fun attributes item => setAttribute config attributes item.1 item.2) attributes

/-- `sqlmodel_update`, on the attributes of an object. -/
def sqlmodelUpdate (attributes data : Dict AttributeValue) :
    Except PyError (Dict AttributeValue) :=
  setAttributes config attributes (data.filter fun item => config.model.fields.contains item.1)

/-- The flush of a loaded object whose attributes have become those given: the columns of the
attributes that changed are written. -/
def flushUpdate (table : Table config.model.key) (loaded : ConnectionObject)
    (attributes : Dict AttributeValue) :
    Except PyError (TableRow × Table config.model.key) := do
  -- The session compares each attribute with what it loaded.
  let changed := attributes.filter fun item => loaded.attributes.lookup item.1 != some item.2
  let columns ← changed.mapM fun item => do
    let value ← bindColumn config env item.1 item.2
    return (item.1, value)
  let row := loaded.row.update columns
  config.model.constraints table.rows row
  match table.replace (config.model.key loaded.row) row with
  | none => .error (.integrityError "primary key")
  | some table' => return (row, table')

/-- The flush of a new object. The database generates the primary keys that are not given. -/
def flushInsert (table : Table config.model.key) (attributes : Dict AttributeValue) :
    Except PyError (TableRow × Table config.model.key) := do
  let columns ← attributes.mapM fun item => do
    let value ← bindColumn config env item.1 item.2
    return (item.1, value)
  let row := columns.map fun item =>
    if config.model.pks.contains item.1 && item.2 == .null then
      (item.1, (env.generated.lookup item.1).getD .null)
    else item
  config.model.constraints table.rows row
  match table.insert row with
  | none => .error (.integrityError "primary key")
  | some table' => return (row, table')

/-- The response with the object of a row that was refreshed. -/
def refreshed (row : TableRow) : Except PyError LegacyResponse := do
  let object ← loadObject config row
  return .connection object

/-- The commit of what was flushed, and the response. -/
def commitFlushed (table : Table config.model.key)
    (flushed : Except PyError (TableRow × Table config.model.key)) :
    Except PyError LegacyResponse × Table config.model.key :=
  match flushed with
  | .error e => (.error e, table)
  | .ok (row, table') => (refreshed config row, table')

/-- The values that `DBConnectionModel(**given)` assigns, in their order: those that are given, and
the defaults of the other fields. -/
def constructorData (given : Dict AttributeValue) : Dict AttributeValue :=
  given.pick config.model.fields ++
    (config.model.defaults env.now).pick (config.model.fields.filter fun name =>
      !given.contains name)

/-- `DBConnectionModel(**given)`. -/
def constructModel (given : Dict AttributeValue) : Except PyError (Dict AttributeValue) := do
  let assigned ← setAttributes config [] (constructorData config env given)
  -- A field without a value is `NULL`.
  return config.model.fields.map fun name => (name, (assigned.lookup name).getD (.json .null))

/-! ## The filter by owner -/

/-- `{fk: getattr(user, pk) for fk, pk in db_connection_to_user_fks_mapping.items()}`. -/
def userFks : Except PyError (Dict Json) :=
  config.userFksMapping.mapM fun item =>
    match user.lookup item.2 with
    | some value => .ok (item.1, value)
    | none => .error (.other "AttributeError" s!"object has no attribute '{item.2}'")

/-- The conditions by which a route restricts its statement to the rows of the user. -/
def pkFiltration : Except PyError (Dict Json) :=
  if config.useAuth && !config.disablePkFiltration user then userFks config user else .ok []

/-- The conditions on the primary key: what the path gives for each of its columns. -/
def pkConditions (kwargs : Dict Json) : Dict Json :=
  config.model.pks.map fun name => (name, (kwargs.lookup name).getD .null)

/-! ## The manager -/

/-- `ConnectionManager.get_db_connections`. -/
def getDbConnections (rows : List TableRow) (connectionType : Option Json) (filters : Dict Json) :
    Except PyError (List ConnectionObject) := do
  let owner ← pkFiltration config user
  -- A filter is skipped where its value is `None` or the table has no such column.
  let selected := rows.filter fun row =>
    row.isActive &&
      (connectionType.all fun type => row.lookup "type" == some type) &&
      (filters.all fun item => item.2 == .null || !config.model.fields.contains item.1 ||
        row.lookup item.1 == some item.2) &&
      row.satisfies owner
  selected.mapM (loadObject config)

/-- `ConnectionManager.get_active_connections`: a count that is neither missing nor zero is kept. -/
def getActiveConnections (state : ServerState config) : Except PyError Nat :=
  match state.activeConnections with
  | some (n + 1) => .ok (n + 1)
  -- The count is of the caller's connections where the rows are filtered by owner.
  | _ => do
    let objects ← getDbConnections config user state.table.rows none []
    return objects.length

/-- `ConnectionManager.validate_max_connections`, and the count it leaves. -/
def validateMaxConnections (state : ServerState config) :
    Except PyError Bool × ServerState config :=
  match getActiveConnections config user state with
  | .error e => (.error e, state)
  | .ok count =>
    (.ok (config.maxConnections.all fun limit => decide ((count : Int) < limit)),
      { state with activeConnections := some count })

/-- A route that writes where the limit lets it. -/
def withinLimit (state : ServerState config)
    (route : Table config.model.key → Except PyError LegacyResponse × Table config.model.key) :
    Except PyError LegacyResponse × ServerState config :=
  match validateMaxConnections config user state with
  | (.error e, state') => (.error e, state')
  | (.ok false, state') => (.error methodNotAllowed, state')
  | (.ok true, state') =>
    ((route state'.table).1, { state' with table := (route state'.table).2 })

/-! ## The routes -/

/-- The data of an update: the fields that were set, with the properties as the schema has them. -/
def updateData (body : BodyModel) : Dict AttributeValue :=
  if body.connectionProperties = .json .null then body.modelDumpSet
  else body.modelDumpSet.update [("connection_properties", body.connectionProperties)]

/-- `check_db_connection_by_id`, up to the connector. -/
def checkDbConnectionById (rows : List TableRow) (connectionId : Json) (body : BodyModel) :
    Except PyError LegacyResponse := do
  let owner ← pkFiltration config user
  match ← selectFirst config rows (("id", connectionId) :: owner) with
  | none => .error (dbConnectionNotFound config.host [("connection_id", connectionId)])
  | some object =>
    let attributes ← sqlmodelUpdate config object.attributes (updateData body)
    return .status { object with attributes := attributes }

/-- `db_conns[:MAX_CONNECTIONS]`. -/
def sliceTo {α : Type} (limit : Option Int) (items : List α) : List α :=
  match limit with
  | none => items
  | some (.ofNat n) => items.take n
  -- A negative bound counts from the end.
  | some (.negSucc n) => items.take (items.length - (n + 1))

/-- The route `get_db_connections`. -/
def listDbConnections (rows : List TableRow) (connectionType : Option Json) (filters : Dict Json) :
    Except PyError LegacyResponse := do
  let objects ← getDbConnections config user rows connectionType filters
  return .connections (sliceTo config.maxConnections objects)

/-- The active row of the user with the primary key of the path. -/
def findOwned (rows : List TableRow) (kwargs : Dict Json) : Except PyError ConnectionObject := do
  let owner ← pkFiltration config user
  match ← selectFirst config rows (pkConditions config kwargs ++ owner) with
  | none => .error (dbConnectionNotFound config.host kwargs)
  | some object => return object

/-- `get_db_connection`. -/
def getDbConnection (rows : List TableRow) (kwargs : Dict Json) :
    Except PyError LegacyResponse := do
  let object ← findOwned config user rows kwargs
  return .connection object

/-- The attributes of the object that `create_db_connection` adds. -/
def createdAttributes (body : BodyModel) : Except PyError (Dict AttributeValue) := do
  if config.useAuth then
    -- The keys of the user are put over those of the body.
    let fks ← userFks config user
    let data := body.modelDump.update [("connection_properties", body.connectionProperties)]
    constructModel config env (data.update (fks.map fun item => (item.1, .json item.2)))
  else config.model.modelValidate env.now body.attributes

/-- `create_db_connection` after its check of the limit. -/
def createDbConnection (body : BodyModel) (table : Table config.model.key) :
    Except PyError LegacyResponse × Table config.model.key :=
  commitFlushed config table do
    let attributes ← createdAttributes config env user body
    flushInsert config env table attributes

/-- `update_db_connection` after its check of the limit. -/
def updateDbConnection (kwargs : Dict Json) (body : BodyModel) (table : Table config.model.key) :
    Except PyError LegacyResponse × Table config.model.key :=
  commitFlushed config table do
    let object ← findOwned config user table.rows kwargs
    let attributes ← sqlmodelUpdate config object.attributes (updateData body)
    let attributes ← sqlmodelUpdate config attributes [("updated_at", .json (.int env.now))]
    flushUpdate config env table object attributes

/-- What `upsert_db_connection` gives to its model: the dump of the body and the keys of the user. A
name given twice is an error. -/
def upsertGiven (body : BodyModel) : Except PyError (Dict AttributeValue) :=
  if config.useAuth then do
    let fks ← userFks config user
    match fks.find? fun item => body.modelDump.contains item.1 with
    | some item =>
      .error (.typeError s!"DBConnection() got multiple values for keyword argument '{item.1}'")
    | none => return body.modelDump ++ fks.map fun item => (item.1, .json item.2)
  else .ok body.attributes

/-- The attributes of the object that `upsert_db_connection` makes of what is given. -/
def upsertAttributes (given : Dict AttributeValue) : Except PyError (Dict AttributeValue) :=
  if config.useAuth then constructModel config env given
  else config.model.modelValidate env.now given

/-- The active row with the primary key of an object, whoever owns it. -/
def findSamePk (rows : List TableRow) (attributes : Dict AttributeValue) :
    Except PyError (Option ConnectionObject) := do
  let conditions ← config.model.pks.mapM fun name => do
    let value ← bindColumn config env name ((attributes.lookup name).getD (.json .null))
    return (name, value)
  selectFirst config rows conditions

/-- The attributes of a row that is upserted: `model_dump(exclude={"id"}, exclude_unset=True)` of the
new object over those of the row. -/
def upsertedAttributes (existing : ConnectionObject) (given attributes : Dict AttributeValue) :
    Except PyError (Dict AttributeValue) := do
  let data := (attributes.filter fun item => given.contains item.1 && item.1 != "id").map
    fun item => (item.1, item.2.dump)
  let updated ← sqlmodelUpdate config existing.attributes data
  sqlmodelUpdate config updated [("updated_at", .json (.int env.now))]

/-- `upsert_db_connection` after its check of the limit. -/
def upsertDbConnection (body : BodyModel) (table : Table config.model.key) :
    Except PyError LegacyResponse × Table config.model.key :=
  commitFlushed config table do
    let given ← upsertGiven config user body
    let attributes ← upsertAttributes config env given
    match ← findSamePk config env table.rows attributes with
    -- The set fields of the new object, the keys of the user among them, go over the row found.
    | some existing =>
      let updated ← upsertedAttributes config env existing given attributes
      flushUpdate config env table existing updated
    | none =>
      let created ← sqlmodelUpdate config attributes [("created_at", .json (.int env.now))]
      flushInsert config env table created

/-- `delete_db_connection`. -/
def deleteDbConnection (kwargs : Dict Json) (table : Table config.model.key) :
    Except PyError LegacyResponse × Table config.model.key :=
  commitFlushed config table do
    let object ← findOwned config user table.rows kwargs
    let attributes ← sqlmodelUpdate config object.attributes [("is_deleted", .json (.bool true))]
    flushUpdate config env table object attributes

/-- A request to a route. -/
inductive LegacyRequest where
  | checkById (connectionId : Json) (body : BodyModel)
  | list (connectionType : Option Json) (filters : Dict Json)
  | get (kwargs : Dict Json)
  | create (body : BodyModel)
  | update (kwargs : Dict Json) (body : BodyModel)
  | upsert (body : BodyModel)
  | delete (kwargs : Dict Json)

/-- The response to a request, and what it leaves. -/
def handle (request : LegacyRequest) (state : ServerState config) :
    Except PyError LegacyResponse × ServerState config :=
  match request with
  | .checkById connectionId body =>
    (checkDbConnectionById config user state.table.rows connectionId body, state)
  | .list connectionType filters =>
    (listDbConnections config user state.table.rows connectionType filters, state)
  | .get kwargs => (getDbConnection config user state.table.rows kwargs, state)
  | .create body => withinLimit config user state (createDbConnection config env user body)
  | .update kwargs body =>
    withinLimit config user state (updateDbConnection config env user kwargs body)
  | .upsert body => withinLimit config user state (upsertDbConnection config env user body)
  | .delete kwargs =>
    ((deleteDbConnection config env user kwargs state.table).1,
      { state with table := (deleteDbConnection config env user kwargs state.table).2 })

end Session

end DbConnection.Compat
