import DbConnection.Lib.ReadModifyWrite
import DbConnection.RecordMapper

/-!
# The default repository

`infra/repositories.py` over a read-committed table of rows: each method is a program of the SQL
statements it runs. The values that a method takes from the clock, from `uuid4` and from the
encryption's randomness come with the call (`CallEnv`).

The columns of a draft are bound when a statement runs, so a value that cannot be bound and a
missing name fail the statement.
-/

namespace DbConnection

open PyData Pydantic ReadCommitted

instance {C : Type} : Keyed (Row C) String := ⟨Row.id⟩

/-- A database transaction of the package. -/
abbrev Txn (C : Type) : Type → Type := Prog (Row C) PyError

/-- What a call takes from its environment. -/
structure CallEnv where
  /-- `datetime.now(UTC)`, in microseconds. -/
  now : Nat
  /-- `str(uuid4())`. -/
  uuid : String
  /-- The randomness of the encryption. -/
  nonce : Nat
  deriving DecidableEq, Repr

/-- The columns that a draft sets. -/
structure Columns (C : Type) where
  name : String
  kind : String
  type : String
  driver : Option String
  driverOptionsJson : Json
  propertiesJson : Json
  secretsCiphertext : C
  labelsJson : Json
  metadataJson : Json
  extraJson : Json

namespace Repository

variable {C : Type} (storage : Storage C) (env : CallEnv)

/-- The column values of a statement that writes a draft. -/
def bindColumns (draft : ConnectionDraft) : Except PyError (Columns C) :=
  match processBindParam draft.driverOptions, draft.name with
  | .error e, _ => .error e
  | .ok _, none => .error (.integrityError "NOT NULL constraint failed: db_connections.name")
  -- Every column is bound, whichever field of the draft changed.
  | .ok driverOptionsJson, some name => .ok
      { name := name, kind := draft.kind, type := draft.type, driver := draft.driver
        driverOptionsJson := driverOptionsJson
        propertiesJson := Json.ofObj? draft.properties
        secretsCiphertext := storage.encryption.encrypt env.nonce (Json.ofObj? draft.secrets)
        labelsJson := (draft.labels.map Json.ofStrDict).getD .null
        metadataJson := Json.ofObj? draft.metadata
        extraJson := Json.ofObj? draft.extra }

/-- The row that `create` inserts. -/
def newRow (columns : Columns C) : Row C where
  id := env.uuid
  name := columns.name
  kind := columns.kind
  type := columns.type
  driver := columns.driver
  driverOptionsJson := columns.driverOptionsJson
  propertiesJson := columns.propertiesJson
  secretsCiphertext := columns.secretsCiphertext
  labelsJson := columns.labelsJson
  metadataJson := columns.metadataJson
  extraJson := columns.extraJson
  createdAt := env.now
  updatedAt := env.now
  deletedAt := none

/-- The row after `replace` set every column but the id, the creation and the deletion time. -/
def replacedRow (columns : Columns C) (row : Row C) : Row C where
  id := row.id
  name := columns.name
  kind := columns.kind
  type := columns.type
  driver := columns.driver
  driverOptionsJson := columns.driverOptionsJson
  propertiesJson := columns.propertiesJson
  secretsCiphertext := columns.secretsCiphertext
  labelsJson := columns.labelsJson
  metadataJson := columns.metadataJson
  extraJson := columns.extraJson
  createdAt := row.createdAt
  updatedAt := env.now
  -- The statement does not name the deletion time, so a deleted row stays deleted.
  deletedAt := row.deletedAt

/-- The UPDATE of `replace`. -/
def replaceUpdate (draft : ConnectionDraft) : ColumnUpdate (Row C) PyError where
  apply row := (bindColumns storage env draft).map fun columns => replacedRow env columns row
  key_apply row row' h := by
    cases hb : bindColumns storage env draft with
    | error e => simp [hb, Except.map] at h
    | ok columns =>
      simp only [hb, Except.map, Except.ok.injEq] at h
      subst h
      rfl

/-- The UPDATE of `delete`. -/
def deleteUpdate : ColumnUpdate (Row C) PyError where
  apply row := .ok { row with deletedAt := some env.now, updatedAt := env.now }
  key_apply row row' h := by
    cases h
    rfl

/-- `_fetch_row`. -/
def fetchRow (connectionId : String) : Txn C (Option (Row C)) :=
  .select (byKey connectionId) fun rows => .pure rows.head?

/-- `create`. -/
def create (draft : ConnectionDraft) : Txn C ConnectionRecord := do
  let columns ← Prog.ofExcept (bindColumns storage env draft)
  -- The row is read back from the transaction's own writes.
  Prog.insert (newRow env columns)
    (.integrityError "UNIQUE constraint failed: db_connections.id") (.pure ())
  match ← fetchRow env.uuid with
  | none => .throw .assertionError
  | some created => return toRecord storage created

/-- SQL's LIKE: `%` stands for any text and `_` for any character. -/
def like (fold : Char → Char) : List Char → List Char → Bool
  | [], text => text.isEmpty
  | c :: pattern, text =>
    if c = '%' then text.tails.any (like fold pattern)
    else
      match text with
      | [] => false
      | d :: rest => (c == '_' || fold c == fold d) && like fold pattern rest

/-- `column.contains(value)`. -/
def contains (fold : Char → Char) (column value : String) : Bool :=
  like fold ('%' :: (value.toList ++ ['%'])) column.toList

/-- The WHERE clause of `list`. -/
def matchesStatement (query : ConnectionListQuery) (row : Row C) : Bool :=
  (query.includeDeleted || row.deletedAt.isNone) &&
    (query.kind.all fun kind => row.kind == kind) &&
    (query.type.all fun type => row.type == type) &&
    (query.name.all fun name => contains storage.foldCase row.name name)

/-- `_matches_mapping_filters`: a filter for `None` also matches where there is no such key. -/
def matchesMappingFilters (values filters : Dict Json) : Bool :=
  filters.all fun item => ((values.lookup item.1).getD .null).pyEq item.2

/-- `_matches_filters`. -/
def matchesFilters (record : ConnectionRecord) (query : ConnectionListQuery) : Bool :=
  matchesMappingFilters (record.labels.map fun item => (item.1, .str item.2)) query.labelFilters &&
    matchesMappingFilters record.metadata query.metadataFilters &&
    matchesMappingFilters record.extra query.extraFilters

/-- `list`. -/
def list (query : ConnectionListQuery) : Txn C (List ConnectionRecord) :=
  .select (matchesStatement storage query) fun rows =>
    -- The filters on dictionaries are applied to the records, after the statement.
    .pure ((rows.map (toRecord storage)).filter fun record => matchesFilters record query)

/-- `get`. -/
def get (connectionId : String) : Txn C (Option ConnectionRecord) := do
  let row ← fetchRow connectionId
  return row.map (toRecord storage)

/-- `replace`. -/
def replace (connectionId : String) (draft : ConnectionDraft) :
    Txn C (Option ConnectionRecord) := do
  match ← fetchRow connectionId with
  | none => return none
  | some _ =>
    -- The WHERE clause is the id alone: whether the row is still active is not asked.
    Prog.update connectionId (replaceUpdate storage env draft) (.pure ())
    match ← fetchRow connectionId with
    | none => .throw .assertionError
    | some updated => return some (toRecord storage updated)

/-- `delete`. -/
def delete (connectionId : String) : Txn C (Option ConnectionRecord) := do
  match ← fetchRow connectionId with
  | none => return none
  | some _ =>
    -- The same WHERE clause, so a deleted row can be deleted again.
    Prog.update connectionId (deleteUpdate env) (.pure ())
    match ← fetchRow connectionId with
    | none => .throw .assertionError
    | some deleted => return some (toRecord storage deleted)

end Repository
end DbConnection
