import DbConnection.Compat.UpsertedObject

/-!
# The row that an upsert leaves

What an upsert is for (`Upserted`), and the upserts that do it (`Fits`). `upsert_db_connection`
inserts the object that it makes where no active row has the key, and writes its set fields over the
row otherwise. Either way the row that is flushed lands under the key (`Lands`), so that only this
row decides (`upserted_iff_row`). In each case that comes to the conditions of `Fits`: the values
can be assigned one after the other to the object that is made, and to the one of the row, and the
properties are given back (`KeptInNew`, `KeptInRow`).
-/

namespace DbConnection.Compat

open PyData Pydantic OwnedTable

/-! ## What an upsert is for -/

/-- The row is loaded with each value that the body set. -/
def Carries (config : ExtensionConfig) (body : BodyModel) (row : TableRow) : Prop :=
  ∀ name ∈ body.fieldsSet, ∀ value, body.attributes.lookup name = some value →
    ∃ stored, row.lookup name = some stored ∧ resultColumn config name stored = .ok value

/-- The upsert completes and leaves exactly one active row with its key, which carries the body; the
rows with other keys are those that were there. -/
structure Upserted (config : ExtensionConfig) (user : User) (body : BodyModel)
    (before : ServerState config)
    (outcome : Except PyError LegacyResponse × ServerState config) : Prop where
  completes : ∃ response, outcome.1 = .ok response
  carried : ∃ row, outcome.2.table.rows.filter (fun r =>
    r.isActive && decide (config.model.key r = upsertKey config user body)) = [row] ∧
      Carries config body row
  others : ∀ row, config.model.key row ≠ upsertKey config user body →
    (row ∈ outcome.2.table.rows ↔ row ∈ before.table.rows)

/-- The column gives the properties back where others are written to it. -/
def GivesBack (config : ExtensionConfig) (env : RequestEnv)
    (written properties : AttributeValue) : Prop :=
  ∃ stored, bindColumn config env "connection_properties" written = .ok stored ∧
    resultColumn config "connection_properties" stored = .ok properties

/-- A new row has the properties: they go with the type, and the column gives them back. -/
def KeptInNew (config : ExtensionConfig) (env : RequestEnv) (body : BodyModel) : Prop :=
  ∃ made, SetWith config (body.attributes.lookup "type") (givenProperties config body) made ∧
    GivesBack config env made body.connectionProperties

/-- The upsert writes a field before the type. -/
def SetsLeading (config : ExtensionConfig) (user : User) (body : BodyModel) : Prop :=
  ∃ name ∈ leadingFields config, name ≠ "id" ∧ (upsertValues config user body).contains name = true

/-- The row is loaded with the properties `loaded`, and takes the type of the body: it is set before
the properties, so that the loaded ones go with it, and with the row's own type if a field is set
before that. -/
structure TakesType (config : ExtensionConfig) (user : User) (body : BodyModel) (row : TableRow)
    (loaded : AttributeValue) : Prop where
  loads : ∃ stored, row.lookup "connection_properties" = some stored ∧
    resultColumn config "connection_properties" stored = .ok loaded
  leads : SetsLeading config user body →
    Dispatches config.host ((row.lookup "type").map .json) (some loaded)
  turns : Dispatches config.host (body.attributes.lookup "type") (some loaded)

/-- The properties of a row are written over: the upsert made `made` of those of the body, and
`written` of its dump. -/
structure WritesOver (config : ExtensionConfig) (user : User) (body : BodyModel) (row : TableRow)
    (loaded made written : AttributeValue) : Prop
    extends TakesType config user body row loaded where
  makes : SetWith config (body.attributes.lookup "type") (givenProperties config body) made
  rewrites : SetWith config (body.attributes.lookup "type") made.dump written

/-- A row that is written over has the properties: it had them, or the column gives them back. -/
structure KeptOver (config : ExtensionConfig) (env : RequestEnv) (user : User) (body : BodyModel)
    (row : TableRow) (loaded made written : AttributeValue) : Prop
    extends WritesOver config user body row loaded made written where
  unchanged : loaded = written → written = body.connectionProperties
  changed : loaded ≠ written → GivesBack config env written body.connectionProperties

/-- A row that is found has the properties after the upsert. -/
def KeptInRow (config : ExtensionConfig) (env : RequestEnv) (user : User) (body : BodyModel)
    (row : TableRow) : Prop :=
  ∃ loaded made written, KeptOver config env user body row loaded made written

/-- The upserts that do what they are for. -/
structure Fits (config : ExtensionConfig) (env : RequestEnv) (user : User) (body : BodyModel)
    (rows : List TableRow) : Prop where
  /-- With users, the body does not have their keys. -/
  separate : config.useAuth = true → ∀ item ∈ config.userFksMapping,
    body.attributes.contains item.1 = false
  /-- The body does not delete. -/
  keepsActive : ∀ value, body.attributes.lookup "is_deleted" = some value →
    value = .json (.bool false)
  /-- No deleted row has the key. -/
  active : ∀ row ∈ rows, config.model.key row = upsertKey config user body → row.isActive = true
  /-- A row with the key has the id that the body sets. -/
  sameId : ∀ row ∈ rows, config.model.key row = upsertKey config user body →
    "id" ∈ body.fieldsSet → ∀ value, body.attributes.lookup "id" = some value →
      ∃ stored, row.lookup "id" = some stored ∧ resultColumn config "id" stored = .ok value
  keptInRow : ∀ row ∈ rows, config.model.key row = upsertKey config user body →
    KeptInRow config env user body row
  keptInNew : (∀ row ∈ rows, config.model.key row ≠ upsertKey config user body) →
    KeptInNew config env body

variable {config : ExtensionConfig} {env : RequestEnv} {user : User} {body : BodyModel}
  {name : String} {value : AttributeValue}

/-! ## What is flushed -/

/-- What `upsert_db_connection` flushes. -/
def upsertFlushed (config : ExtensionConfig) (env : RequestEnv) (user : User) (body : BodyModel)
    (table : Table config.model.key) : Except PyError (TableRow × Table config.model.key) := do
  let given ← upsertGiven config user body
  let attributes ← upsertAttributes config env given
  match ← findSamePk config env table.rows attributes with
  | some existing =>
    let updated ← upsertedAttributes config env existing given attributes
    flushUpdate config env table existing updated
  | none =>
    let created ← sqlmodelUpdate config attributes [("created_at", .json (.int env.now))]
    flushInsert config env table created

/-- The route commits what it flushes. -/
theorem upsertDbConnection_eq (table : Table config.model.key) :
    upsertDbConnection config env user body table =
      commitFlushed config table (upsertFlushed config env user body table) := rfl

/-- Where what is flushed is put under the key of the upsert, the upsert does what it is for when
the row is loaded, active and carries the body. -/
theorem upserted_iff_row {state : ServerState config}
    (hlimit : (validateMaxConnections config user state).1 = .ok true)
    (hput : ∀ row after, upsertFlushed config env user body state.table = .ok (row, after) →
      Table.Put state.table row after ∧ config.model.key row = upsertKey config user body) :
    Upserted config user body state (handle config env user (.upsert body) state) ↔
      ∃ row after, upsertFlushed config env user body state.table = .ok (row, after) ∧
        (∃ object, loadObject config row = .ok object) ∧ row.isActive = true ∧
        Carries config body row := by
  obtain ⟨hresponse, htable⟩ := handle_upsert env body hlimit
  rw [upsertDbConnection_eq] at hresponse htable
  cases hflushed : upsertFlushed config env user body state.table with
  | error e =>
    rw [hflushed] at hresponse
    refine iff_of_false (fun h => ?_) fun ⟨_, _, h, _⟩ => by cases h
    obtain ⟨response, hcompletes⟩ := h.completes
    rw [hresponse] at hcompletes
    cases hcompletes
  | ok flushed =>
    obtain ⟨row, after⟩ := flushed
    rw [hflushed] at hresponse htable
    dsimp only [commitFlushed] at hresponse htable
    obtain ⟨hrows, hkey⟩ := hput row after hflushed
    have hmem : row ∈ after.rows := (hrows row).mpr (Or.inl rfl)
    have hloads : (∃ response, refreshed config row = .ok response) ↔
        ∃ object, loadObject config row = .ok object := by
      unfold refreshed
      cases loadObject config row with
      | error e => exact iff_of_false (fun ⟨_, h⟩ => by cases h) fun ⟨_, h⟩ => by cases h
      | ok object => exact iff_of_true ⟨_, rfl⟩ ⟨_, rfl⟩
    have hfilter := Table.filter_key_eq hmem TableRow.isActive
    rw [hkey] at hfilter
    constructor
    · intro h
      obtain ⟨found, hfound, hcarries⟩ := h.carried
      have hcompletes := h.completes
      rw [htable] at hfound
      rw [hresponse] at hcompletes
      rw [hfilter] at hfound
      split at hfound
      · rename_i hactive
        rw [← List.singleton_inj.mp hfound] at hcarries
        exact ⟨row, after, rfl, hloads.mp hcompletes, hactive, hcarries⟩
      · cases hfound
    · rintro ⟨_, _, ⟨⟩, hload, hactive, hcarries⟩
      refine ⟨?_, ⟨row, ?_, hcarries⟩, fun r hr => ?_⟩
      · rw [hresponse]
        exact hloads.mpr hload
      · rw [htable, hfilter, if_pos hactive]
      · rw [htable, hrows r]
        constructor
        · rintro (rfl | ⟨hold, -⟩)
          · exact absurd hkey hr
          · exact hold
        · exact fun hold => Or.inr ⟨hold, hkey ▸ hr⟩

/-! ## The row that is put -/

section Row

variable {row : TableRow} {stored : Json}

/-- A value of the body is given. -/
theorem lookup_upsertValues_of_body {value : AttributeValue}
    (hvalue : body.attributes.lookup name = some value) :
    (upsertValues config user body).lookup name = some value := by
  rw [lookup_upsertValues, hvalue, Option.some_or]

/-- Whether a body deletes is its own matter: no key of the user is the column. -/
theorem ValidUpsert.lookup_isDeleted (hconfig : LawfulModel config)
    (h : ValidUpsert config env user body) :
    (upsertValues config user body).lookup "is_deleted" = body.attributes.lookup "is_deleted" := by
  rw [lookup_upsertValues]
  cases huser : (userKeys config user).lookup "is_deleted" with
  | none => exact Option.or_none
  | some value =>
    obtain ⟨-, ⟨item, hitem, hname⟩, -⟩ := h.of_mem_userKeys (Dict.mem_of_lookup huser)
    have hown := (hconfig.userFks_fields item hitem).2
    rw [hname] at hown
    exact absurd (by decide) hown

/-- The row that an upsert puts: it has the key and the values of the upsert, its id apart. -/
structure Lands (config : ExtensionConfig) (user : User) (body : BodyModel)
    (before : Table config.model.key) (row : TableRow) (after : Table config.model.key) : Prop where
  put : Table.Put before row after
  key : config.model.key row = upsertKey config user body
  columns : HasColumns config row
  values : ∀ name v, name ≠ "connection_properties" → name ≠ "id" →
    (upsertValues config user body).lookup name = some (.json v) → row.lookup name = some v
  active : (upsertValues config user body).lookup "is_deleted" = none → row.isActive = true

/-- A row that has the values of the body is active when the body does not delete. -/
theorem ValidUpsert.isActive_iff (h : ValidUpsert config env user body)
    (hvalues : ∀ v, body.attributes.lookup "is_deleted" = some (.json v) →
      row.lookup "is_deleted" = some v)
    (hkept : body.attributes.lookup "is_deleted" = none → row.isActive = true) :
    row.isActive = true ↔ ∀ value, body.attributes.lookup "is_deleted" = some value →
      value = .json (.bool false) := by
  cases hvalue : body.attributes.lookup "is_deleted" with
  | none => exact iff_of_true (hkept hvalue) fun _ h => by cases h
  | some value =>
    obtain ⟨v, rfl⟩ := h.plain _ value hvalue (by decide)
    unfold TableRow.isActive
    rw [hvalues v hvalue, beq_iff_eq, Option.some.injEq]
    constructor
    · rintro rfl _ ⟨⟩
      rfl
    · exact fun h => AttributeValue.json.inj (h _ rfl)

/-- The row that an upsert puts is loaded, active and carries the body when the body does not
delete, its properties are loaded as the body's, and its id is the body's. -/
theorem Lands.carries_iff (hconfig : LawfulModel config) (h : ValidUpsert config env user body)
    {before after : Table config.model.key} (hlands : Lands config user body before row after)
    (hstored : row.lookup "connection_properties" = some stored) :
    ((∃ object, loadObject config row = .ok object) ∧ row.isActive = true ∧
        Carries config body row) ↔
      (∀ value, body.attributes.lookup "is_deleted" = some value → value = .json (.bool false)) ∧
      resultColumn config "connection_properties" stored = .ok body.connectionProperties ∧
      ("id" ∈ body.fieldsSet → ∀ value, body.attributes.lookup "id" = some value →
        ∃ stored, row.lookup "id" = some stored ∧
          resultColumn config "id" stored = .ok value) := by
  have hvalues : ∀ name v, name ≠ "connection_properties" → name ≠ "id" →
      body.attributes.lookup name = some (.json v) → row.lookup name = some v :=
    fun name v hname hid hv => hlands.values name v hname hid (lookup_upsertValues_of_body hv)
  have hactive := h.isActive_iff (hvalues "is_deleted" · (by decide) (by decide)) fun hnone =>
    hlands.active ((h.lookup_isDeleted hconfig).trans hnone)
  rw [and_left_comm, hactive, and_congr_right_iff]
  intro _
  constructor
  · rintro ⟨-, hcarries⟩
    refine ⟨?_, hcarries "id"⟩
    obtain ⟨other, hother, hread⟩ := hcarries _ h.properties.1 _ h.lookup_properties
    rw [hstored, Option.some.injEq] at hother
    rw [hother]
    exact hread
  · rintro ⟨hread, hid⟩
    refine ⟨(exists_loadObject_iff hconfig.toHasKey hlands.columns).mpr fun other hother => ?_,
      fun name hset value hvalue => ?_⟩
    · rw [hstored, Option.some.injEq] at hother
      exact ⟨_, hother ▸ hread⟩
    · by_cases hname : name = "connection_properties"
      · rw [hname, h.lookup_properties, Option.some.injEq] at hvalue
        rw [hname, ← hvalue]
        exact ⟨stored, hstored, hread⟩
      · by_cases hnameId : name = "id"
        · rw [hnameId] at hset hvalue ⊢
          exact hid hset value hvalue
        · obtain ⟨v, rfl⟩ := h.plain name value hvalue hname
          exact ⟨v, hvalues name v hname hnameId hvalue, resultColumn_eq hname v⟩

end Row

/-! ## An upsert of a key that no active row has -/

section Unfound

variable {given : Dict AttributeValue} {table : Table config.model.key}
  (hconfig : LawfulModel config) (h : ValidUpsert config env user body)
  (hgivenEq : upsertGiven config user body = .ok given)
  (hgiven : GivesValues config user body given)
  (hunfound : ∀ row ∈ table.rows,
    config.model.key row = upsertKey config user body → row.isActive = false)

include hconfig h hgivenEq hgiven hunfound

/-- The object is inserted. -/
theorem upsertFlushed_of_unfound : upsertFlushed config env user body table = (do
    let attributes ← upsertAttributes config env given
    let created ← sqlmodelUpdate config attributes [("created_at", .json (.int env.now))]
    flushInsert config env table created) := by
  unfold upsertFlushed
  rw [hgivenEq, ok_bind]
  cases hattributes : upsertAttributes config env given with
  | error e => rfl
  | ok attributes =>
    obtain ⟨made, hmakes⟩ := makes_of_upsertAttributes hconfig h hgiven hattributes
    obtain ⟨hkey, hsame⟩ := hmakes.key hconfig h
    have hnone := findSamePk_eq_none env hconfig.toHasKey hkey
      fun r hr hr' => hunfound r hr (hr'.trans hsame)
    rw [ok_bind, ok_bind, hnone]
    rfl

/-- The row that is inserted. -/
theorem lands_of_unfound {row : TableRow} {after : Table config.model.key}
    (hflushed : upsertFlushed config env user body table = .ok (row, after)) :
    Lands config user body table row after ∧
      (∀ r ∈ table.rows, config.model.key r ≠ upsertKey config user body) ∧
      (∃ made stored,
        SetWith config (body.attributes.lookup "type") (givenProperties config body) made ∧
        bindColumn config env "connection_properties" made = .ok stored ∧
        row.lookup "connection_properties" = some stored) ∧
      ∀ v, (upsertValues config user body).lookup "id" = some (.json v) →
        row.lookup "id" = some v := by
  rw [upsertFlushed_of_unfound hconfig h hgivenEq hgiven hunfound] at hflushed
  obtain ⟨attributes, hattributes, hflushed⟩ := bind_eq_ok_iff.mp hflushed
  obtain ⟨created, hcreated, hflushed⟩ := bind_eq_ok_iff.mp hflushed
  obtain ⟨made, hmade⟩ := makes_of_upsertAttributes hconfig h hgiven hattributes
  have hmakes := hmade.dated hconfig h hcreated
  obtain ⟨hkey, hsame⟩ := hmakes.key hconfig h
  have hrowKey := (key_of_flushInsert hconfig.toHasKey hmakes.columns hkey hflushed).trans hsame
  have hinsert := insert_of_flushInsert hflushed
  have hunused : ∀ r ∈ table.rows, config.model.key r ≠ upsertKey config user body :=
    fun r hr => hrowKey ▸ (Table.insert_eq_some hinsert).1 r hr
  have hspec := flushInsert_spec hconfig.toHasKey hmakes.columns hkey hflushed
  have hplain : ∀ name v, name ≠ "connection_properties" → created.lookup name = some (.json v) →
      row.lookup name = some v := by
    intro name v hname hv
    obtain ⟨stored, hstored, hlookup⟩ := hspec name _ hv
    rw [hlookup, AttributeValue.json.inj ((bindColumn_eq_ok_iff hname).mp hstored)]
  have hcolumns := hasColumns_of_flushInsert hmakes.columns hflushed
  refine ⟨⟨Table.put_of_insert hinsert, hrowKey, hcolumns, fun name v hname _ hv => ?_,
      fun hnone => ?_⟩, hunused, ?_,
    fun v hv => hplain "id" v (by decide) (hmakes.values _ _ (by decide) hv)⟩
  · exact hplain name v hname (hmakes.values name _ hname hv)
  · unfold TableRow.isActive
    rw [hplain _ _ (by decide) (hmakes.active hnone), beq_iff_eq]
  · obtain ⟨stored, hstored, hlookup⟩ := hspec _ made hmakes.properties
    exact ⟨made, stored, hmakes.setWith, hstored, hlookup⟩

/-- The insertion goes through where no row has the key and the properties can be written. -/
theorem exists_inserted {made : AttributeValue} {stored : Json}
    (hunused : ∀ r ∈ table.rows, config.model.key r ≠ upsertKey config user body)
    (hmade : SetWith config (body.attributes.lookup "type") (givenProperties config body) made)
    (hstored : bindColumn config env "connection_properties" made = .ok stored) :
    ∃ row after, upsertFlushed config env user body table = .ok (row, after) := by
  obtain ⟨attributes, hattributes⟩ :=
    (exists_upsertAttributes_iff hconfig h hgiven).mpr ⟨made, hmade⟩
  obtain ⟨made', hmakes'⟩ := makes_of_upsertAttributes hconfig h hgiven hattributes
  obtain ⟨created, hcreated⟩ := hmakes'.exists_dated env hconfig h
  have hmakes := hmakes'.dated hconfig h hcreated
  have hsameMade : made' = made := hmade.unique hmakes.setWith
  obtain ⟨hkey, hsame⟩ := hmakes.key hconfig h
  have hbind : ∀ name value, created.lookup name = some value →
      ∃ stored, bindColumn config env name value = .ok stored := by
    intro name value hvalue
    by_cases hproperties : name = "connection_properties"
    · rw [hproperties, hmakes.properties, Option.some.injEq] at hvalue
      rw [hproperties, ← hvalue, hsameMade]
      exact ⟨stored, hstored⟩
    · have hfield : name ∈ config.model.fields := by
        rw [← hmakes.columns]
        exact List.mem_map_of_mem (Dict.mem_of_lookup hvalue)
      obtain ⟨v, hv⟩ := hmakes.plain name hfield hproperties
      rw [hvalue, Option.some.injEq] at hv
      exact ⟨v, (bindColumn_eq_ok_iff hproperties).mpr hv⟩
  obtain ⟨row, after, hflushed⟩ := exists_flushInsert hconfig.toHasKey hconfig.only_key
    hmakes.columns hkey hbind fun r hr => hsame ▸ hunused r hr
  refine ⟨row, after, ?_⟩
  rw [upsertFlushed_of_unfound hconfig h hgivenEq hgiven hunfound, hattributes, ok_bind, hcreated,
    ok_bind]
  exact hflushed

end Unfound

/-- What an upsert leaves where no active row has its key. -/
theorem upserted_iff_of_unfound (hconfig : LawfulModel config)
    (h : ValidUpsert config env user body) {state : ServerState config}
    (hlimit : (validateMaxConnections config user state).1 = .ok true)
    (hseparate : config.useAuth = true → ∀ item ∈ config.userFksMapping,
      body.attributes.contains item.1 = false)
    (hunfound : ∀ row ∈ state.table.rows,
      config.model.key row = upsertKey config user body → row.isActive = false) :
    Upserted config user body state (handle config env user (.upsert body) state) ↔
      (∀ value, body.attributes.lookup "is_deleted" = some value → value = .json (.bool false)) ∧
      (∀ row ∈ state.table.rows, config.model.key row ≠ upsertKey config user body) ∧
      KeptInNew config env body := by
  obtain ⟨given, hgivenEq, hgiven⟩ := exists_upsertGiven h hseparate
  have hlands := fun row after hflushed =>
    lands_of_unfound hconfig h hgivenEq hgiven hunfound
      (hflushed : upsertFlushed config env user body state.table = .ok (row, after))
  rw [upserted_iff_row hlimit fun row after hflushed =>
    ⟨(hlands row after hflushed).1.put, (hlands row after hflushed).1.key⟩]
  -- The row that is inserted has the id that the body sets.
  have hid : ∀ row after, upsertFlushed config env user body state.table = .ok (row, after) →
      "id" ∈ body.fieldsSet → ∀ value, body.attributes.lookup "id" = some value →
        ∃ stored, row.lookup "id" = some stored ∧
          resultColumn config "id" stored = .ok value := by
    intro row after hflushed _ value hvalue
    obtain ⟨v, rfl⟩ := h.plain _ value hvalue (by decide)
    exact ⟨v, (hlands row after hflushed).2.2.2 v (lookup_upsertValues_of_body hvalue),
      resultColumn_eq (by decide) v⟩
  constructor
  · rintro ⟨row, after, hflushed, hrow⟩
    obtain ⟨hland, hunused, ⟨made, stored, hmade, hbound, hstored⟩, -⟩ := hlands row after hflushed
    obtain ⟨hkeeps, hread, -⟩ := (hland.carries_iff hconfig h hstored).mp hrow
    exact ⟨hkeeps, hunused, made, hmade, stored, hbound, hread⟩
  · rintro ⟨hkeeps, hunused, made, hmade, stored, hbound, hread⟩
    obtain ⟨row, after, hflushed⟩ :=
      exists_inserted hconfig h hgivenEq hgiven hunfound hunused hmade hbound
    obtain ⟨hland, -, ⟨made', stored', hmade', hbound', hstored⟩, -⟩ := hlands row after hflushed
    rw [hmade.unique hmade', hbound, Except.ok.injEq] at hbound'
    refine ⟨row, after, hflushed, (hland.carries_iff hconfig h hstored).mpr ⟨hkeeps, ?_, ?_⟩⟩
    · rw [← hbound']
      exact hread
    · exact hid row after hflushed

/-! ## An upsert of the key of an active row -/

/-- The data that is written over a row: the dumps of the attributes that were given, without the
id. -/
def setData (given attributes : Dict AttributeValue) : Dict AttributeValue :=
  (attributes.filter fun item => given.contains item.1 && item.1 != "id").map
    fun item => (item.1, item.2.dump)

/-- An attribute of that data. -/
theorem lookup_setData (given attributes : Dict AttributeValue) (name : String) :
    (setData given attributes).lookup name =
      if given.contains name && name != "id" then (attributes.lookup name).map AttributeValue.dump
      else none := by
  unfold setData
  rw [Dict.lookup_map_values AttributeValue.dump,
    Dict.lookup_filter_key (fun name => given.contains name && name != "id")]
  cases given.contains name && name != "id" <;> rfl

/-- The names of the data are fields of the model, in their order. -/
theorem keys_setData_sublist (given : Dict AttributeValue) {attributes : Dict AttributeValue}
    (hattributes : HasColumns config attributes) :
    ((setData given attributes).map Prod.fst).Sublist config.model.fields := by
  unfold setData
  rw [List.map_map, ← hattributes]
  exact List.filter_sublist.map Prod.fst

/-- What is assigned to the row: that data, and the date. -/
def rewriteData (env : RequestEnv) (given attributes : Dict AttributeValue) :
    Dict AttributeValue :=
  setData given attributes ++ [("updated_at", .json (.int env.now))]

/-- The attributes of a row after an upsert was written over it: the values of the upsert but the
id, and the properties that were read again of their dump. -/
structure Rewrites (config : ExtensionConfig) (env : RequestEnv) (user : User) (body : BodyModel)
    (existing : ConnectionObject) (made : AttributeValue) (updated : Dict AttributeValue)
    (written : AttributeValue) : Prop where
  columns : HasColumns config updated
  setWith : SetWith config (body.attributes.lookup "type") made.dump written
  properties : updated.lookup "connection_properties" = some written
  values : ∀ name v, name ≠ "connection_properties" → name ≠ "id" →
    (upsertValues config user body).lookup name = some (.json v) →
      updated.lookup name = some (.json v)
  kept : ∀ name, name ≠ "connection_properties" → name ≠ "updated_at" →
    name = "id" ∨ (upsertValues config user body).lookup name = none →
      updated.lookup name = existing.attributes.lookup name
  dated : updated.lookup "updated_at" = some (.json (.int env.now))

section Found

variable {given attributes updated : Dict AttributeValue} {made : AttributeValue}
  {existing : ConnectionObject} (hconfig : LawfulModel config)
  (h : ValidUpsert config env user body) (hgiven : GivesValues config user body given)
  (hmakes : Makes config user body attributes made)

include h hgiven

/-- A field is given when the upsert has a value of it. -/
theorem contains_given (name : String) :
    given.contains name = (upsertValues config user body).contains name := by
  unfold Dict.contains
  by_cases hname : name = "connection_properties"
  · rw [hname, hgiven.properties, lookup_upsertValues_of_body h.lookup_properties]
    rfl
  · rw [hgiven.values name hname]

include hmakes

/-- The properties are assigned as their dump. -/
theorem lookup_setData_properties :
    (setData given attributes).lookup "connection_properties" = some made.dump := by
  rw [lookup_setData, contains_given h hgiven, hmakes.properties]
  unfold Dict.contains
  rw [lookup_upsertValues_of_body h.lookup_properties]
  rfl

include hconfig

/-- The other values are assigned as they are, but the id is not. -/
theorem lookup_setData_of_ne (hname : name ≠ "connection_properties") :
    (setData given attributes).lookup name =
      if name = "id" then none else (upsertValues config user body).lookup name := by
  rw [lookup_setData, contains_given h hgiven]
  unfold Dict.contains
  cases hvalue : (upsertValues config user body).lookup name with
  | none => simp
  | some value =>
    obtain ⟨v, rfl⟩ := (h.of_lookup hconfig hvalue).2.2.2.2 hname
    rw [hmakes.values name _ hname hvalue]
    by_cases hid : name = "id" <;> simp [hid, AttributeValue.dump]

variable (env) in
/-- The values that are assigned to the row. -/
theorem lookup_rewriteData (name : String) : (rewriteData env given attributes).lookup name =
    if name = "updated_at" then some (.json (.int env.now))
    else (setData given attributes).lookup name := by
  unfold rewriteData
  rw [List.lookup_append]
  by_cases hname : name = "updated_at"
  · have hnone : (setData given attributes).lookup name = none := by
      rw [hname, lookup_setData_of_ne hconfig h hgiven hmakes (by decide), if_neg (by decide),
        Option.eq_none_iff_forall_ne_some]
      intro value hvalue
      exact (h.of_lookup hconfig hvalue).2.2.1 rfl
    rw [hnone, hname]
    rfl
  · have hne : (name == "updated_at") = false := beq_eq_false_iff_ne.mpr hname
    rw [if_neg hname, List.lookup_cons, hne]
    exact Option.or_none

variable (env) in
/-- The names of the values that are assigned to the row. -/
theorem keys_rewriteData : ((rewriteData env given attributes).map Prod.fst).Nodup ∧
    ∀ item ∈ rewriteData env given attributes, item.1 ∈ config.model.fields := by
  have hsublist := keys_setData_sublist given hmakes.columns
  have hnone := lookup_setData_of_ne hconfig h hgiven hmakes
    (show "updated_at" ≠ "connection_properties" by decide)
  unfold rewriteData
  constructor
  · rw [List.map_append, List.nodup_append]
    refine ⟨hconfig.fields_nodup.sublist hsublist, List.nodup_singleton _, ?_⟩
    rintro name hname _ hdate rfl
    obtain ⟨value, hvalue⟩ := Dict.exists_lookup_of_mem_keys hname
    rw [List.mem_singleton.mp hdate] at hvalue
    rw [hvalue, if_neg (by decide)] at hnone
    exact (h.of_lookup hconfig hnone.symm).2.2.1 rfl
  · intro item hitem
    rcases List.mem_append.mp hitem with hdata | hdate
    · exact hsublist.subset (List.mem_map_of_mem hdata)
    · rw [List.mem_singleton.mp hdate]
      exact (hconfig.ownColumns_fields "updated_at" (by decide)).1

/-- The row is written over in one go. -/
theorem upsertedAttributes_eq : upsertedAttributes config env existing given attributes =
    setAttributes config existing.attributes (rewriteData env given attributes) := by
  have hnames := (keys_rewriteData env hconfig h hgiven hmakes).2
  unfold rewriteData at hnames ⊢
  have hdata : sqlmodelUpdate config existing.attributes (setData given attributes) =
      setAttributes config existing.attributes (setData given attributes) :=
    sqlmodelUpdate_eq fun item hitem => hnames item (List.mem_append_left _ hitem)
  show (sqlmodelUpdate config existing.attributes (setData given attributes) >>= fun updated =>
    sqlmodelUpdate config updated [("updated_at", .json (.int env.now))]) = _
  rw [hdata]
  unfold setAttributes
  rw [List.foldlM_append]
  refine congrArg _ (funext fun between => ?_)
  exact sqlmodelUpdate_date hconfig (show "updated_at" ∈ ownColumns by decide)

/-- The fields validate the values that are assigned to the row when the properties are read again of
their dump. -/
theorem fieldsAccept_rewriteData_iff : FieldsAccept config (rewriteData env given attributes) ↔
    ∃ written, config.model.assign "connection_properties" made.dump = .ok written := by
  have hnodup := (keys_rewriteData env hconfig h hgiven hmakes).1
  have hlookup := lookup_rewriteData env hconfig h hgiven hmakes
  constructor
  · intro haccept
    refine haccept ("connection_properties", made.dump) (Dict.mem_of_lookup ?_)
    rw [hlookup, if_neg (by decide)]
    exact lookup_setData_properties h hgiven hmakes
  · rintro ⟨written, hwritten⟩ ⟨name, value⟩ hitem
    have hvalue := Dict.lookup_of_mem hnodup hitem
    rw [hlookup] at hvalue
    split at hvalue
    · rename_i hdate
      cases hvalue
      exact ⟨_, hconfig.times_taken env.now name (by rw [hdate]; decide)⟩
    · by_cases hname : name = "connection_properties"
      · rw [hname, lookup_setData_properties h hgiven hmakes, Option.some.injEq] at hvalue
        rw [hname, ← hvalue]
        exact ⟨written, hwritten⟩
      · rw [lookup_setData_of_ne hconfig h hgiven hmakes hname] at hvalue
        split at hvalue
        · cases hvalue
        · exact ⟨value, (h.of_lookup hconfig hvalue).2.2.2.1⟩

/-- A field before the type is assigned when the upsert writes one. -/
theorem setsLeading_iff : (∃ name ∈ leadingFields config,
    (setData given attributes).contains name = true) ↔ SetsLeading config user body := by
  obtain ⟨before, between, after, hfields⟩ := hconfig.fields_eq
  have hleading := leadingFields_eq hconfig.fields_nodup hfields
  have hnot : "connection_properties" ∉ before := by
    have hnodup := hconfig.fields_nodup
    rw [hfields, List.nodup_append] at hnodup
    exact fun hmem => hnodup.2.2 _ hmem _ (by simp) rfl
  unfold SetsLeading
  refine exists_congr fun name => and_congr_right fun hname => ?_
  rw [hleading] at hname
  unfold Dict.contains
  rw [lookup_setData_of_ne hconfig h hgiven hmakes fun he => hnot (he ▸ hname)]
  by_cases hid : name = "id" <;> simp [hid]

variable (env) in
/-- The set fields are assigned over the row where its properties go with the type that is there at
each turn, and those of the object that was made are set along with its type. -/
theorem exists_upsertedAttributes_iff (hinst : Instanced existing.attributes) :
    (∃ updated, upsertedAttributes config env existing given attributes = .ok updated) ↔
      (SetsLeading config user body → Dispatches config.host (existing.attributes.lookup "type")
        (existing.attributes.lookup "connection_properties")) ∧
      Dispatches config.host (body.attributes.lookup "type")
        (existing.attributes.lookup "connection_properties") ∧
      ∃ written, SetWith config (body.attributes.lookup "type") made.dump written := by
  obtain ⟨type, htype⟩ := h.type
  have hsetType : (setData given attributes).lookup "type" = some type := by
    rw [lookup_setData_of_ne hconfig h hgiven hmakes (by decide), if_neg (by decide),
      lookup_upsertValues_of_body htype]
  have hpick := Dict.pick_of_sublist hconfig.fields_nodup
    (keys_setData_sublist given hmakes.columns)
  have hset := exists_setAttributes_iff hconfig.toHasKey hconfig.toInheritsFields hinst hsetType
    (h.taken _ _ htype) (lookup_setData_properties h hgiven hmakes)
    (List.cons_ne_nil ("updated_at", AttributeValue.json (.int env.now)) []) fun item hitem => by
      rw [List.mem_singleton.mp hitem]
      exact ⟨by simp, by simp⟩
  rw [hpick, ← rewriteData] at hset
  rw [upsertedAttributes_eq hconfig h hgiven hmakes, hset,
    setsLeading_iff hconfig h hgiven hmakes, fieldsAccept_rewriteData_iff hconfig h hgiven hmakes,
    htype]
  constructor
  · rintro ⟨hleads, hturns, hreads, ⟨written, hwritten⟩, hsuits⟩
    exact ⟨hleads, hturns, written, hreads, hwritten, hsuits written hwritten⟩
  · rintro ⟨hleads, hturns, written, hset⟩
    refine ⟨hleads, hturns, hset.reads, ⟨written, hset.assigned⟩, fun other hother => ?_⟩
    rw [hset.assigned, Except.ok.injEq] at hother
    exact hother ▸ hset.suits

/-- The attributes of an active row that is written over. -/
theorem rewrites_of_upsertedAttributes (hexisting : HasColumns config existing.attributes)
    (hinst : Instanced existing.attributes)
    (hactive : existing.attributes.lookup "is_deleted" = some (.json (.bool false)))
    (hupdated : upsertedAttributes config env existing given attributes = .ok updated) :
    ∃ written, Rewrites config env user body existing made updated written := by
  obtain ⟨-, -, written, hwritten⟩ :=
    (exists_upsertedAttributes_iff env hconfig h hgiven hmakes hinst).mp ⟨updated, hupdated⟩
  rw [upsertedAttributes_eq hconfig h hgiven hmakes] at hupdated
  obtain ⟨hnodup, hnames⟩ := keys_rewriteData env hconfig h hgiven hmakes
  have hassigned := assigned_of_setAttributes hconfig.toInheritsFields hnodup hinst hupdated
  have hlookup := lookup_rewriteData env hconfig h hgiven hmakes
  -- What is taken as it is.
  have htaken : ∀ name value, (rewriteData env given attributes).lookup name = some value →
      config.model.assign name value = .ok value → updated.lookup name = some value := by
    intro name value hvalue htaken
    obtain ⟨v, hv, hset⟩ := hassigned.assigned name value hvalue
    rw [hset, Except.ok.inj (hv.symm.trans htaken)]
  refine ⟨written, hasColumns_of_setAttributes hconfig.toInheritsFields hnames hexisting hupdated,
    hwritten, ?_, fun name v hname hid hv => ?_, fun name hname hdate hnot => ?_, ?_⟩
  · obtain ⟨v, hv, hset⟩ := hassigned.assigned "connection_properties" made.dump (by
      rw [hlookup, if_neg (by decide)]
      exact lookup_setData_properties h hgiven hmakes)
    rw [hset, Except.ok.inj (hv.symm.trans hwritten.assigned)]
  · obtain ⟨-, -, hdate, hsame, -⟩ := h.of_lookup hconfig hv
    refine htaken name _ ?_ hsame
    rw [hlookup, if_neg hdate, lookup_setData_of_ne hconfig h hgiven hmakes hname, if_neg hid, hv]
  · have hnone : (rewriteData env given attributes).lookup name = none := by
      rw [hlookup, if_neg hdate, lookup_setData_of_ne hconfig h hgiven hmakes hname]
      rcases hnot with rfl | hnone
      · rfl
      · rw [hnone, ite_self]
    by_cases hdeleted : name = "is_deleted"
    · subst hdeleted
      rw [hactive]
      exact hassigned.keptDeleted hnone _ (by simp) hactive
    · exact hassigned.kept name hdeleted hnone
  · refine htaken _ _ ?_ (hconfig.times_taken env.now _ (by decide))
    rw [hlookup, if_pos rfl]

end Found

/-- A loaded row has plain values but for its properties. -/
theorem lookup_of_loadObject (hconfig : HasKey config) {row : TableRow} {object : ConnectionObject}
    (hrow : HasColumns config row) (hload : loadObject config row = .ok object)
    (hname : name ≠ "connection_properties") {v : Json} (hv : row.lookup name = some v) :
    object.attributes.lookup name = some (.json v) := by
  obtain ⟨value, hread, hvalue⟩ := (loadObject_spec hconfig hrow hload).2 name v hv
  rw [resultColumn_eq hname] at hread
  rw [hvalue, Except.ok.inj hread]

section Over

variable {table after : Table config.model.key} {row : TableRow} {existing : ConnectionObject}
  {updated : Dict AttributeValue} {made written : AttributeValue}

namespace Rewrites

variable (hrewrites : Rewrites config env user body existing made updated written)
  (hconfig : LawfulModel config) (hcolumns : HasColumns config existing.row)
  (hload : loadObject config existing.row = .ok existing)

include hrewrites hconfig hcolumns hload

/-- A column that is not written is as it was. -/
theorem lookup_kept (hflushed : flushUpdate config env table existing updated = .ok (row, after))
    (hname : name ≠ "connection_properties") (hdate : name ≠ "updated_at")
    (hfield : name ∈ config.model.fields)
    (hnot : name = "id" ∨ (upsertValues config user body).lookup name = none) :
    row.lookup name = existing.row.lookup name := by
  obtain ⟨v, hv⟩ := hcolumns.exists_lookup hfield
  rw [hv]
  refine lookup_of_flushUpdate hconfig.toHasKey hcolumns hload hrewrites.columns hflushed hname ?_
  rw [hrewrites.kept name hname hdate hnot]
  exact lookup_of_loadObject hconfig.toHasKey hcolumns hload hname hv

variable (h : ValidUpsert config env user body)

include h

/-- Every value that is written, but for the properties, is plain. -/
theorem plain (hname : name ≠ "connection_properties") (hfield : name ∈ config.model.fields) :
    ∃ v, updated.lookup name = some (.json v) := by
  by_cases hdate : name = "updated_at"
  · rw [hdate]
    exact ⟨_, hrewrites.dated⟩
  · obtain ⟨stored, hstored⟩ := hcolumns.exists_lookup hfield
    have hloaded := lookup_of_loadObject hconfig.toHasKey hcolumns hload hname hstored
    by_cases hid : name = "id"
    · exact ⟨stored, (hrewrites.kept name hname hdate (Or.inl hid)).trans hloaded⟩
    · cases hvalue : (upsertValues config user body).lookup name with
      | none => exact ⟨stored, (hrewrites.kept name hname hdate (Or.inr hvalue)).trans hloaded⟩
      | some value =>
        obtain ⟨v, rfl⟩ := (h.of_lookup hconfig hvalue).2.2.2.2 hname
        exact ⟨v, hrewrites.values name v hname hid hvalue⟩

variable (hsame : config.model.key existing.row = upsertKey config user body)

include hsame

/-- What is written over a row with the key has the key: the id is not written, but the row has that
of the key. -/
theorem key :
    FullKey config updated ∧ attributeKey config updated = upsertKey config user body := by
  refine key_of_values h fun name hname v hv => ?_
  have hproperties : name ≠ "connection_properties" :=
    fun he => hconfig.properties_not_key (he ▸ hname)
  by_cases hid : name = "id"
  · have hstored : existing.row.lookup name = some v := lookup_of_key_eq hsame hname hv
    have hdate : name ≠ "updated_at" := (h.of_lookup hconfig hv).2.2.1
    rw [hrewrites.kept name hproperties hdate (Or.inl hid)]
    exact lookup_of_loadObject hconfig.toHasKey hcolumns hload hproperties hstored
  · exact hrewrites.values name v hproperties hid hv

/-- The write goes through when the properties, if they change, can be written. -/
theorem exists_flushed (table : Table config.model.key) {loaded : AttributeValue}
    (hloaded : existing.attributes.lookup "connection_properties" = some loaded)
    (hbind : loaded ≠ written → ∃ stored,
      bindColumn config env "connection_properties" written = .ok stored) :
    ∃ row after, flushUpdate config env table existing updated = .ok (row, after) := by
  obtain ⟨hkey, hkeyEq⟩ := hrewrites.key hconfig hcolumns hload h hsame
  refine exists_flushUpdate hconfig.toHasKey hconfig.only_key hcolumns hload hrewrites.columns hkey
    (hsame.trans hkeyEq.symm) fun name value hvalue hchanged => ?_
  by_cases hname : name = "connection_properties"
  · rw [hname, hrewrites.properties, Option.some.injEq] at hvalue
    rw [hname, hloaded, ← hvalue] at hchanged
    rw [hname, ← hvalue]
    exact hbind fun heq => hchanged (congrArg some heq)
  · have hfield : name ∈ config.model.fields := by
      rw [← hrewrites.columns]
      exact List.mem_map_of_mem (Dict.mem_of_lookup hvalue)
    obtain ⟨v, hv⟩ := hrewrites.plain hconfig hcolumns hload h hname hfield
    rw [hvalue, Option.some.injEq] at hv
    exact ⟨v, (bindColumn_eq_ok_iff hname).mpr hv⟩

variable (hold : existing.row ∈ table.rows) (hactive : existing.row.isActive = true)
  (hflushed : flushUpdate config env table existing updated = .ok (row, after))

include hold hactive hflushed

/-- The row that is written over an active one. -/
theorem lands : Lands config user body table row after := by
  obtain ⟨hkey, hkeyEq⟩ := hrewrites.key hconfig hcolumns hload h hsame
  have hrowKey := (key_of_flushUpdate hconfig.toHasKey hcolumns hload hrewrites.columns hkey
    (hsame.trans hkeyEq.symm) hflushed).trans hsame
  have hput := Table.put_of_replace hold (hrowKey.trans hsame.symm)
    (replace_of_flushUpdate hflushed)
  have hrow := hasColumns_of_flushUpdate hcolumns hrewrites.columns hflushed
  refine ⟨hput, hrowKey, hrow, fun name v hname hid hv => ?_, fun hnone => ?_⟩
  · exact lookup_of_flushUpdate hconfig.toHasKey hcolumns hload hrewrites.columns hflushed hname
      (hrewrites.values name v hname hid hv)
  · have hkept := hrewrites.lookup_kept hconfig hcolumns hload hflushed (by decide)
      (by decide) (hconfig.ownColumns_fields "is_deleted" (by decide)).1 (Or.inr hnone)
    unfold TableRow.isActive at hactive ⊢
    rw [hkept]
    exact hactive

end Rewrites

end Over

/-! ## The two cases -/

/-- The object of an active row. -/
theorem loaded_of_active (hconfig : LawfulModel config) {old : TableRow}
    (hactive : old.isActive = true) (hcolumns : HasColumns config old) {existing : ConnectionObject}
    (hload : loadObject config old = .ok existing) : HasColumns config existing.attributes ∧
      Instanced existing.attributes ∧
      existing.attributes.lookup "is_deleted" = some (.json (.bool false)) ∧
      existing.attributes.lookup "type" = (old.lookup "type").map .json := by
  refine ⟨(loadObject_spec hconfig.toHasKey hcolumns hload).1,
    instanced_of_loadObject hconfig.toHasKey hcolumns hload, ?_, ?_⟩
  · exact lookup_of_loadObject hconfig.toHasKey hcolumns hload (by decide) (beq_iff_eq.mp hactive)
  · obtain ⟨before, between, after, hfields⟩ := hconfig.fields_eq
    obtain ⟨type, htype⟩ := hcolumns.exists_lookup (by rw [hfields]; simp : "type" ∈ _)
    rw [htype]
    exact lookup_of_loadObject hconfig.toHasKey hcolumns hload (by decide) htype


section Found

variable {given : Dict AttributeValue} {table : Table config.model.key} {old : TableRow}
  (hconfig : LawfulModel config) (h : ValidUpsert config env user body)
  (hgivenEq : upsertGiven config user body = .ok given)
  (hgiven : GivesValues config user body given)
  (hold : old ∈ table.rows) (hactive : old.isActive = true)
  (hsame : config.model.key old = upsertKey config user body)

include hconfig h hgivenEq hgiven hold hactive hsame

/-- The set fields go over the row. -/
theorem upsertFlushed_of_found : upsertFlushed config env user body table = (do
    let attributes ← upsertAttributes config env given
    let existing ← loadObject config old
    let updated ← upsertedAttributes config env existing given attributes
    flushUpdate config env table existing updated) := by
  unfold upsertFlushed
  rw [hgivenEq, ok_bind]
  cases hattributes : upsertAttributes config env given with
  | error e => rfl
  | ok attributes =>
    obtain ⟨made, hmakes⟩ := makes_of_upsertAttributes hconfig h hgiven hattributes
    obtain ⟨hkey, hkeyEq⟩ := hmakes.key hconfig h
    rw [ok_bind, ok_bind, findSamePk_eq_some env hconfig.toHasKey hkey hold hactive
      (hsame.trans hkeyEq.symm)]
    cases loadObject config old <;> rfl

/-- The row that is written over the active one. -/
theorem lands_of_found (hcolumns : HasColumns config old) {row : TableRow}
    {after : Table config.model.key}
    (hflushed : upsertFlushed config env user body table = .ok (row, after)) :
    Lands config user body table row after ∧
      ("id" ∈ config.model.fields → row.lookup "id" = old.lookup "id") ∧
      ∃ loaded made written, WritesOver config user body old loaded made written ∧
        (loaded = written →
          row.lookup "connection_properties" = old.lookup "connection_properties") ∧
        (loaded ≠ written → ∃ rewritten,
          bindColumn config env "connection_properties" written = .ok rewritten ∧
            row.lookup "connection_properties" = some rewritten) := by
  rw [upsertFlushed_of_found hconfig h hgivenEq hgiven hold hactive hsame] at hflushed
  obtain ⟨attributes, hattributes, hflushed⟩ := bind_eq_ok_iff.mp hflushed
  obtain ⟨existing, hload, hflushed⟩ := bind_eq_ok_iff.mp hflushed
  obtain ⟨updated, hupdated, hflushed⟩ := bind_eq_ok_iff.mp hflushed
  obtain ⟨made, hmakes⟩ := makes_of_upsertAttributes hconfig h hgiven hattributes
  obtain ⟨hexisting, hinst, hdeleted, htype⟩ :=
    loaded_of_active hconfig hactive hcolumns hload
  obtain ⟨hleads, hturns, -⟩ :=
    (exists_upsertedAttributes_iff env hconfig h hgiven hmakes hinst).mp ⟨updated, hupdated⟩
  obtain ⟨written, hrewrites⟩ :=
    rewrites_of_upsertedAttributes hconfig h hgiven hmakes hexisting hinst hdeleted hupdated
  obtain ⟨-, hloaded⟩ := loadObject_spec hconfig.toHasKey hcolumns hload
  obtain ⟨stored, hstored⟩ := hcolumns.exists_lookup
    (hconfig.ownColumns_fields "connection_properties" (by decide)).1
  obtain ⟨loaded, hread, hlookup⟩ := hloaded _ stored hstored
  rw [htype, hlookup] at hleads
  rw [hlookup] at hturns
  have hrow : existing.row = old := row_of_loadObject hload
  rw [← hrow] at hold hactive hsame hcolumns hload hstored hleads ⊢
  obtain ⟨hunchanged, hchanged⟩ := flushUpdate_spec hconfig.toHasKey hrewrites.columns hflushed _
    written hrewrites.properties
  rw [hlookup] at hunchanged hchanged
  refine ⟨hrewrites.lands hconfig hcolumns hload h hsame hold hactive hflushed, fun hfield => ?_,
    loaded, made, written,
    ⟨⟨⟨stored, hstored, hread⟩, hleads, hturns⟩, hmakes.setWith, hrewrites.setWith⟩,
    fun heq => hunchanged (congrArg some heq), fun hne => hchanged fun heq => ?_⟩
  · exact hrewrites.lookup_kept hconfig hcolumns hload hflushed (by decide) (by decide) hfield
      (Or.inl rfl)
  · exact hne (Option.some.inj heq)

/-- The write goes through where the properties are written over and, if they change, can be
written. -/
theorem exists_overwritten (hcolumns : HasColumns config old)
    {loaded made written : AttributeValue}
    (hwrites : WritesOver config user body old loaded made written)
    (hbind : loaded ≠ written → ∃ rewritten,
      bindColumn config env "connection_properties" written = .ok rewritten) :
    ∃ row after, upsertFlushed config env user body table = .ok (row, after) := by
  obtain ⟨stored, hstored, hread⟩ := hwrites.loads
  obtain ⟨attributes, hattributes⟩ :=
    (exists_upsertAttributes_iff hconfig h hgiven).mpr ⟨made, hwrites.makes⟩
  obtain ⟨made', hmakes⟩ := makes_of_upsertAttributes hconfig h hgiven hattributes
  obtain rfl : made' = made := hwrites.makes.unique hmakes.setWith
  obtain ⟨existing, hload⟩ := (exists_loadObject_iff hconfig.toHasKey hcolumns).mpr
    fun other hother => by
      rw [hstored, Option.some.injEq] at hother
      exact ⟨loaded, hother ▸ hread⟩
  obtain ⟨hexisting, hinst, hdeleted, htype⟩ :=
    loaded_of_active hconfig hactive hcolumns hload
  obtain ⟨other, hother, hlookup⟩ :=
    (loadObject_spec hconfig.toHasKey hcolumns hload).2 _ stored hstored
  rw [hread, Except.ok.injEq] at hother
  subst hother
  obtain ⟨updated, hupdated⟩ :=
    (exists_upsertedAttributes_iff env hconfig h hgiven hmakes hinst).mpr (by
      rw [htype, hlookup]
      exact ⟨hwrites.leads, hwrites.turns, written, hwrites.rewrites⟩)
  obtain ⟨written', hrewrites⟩ :=
    rewrites_of_upsertedAttributes hconfig h hgiven hmakes hexisting hinst hdeleted hupdated
  obtain rfl : written' = written := hwrites.rewrites.unique hrewrites.setWith
  have hrow : existing.row = old := row_of_loadObject hload
  rw [← hrow] at hcolumns hload hsame
  obtain ⟨row, after, hflushed⟩ := hrewrites.exists_flushed hconfig hcolumns hload h hsame table
    hlookup hbind
  refine ⟨row, after, ?_⟩
  rw [upsertFlushed_of_found hconfig h hgivenEq hgiven hold hactive (hrow ▸ hsame), hattributes,
    ok_bind, ← hrow, hload, ok_bind, hupdated, ok_bind]
  exact hflushed

end Found

/-- Two descriptions of how a row is written over are the same. -/
theorem WritesOver.unique {row : TableRow} {loaded made written loaded' made' written' :
    AttributeValue} (h : WritesOver config user body row loaded made written)
    (h' : WritesOver config user body row loaded' made' written') :
    loaded' = loaded ∧ made' = made ∧ written' = written := by
  obtain ⟨stored, hstored, hread⟩ := h.loads
  obtain ⟨stored', hstored', hread'⟩ := h'.loads
  rw [hstored, Option.some.injEq] at hstored'
  rw [← hstored', hread, Except.ok.injEq] at hread'
  obtain rfl := h.makes.unique h'.makes
  exact ⟨hread'.symm, rfl, h.rewrites.unique h'.rewrites⟩

/-- What an upsert leaves where an active row has its key. -/
theorem upserted_iff_of_found (hconfig : LawfulModel config)
    (h : ValidUpsert config env user body) {state : ServerState config}
    (hlimit : (validateMaxConnections config user state).1 = .ok true)
    (hseparate : config.useAuth = true → ∀ item ∈ config.userFksMapping,
      body.attributes.contains item.1 = false) {old : TableRow} (hold : old ∈ state.table.rows)
    (hactive : old.isActive = true) (hsame : config.model.key old = upsertKey config user body)
    (hcolumns : HasColumns config old) :
    Upserted config user body state (handle config env user (.upsert body) state) ↔
      (∀ value, body.attributes.lookup "is_deleted" = some value → value = .json (.bool false)) ∧
      ("id" ∈ body.fieldsSet → ∀ value, body.attributes.lookup "id" = some value →
        ∃ stored, old.lookup "id" = some stored ∧ resultColumn config "id" stored = .ok value) ∧
      KeptInRow config env user body old := by
  obtain ⟨given, hgivenEq, hgiven⟩ := exists_upsertGiven h hseparate
  have hlands := fun row after hflushed =>
    lands_of_found hconfig h hgivenEq hgiven hold hactive hsame hcolumns
      (hflushed : upsertFlushed config env user body state.table = .ok (row, after))
  rw [upserted_iff_row hlimit fun row after hflushed =>
    ⟨(hlands row after hflushed).1.put, (hlands row after hflushed).1.key⟩]
  -- The row has the id that the body sets exactly when the old one has.
  have hid : ∀ row after, upsertFlushed config env user body state.table = .ok (row, after) →
      ∀ value, body.attributes.lookup "id" = some value → row.lookup "id" = old.lookup "id" :=
    fun row after hflushed value hvalue =>
      (hlands row after hflushed).2.1 (h.fields "id" value hvalue).1
  constructor
  · rintro ⟨row, after, hflushed, hrow⟩
    obtain ⟨hland, -, loaded, made, written, hwrites, hunchanged, hchanged⟩ :=
      hlands row after hflushed
    obtain ⟨current, hcurrent⟩ := hland.columns.exists_lookup
      (hconfig.ownColumns_fields "connection_properties" (by decide)).1
    obtain ⟨hkeeps, hcarried, hsameId⟩ := (hland.carries_iff hconfig h hcurrent).mp hrow
    refine ⟨hkeeps, fun hset value hvalue => ?_, loaded, made, written, hwrites, fun heq => ?_,
      fun hne => ?_⟩
    · rw [← hid row after hflushed value hvalue]
      exact hsameId hset value hvalue
    · obtain ⟨stored, hstored, hread⟩ := hwrites.loads
      rw [hunchanged heq, hstored, Option.some.injEq] at hcurrent
      rw [← hcurrent, hread, heq] at hcarried
      exact Except.ok.inj hcarried
    · obtain ⟨rewritten, hbound, hrewritten⟩ := hchanged hne
      rw [hrewritten, Option.some.injEq] at hcurrent
      exact ⟨rewritten, hbound, hcurrent ▸ hcarried⟩
  · rintro ⟨hkeeps, hsameId, loaded, made, written, hkept⟩
    have hwrites := hkept.toWritesOver
    obtain ⟨row, after, hflushed⟩ := exists_overwritten hconfig h hgivenEq hgiven hold hactive hsame
      hcolumns hwrites fun hne => (hkept.changed hne).imp fun _ => And.left
    obtain ⟨hland, -, loaded', made', written', hwrites', hunchanged, hchanged⟩ :=
      hlands row after hflushed
    obtain ⟨rfl, -, rfl⟩ := hwrites.unique hwrites'
    have hcarried : ∃ current, row.lookup "connection_properties" = some current ∧
        resultColumn config "connection_properties" current = .ok body.connectionProperties := by
      by_cases heq : loaded' = written'
      · obtain ⟨stored, hstored, hread⟩ := hwrites.loads
        exact ⟨stored, (hunchanged heq).trans hstored, (heq.trans (hkept.unchanged heq)) ▸ hread⟩
      · obtain ⟨rewritten, hbound, hrewritten⟩ := hchanged heq
        obtain ⟨other, hother, hcarried⟩ := hkept.changed heq
        rw [hbound, Except.ok.injEq] at hother
        exact ⟨rewritten, hrewritten, hother ▸ hcarried⟩
    obtain ⟨current, hcurrent, hcarried⟩ := hcarried
    refine ⟨row, after, hflushed, (hland.carries_iff hconfig h hcurrent).mpr
      ⟨hkeeps, hcarried, fun hset value hvalue => ?_⟩⟩
    rw [hid row after hflushed value hvalue]
    exact hsameId hset value hvalue

/-- An upsert whose body has a key of the user fails. -/
theorem not_upserted_of_mixed (h : ValidUpsert config env user body) {state : ServerState config}
    (hlimit : (validateMaxConnections config user state).1 = .ok true)
    (hauth : config.useAuth = true) {item : String × String} (hitem : item ∈ config.userFksMapping)
    (hcontains : body.attributes.contains item.1 = true) :
    ¬ Upserted config user body state (handle config env user (.upsert body) state) := by
  obtain ⟨e, he⟩ := upsertGiven_error h hauth hitem hcontains
  have hflushed : upsertFlushed config env user body state.table = .error e := by
    unfold upsertFlushed
    rw [he]
    rfl
  rw [upserted_iff_row hlimit fun row after hok => by
    rw [hflushed] at hok
    cases hok]
  rintro ⟨row, after, hok, -⟩
  rw [hflushed] at hok
  cases hok

/-- On a table whose rows have the columns of the model, an upsert within the limit leaves one
active row that carries its body exactly when it fits. -/
theorem upserted_iff_fits_of_columns (hconfig : LawfulModel config)
    (h : ValidUpsert config env user body) {state : ServerState config}
    (hlimit : (validateMaxConnections config user state).1 = .ok true)
    (hcolumns : ∀ row ∈ state.table.rows, HasColumns config row) :
    Upserted config user body state (handle config env user (.upsert body) state) ↔
      Fits config env user body state.table.rows := by
  by_cases hseparate : config.useAuth = true → ∀ item ∈ config.userFksMapping,
      body.attributes.contains item.1 = false
  case neg =>
    refine iff_of_false (fun hupserted => hseparate fun hauth item hitem => ?_)
      fun hfits => hseparate hfits.separate
    by_contra hcontains
    rw [Bool.not_eq_false] at hcontains
    exact not_upserted_of_mixed h hlimit hauth hitem hcontains hupserted
  by_cases hfound : ∃ old ∈ state.table.rows,
      old.isActive = true ∧ config.model.key old = upsertKey config user body
  · obtain ⟨old, hold, hactive, hsame⟩ := hfound
    -- The row is the only one that has the key.
    have honly : ∀ row ∈ state.table.rows,
        config.model.key row = upsertKey config user body → row = old :=
      fun row hrow hkey => state.table.eq_of_key_eq hrow hold (hkey.trans hsame.symm)
    rw [upserted_iff_of_found hconfig h hlimit hseparate hold hactive hsame (hcolumns old hold)]
    constructor
    · rintro ⟨hkeeps, hid, hkept⟩
      refine ⟨hseparate, hkeeps, fun row hrow hkey => ?_, fun row hrow hkey => ?_,
        fun row hrow hkey => ?_, fun hnone => absurd hsame (hnone old hold)⟩
      · exact honly row hrow hkey ▸ hactive
      · exact honly row hrow hkey ▸ hid
      · exact honly row hrow hkey ▸ hkept
    · exact fun hfits =>
        ⟨hfits.keepsActive, hfits.sameId old hold hsame, hfits.keptInRow old hold hsame⟩
  · have hunfound : ∀ row ∈ state.table.rows,
        config.model.key row = upsertKey config user body → row.isActive = false := by
      intro row hrow hkey
      by_contra hactive
      rw [Bool.not_eq_false] at hactive
      exact hfound ⟨row, hrow, hactive, hkey⟩
    rw [upserted_iff_of_unfound hconfig h hlimit hseparate hunfound]
    constructor
    · rintro ⟨hkeeps, hunused, hkept⟩
      exact ⟨hseparate, hkeeps, fun row hrow hkey => absurd hkey (hunused row hrow),
        fun row hrow hkey => absurd hkey (hunused row hrow),
        fun row hrow hkey => absurd hkey (hunused row hrow), fun _ => hkept⟩
    · intro hfits
      have hunused : ∀ row ∈ state.table.rows,
          config.model.key row ≠ upsertKey config user body := by
        intro row hrow hkey
        have hactive := hfits.active row hrow hkey
        rw [hunfound row hrow hkey] at hactive
        exact Bool.false_ne_true hactive
      exact ⟨hfits.keepsActive, hunused, hfits.keptInNew hunused⟩

end DbConnection.Compat
