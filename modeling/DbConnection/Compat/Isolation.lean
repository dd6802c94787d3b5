import DbConnection.Compat.Router

/-!
# Tenant isolation of the legacy router

With users, each route but one restricts its statement to the rows of the user. `PUT` looks the row
with the primary key of its body up whoever owns it, and writes the user's keys over it.
`effect_handle` says what a request can do: it touches rows of its user, or the row that a `PUT`
overwrites (`Overwrites`). So a request isolates the other users exactly when it overwrites no row
of theirs, and over a run of such requests a row only ever changes by requests of its owner
(`isolated_iff_overwrites_own`).
-/

namespace DbConnection.Compat

open PyData Pydantic OwnedTable

variable {config : ExtensionConfig} {env : RequestEnv} {user : User}

/-- The row is the user's: its mapped foreign keys are the user's. -/
def Owns (config : ExtensionConfig) (user : User) (row : TableRow) : Prop :=
  ∀ item ∈ config.userFksMapping, ∃ value,
    user.lookup item.2 = some value ∧ row.lookup item.1 = some value

/-- The rows of other users are as they were, and the response is computed from none of them. -/
structure Isolated (config : ExtensionConfig) (user : User) (state : ServerState config)
    (outcome : Except PyError LegacyResponse × ServerState config) : Prop where
  unchanged : ∀ row ∈ state.table.rows, ¬ Owns config user row → row ∈ outcome.2.table.rows
  hidden : ∀ response, outcome.1 = .ok response → ∀ object ∈ response.objects,
    ∀ row ∈ state.table.rows, ¬ Owns config user row →
      config.model.key object.row ≠ config.model.key row

/-- The request is a `PUT` within the limit whose body is accepted and has the primary key of the
row, which is active, and can be written over it. -/
structure Overwrites (config : ExtensionConfig) (env : RequestEnv) (user : User)
    (state : ServerState config) (body : BodyModel) (row : TableRow)
    (given attributes updated : Dict AttributeValue) (existing : ConnectionObject) : Prop where
  allowed : (validateMaxConnections config user state).1 = .ok true
  isGiven : upsertGiven config user body = .ok given
  isMade : upsertAttributes config env given = .ok attributes
  isFound : findSamePk config env state.table.rows attributes = .ok (some existing)
  isRow : existing.row = row
  isUpdated : upsertedAttributes config env existing given attributes = .ok updated
  isFlushed : ∃ flushed, flushUpdate config env state.table existing updated = .ok flushed

/-- The request overwrites the row. -/
def LegacyRequest.OverwritesRow (config : ExtensionConfig) (env : RequestEnv) (user : User)
    (state : ServerState config) (request : LegacyRequest) (row : TableRow) : Prop :=
  ∃ body given attributes updated existing, request = .upsert body ∧
    Overwrites config env user state body row given attributes updated existing

/-! ## What is selected -/

/-- An object is loaded from its row. -/
theorem row_of_loadObject {row : TableRow} {object : ConnectionObject}
    (h : loadObject config row = .ok object) : object.row = row := by
  obtain ⟨attributes, -, h⟩ := bind_eq_ok_iff.mp h
  cases h
  rfl

/-- What the first active row with some values is loaded as. -/
theorem selectFirst_eq_some {rows : List TableRow} {conditions : Dict Json}
    {object : ConnectionObject} (h : selectFirst config rows conditions = .ok (some object)) :
    object.row ∈ rows ∧ object.row.isActive = true ∧ object.row.satisfies conditions = true ∧
      loadObject config object.row = .ok object := by
  unfold selectFirst at h
  cases hf : rows.find? (fun row => row.isActive && row.satisfies conditions) with
  | none => simp [hf] at h
  | some row =>
    rw [hf] at h
    obtain ⟨object', hload, h⟩ := bind_eq_ok_iff.mp h
    cases h
    have hrow := row_of_loadObject hload
    have hselected := List.find?_some hf
    rw [Bool.and_eq_true] at hselected
    rw [hrow]
    exact ⟨List.mem_of_find?_eq_some hf, hselected.1, hselected.2, hload⟩

/-- A row with the values of the filter by owner is the user's. -/
theorem owns_of_satisfies (hauth : config.useAuth = true)
    (hfilter : config.disablePkFiltration user = false) {owner : Dict Json} {row : TableRow}
    (howner : pkFiltration config user = .ok owner) (hrow : row.satisfies owner = true) :
    Owns config user row := by
  unfold pkFiltration at howner
  rw [hauth, hfilter] at howner
  intro item hitem
  obtain ⟨condition, hmem, hcondition⟩ := exists_mem_of_mapM howner hitem
  -- The row has the value that the filter has for the mapped key, which is the user's.
  have hvalue := List.all_eq_true.mp hrow condition hmem
  cases hlookup : user.lookup item.2 with
  | none => simp [hlookup] at hcondition
  | some value =>
    simp only [hlookup, Except.ok.injEq] at hcondition
    subst hcondition
    exact ⟨value, rfl, by simpa using hvalue⟩

/-- More conditions are satisfied when all are. -/
theorem satisfies_append {row : TableRow} {a b : Dict Json} :
    row.satisfies (a ++ b) = (row.satisfies a && row.satisfies b) :=
  List.all_append

/-- The row that a path names is one of the user's. -/
theorem findOwned_eq_ok (hauth : config.useAuth = true)
    (hfilter : config.disablePkFiltration user = false) {rows : List TableRow} {kwargs : Dict Json}
    {object : ConnectionObject} (h : findOwned config user rows kwargs = .ok object) :
    object.row ∈ rows ∧ Owns config user object.row := by
  obtain ⟨owner, howner, h⟩ := bind_eq_ok_iff.mp h
  obtain ⟨found, hfound, h⟩ := bind_eq_ok_iff.mp h
  cases found with
  | none => cases h
  | some object' =>
    cases h
    obtain ⟨hmem, -, hsatisfies, -⟩ := selectFirst_eq_some hfound
    rw [satisfies_append, Bool.and_eq_true] at hsatisfies
    exact ⟨hmem, owns_of_satisfies hauth hfilter howner hsatisfies.2⟩

/-- The connections that are listed are the user's. -/
theorem getDbConnections_eq_ok (hauth : config.useAuth = true)
    (hfilter : config.disablePkFiltration user = false) {rows : List TableRow}
    {connectionType : Option Json} {filters : Dict Json} {objects : List ConnectionObject}
    (h : getDbConnections config user rows connectionType filters = .ok objects) :
    ∀ object ∈ objects, object.row ∈ rows ∧ Owns config user object.row := by
  obtain ⟨owner, howner, h⟩ := bind_eq_ok_iff.mp h
  intro object hobject
  obtain ⟨row, hrow, hload⟩ := exists_of_mem_mapM h hobject
  rw [row_of_loadObject hload]
  obtain ⟨hmem, hselected⟩ := List.mem_filter.mp hrow
  rw [Bool.and_eq_true] at hselected
  exact ⟨hmem, owns_of_satisfies hauth hfilter howner hselected.2⟩

/-- A slice has items of the list. -/
theorem mem_of_mem_sliceTo {α : Type} {limit : Option Int} {items : List α} {a : α}
    (h : a ∈ sliceTo limit items) : a ∈ items := by
  unfold sliceTo at h
  split at h
  · exact h
  · exact List.mem_of_mem_take h
  · exact List.mem_of_mem_take h

/-- The check of the limit leaves the table. -/
theorem table_validateMaxConnections (user : User) (state : ServerState config) :
    (validateMaxConnections config user state).2.table = state.table := by
  unfold validateMaxConnections
  split <;> rfl

/-! ## What is written -/

/-- A flushed change replaced the row of its object. -/
theorem replace_of_flushUpdate {table : Table config.model.key} {loaded : ConnectionObject}
    {attributes : Dict AttributeValue} {flushed : TableRow × Table config.model.key}
    (h : flushUpdate config env table loaded attributes = .ok flushed) :
    table.replace (config.model.key loaded.row) flushed.1 = some flushed.2 := by
  obtain ⟨columns, -, h⟩ := bind_eq_ok_iff.mp h
  obtain ⟨-, -, h⟩ := bind_eq_ok_iff.mp h
  split at h
  · cases h
  · rename_i table' hreplace
    cases h
    exact hreplace

/-- A flushed object was inserted. -/
theorem insert_of_flushInsert {table : Table config.model.key} {attributes : Dict AttributeValue}
    {flushed : TableRow × Table config.model.key}
    (h : flushInsert config env table attributes = .ok flushed) :
    table.insert flushed.1 = some flushed.2 := by
  obtain ⟨columns, -, h⟩ := bind_eq_ok_iff.mp h
  obtain ⟨-, -, h⟩ := bind_eq_ok_iff.mp h
  split at h
  · cases h
  · rename_i table' hinsert
    cases h
    exact hinsert

/-- The rows of the objects that a response is computed from. -/
def shownRows : Except PyError LegacyResponse → List TableRow
  | .ok response => response.objects.map ConnectionObject.row
  | .error _ => []

/-- A response that fails shows nothing. -/
theorem effect_error {may : TableRow → Prop} {table : Table config.model.key} {e : PyError} :
    Effect may table table (shownRows (.error e)) :=
  .read fun _ hr => absurd hr List.not_mem_nil

/-- A refreshed row is the one that is shown. -/
theorem eq_of_mem_shownRows_refreshed {row r : TableRow}
    (h : r ∈ shownRows (refreshed config row)) : r = row := by
  unfold refreshed at h
  cases hload : loadObject config row with
  | error e =>
    rw [hload, error_bind] at h
    cases h
  | ok object =>
    rw [hload, ok_bind] at h
    have hobject : r = object.row := List.mem_singleton.mp h
    rw [hobject, row_of_loadObject hload]

/-- A commit writes what was flushed: over a row that may be touched, or a new row. -/
theorem effect_commitFlushed {may : TableRow → Prop} {table : Table config.model.key}
    {flushed : Except PyError (TableRow × Table config.model.key)}
    (h : ∀ result, flushed = .ok result →
      (∃ old ∈ table.rows, may old ∧
        table.replace (config.model.key old) result.1 = some result.2) ∨
        table.insert result.1 = some result.2) :
    Effect may table (commitFlushed config table flushed).2
      (shownRows (commitFlushed config table flushed).1) := by
  cases flushed with
  | error e => exact effect_error
  | ok result =>
    rcases h result rfl with ⟨old, hold, hmay, hreplace⟩ | hinsert
    · exact .replaced hold hmay hreplace fun r hr => eq_of_mem_shownRows_refreshed hr
    · exact .inserted hinsert fun r hr => eq_of_mem_shownRows_refreshed hr

/-! ## What a request does -/

section Routes

variable (hauth : config.useAuth = true) (hfilter : config.disablePkFiltration user = false)
  {table : Table config.model.key}

include hauth hfilter

/-- `check_db_connection_by_id` reads a row of the user. -/
theorem effect_checkById (connectionId : Json) (body : BodyModel) :
    Effect (Owns config user) table table
      (shownRows (checkDbConnectionById config user table.rows connectionId body)) := by
  cases h : checkDbConnectionById config user table.rows connectionId body with
  | error e => exact effect_error
  | ok response =>
    obtain ⟨owner, howner, h⟩ := bind_eq_ok_iff.mp h
    obtain ⟨found, hfound, h⟩ := bind_eq_ok_iff.mp h
    cases found with
    | none => cases h
    | some object =>
      obtain ⟨attributes, -, h⟩ := bind_eq_ok_iff.mp h
      cases h
      obtain ⟨hmem, -, hsatisfies, -⟩ := selectFirst_eq_some hfound
      refine .read fun r hr => ?_
      have hobject : r = object.row := List.mem_singleton.mp hr
      rw [hobject]
      have howns : object.row.satisfies owner = true := by
        simp only [TableRow.satisfies, List.all_cons, Bool.and_eq_true] at hsatisfies ⊢
        exact hsatisfies.2
      exact ⟨hmem, owns_of_satisfies hauth hfilter howner howns⟩

/-- `get_db_connections` reads rows of the user. -/
theorem effect_list (connectionType : Option Json) (filters : Dict Json) :
    Effect (Owns config user) table table
      (shownRows (listDbConnections config user table.rows connectionType filters)) := by
  cases h : listDbConnections config user table.rows connectionType filters with
  | error e => exact effect_error
  | ok response =>
    obtain ⟨objects, hobjects, h⟩ := bind_eq_ok_iff.mp h
    cases h
    refine .read fun r hr => ?_
    obtain ⟨object, hobject, rfl⟩ := List.mem_map.mp hr
    exact getDbConnections_eq_ok hauth hfilter hobjects object (mem_of_mem_sliceTo hobject)

/-- `get_db_connection` reads a row of the user. -/
theorem effect_get (kwargs : Dict Json) :
    Effect (Owns config user) table table
      (shownRows (getDbConnection config user table.rows kwargs)) := by
  cases h : getDbConnection config user table.rows kwargs with
  | error e => exact effect_error
  | ok response =>
    obtain ⟨object, hobject, h⟩ := bind_eq_ok_iff.mp h
    cases h
    refine .read fun r hr => ?_
    have hrow : r = object.row := List.mem_singleton.mp hr
    rw [hrow]
    exact findOwned_eq_ok hauth hfilter hobject

/-- `update_db_connection` writes over a row of the user. -/
theorem effect_update (kwargs : Dict Json) (body : BodyModel) :
    Effect (Owns config user) table (updateDbConnection config env user kwargs body table).2
      (shownRows (updateDbConnection config env user kwargs body table).1) := by
  refine effect_commitFlushed fun result h => .inl ?_
  obtain ⟨object, hobject, h⟩ := bind_eq_ok_iff.mp h
  obtain ⟨attributes, -, h⟩ := bind_eq_ok_iff.mp h
  obtain ⟨attributes', -, h⟩ := bind_eq_ok_iff.mp h
  obtain ⟨hmem, howns⟩ := findOwned_eq_ok hauth hfilter hobject
  exact ⟨object.row, hmem, howns, replace_of_flushUpdate h⟩

/-- `delete_db_connection` writes over a row of the user. -/
theorem effect_delete (kwargs : Dict Json) :
    Effect (Owns config user) table (deleteDbConnection config env user kwargs table).2
      (shownRows (deleteDbConnection config env user kwargs table).1) := by
  refine effect_commitFlushed fun result h => .inl ?_
  obtain ⟨object, hobject, h⟩ := bind_eq_ok_iff.mp h
  obtain ⟨attributes, -, h⟩ := bind_eq_ok_iff.mp h
  obtain ⟨hmem, howns⟩ := findOwned_eq_ok hauth hfilter hobject
  exact ⟨object.row, hmem, howns, replace_of_flushUpdate h⟩

end Routes

/-- `create_db_connection` inserts a row. -/
theorem effect_create (body : BodyModel) (table : Table config.model.key) :
    Effect (Owns config user) table (createDbConnection config env user body table).2
      (shownRows (createDbConnection config env user body table).1) := by
  refine effect_commitFlushed fun result h => .inr ?_
  obtain ⟨attributes, -, h⟩ := bind_eq_ok_iff.mp h
  exact insert_of_flushInsert h

/-- `upsert_db_connection` within the limit inserts a row, or writes over the one that it
overwrites. -/
theorem effect_upsert {state : ServerState config}
    (hlimit : (validateMaxConnections config user state).1 = .ok true) (body : BodyModel) :
    Effect ((LegacyRequest.upsert body).OverwritesRow config env user state) state.table
      (upsertDbConnection config env user body state.table).2
      (shownRows (upsertDbConnection config env user body state.table).1) := by
  refine effect_commitFlushed fun result h => ?_
  obtain ⟨given, hgiven, h⟩ := bind_eq_ok_iff.mp h
  obtain ⟨attributes, hattributes, h⟩ := bind_eq_ok_iff.mp h
  obtain ⟨found, hfound, h⟩ := bind_eq_ok_iff.mp h
  cases found with
  -- No active row has the primary key: the new object is inserted.
  | none =>
    obtain ⟨created, -, h⟩ := bind_eq_ok_iff.mp h
    exact .inr (insert_of_flushInsert h)
  -- The row found is written over, whoever owns it.
  | some existing =>
    obtain ⟨updated, hupdated, h⟩ := bind_eq_ok_iff.mp h
    obtain ⟨conditions, -, hselect⟩ := bind_eq_ok_iff.mp hfound
    refine .inl ⟨existing.row, (selectFirst_eq_some hselect).1, ?_, replace_of_flushUpdate h⟩
    exact ⟨body, given, attributes, updated, existing, rfl,
      hlimit, hgiven, hattributes, hfound, rfl, hupdated, result, h⟩

/-- A route that is refused raises and leaves the table, and one within the limit does what it does. -/
theorem withinLimit_cases (user : User) (state : ServerState config)
    (route : Table config.model.key → Except PyError LegacyResponse × Table config.model.key) :
    ((∃ e, (withinLimit config user state route).1 = .error e) ∧
        (withinLimit config user state route).2.table = state.table ∧
        (validateMaxConnections config user state).1 ≠ .ok true) ∨
      ((withinLimit config user state route).1 = (route state.table).1 ∧
        (withinLimit config user state route).2.table = (route state.table).2 ∧
        (validateMaxConnections config user state).1 = .ok true) := by
  have htable := table_validateMaxConnections user state
  unfold withinLimit
  cases hv : validateMaxConnections config user state with
  | mk allowed state' =>
    rw [hv] at htable
    dsimp only at htable
    cases allowed with
    | error e => exact Or.inl ⟨⟨e, rfl⟩, htable, by simp⟩
    | ok allowed =>
      cases allowed with
      | false => exact Or.inl ⟨⟨methodNotAllowed, rfl⟩, htable, by simp⟩
      | true =>
        dsimp only
        rw [htable]
        exact Or.inr ⟨rfl, rfl, rfl⟩

/-- A route within the limit has its effect, or none. -/
theorem effect_withinLimit {may : TableRow → Prop} {state : ServerState config}
    {route : Table config.model.key → Except PyError LegacyResponse × Table config.model.key}
    (h : (validateMaxConnections config user state).1 = .ok true →
      Effect may state.table (route state.table).2 (shownRows (route state.table).1)) :
    Effect may state.table (withinLimit config user state route).2.table
      (shownRows (withinLimit config user state route).1) := by
  rcases withinLimit_cases user state route with ⟨⟨e, he⟩, htable, -⟩ | ⟨hresponse, htable, hlimit⟩
  · rw [he, htable]
    exact effect_error
  · rw [hresponse, htable]
    exact h hlimit

/-- An upsert within the limit. -/
theorem handle_upsert (env : RequestEnv) (body : BodyModel) {state : ServerState config}
    (hlimit : (validateMaxConnections config user state).1 = .ok true) :
    (handle config env user (.upsert body) state).1 =
        (upsertDbConnection config env user body state.table).1 ∧
      (handle config env user (.upsert body) state).2.table =
        (upsertDbConnection config env user body state.table).2 := by
  rcases withinLimit_cases user state (upsertDbConnection config env user body) with
    ⟨-, -, hnot⟩ | ⟨hresponse, htable, -⟩
  · exact absurd hlimit hnot
  · exact ⟨hresponse, htable⟩

/-- What a request does: it touches rows of its user, or the row that it overwrites. -/
theorem effect_handle (hauth : config.useAuth = true)
    (hfilter : config.disablePkFiltration user = false) (request : LegacyRequest)
    (state : ServerState config) :
    Effect (fun row => Owns config user row ∨ request.OverwritesRow config env user state row)
      state.table (handle config env user request state).2.table
      (shownRows (handle config env user request state).1) := by
  cases request with
  | checkById connectionId body =>
    exact (effect_checkById hauth hfilter connectionId body).mono fun _ => .inl
  | list connectionType filters =>
    exact (effect_list hauth hfilter connectionType filters).mono fun _ => .inl
  | get kwargs => exact (effect_get hauth hfilter kwargs).mono fun _ => .inl
  | create body =>
    exact effect_withinLimit fun _ => (effect_create body state.table).mono fun _ => .inl
  | update kwargs body =>
    exact effect_withinLimit fun _ => (effect_update hauth hfilter kwargs body).mono fun _ => .inl
  | upsert body =>
    exact effect_withinLimit fun hlimit => (effect_upsert hlimit body).mono fun _ => .inr
  | delete kwargs => exact (effect_delete hauth hfilter kwargs).mono fun _ => .inl

/-! ## Isolation -/

/-- A request whose effect is on rows of its user isolates the others. -/
theorem isolated_of_effect {state : ServerState config}
    {outcome : Except PyError LegacyResponse × ServerState config}
    (h : Effect (Owns config user) state.table outcome.2.table (shownRows outcome.1)) :
    Isolated config user state outcome where
  unchanged row hrow hforeign := h.kept hrow hforeign
  hidden response hresponse object hobject row hrow hforeign := by
    refine h.hidden hrow hforeign object.row ?_
    rw [hresponse]
    exact List.mem_map_of_mem hobject

/-- A request that overwrites a row of another user does not isolate it: either the row changes, or
the response shows it. -/
theorem owns_of_isolated {state : ServerState config} {request : LegacyRequest} {row : TableRow}
    (h : Isolated config user state (handle config env user request state))
    (hoverwrites : request.OverwritesRow config env user state row) : Owns config user row := by
  obtain ⟨body, given, attributes, updated, existing, rfl, ho⟩ := hoverwrites
  obtain ⟨flushed, hflushed⟩ := ho.isFlushed
  obtain ⟨conditions, -, hselect⟩ := bind_eq_ok_iff.mp ho.isFound
  obtain ⟨hmem, -, -, hload⟩ := selectFirst_eq_some hselect
  have hupsert : upsertDbConnection config env user body state.table =
      (refreshed config flushed.1, flushed.2) := by
    unfold upsertDbConnection
    rw [ho.isGiven, ok_bind, ho.isMade, ok_bind, ho.isFound, ok_bind]
    dsimp only
    rw [ho.isUpdated, ok_bind, hflushed]
    rfl
  -- The request answers with the row that it wrote, and leaves it.
  have hhandle : (handle config env user (.upsert body) state).1 = refreshed config flushed.1 ∧
      (handle config env user (.upsert body) state).2.table = flushed.2 := by
    obtain ⟨hresponse, htable⟩ := handle_upsert env body ho.allowed
    rw [hresponse, htable, hupsert]
    exact ⟨rfl, rfl⟩
  by_contra hforeign
  rw [← ho.isRow] at hforeign
  -- The row is still there, so it is what was written, and the response shows it.
  have hkept := h.unchanged existing.row hmem hforeign
  rw [hhandle.2] at hkept
  have hsame := Table.eq_of_mem_replace (replace_of_flushUpdate hflushed) hmem hkept
  have hresponse : (handle config env user (.upsert body) state).1 =
      .ok (.connection existing) := by
    rw [hhandle.1, ← hsame]
    unfold refreshed
    rw [hload, ok_bind]
    rfl
  exact h.hidden _ hresponse existing List.mem_cons_self existing.row hmem hforeign rfl

/-- A request of a run. -/
structure LegacyStep where
  env : RequestEnv
  user : User
  request : LegacyRequest

/-- The server after a request. -/
def serve (config : ExtensionConfig) (state : ServerState config) (step : LegacyStep) :
    ServerState config :=
  (handle config step.env step.user step.request state).2

/-- For every application with users, every state, user and request: the request isolates the other
users exactly when every row that it overwrites is its user's. And in every run of such requests, a
row that none of their users owns is the same at the end. -/
theorem isolated_iff_overwrites_own (config : ExtensionConfig) (hauth : config.useAuth = true) :
    (∀ env user request (state : ServerState config), config.disablePkFiltration user = false →
      (Isolated config user state (handle config env user request state) ↔
        ∀ row, request.OverwritesRow config env user state row → Owns config user row)) ∧
      ∀ (steps : List LegacyStep) (state : ServerState config),
        (∀ step ∈ steps, config.disablePkFiltration step.user = false) →
        Along (serve config) (fun state step => ∀ row,
          step.request.OverwritesRow config step.env step.user state row →
            Owns config step.user row) state steps →
        Along (serve config) (fun state step => Isolated config step.user state
          (handle config step.env step.user step.request state)) state steps ∧
        ∀ row ∈ state.table.rows, (∀ step ∈ steps, ¬ Owns config step.user row) →
          row ∈ (run (serve config) state steps).table.rows := by
  have hiff : ∀ env user request (state : ServerState config),
      config.disablePkFiltration user = false →
        (Isolated config user state (handle config env user request state) ↔
          ∀ row, request.OverwritesRow config env user state row → Owns config user row) := by
    intro env user request state hfilter
    refine ⟨fun h row hrow => owns_of_isolated h hrow, fun h => isolated_of_effect ?_⟩
    refine (effect_handle hauth hfilter request state).mono fun row hrow => ?_
    exact hrow.elim id (h row)
  refine ⟨hiff, fun steps state hfilter hcondition => ?_⟩
  -- Each request of the run isolates the others, so a row of none of the users is kept by each.
  have hisolated : Along (serve config) (fun state step => Isolated config step.user state
      (handle config step.env step.user step.request state)) state steps :=
    hcondition.mono fun state step hstep h =>
      (hiff step.env step.user step.request state (hfilter step hstep)).mpr h
  refine ⟨hisolated, fun row hrow hforeign => ?_⟩
  refine mem_run_of_kept (fun state : ServerState config => state.table.rows)
    (fun step row => Owns config step.user row) ?_ hrow hforeign
  exact hisolated.mono fun state step _ h => h.unchanged

/-! ## Two users -/

/-- A table model whose connections have an id and the id of their user. -/
def userConnectionModel : DBConnectionModel where
  fields := ["id", "name", "type", "connection_properties", "is_deleted", "created_at",
    "updated_at", "user_id"]
  pks := ["id"]
  defaults now := [("is_deleted", .json (.bool false)), ("created_at", .json (.int now)),
    ("updated_at", .json (.int now))]
  assign name value :=
    match name, value with
    | "connection_properties", .json .null => .error (.typeError "no properties")
    | "connection_properties", .json value => processResultValue none emptyHost value
    | "is_deleted", .json (.bool isDeleted) => .ok (.json (.bool isDeleted))
    | "is_deleted", _ => .error (.typeError "no bool")
    | _, value => .ok value
  modelValidate _ given := .ok given
  constraints _ _ := .ok ()

/-- An application with users and without a limit. -/
def userConfig : ExtensionConfig where
  model := userConnectionModel
  useAuth := true
  userFksMapping := [("user_id", "id")]
  disablePkFiltration _ := false
  maxConnections := none
  fernet := none
  host := emptyHost

/-- The user with an id. -/
def userWithId (id : Int) : User := [("id", .int id)]

/-- Stored properties of an S3 bucket. -/
def storedBucket : Json :=
  .obj [("bucket", .str "backups"), ("access_token_id", .str "id"),
    ("access_token_key", .str "key"), ("prefix", .str "daily")]

/-- The row of a connection of a user. -/
def userRow (id userId : Int) : TableRow :=
  [("id", .int id), ("name", .str "backups"), ("type", .str "s3"),
    ("connection_properties", storedBucket), ("is_deleted", .bool false), ("created_at", .int 0),
    ("updated_at", .int 0), ("user_id", .int userId)]

/-- The connection 1 of user 1. -/
def userState : ServerState userConfig where
  table := ⟨[userRow 1 1], by simp⟩
  activeConnections := none

/-- The body of a `PUT` of the connection with an id. -/
def archiveBody (id : Int) : BodyModel where
  attributes := [("id", .json (.int id)), ("name", .json (.str "archive")),
    ("type", .json (.str "s3")), ("connection_properties", .json storedBucket),
    ("is_deleted", .json (.bool false))]
  fieldsSet := ["id", "name", "type", "connection_properties"]

/-- The environment of a request. -/
def putEnv : RequestEnv := ⟨5, [], fun _ => 0⟩

/-- User 2 puts the connection with an id. -/
def putStep (id : Int) : LegacyStep := ⟨putEnv, userWithId 2, .upsert (archiveBody id)⟩

/-- The connection of user 1 is not user 2's. -/
theorem not_owns_userRow : ¬ Owns userConfig (userWithId 2) (userRow 1 1) := by
  intro h
  obtain ⟨value, huser, hrow⟩ := h ("user_id", "id") List.mem_cons_self
  have h2 : Json.int 2 = value := Option.some.inj huser
  have h1 : Json.int 1 = value := Option.some.inj hrow
  rw [← h1] at h2
  exact absurd h2 (by decide)

/-- A `PUT` of a connection with a new id isolates user 1. -/
theorem isolated_iff_overwrites_own_newId :
    Isolated userConfig (userWithId 2) userState
        (handle userConfig putEnv (userWithId 2) (.upsert (archiveBody 2)) userState) ∧
      userRow 1 1 ∈ (run (serve userConfig) userState [putStep 2]).table.rows := by
  have hnone : (do
      let given ← upsertGiven userConfig (userWithId 2) (archiveBody 2)
      let attributes ← upsertAttributes userConfig putEnv given
      findSamePk userConfig putEnv userState.table.rows attributes).toOption = some none := by
    decide +kernel
  obtain ⟨hisolated, hkept⟩ := (isolated_iff_overwrites_own userConfig rfl).2 [putStep 2] userState
    (fun _ _ => rfl) ⟨by
      rintro row ⟨body, given, attributes, updated, existing, hbody, ho⟩
      cases hbody
      -- No row has the id.
      have hgiven : upsertGiven userConfig (userWithId 2) (archiveBody 2) = .ok given := ho.isGiven
      have hmade : upsertAttributes userConfig putEnv given = .ok attributes := ho.isMade
      have hfound : findSamePk userConfig putEnv userState.table.rows attributes =
        .ok (some existing) := ho.isFound
      rw [hgiven, ok_bind, hmade, ok_bind, hfound] at hnone
      exact absurd hnone (by simp [Except.toOption]), trivial⟩
  refine ⟨hisolated.1, hkept _ List.mem_cons_self fun step hstep => ?_⟩
  rw [List.mem_singleton.mp hstep]
  exact not_owns_userRow

/-- A `PUT` with the id of user 1's connection makes it user 2's. -/
theorem upsert_takes_row_over :
    ¬ Owns userConfig (userWithId 2) (userRow 1 1) ∧ userRow 1 1 ∈ userState.table.rows ∧
      (serve userConfig userState (putStep 1)).table.rows.map (fun row =>
        (row.lookup "id", row.lookup "user_id")) = [(some (.int 1), some (.int 2))] ∧
      ¬ Isolated userConfig (userWithId 2) userState
        (handle userConfig putEnv (userWithId 2) (.upsert (archiveBody 1)) userState) := by
  have hrows : (serve userConfig userState (putStep 1)).table.rows.map (fun row =>
      (row.lookup "id", row.lookup "user_id")) = [(some (.int 1), some (.int 2))] := by
    decide +kernel
  refine ⟨not_owns_userRow, List.mem_cons_self, hrows, fun h => ?_⟩
  have hkept : userRow 1 1 ∈ (serve userConfig userState (putStep 1)).table.rows :=
    h.unchanged (userRow 1 1) List.mem_cons_self not_owns_userRow
  have hmem := List.mem_map_of_mem (f := fun row : TableRow =>
    (row.lookup "id", row.lookup "user_id")) hkept
  rw [hrows] at hmem
  exact absurd (List.mem_singleton.mp hmem) (by decide)

end DbConnection.Compat
