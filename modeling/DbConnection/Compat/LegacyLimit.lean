import DbConnection.Compat.Isolation

/-!
# The limit of the legacy router

`validate_max_connections` compares with the limit a count that the manager keeps: the first count
that is not zero, of whichever user's rows it was, for as long as the process lives. It answers
right exactly when the count that is kept is on the same side of the limit as the rows that the user
sees (`CountHolds`), or none is kept and the rows are counted. Over a run in which it answers right,
no create takes its user beyond the limit, and a user who deletes a row at the limit is let create
again (`limit_reflects_store`).
-/

namespace DbConnection.Compat

open PyData Pydantic OwnedTable

/-! ## What a user sees -/

section

variable (config : ExtensionConfig) (user : User)

/-- The statements are restricted to the rows of the user. -/
def filtersByOwner : Bool := config.useAuth && !config.disablePkFiltration user

/-- The mapped foreign keys of the row are the user's attributes. -/
def hasKeysOf (row : TableRow) : Bool :=
  config.userFksMapping.all fun item =>
    (user.lookup item.2).any fun value => row.lookup item.1 == some value

/-- A row that the user sees: one that is not deleted, and the user's where rows are filtered by
owner. -/
def isVisible (row : TableRow) : Bool :=
  row.isActive && (!filtersByOwner config user || hasKeysOf config user row)

/-- The number of rows that the user sees. -/
def visibleCount (rows : List TableRow) : Nat := rows.countP (isVisible config user)

/-- Fewer than `MAX_CONNECTIONS`, where there is a limit. -/
def belowLimit (count : Nat) : Bool :=
  config.maxConnections.all fun limit => decide ((count : Int) < limit)

/-- The rows of the user can be counted: the user has the attributes that rows are filtered by, and
every row that the user sees loads. -/
structure CanCount (rows : List TableRow) : Prop where
  attributes : filtersByOwner config user = true →
    ∀ item ∈ config.userFksMapping, ∃ value, user.lookup item.2 = some value
  loads : ∀ row ∈ rows, isVisible config user row = true →
    ∃ object, loadObject config row = .ok object

/-- The count that the manager keeps is on the side of the limit of what the user sees, or it keeps
none and the rows of the user can be counted. -/
def CountHolds (state : ServerState config) : Prop :=
  match state.activeConnections with
  | some (n + 1) =>
    belowLimit config (n + 1) = belowLimit config (visibleCount config user state.table.rows)
  | _ => CanCount config user state.table.rows

/-- `validate_max_connections` answers whether the user sees fewer rows than the limit. -/
def AnswersRight (state : ServerState config) : Prop :=
  (validateMaxConnections config user state).1 =
    .ok (belowLimit config (visibleCount config user state.table.rows))

end

/-- The requests that call `validate_max_connections`. -/
def LegacyRequest.asksLimit : LegacyRequest → Bool
  | .create _ => true
  | .update _ _ => true
  | .upsert _ => true
  | _ => false

variable {config : ExtensionConfig} {user : User}

/-! ## Counting -/

/-- The filter by owner selects the rows with the user's keys. -/
theorem satisfies_userFks {owner : Dict Json} (howner : userFks config user = .ok owner)
    (row : TableRow) : row.satisfies owner = hasKeysOf config user row := by
  unfold userFks at howner
  unfold hasKeysOf TableRow.satisfies
  generalize config.userFksMapping = mapping at howner ⊢
  induction mapping generalizing owner with
  | nil =>
    cases howner
    rfl
  | cons item mapping ih =>
    obtain ⟨condition, rest, hcondition, hrest, rfl⟩ := mapM_cons_eq_ok_iff.mp howner
    rw [List.all_cons, List.all_cons, ih hrest]
    cases hlookup : user.lookup item.2 with
    | none => simp [hlookup] at hcondition
    | some value =>
      simp only [hlookup, Except.ok.injEq] at hcondition
      rw [← hcondition, Option.any_some]

/-- The rows that are counted are those that the user sees. -/
theorem selected_eq {owner : Dict Json} (howner : pkFiltration config user = .ok owner)
    (row : TableRow) :
    (row.isActive && ((none : Option Json).all fun type => row.lookup "type" == some type) &&
      (([] : Dict Json).all fun item => item.2 == .null ||
        !config.model.fields.contains item.1 || row.lookup item.1 == some item.2) &&
      row.satisfies owner) = isVisible config user row := by
  have hsatisfies : row.satisfies owner =
      (!filtersByOwner config user || hasKeysOf config user row) := by
    unfold pkFiltration at howner
    unfold filtersByOwner
    cases hfilter : (config.useAuth && !config.disablePkFiltration user) with
    | true =>
      rw [hfilter, if_pos rfl] at howner
      rw [satisfies_userFks howner, Bool.not_true, Bool.false_or]
    | false =>
      rw [hfilter, if_neg (by simp)] at howner
      cases howner
      rfl
  unfold isVisible
  rw [hsatisfies, Option.all_none, List.all_nil, Bool.and_true, Bool.and_true]

/-- The filter by owner is there when the user has the attributes that it asks for. -/
theorem exists_pkFiltration_iff : (∃ owner, pkFiltration config user = .ok owner) ↔
    (filtersByOwner config user = true →
      ∀ item ∈ config.userFksMapping, ∃ value, user.lookup item.2 = some value) := by
  unfold pkFiltration filtersByOwner
  cases (config.useAuth && !config.disablePkFiltration user) with
  | false => exact iff_of_true ⟨[], rfl⟩ (by simp)
  | true =>
    rw [if_pos rfl, userFks, exists_mapM_iff]
    refine ⟨fun h _ item hitem => ?_, fun h item hitem => ?_⟩
    · obtain ⟨condition, hcondition⟩ := h item hitem
      cases hlookup : user.lookup item.2 with
      | none => simp [hlookup] at hcondition
      | some value => exact ⟨value, rfl⟩
    · obtain ⟨value, hvalue⟩ := h rfl item hitem
      exact ⟨(item.1, value), by rw [hvalue]⟩

/-- What counting the rows of the user gives, where the filter by owner is there. -/
theorem getDbConnections_eq {owner : Dict Json} (howner : pkFiltration config user = .ok owner)
    (rows : List TableRow) :
    getDbConnections config user rows none [] =
      (rows.filter (isVisible config user)).mapM (loadObject config) := by
  unfold getDbConnections
  rw [howner, ok_bind]
  show (rows.filter _).mapM (loadObject config) = _
  rw [List.filter_congr fun row _ => selected_eq howner row]

/-- Counting the rows of the user succeeds exactly when it can. -/
theorem exists_getDbConnections_iff (rows : List TableRow) :
    (∃ objects, getDbConnections config user rows none [] = .ok objects) ↔
      CanCount config user rows := by
  constructor
  · rintro ⟨objects, h⟩
    obtain ⟨owner, howner, -⟩ := bind_eq_ok_iff.mp h
    rw [getDbConnections_eq howner] at h
    refine ⟨exists_pkFiltration_iff.mp ⟨owner, howner⟩, fun row hrow hvisible => ?_⟩
    exact exists_mapM_iff.mp ⟨objects, h⟩ row (List.mem_filter.mpr ⟨hrow, hvisible⟩)
  · intro h
    obtain ⟨owner, howner⟩ := exists_pkFiltration_iff.mpr h.attributes
    rw [getDbConnections_eq howner, exists_mapM_iff]
    intro row hrow
    obtain ⟨hmem, hvisible⟩ := List.mem_filter.mp hrow
    exact h.loads row hmem hvisible

/-- What is counted is what the user sees. -/
theorem length_of_getDbConnections {rows : List TableRow} {objects : List ConnectionObject}
    (h : getDbConnections config user rows none [] = .ok objects) :
    objects.length = visibleCount config user rows := by
  obtain ⟨owner, howner, -⟩ := bind_eq_ok_iff.mp h
  rw [getDbConnections_eq howner] at h
  rw [length_of_mapM h, visibleCount, List.countP_eq_length_filter]

/-- The answer is right exactly when the count holds. -/
theorem answersRight_iff (state : ServerState config) :
    AnswersRight config user state ↔ CountHolds config user state := by
  have hcounted : AnswersRight config user state ↔ ∃ count,
      getActiveConnections config user state = .ok count ∧
        belowLimit config count = belowLimit config (visibleCount config user state.table.rows) := by
    unfold AnswersRight validateMaxConnections
    cases hcount : getActiveConnections config user state with
    | error e => simp
    | ok count => simp [belowLimit]
  -- A count that is not kept is counted, and is then what the user sees.
  have hfresh : (∃ count, (do
      let objects ← getDbConnections config user state.table.rows none []
      return objects.length : Except PyError Nat) = .ok count ∧
        belowLimit config count = belowLimit config (visibleCount config user state.table.rows)) ↔
      CanCount config user state.table.rows := by
    rw [← exists_getDbConnections_iff]
    constructor
    · rintro ⟨count, hcount, -⟩
      obtain ⟨objects, hobjects, -⟩ := bind_eq_ok_iff.mp hcount
      exact ⟨objects, hobjects⟩
    · rintro ⟨objects, hobjects⟩
      refine ⟨objects.length, by rw [hobjects]; rfl, ?_⟩
      rw [length_of_getDbConnections hobjects]
  rw [hcounted]
  unfold CountHolds getActiveConnections
  rcases state.activeConnections with - | n | n
  · exact hfresh
  · exact hfresh
  · simp

/-! ## What creating and deleting do to the count -/

variable {env : RequestEnv}

/-- A create adds one row or none. -/
theorem visibleCount_create (body : BodyModel) (table : Table config.model.key) :
    (createDbConnection config env user body table).2 = table ∨
      visibleCount config user (createDbConnection config env user body table).2.rows ≤
        visibleCount config user table.rows + 1 := by
  unfold createDbConnection
  generalize hflushed : (createdAttributes config env user body >>= fun attributes =>
    flushInsert config env table attributes) = flushed
  cases flushed with
  | error e => exact .inl rfl
  | ok result =>
    obtain ⟨attributes, -, hinsert⟩ := bind_eq_ok_iff.mp hflushed
    right
    show visibleCount config user result.2.rows ≤ _
    unfold visibleCount
    rw [(Table.insert_eq_some (insert_of_flushInsert hinsert)).2, List.countP_append,
      List.countP_singleton]
    split <;> omega

/-- A create that is let through when the answer is right leaves at most as many rows as the limit
allows. -/
theorem visibleCount_handle_create {state : ServerState config}
    (hright : AnswersRight config user state) (body : BodyModel) :
    (handle config env user (.create body) state).2.table = state.table ∨
      ∀ limit, config.maxConnections = some limit →
        (visibleCount config user (handle config env user (.create body) state).2.table.rows : Int) ≤
          limit := by
  have hhandle : handle config env user (.create body) state =
      withinLimit config user state (createDbConnection config env user body) := rfl
  rw [hhandle]
  rcases withinLimit_cases user state (createDbConnection config env user body) with
    ⟨-, htable, -⟩ | ⟨-, htable, hallowed⟩
  · exact .inl htable
  · unfold AnswersRight at hright
    rw [hallowed, Except.ok.injEq] at hright
    rw [htable]
    have hcreate : (createDbConnection config env user body state.table).2 = state.table ∨
        visibleCount config user (createDbConnection config env user body state.table).2.rows ≤
          visibleCount config user state.table.rows + 1 := visibleCount_create body state.table
    rcases hcreate with hsame | hcount
    · exact .inl hsame
    · refine .inr fun limit hlimit => ?_
      have hbelow := hright.symm
      unfold belowLimit at hbelow
      rw [hlimit, Option.all_some, decide_eq_true_eq] at hbelow
      omega

/-- The row that a path names is one that the user sees. -/
theorem isVisible_of_findOwned {rows : List TableRow} {kwargs : Dict Json}
    {object : ConnectionObject} (h : findOwned config user rows kwargs = .ok object) :
    object.row ∈ rows ∧ isVisible config user object.row = true := by
  obtain ⟨owner, howner, h⟩ := bind_eq_ok_iff.mp h
  obtain ⟨found, hfound, h⟩ := bind_eq_ok_iff.mp h
  cases found with
  | none => cases h
  | some object' =>
    cases h
    obtain ⟨hmem, hactive, hsatisfies, -⟩ := selectFirst_eq_some hfound
    rw [satisfies_append, Bool.and_eq_true] at hsatisfies
    refine ⟨hmem, ?_⟩
    rw [← selected_eq howner, hactive, hsatisfies.2]
    rfl

/-- A delete that answers with the row deleted has taken one row from the user's sight. -/
theorem visibleCount_delete {kwargs : Dict Json} {table : Table config.model.key}
    {object : ConnectionObject}
    (hresponse : (deleteDbConnection config env user kwargs table).1 = .ok (.connection object))
    (hdeleted : object.row.isActive = false) :
    visibleCount config user (deleteDbConnection config env user kwargs table).2.rows + 1 =
      visibleCount config user table.rows := by
  unfold deleteDbConnection at hresponse ⊢
  generalize hflushed : (findOwned config user table.rows kwargs >>= fun object =>
    sqlmodelUpdate config object.attributes [("is_deleted", .json (.bool true))] >>=
      fun attributes => flushUpdate config env table object attributes) = flushed at hresponse ⊢
  cases flushed with
  | error e => cases hresponse
  | ok result =>
    obtain ⟨old, hold, h⟩ := bind_eq_ok_iff.mp hflushed
    obtain ⟨attributes, -, h⟩ := bind_eq_ok_iff.mp h
    obtain ⟨hmem, hvisible⟩ := isVisible_of_findOwned hold
    -- The row that the response shows is the one that was written.
    obtain ⟨loaded, hload, hresponse⟩ := bind_eq_ok_iff.mp hresponse
    cases hresponse
    have hrow : isVisible config user result.1 = false := by
      unfold isVisible
      rw [← row_of_loadObject hload, hdeleted, Bool.false_and]
    show visibleCount config user result.2.rows + 1 = _
    unfold visibleCount
    rw [(Table.replace_eq_some (replace_of_flushUpdate h)).2]
    have hcount := Table.countP_replaceRows (isVisible config user) result.1 table.keyed hmem
    rw [hvisible, hrow] at hcount
    simpa using hcount

/-! ## Runs -/

/-- What the limit promises of a request in a state. -/
structure LimitHolds (config : ExtensionConfig) (state : ServerState config) (step : LegacyStep) :
    Prop where
  /-- The answer of `validate_max_connections`, where it is called. -/
  answers : step.request.asksLimit = true → AnswersRight config step.user state
  /-- A create does not take its user beyond the limit. -/
  creates : ∀ body, step.request = .create body →
    (serve config state step).table = state.table ∨
      ∀ limit, config.maxConnections = some limit →
        (visibleCount config step.user (serve config state step).table.rows : Int) ≤ limit
  /-- A user who deletes a row at the limit is below it, and is let create when the count that is
  kept holds. -/
  deletes : ∀ kwargs object, step.request = .delete kwargs →
    (handle config step.env step.user step.request state).1 = .ok (.connection object) →
    object.row.isActive = false →
    ∀ limit, config.maxConnections = some limit →
      (visibleCount config step.user state.table.rows : Int) = limit →
      (visibleCount config step.user (serve config state step).table.rows : Int) < limit ∧
        (CountHolds config step.user (serve config state step) →
          (validateMaxConnections config step.user (serve config state step)).1 = .ok true)

/-- A request holds the limit when the count holds for it, where it asks for the limit. -/
theorem limitHolds_of_countHolds {state : ServerState config} {step : LegacyStep}
    (h : step.request.asksLimit = true → CountHolds config step.user state) :
    LimitHolds config state step where
  answers hasks := (answersRight_iff state).mpr (h hasks)
  creates body hbody := by
    have hright := (answersRight_iff state).mpr (h (by rw [hbody]; rfl))
    unfold serve
    rw [hbody]
    exact visibleCount_handle_create hright body
  deletes kwargs object hdelete hresponse hdeleted limit hlimit hat := by
    unfold serve
    rw [hdelete] at hresponse ⊢
    have hcount := visibleCount_delete hresponse hdeleted
    have hbelow : (visibleCount config step.user
        (handle config step.env step.user (.delete kwargs) state).2.table.rows : Int) < limit := by
      show (visibleCount config step.user
        (deleteDbConnection config step.env step.user kwargs state.table).2.rows : Int) < limit
      omega
    refine ⟨hbelow, fun hholds => ?_⟩
    have hright := (answersRight_iff _).mpr hholds
    unfold AnswersRight belowLimit at hright
    rw [hright, hlimit, Option.all_some, decide_eq_true hbelow]

/-- In every run in which the count holds whenever the limit is asked for, the limit reflects the
store; and creates of one user that sees no more rows than the limit never take it beyond. -/
theorem limit_reflects_store (config : ExtensionConfig) :
    (∀ user (state : ServerState config),
      AnswersRight config user state ↔ CountHolds config user state) ∧
    ∀ (steps : List LegacyStep) (state : ServerState config),
      Along (serve config) (fun state step => step.request.asksLimit = true →
        CountHolds config step.user state) state steps →
      Along (serve config) (LimitHolds config) state steps ∧
      ∀ user limit, config.maxConnections = some limit →
        (∀ step ∈ steps, step.user = user ∧ ∃ body, step.request = .create body) →
        (visibleCount config user state.table.rows : Int) ≤ limit →
        (visibleCount config user (run (serve config) state steps).table.rows : Int) ≤ limit := by
  refine ⟨fun user state => answersRight_iff state, fun steps state hholds => ?_⟩
  have hlimits : Along (serve config) (LimitHolds config) state steps :=
    hholds.mono fun state step _ h => limitHolds_of_countHolds h
  refine ⟨hlimits, fun user limit hlimit hcreates hstart => ?_⟩
  clear hholds
  induction steps generalizing state with
  | nil => exact hstart
  | cons step steps ih =>
    obtain ⟨hfirst, hrest⟩ := hlimits
    obtain ⟨huser, body, hbody⟩ := hcreates step List.mem_cons_self
    refine ih _ hrest (fun s hs => hcreates s (List.mem_cons_of_mem step hs)) ?_
    rcases hfirst.creates body hbody with hsame | hcount
    · rw [hsame]
      exact hstart
    · exact huser ▸ hcount limit hlimit

/-! ## A limit of two -/

/-- The application with users, with a limit of two connections. -/
def limitedConfig : ExtensionConfig := { userConfig with maxConnections := some 2 }

/-- No connection is stored, and no count kept. -/
def emptyState : ServerState limitedConfig := ⟨⟨[], by simp⟩, none⟩

/-- User 1 creates a connection, which gets the id. -/
def createStep (id : Nat) : LegacyStep where
  env := ⟨id, [("id", .int id)], fun _ => 0⟩
  user := userWithId 1
  request := .create
    { attributes := [("name", .json (.str "backups")), ("type", .json (.str "s3")),
        ("connection_properties", .json storedBucket)]
      fieldsSet := ["name", "type", "connection_properties"] }

/-- The rows of a user with an id can be counted when they all load. -/
theorem canCount_of_loads {rows : List TableRow}
    (h : (rows.all fun row => (loadObject limitedConfig row).toOption.isSome) = true) :
    CanCount limitedConfig (userWithId 1) rows where
  attributes _ item hitem := by
    rw [List.mem_singleton.mp hitem]
    exact ⟨.int 1, rfl⟩
  loads row hrow _ := exists_eq_ok_of_isSome (List.all_eq_true.mp h row hrow)

/-- The first two creates of a user keep to the limit. -/
theorem limit_reflects_store_twoCreates :
    Along (serve limitedConfig) (LimitHolds limitedConfig) emptyState [createStep 1, createStep 2] ∧
      (visibleCount limitedConfig (userWithId 1)
        (run (serve limitedConfig) emptyState [createStep 1, createStep 2]).table.rows : Int) ≤ 2 := by
  have hsecond : CountHolds limitedConfig (userWithId 1)
      (serve limitedConfig emptyState (createStep 1)) := by
    have hkept : (serve limitedConfig emptyState (createStep 1)).activeConnections = some 0 := by
      decide +kernel
    unfold CountHolds
    rw [hkept]
    exact canCount_of_loads (by decide +kernel)
  obtain ⟨hlimits, hcount⟩ := (limit_reflects_store limitedConfig).2
    [createStep 1, createStep 2] emptyState
    ⟨fun _ => canCount_of_loads rfl, fun _ => hsecond, trivial⟩
  refine ⟨hlimits, hcount (userWithId 1) 2 rfl ?_ (by decide)⟩
  intro step hstep
  simp only [List.mem_cons, List.not_mem_nil, or_false] at hstep
  rcases hstep with rfl | rfl <;> exact ⟨rfl, _, rfl⟩

/-- The third create asks when the user sees two rows, is let through on the count of one that was
kept, and takes the user beyond the limit. -/
theorem creates_exceed_kept_count :
    visibleCount limitedConfig (userWithId 1)
        (run (serve limitedConfig) emptyState [createStep 1, createStep 2]).table.rows = 2 ∧
      ¬ AnswersRight limitedConfig (userWithId 1)
        (run (serve limitedConfig) emptyState [createStep 1, createStep 2]) ∧
      visibleCount limitedConfig (userWithId 1)
        (run (serve limitedConfig) emptyState [createStep 1, createStep 2, createStep 3]).table.rows =
          3 := by
  have htwo : visibleCount limitedConfig (userWithId 1)
      (run (serve limitedConfig) emptyState [createStep 1, createStep 2]).table.rows = 2 := by
    decide +kernel
  have hanswer : (validateMaxConnections limitedConfig (userWithId 1)
      (run (serve limitedConfig) emptyState [createStep 1, createStep 2])).1.toOption = some true := by
    decide +kernel
  refine ⟨htwo, fun hright => ?_, by decide +kernel⟩
  unfold AnswersRight at hright
  rw [hright, htwo] at hanswer
  exact absurd hanswer (by decide)

end DbConnection.Compat
