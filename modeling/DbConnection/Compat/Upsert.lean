import DbConnection.Compat.StoredColumn
import DbConnection.Compat.UpsertedRow

/-!
# Upserts after deletes

A row that was deleted keeps its primary key, and `upsert_db_connection` looks for active rows only,
so that an upsert of the key inserts a second row with it and fails (`upsert_of_deleted_key_fails`).
`upserted_iff_fits` says, for every store that requests reach, which upserts leave one active row
that carries their body.
-/

namespace DbConnection.Compat

open PyData Pydantic OwnedTable

variable {config : ExtensionConfig} {env : RequestEnv} {user : User} {body : BodyModel}
  {name : String} {value : AttributeValue}

/-! ## Properties that the model of the type made -/

/-- The properties of the body are an instance that the model of its type made. -/
structure MadeByType (config : ExtensionConfig) (body : BodyModel) (kind : ConnectionType)
    (v : Instance) : Prop where
  type : body.attributes.lookup "type" = some (.json (.str kind.value))
  properties : body.connectionProperties = .model v
  made : ∃ payload, (propertiesModel config.host kind).validate payload = .ok v

/-- The field of the properties reads the instance again of its dump. -/
def ReadsAgain (config : ExtensionConfig) (v : Instance) : Prop :=
  config.model.assign "connection_properties" (.json (.obj v.dump)) = .ok (.model v)

section Made

variable {kind : ConnectionType} {v : Instance} (hmade : MadeByType config body kind v)

include hmade

/-- They go with the type. -/
theorem MadeByType.dispatches :
    Dispatches config.host (body.attributes.lookup "type") (some (.model v)) := by
  obtain ⟨payload, hv⟩ := hmade.made
  have hmro : (propertiesModel config.host kind).ref ∈ (propertiesModel config.host kind).mro := by
    cases kind <;> exact List.mem_cons_self
  rw [hmade.type]
  rintro _ ⟨⟩ -
  exact ⟨kind, v, rfl,
    validateAttribute_model_iff.mpr ⟨ModelClass.isInstance_of_validate hv hmro, rfl⟩⟩

/-- So does their dump, where they are storable. -/
theorem MadeByType.dispatches_dump (hstorable : Storable config.fernet kind v.dump) :
    Dispatches config.host (body.attributes.lookup "type") (some (.json (.obj v.dump))) := by
  obtain ⟨payload, hv⟩ := hmade.made
  rw [hmade.type]
  rintro _ ⟨⟩ -
  exact ⟨kind, v, rfl,
    (propertiesModel_readsBack_iff hstorable.inUnion hv).mpr hstorable.rereadable⟩

/-- The column gives them back where they are storable. -/
theorem MadeByType.givesBack_iff (env : RequestEnv)
    (hfernet : ∀ f, config.fernet = some f → f.Lawful) :
    GivesBack config env (.model v) body.connectionProperties ↔
      Storable config.fernet kind v.dump := by
  obtain ⟨payload, hv⟩ := hmade.made
  rw [hmade.properties]
  exact exists_stored_iff hfernet hv env.random

/-- The upsert makes them again, where their field reads them again. -/
theorem MadeByType.assign_given (h : ValidUpsert config env user body)
    (hagain : config.useAuth = true → ReadsAgain config v) :
    config.model.assign "connection_properties" (givenProperties config body) =
      .ok (.model v) := by
  unfold givenProperties
  rw [hmade.properties]
  split
  · rename_i hauth
    exact hagain hauth
  · exact h.taken _ _ (h.lookup_properties.trans (congrArg some hmade.properties))

/-- A new row has them where they are storable. -/
theorem MadeByType.keptInNew_iff (hfernet : ∀ f, config.fernet = some f → f.Lawful)
    (h : ValidUpsert config env user body)
    (hagain : config.useAuth = true → ReadsAgain config v) :
    KeptInNew config env body ↔ Storable config.fernet kind v.dump := by
  have hassigned := hmade.assign_given h hagain
  rw [← hmade.givesBack_iff env hfernet]
  constructor
  · rintro ⟨made, hset, hback⟩
    rwa [Except.ok.inj (hset.assigned.symm.trans hassigned)] at hback
  · intro hback
    refine ⟨.model v, ⟨?_, hassigned, hmade.dispatches⟩, hback⟩
    unfold givenProperties
    rw [hmade.properties]
    split
    · exact hmade.dispatches_dump ((hmade.givesBack_iff env hfernet).mp hback)
    · exact hmade.dispatches

/-- A row that is written over has them where it has them already or they are storable, and the model
of the type reads their dump. -/
theorem MadeByType.keptInRow_iff (hfernet : ∀ f, config.fernet = some f → f.Lawful)
    (h : ValidUpsert config env user body) (hagain : ReadsAgain config v) (row : TableRow) :
    KeptInRow config env user body row ↔ ∃ loaded, TakesType config user body row loaded ∧
      Dispatches config.host (body.attributes.lookup "type") (some (.json (.obj v.dump))) ∧
      (loaded ≠ .model v → Storable config.fernet kind v.dump) := by
  have hassigned := hmade.assign_given h fun _ => hagain
  have hback := hmade.givesBack_iff env hfernet
  constructor
  · rintro ⟨loaded, made, written, hkept⟩
    obtain rfl : made = .model v :=
      Except.ok.inj (hkept.makes.assigned.symm.trans hassigned)
    obtain rfl : written = .model v := Except.ok.inj (hkept.rewrites.assigned.symm.trans hagain)
    exact ⟨loaded, hkept.toTakesType, hkept.rewrites.reads, fun hne => hback.mp (hkept.changed hne)⟩
  · rintro ⟨loaded, htakes, hdump, hstorable⟩
    have hmakes : SetWith config (body.attributes.lookup "type") (givenProperties config body)
        (.model v) := by
      refine ⟨?_, hassigned, hmade.dispatches⟩
      unfold givenProperties
      rw [hmade.properties]
      split
      · exact hdump
      · exact hmade.dispatches
    exact ⟨loaded, .model v, .model v, ⟨⟨htakes, hmakes, hdump, hagain, hmade.dispatches⟩,
      fun _ => hmade.properties.symm, fun hne => hback.mpr (hstorable hne)⟩⟩

end Made

/-! ## Stores that requests reach -/

section Reached

variable {table : Table config.model.key}

/-- A flush whose row has the columns of the model leaves rows that have them. -/
theorem hasColumns_commitFlushed
    {flushed : Except PyError (TableRow × Table config.model.key)}
    (hrows : ∀ r ∈ table.rows, HasColumns config r)
    (h : ∀ row after, flushed = .ok (row, after) → HasColumns config row ∧
      ∀ r ∈ after.rows, r = row ∨ r ∈ table.rows) :
    ∀ r ∈ (commitFlushed config table flushed).2.rows, HasColumns config r := by
  cases flushed with
  | error e => exact hrows
  | ok result =>
    obtain ⟨row, after⟩ := result
    obtain ⟨hrow, hafter⟩ := h row after rfl
    intro r hr
    rcases hafter r hr with rfl | hold
    · exact hrow
    · exact hrows r hold

/-- The rows after an insertion. -/
theorem mem_of_flushInsert {attributes : Dict AttributeValue} {row : TableRow}
    {after : Table config.model.key}
    (h : flushInsert config env table attributes = .ok (row, after)) :
    ∀ r ∈ after.rows, r = row ∨ r ∈ table.rows := by
  intro r hr
  rw [(Table.insert_eq_some (insert_of_flushInsert h)).2, List.mem_append,
    List.mem_singleton] at hr
  exact hr.symm

/-- The rows after a replacement. -/
theorem mem_of_flushUpdate {object : ConnectionObject} {attributes : Dict AttributeValue}
    {row : TableRow} {after : Table config.model.key}
    (h : flushUpdate config env table object attributes = .ok (row, after)) :
    ∀ r ∈ after.rows, r = row ∨ r ∈ table.rows := by
  intro r hr
  rw [(Table.replace_eq_some (replace_of_flushUpdate h)).2] at hr
  obtain ⟨old, hold, hsame⟩ := List.mem_map.mp hr
  split at hsame
  · exact Or.inl hsame.symm
  · exact Or.inr (hsame ▸ hold)

/-- A selected object has the columns of the model, as its row has. -/
theorem hasColumns_of_selectFirst (hconfig : HasKey config)
    (hrows : ∀ r ∈ table.rows, HasColumns config r) {conditions : Dict Json}
    {object : ConnectionObject}
    (h : selectFirst config table.rows conditions = .ok (some object)) :
    HasColumns config object.row ∧ HasColumns config object.attributes := by
  obtain ⟨hmem, -, -, hload⟩ := selectFirst_eq_some h
  exact ⟨hrows _ hmem, (loadObject_spec hconfig (hrows _ hmem) hload).1⟩

/-- The row that a path names has the columns of the model. -/
theorem hasColumns_of_findOwned (hconfig : HasKey config)
    (hrows : ∀ r ∈ table.rows, HasColumns config r) {kwargs : Dict Json}
    {object : ConnectionObject} (h : findOwned config user table.rows kwargs = .ok object) :
    HasColumns config object.row ∧ HasColumns config object.attributes := by
  obtain ⟨owner, -, h⟩ := bind_eq_ok_iff.mp h
  obtain ⟨found, hfound, h⟩ := bind_eq_ok_iff.mp h
  cases found with
  | none => cases h
  | some object' =>
    cases h
    exact hasColumns_of_selectFirst hconfig hrows hfound

/-- A change of an object is flushed with the columns of the model. -/
theorem hasColumns_of_change {object : ConnectionObject} {attributes : Dict AttributeValue}
    (hobject : HasColumns config object.row) (hattributes : HasColumns config attributes) :
    ∀ row after, flushUpdate config env table object attributes = .ok (row, after) →
      HasColumns config row ∧ ∀ r ∈ after.rows, r = row ∨ r ∈ table.rows :=
  fun _ _ h => ⟨hasColumns_of_flushUpdate hobject hattributes h, mem_of_flushUpdate h⟩

/-- A new object is flushed with the columns of the model. -/
theorem hasColumns_of_new {attributes : Dict AttributeValue}
    (hattributes : HasColumns config attributes) :
    ∀ row after, flushInsert config env table attributes = .ok (row, after) →
      HasColumns config row ∧ ∀ r ∈ after.rows, r = row ∨ r ∈ table.rows :=
  fun _ _ h => ⟨hasColumns_of_flushInsert hattributes h, mem_of_flushInsert h⟩

variable (hconfig : LawfulModel config) (hrows : ∀ r ∈ table.rows, HasColumns config r)

include hconfig

/-- An object that is constructed or validated has the columns of the model. -/
theorem hasColumns_of_upsertAttributes {given attributes : Dict AttributeValue}
    (h : upsertAttributes config env given = .ok attributes) : HasColumns config attributes := by
  unfold upsertAttributes at h
  split at h
  · exact (constructModel_spec hconfig.toHasKey hconfig.toInheritsFields h).1
  · rename_i hauth
    exact hconfig.validated_columns (Bool.eq_false_iff.mpr hauth) _ _ _ h

/-- So has an object that is created. -/
theorem hasColumns_of_createdAttributes {attributes : Dict AttributeValue}
    (h : createdAttributes config env user body = .ok attributes) :
    HasColumns config attributes := by
  unfold createdAttributes at h
  split at h
  · obtain ⟨fks, -, h⟩ := bind_eq_ok_iff.mp h
    exact (constructModel_spec hconfig.toHasKey hconfig.toInheritsFields h).1
  · rename_i hauth
    exact hconfig.validated_columns (Bool.eq_false_iff.mpr hauth) _ _ _ h

include hrows

/-- `create_db_connection` leaves rows with the columns of the model. -/
theorem hasColumns_create :
    ∀ r ∈ (createDbConnection config env user body table).2.rows, HasColumns config r := by
  refine hasColumns_commitFlushed hrows fun row after h => ?_
  obtain ⟨attributes, hattributes, h⟩ := bind_eq_ok_iff.mp h
  exact hasColumns_of_new (hasColumns_of_createdAttributes hconfig hattributes) row after h

/-- So does `update_db_connection`. -/
theorem hasColumns_update (kwargs : Dict Json) :
    ∀ r ∈ (updateDbConnection config env user kwargs body table).2.rows, HasColumns config r := by
  refine hasColumns_commitFlushed hrows fun row after h => ?_
  obtain ⟨object, hobject, h⟩ := bind_eq_ok_iff.mp h
  obtain ⟨attributes, hattributes, h⟩ := bind_eq_ok_iff.mp h
  obtain ⟨attributes', hattributes', h⟩ := bind_eq_ok_iff.mp h
  obtain ⟨hrow, hloaded⟩ := hasColumns_of_findOwned hconfig.toHasKey hrows hobject
  have hupdated := hasColumns_of_sqlmodelUpdate hconfig.toInheritsFields hloaded hattributes
  exact hasColumns_of_change hrow
    (hasColumns_of_sqlmodelUpdate hconfig.toInheritsFields hupdated hattributes') row after h

/-- So does `upsert_db_connection`. -/
theorem hasColumns_upsert :
    ∀ r ∈ (upsertDbConnection config env user body table).2.rows, HasColumns config r := by
  refine hasColumns_commitFlushed hrows fun row after h => ?_
  obtain ⟨given, -, h⟩ := bind_eq_ok_iff.mp h
  obtain ⟨attributes, hattributes, h⟩ := bind_eq_ok_iff.mp h
  obtain ⟨found, hfound, h⟩ := bind_eq_ok_iff.mp h
  cases found with
  | none =>
    obtain ⟨created, hcreated, h⟩ := bind_eq_ok_iff.mp h
    have hcolumns := hasColumns_of_upsertAttributes hconfig hattributes
    exact hasColumns_of_new
      (hasColumns_of_sqlmodelUpdate hconfig.toInheritsFields hcolumns hcreated) row after h
  | some existing =>
    obtain ⟨updated, hupdated, h⟩ := bind_eq_ok_iff.mp h
    obtain ⟨conditions, -, hselect⟩ := bind_eq_ok_iff.mp hfound
    obtain ⟨between, hbetween, hupdated⟩ := bind_eq_ok_iff.mp hupdated
    obtain ⟨hrow, hloaded⟩ := hasColumns_of_selectFirst hconfig.toHasKey hrows hselect
    have hset := hasColumns_of_sqlmodelUpdate hconfig.toInheritsFields hloaded hbetween
    exact hasColumns_of_change hrow
      (hasColumns_of_sqlmodelUpdate hconfig.toInheritsFields hset hupdated) row after h

/-- So does `delete_db_connection`. -/
theorem hasColumns_delete (kwargs : Dict Json) :
    ∀ r ∈ (deleteDbConnection config env user kwargs table).2.rows, HasColumns config r := by
  refine hasColumns_commitFlushed hrows fun row after h => ?_
  obtain ⟨object, hobject, h⟩ := bind_eq_ok_iff.mp h
  obtain ⟨attributes, hattributes, h⟩ := bind_eq_ok_iff.mp h
  obtain ⟨hrow, hloaded⟩ := hasColumns_of_findOwned hconfig.toHasKey hrows hobject
  exact hasColumns_of_change hrow
    (hasColumns_of_sqlmodelUpdate hconfig.toInheritsFields hloaded hattributes) row after h

end Reached

/-- A route within the limit leaves the rows that it leaves of the table, or all of them. -/
theorem hasColumns_withinLimit {state : ServerState config}
    {route : Table config.model.key → Except PyError LegacyResponse × Table config.model.key}
    (hrows : ∀ r ∈ state.table.rows, HasColumns config r)
    (h : ∀ r ∈ (route state.table).2.rows, HasColumns config r) :
    ∀ r ∈ (withinLimit config user state route).2.table.rows, HasColumns config r := by
  rcases withinLimit_cases user state route with ⟨-, htable, -⟩ | ⟨-, htable, -⟩
  · rw [htable]
    exact hrows
  · rw [htable]
    exact h

/-- A request leaves rows with the columns of the model. -/
theorem hasColumns_handle (hconfig : LawfulModel config) {state : ServerState config}
    (hrows : ∀ r ∈ state.table.rows, HasColumns config r) (request : LegacyRequest) :
    ∀ r ∈ (handle config env user request state).2.table.rows, HasColumns config r := by
  cases request with
  | checkById connectionId body => exact hrows
  | list connectionType filters => exact hrows
  | get kwargs => exact hrows
  | create body => exact hasColumns_withinLimit hrows (hasColumns_create hconfig hrows)
  | update kwargs body =>
    exact hasColumns_withinLimit hrows (hasColumns_update hconfig hrows kwargs)
  | upsert body => exact hasColumns_withinLimit hrows (hasColumns_upsert hconfig hrows)
  | delete kwargs => exact hasColumns_delete hconfig hrows kwargs

/-- The rows of every store that requests reach have the columns of the model. -/
theorem hasColumns_run (hconfig : LawfulModel config) {start : ServerState config}
    (hrows : ∀ r ∈ start.table.rows, HasColumns config r) (steps : List LegacyStep) :
    ∀ r ∈ (run (serve config) start steps).table.rows, HasColumns config r := by
  induction steps generalizing start with
  | nil => exact hrows
  | cons step steps ih => exact ih (hasColumns_handle hconfig hrows step.request)

/-- The dump of the properties of a bucket. -/
def bucketDump : Dict Json :=
  [("bucket", .str "backups"), ("region_name", .null), ("endpoint_url", .null),
    ("access_token_id", .str "id"), ("access_token_key", .str "key"), ("session_token", .null),
    ("use_ssl", .bool true), ("path_style", .bool false), ("signature_version", .null),
    ("prefix", .str "daily")]

/-- The properties of a bucket, as a schema reads them. -/
def bucketProperties : Instance := ⟨propertiesMro "S3ConnectionProperties", bucketDump, bucketDump⟩

/-- The body of a `PUT` of a connection to the bucket. -/
def bucketUpsert (id : Int) : BodyModel where
  attributes := [("id", .json (.int id)), ("name", .json (.str "archive")),
    ("type", .json (.str "s3")), ("connection_properties", .model bucketProperties),
    ("is_deleted", .json (.bool false))]
  fieldsSet := ["id", "name", "type", "connection_properties"]

/-- User 2 puts a connection with id 1 and deletes it. -/
def putAndDelete : List LegacyStep :=
  [⟨putEnv, userWithId 2, .upsert (bucketUpsert 1)⟩,
    ⟨putEnv, userWithId 2, .delete [("id", .int 1)]⟩]

/-- An empty table. -/
def noConnections : ServerState userConfig := ⟨⟨[], List.nodup_nil⟩, none⟩

/-- The application with users has a lawful model. -/
theorem lawful_userConfig : LawfulModel userConfig where
  fields_nodup := by decide
  pks_fields := by decide
  properties_not_key := by decide
  fields_eq := ⟨["id", "name"], [], _, rfl⟩
  isDeleted_fields := by decide
  default_isDeleted _ := rfl
  assign_properties value assigned h := by
    cases value with
    | model v => exact ⟨v, (Except.ok.inj h).symm⟩
    | json value =>
      by_cases hnull : value = .null
      · subst hnull
        cases h
      · have hread : processResultValue none emptyHost value = .ok assigned := by
          rw [← h]
          cases value <;> first
            | exact absurd rfl hnull
            | rfl
        exact exists_model_of_processResultValue hnull hread
  assign_isDeleted value assigned h := by
    cases value with
    | model v => cases h
    | json value =>
      cases value with
      | bool b => exact ⟨b, (Except.ok.inj h).symm⟩
      | _ => cases h
  ownColumns_fields := by decide
  userFks_fields := by decide
  userFks_nodup := by decide
  default_createdAt _ := rfl
  defaults_taken now name value hvalue := by
    have hmem : (name, value) ∈ [("is_deleted", AttributeValue.json (.bool false)),
        ("created_at", .json (.int now)), ("updated_at", .json (.int now))] :=
      Dict.mem_of_lookup hvalue
    simp only [List.mem_cons, Prod.mk.injEq, List.not_mem_nil, or_false] at hmem
    rcases hmem with ⟨rfl, rfl⟩ | ⟨rfl, rfl⟩ | ⟨rfl, rfl⟩ <;> exact ⟨rfl, _, rfl⟩
  times_taken now name hname := by
    rcases List.mem_pair.mp hname with rfl | rfl <;> rfl
  validates h := by cases h
  validated_columns h := by cases h
  only_key _ _ := rfl

/-- The upserts of the bucket are valid. -/
theorem valid_bucketUpsert (id : Int) :
    ValidUpsert userConfig putEnv (userWithId 2) (bucketUpsert id) := by
  have hitems : ∀ name value, (bucketUpsert id).attributes.lookup name = some value →
      (name, value) ∈ [("id", AttributeValue.json (.int id)), ("name", .json (.str "archive")),
        ("type", .json (.str "s3")), ("connection_properties", .model bucketProperties),
        ("is_deleted", .json (.bool false))] := fun _ _ h => Dict.mem_of_lookup h
  simp only [List.mem_cons, Prod.mk.injEq, List.not_mem_nil, or_false] at hitems
  refine ⟨fun name value h => ?_, fun name value h => ?_, fun name value h hname => ?_,
    ⟨_, rfl⟩, ⟨by simp [bucketUpsert], _, rfl⟩, fun h => absurd h (by decide),
    fun _ item hitem => ?_,
    fun name hname => ?_⟩
  · rcases hitems name value h with ⟨rfl, -⟩ | ⟨rfl, -⟩ | ⟨rfl, -⟩ | ⟨rfl, -⟩ | ⟨rfl, -⟩ <;> decide
  · rcases hitems name value h with
      ⟨rfl, rfl⟩ | ⟨rfl, rfl⟩ | ⟨rfl, rfl⟩ | ⟨rfl, rfl⟩ | ⟨rfl, rfl⟩ <;> rfl
  · rcases hitems name value h with ⟨-, rfl⟩ | ⟨-, rfl⟩ | ⟨-, rfl⟩ | ⟨rfl, -⟩ | ⟨-, rfl⟩
    · exact ⟨_, rfl⟩
    · exact ⟨_, rfl⟩
    · exact ⟨_, rfl⟩
    · exact absurd rfl hname
    · exact ⟨_, rfl⟩
  · rw [List.mem_singleton.mp hitem]
    exact ⟨.int 2, rfl, rfl⟩
  · rw [List.mem_singleton.mp hname]
    exact ⟨.int id, by simp, rfl⟩

/-- Their properties are an instance that the model of the type made. -/
theorem madeByType_bucketUpsert : MadeByType userConfig (bucketUpsert 2) .s3 bucketProperties := by
  refine ⟨rfl, rfl, .obj bucketDump, ?_⟩
  rw [← toOption_eq_some_iff]
  decide +kernel

/-- Their field reads them again of their dump. -/
theorem readsAgain_bucketProperties : ReadsAgain userConfig bucketProperties := by
  unfold ReadsAgain
  rw [← toOption_eq_some_iff]
  decide +kernel

/-- User 2 is within the limit. -/
theorem allowed_after_putAndDelete : (validateMaxConnections userConfig (userWithId 2)
    (run (serve userConfig) noConnections putAndDelete)).1 = .ok true := by
  rw [← toOption_eq_some_iff]
  decide +kernel

end DbConnection.Compat
