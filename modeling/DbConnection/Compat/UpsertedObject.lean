import DbConnection.Compat.Assignments

/-!
# The object that an upsert makes

What an application's model, a body and its user have to be for an upsert (`LawfulModel`,
`ValidUpsert`), what `upsert_db_connection` gives to the model, and the attributes of the object
that comes of it (`Makes`): the values of the body, over them the keys of the user, and the
defaults.
-/

namespace DbConnection.Compat

open PyData Pydantic OwnedTable

/-! ## Applications, bodies and users -/

/-- The columns that the package's own model has and that an application's model inherits. -/
def ownColumns : List String := ["connection_properties", "is_deleted", "created_at", "updated_at"]

/-- The application's model behaves like a table model of SQLModel that inherits the package's, and
the database enforces its primary key and nothing else. -/
structure LawfulModel (config : ExtensionConfig) : Prop
    extends HasKey config, InheritsFields config where
  ownColumns_fields : ∀ name ∈ ownColumns, name ∈ config.model.fields ∧ name ∉ config.model.pks
  /-- The columns that refer to the user are the application's. -/
  userFks_fields : ∀ item ∈ config.userFksMapping,
    item.1 ∈ config.model.fields ∧ item.1 ∉ ownColumns
  userFks_nodup : (config.userFksMapping.map Prod.fst).Nodup
  default_createdAt : ∀ now, (config.model.defaults now).contains "created_at" = true
  /-- A default passes the validation of its own field, as it is. -/
  defaults_taken : ∀ now name value, (config.model.defaults now).lookup name = some value →
    config.model.assign name value = .ok value ∧ ∃ plain, value = .json plain
  /-- A time is taken as it is. -/
  times_taken : ∀ (now : Nat), ∀ name ∈ ["created_at", "updated_at"],
    config.model.assign name (.json (.int now)) = .ok (.json (.int now))
  /-- A body whose values are taken as they are is validated field by field. -/
  validates : config.useAuth = false → ∀ env given,
    (∀ name value, given.lookup name = some value → config.model.assign name value = .ok value) →
    (∀ name ∈ config.model.fields,
      given.contains name ∨ (config.model.defaults env.now).contains name) →
    config.model.modelValidate env.now given = constructModel config env given
  /-- What is validated is an object of the model. -/
  validated_columns : config.useAuth = false → ∀ now given attributes,
    config.model.modelValidate now given = .ok attributes → HasColumns config attributes
  only_key : ∀ rows row, config.model.constraints rows row = .ok ()

/-- The keys of the user that go with a body. -/
def userKeys (config : ExtensionConfig) (user : User) : Dict AttributeValue :=
  if config.useAuth then
    config.userFksMapping.filterMap fun item =>
      (user.lookup item.2).map fun value => (item.1, .json value)
  else []

/-- The values that an upsert is given: those of the body, and the keys of the user. -/
def upsertValues (config : ExtensionConfig) (user : User) (body : BodyModel) :
    Dict AttributeValue :=
  body.attributes ++ userKeys config user

/-- The primary key that an upsert is of. -/
def upsertKey (config : ExtensionConfig) (user : User) (body : BodyModel) : List (Option Json) :=
  attributeKey config (upsertValues config user body)

/-- A body that the upsert schema has read, and its user: the fields are fields of the model without
the dates, which take the values as they are, and the type, the properties and the primary key are
given. -/
structure ValidUpsert (config : ExtensionConfig) (env : RequestEnv) (user : User)
    (body : BodyModel) : Prop where
  fields : ∀ name value, body.attributes.lookup name = some value →
    name ∈ config.model.fields ∧ name ≠ "created_at" ∧ name ≠ "updated_at"
  taken : ∀ name value, body.attributes.lookup name = some value →
    config.model.assign name value = .ok value
  plain : ∀ name value, body.attributes.lookup name = some value →
    name ≠ "connection_properties" → ∃ v, value = .json v
  type : ∃ type, body.attributes.lookup "type" = some type
  properties : "connection_properties" ∈ body.fieldsSet ∧
    ∃ v, body.attributes.lookup "connection_properties" = some (.model v)
  complete : config.useAuth = false → ∀ name ∈ config.model.fields,
    body.attributes.contains name ∨ (config.model.defaults env.now).contains name
  known : config.useAuth = true → ∀ item ∈ config.userFksMapping, ∃ value,
    user.lookup item.2 = some value ∧
      config.model.assign item.1 (.json value) = .ok (.json value)
  key : FullKey config (upsertValues config user body)

variable {config : ExtensionConfig} {env : RequestEnv} {user : User} {body : BodyModel}
  {name : String} {value : AttributeValue}

/-! ## What is given -/

/-- A value of an upsert is the body's, or else the user's. -/
theorem lookup_upsertValues (config : ExtensionConfig) (user : User) (body : BodyModel)
    (name : String) : (upsertValues config user body).lookup name =
      (body.attributes.lookup name).or ((userKeys config user).lookup name) :=
  List.lookup_append

/-- The keys of a user that has the mapped attributes. -/
theorem exists_userFks (hauth : config.useAuth = true)
    (hknown : ∀ item ∈ config.userFksMapping, ∃ value, user.lookup item.2 = some value) :
    ∃ fks, userFks config user = .ok fks ∧
      userKeys config user = fks.map fun item => (item.1, .json item.2) := by
  unfold userFks userKeys
  rw [if_pos hauth]
  generalize config.userFksMapping = mapping at hknown
  induction mapping with
  | nil => exact ⟨[], rfl, rfl⟩
  | cons item mapping ih =>
    obtain ⟨value, hvalue⟩ := hknown item List.mem_cons_self
    obtain ⟨fks, hfks, hkeys⟩ := ih fun item' h => hknown item' (List.mem_cons_of_mem item h)
    refine ⟨(item.1, value) :: fks, mapM_cons_eq_ok_iff.mpr ⟨_, fks, ?_, hfks, rfl⟩, ?_⟩
    · rw [hvalue]
    · rw [List.filterMap_cons, hvalue, hkeys]
      rfl

/-- The keys of the user are plain values of columns that refer to the user, which the model takes
as they are. -/
theorem ValidUpsert.of_mem_userKeys (h : ValidUpsert config env user body)
    (hvalue : (name, value) ∈ userKeys config user) : config.useAuth = true ∧
      (∃ item ∈ config.userFksMapping, item.1 = name) ∧
      config.model.assign name value = .ok value ∧ ∃ v, value = .json v := by
  unfold userKeys at hvalue
  split at hvalue
  · rename_i hauth
    obtain ⟨item, hitem, hmapped⟩ := List.mem_filterMap.mp hvalue
    obtain ⟨v, hv, htaken⟩ := h.known hauth item hitem
    rw [hv, Option.map_some, Option.some.injEq, Prod.mk.injEq] at hmapped
    obtain ⟨rfl, rfl⟩ := hmapped
    exact ⟨hauth, ⟨item, hitem, rfl⟩, htaken, v, rfl⟩
  · cases hvalue

/-- A value that an upsert is given is taken as it is, is of a field that is not a date, and is
plain unless it is the properties. -/
theorem ValidUpsert.of_lookup (hconfig : LawfulModel config) (h : ValidUpsert config env user body)
    (hvalue : (upsertValues config user body).lookup name = some value) :
    name ∈ config.model.fields ∧ name ≠ "created_at" ∧ name ≠ "updated_at" ∧
      config.model.assign name value = .ok value ∧
      (name ≠ "connection_properties" → ∃ v, value = .json v) := by
  rw [lookup_upsertValues, Option.or_eq_some_iff] at hvalue
  rcases hvalue with hbody | ⟨-, huser⟩
  · obtain ⟨hfield, hcreated, hupdated⟩ := h.fields name value hbody
    exact ⟨hfield, hcreated, hupdated, h.taken name value hbody, h.plain name value hbody⟩
  · obtain ⟨-, ⟨item, hitem, rfl⟩, htaken, hplain⟩ :=
      h.of_mem_userKeys (Dict.mem_of_lookup huser)
    obtain ⟨hfield, hown⟩ := hconfig.userFks_fields item hitem
    refine ⟨hfield, fun he => hown ?_, fun he => hown ?_, htaken, fun _ => hplain⟩
    · rw [he]
      decide
    · rw [he]
      decide

/-- The properties of the body are an instance. -/
theorem ValidUpsert.lookup_properties (h : ValidUpsert config env user body) :
    body.attributes.lookup "connection_properties" = some body.connectionProperties := by
  obtain ⟨v, hv⟩ := h.properties.2
  unfold BodyModel.connectionProperties
  rw [hv, Option.getD_some]

/-- A value of the dump of a body. -/
theorem lookup_modelDump (body : BodyModel) (name : String) :
    body.modelDump.lookup name = (body.attributes.lookup name).map AttributeValue.dump :=
  Dict.lookup_map_values AttributeValue.dump body.attributes name

/-- The properties that an upsert gives to its model: with users their dump. -/
def givenProperties (config : ExtensionConfig) (body : BodyModel) : AttributeValue :=
  if config.useAuth then body.connectionProperties.dump else body.connectionProperties

/-- What is given: the values of the upsert, and with users the properties as their dump. -/
structure GivesValues (config : ExtensionConfig) (user : User) (body : BodyModel)
    (given : Dict AttributeValue) : Prop where
  values : ∀ name, name ≠ "connection_properties" →
    given.lookup name = (upsertValues config user body).lookup name
  properties : given.lookup "connection_properties" = some (givenProperties config body)

/-- Where the body does not have the keys of the user, its values and they are given. -/
theorem exists_upsertGiven (h : ValidUpsert config env user body)
    (hseparate : config.useAuth = true → ∀ item ∈ config.userFksMapping,
      body.attributes.contains item.1 = false) :
    ∃ given, upsertGiven config user body = .ok given ∧ GivesValues config user body given := by
  unfold upsertGiven
  cases hauth : config.useAuth with
  | false =>
    refine ⟨body.attributes, rfl, fun name _ => ?_, ?_⟩
    · unfold upsertValues userKeys
      rw [hauth, if_neg Bool.false_ne_true, List.append_nil]
    · unfold givenProperties
      rw [hauth]
      exact h.lookup_properties
  | true =>
    obtain ⟨fks, hfks, hkeys⟩ := exists_userFks hauth fun item hitem => by
      obtain ⟨value, hvalue, -⟩ := h.known hauth item hitem
      exact ⟨value, hvalue⟩
    have hnone : fks.find? (fun item => body.modelDump.contains item.1) = none := by
      rw [List.find?_eq_none]
      intro item hitem
      have hmem : (item.1, AttributeValue.json item.2) ∈ userKeys config user :=
        hkeys ▸ List.mem_map_of_mem (f := fun item => (item.1, AttributeValue.json item.2)) hitem
      obtain ⟨-, ⟨mapped, hmapped, hname⟩, -, -⟩ := h.of_mem_userKeys hmem
      have hnot := hseparate hauth mapped hmapped
      unfold Dict.contains at hnot ⊢
      rw [lookup_modelDump, Option.isSome_map, ← hname, hnot]
      exact Bool.false_ne_true
    refine ⟨body.modelDump ++ fks.map fun item => (item.1, .json item.2), ?_,
      fun name hname => ?_, ?_⟩
    · rw [if_pos rfl, hfks, ok_bind, hnone]
      rfl
    · rw [List.lookup_append, lookup_modelDump, lookup_upsertValues, hkeys]
      cases hvalue : body.attributes.lookup name with
      | none => rfl
      | some value =>
        obtain ⟨v, rfl⟩ := h.plain name value hvalue hname
        rfl
    · unfold givenProperties
      rw [List.lookup_append, lookup_modelDump, h.lookup_properties, hauth]
      rfl

/-- A body with a key of the user is refused. -/
theorem upsertGiven_error (h : ValidUpsert config env user body) (hauth : config.useAuth = true)
    {item : String × String} (hitem : item ∈ config.userFksMapping)
    (hcontains : body.attributes.contains item.1 = true) :
    ∃ e, upsertGiven config user body = .error e := by
  obtain ⟨fks, hfks, hkeys⟩ := exists_userFks hauth fun item hitem => by
    obtain ⟨value, hvalue, -⟩ := h.known hauth item hitem
    exact ⟨value, hvalue⟩
  obtain ⟨fk, hfk, hbound⟩ := exists_mem_of_mapM hfks hitem
  obtain ⟨value, hvalue, -⟩ := h.known hauth item hitem
  rw [hvalue] at hbound
  cases hbound
  have hsome : (fks.find? fun item => body.modelDump.contains item.1).isSome = true := by
    rw [List.find?_isSome]
    refine ⟨_, hfk, ?_⟩
    unfold Dict.contains at hcontains ⊢
    rw [lookup_modelDump, Option.isSome_map, hcontains]
  obtain ⟨found, hfound⟩ := Option.isSome_iff_exists.mp hsome
  unfold upsertGiven
  rw [if_pos hauth, hfks, ok_bind, hfound]
  exact ⟨_, rfl⟩

/-! ## The object that is made -/

/-- Properties are set along with a type: it goes with them, and with what their field makes of
them. -/
structure SetWith (config : ExtensionConfig) (type : Option AttributeValue)
    (properties made : AttributeValue) : Prop where
  reads : Dispatches config.host type (some properties)
  assigned : config.model.assign "connection_properties" properties = .ok made
  suits : Dispatches config.host type (some made)

/-- Two values that are set are the same. -/
theorem SetWith.unique {type : Option AttributeValue} {properties made other : AttributeValue}
    (h : SetWith config type properties made) (hother : SetWith config type properties other) :
    other = made :=
  Except.ok.inj (hother.assigned.symm.trans h.assigned)

/-- An object that an upsert makes, its properties among the attributes. -/
structure Makes (config : ExtensionConfig) (user : User) (body : BodyModel)
    (attributes : Dict AttributeValue) (made : AttributeValue) : Prop where
  columns : HasColumns config attributes
  setWith : SetWith config (body.attributes.lookup "type") (givenProperties config body) made
  properties : attributes.lookup "connection_properties" = some made
  values : ∀ name value, name ≠ "connection_properties" →
    (upsertValues config user body).lookup name = some value → attributes.lookup name = some value
  plain : ∀ name ∈ config.model.fields, name ≠ "connection_properties" →
    ∃ v, attributes.lookup name = some (.json v)
  deleted : ∃ b, attributes.lookup "is_deleted" = some (.json (.bool b))
  active : (upsertValues config user body).lookup "is_deleted" = none →
    attributes.lookup "is_deleted" = some (.json (.bool false))

section Made

variable {given attributes : Dict AttributeValue} (hconfig : LawfulModel config)
  (h : ValidUpsert config env user body) (hgiven : GivesValues config user body given)

include hconfig h hgiven

/-- An object is made field by field. -/
theorem upsertAttributes_eq :
    upsertAttributes config env given = constructModel config env given := by
  unfold upsertAttributes
  cases hauth : config.useAuth with
  | true => rfl
  | false =>
    have hproperties := hgiven.properties
    unfold givenProperties at hproperties
    rw [hauth, if_neg Bool.false_ne_true] at hproperties
    refine hconfig.validates hauth env given (fun name value hvalue => ?_) fun name hname => ?_
    · by_cases hname : name = "connection_properties"
      · rw [hname, hproperties, Option.some.injEq] at hvalue
        rw [hname, ← hvalue]
        exact h.taken _ _ h.lookup_properties
      · rw [hgiven.values name hname] at hvalue
        exact (h.of_lookup hconfig hvalue).2.2.2.1
    · refine (h.complete hauth name hname).imp_left fun hbody => ?_
      unfold Dict.contains at hbody ⊢
      by_cases hcolumn : name = "connection_properties"
      · rw [hcolumn, hproperties]
        rfl
      · rw [hgiven.values name hcolumn, lookup_upsertValues, Option.isSome_or, hbody]
        rfl

/-- A field that is given is made as it is. -/
theorem constructValue_of_lookup (hname : name ≠ "connection_properties")
    (hvalue : (upsertValues config user body).lookup name = some value) :
    constructValue config env given name = .ok value := by
  unfold constructValue
  rw [hgiven.values name hname, hvalue, Option.some_or]
  exact (h.of_lookup hconfig hvalue).2.2.2.1

/-- A field other than the properties is made, of a plain value. -/
theorem exists_constructValue (hname : name ≠ "connection_properties") :
    ∃ v, constructValue config env given name = .ok (.json v) := by
  cases hvalue : (upsertValues config user body).lookup name with
  | some value =>
    rw [constructValue_of_lookup hconfig h hgiven hname hvalue]
    obtain ⟨v, rfl⟩ := (h.of_lookup hconfig hvalue).2.2.2.2 hname
    exact ⟨v, rfl⟩
  | none =>
    unfold constructValue
    rw [hgiven.values name hname, hvalue, Option.none_or]
    cases hdefault : (config.model.defaults env.now).lookup name with
    | none => exact ⟨.null, rfl⟩
    | some value =>
      obtain ⟨htaken, v, rfl⟩ := hconfig.defaults_taken env.now name value hdefault
      exact ⟨v, htaken⟩

omit hconfig h in
/-- The properties are made of those that are given. -/
theorem constructValue_properties : constructValue config env given "connection_properties" =
    config.model.assign "connection_properties" (givenProperties config body) := by
  unfold constructValue
  rw [hgiven.properties, Option.some_or]

/-- The object is made when its properties are set along with its type. -/
theorem exists_upsertAttributes_iff :
    (∃ attributes, upsertAttributes config env given = .ok attributes) ↔
      ∃ made, SetWith config (body.attributes.lookup "type") (givenProperties config body)
        made := by
  obtain ⟨type, htype⟩ := h.type
  have hgivenType : given.lookup "type" = some type := by
    rw [hgiven.values _ (by decide), lookup_upsertValues, htype, Option.some_or]
  -- The date is never given, so the constructor ends with a default.
  have hdefault : ∃ name ∈ config.model.fields, given.contains name = false ∧
      (config.model.defaults env.now).contains name = true := by
    refine ⟨"created_at", (hconfig.ownColumns_fields _ (by decide)).1, ?_,
      hconfig.default_createdAt env.now⟩
    unfold Dict.contains
    rw [hgiven.values _ (by decide), Option.isSome_eq_false_iff, Option.isNone_iff_eq_none,
      Option.eq_none_iff_forall_ne_some]
    intro value hvalue
    exact (h.of_lookup hconfig hvalue).2.1 rfl
  rw [upsertAttributes_eq hconfig h hgiven, exists_constructModel_iff hconfig.toHasKey
    hconfig.toInheritsFields hgivenType (h.taken _ _ htype) hgiven.properties hdefault, htype]
  constructor
  · rintro ⟨hreads, hvalues, hsuits⟩
    obtain ⟨made, hmade⟩ := hvalues "connection_properties"
      (hconfig.ownColumns_fields _ (by decide)).1
    rw [constructValue_properties hgiven] at hmade
    exact ⟨made, hreads, hmade, hsuits made hmade⟩
  · rintro ⟨made, hset⟩
    refine ⟨hset.reads, fun name _ => ?_, fun other hother => ?_⟩
    · by_cases hname : name = "connection_properties"
      · rw [hname, constructValue_properties hgiven]
        exact ⟨made, hset.assigned⟩
      · obtain ⟨v, hv⟩ := exists_constructValue hconfig h hgiven hname
        exact ⟨_, hv⟩
    · rw [hset.assigned, Except.ok.injEq] at hother
      exact hother ▸ hset.suits

/-- The object that is made. -/
theorem makes_of_upsertAttributes
    (hattributes : upsertAttributes config env given = .ok attributes) :
    ∃ made, Makes config user body attributes made := by
  obtain ⟨made, hset⟩ := (exists_upsertAttributes_iff hconfig h hgiven).mp ⟨_, hattributes⟩
  rw [upsertAttributes_eq hconfig h hgiven] at hattributes
  obtain ⟨hcolumns, hvalues⟩ :=
    constructModel_spec hconfig.toHasKey hconfig.toInheritsFields hattributes
  have hlookup : ∀ name ∈ config.model.fields, ∀ value,
      constructValue config env given name = .ok value → attributes.lookup name = some value := by
    intro name hname value hvalue
    obtain ⟨other, hother, hsome⟩ := hvalues name hname
    rw [hsome, Except.ok.inj (hother.symm.trans hvalue)]
  have hactive : (upsertValues config user body).lookup "is_deleted" = none →
      attributes.lookup "is_deleted" = some (.json (.bool false)) := by
    intro hnone
    refine hlookup _ hconfig.isDeleted_fields _ ?_
    have hdefault := hconfig.default_isDeleted env.now
    unfold constructValue
    rw [hgiven.values _ (by decide), hnone, Option.none_or, hdefault]
    exact (hconfig.defaults_taken env.now _ _ hdefault).1
  refine ⟨made, hcolumns, hset, ?_, fun name value hname hvalue => ?_, fun name hfield hname => ?_,
    ?_, hactive⟩
  · refine hlookup _ (hconfig.ownColumns_fields _ (by decide)).1 _ ?_
    rw [constructValue_properties hgiven, hset.assigned]
  · exact hlookup name (h.of_lookup hconfig hvalue).1 value
      (constructValue_of_lookup hconfig h hgiven hname hvalue)
  · obtain ⟨v, hv⟩ := exists_constructValue hconfig h hgiven hname
    exact ⟨v, hlookup name hfield _ hv⟩
  · cases hvalue : (upsertValues config user body).lookup "is_deleted" with
    | none => exact ⟨false, hactive hvalue⟩
    | some value =>
      obtain ⟨hfield, -, -, htaken, -⟩ := h.of_lookup hconfig hvalue
      obtain ⟨b, rfl⟩ := hconfig.assign_isDeleted _ _ htaken
      exact ⟨b, hlookup _ hfield _ (constructValue_of_lookup hconfig h hgiven (by decide) hvalue)⟩

end Made

/-- Attributes that have the values of the upsert on its primary key have its key. -/
theorem key_of_values (h : ValidUpsert config env user body)
    {attributes : Dict AttributeValue}
    (hvalues : ∀ name ∈ config.model.pks, ∀ v,
      (upsertValues config user body).lookup name = some (.json v) →
        attributes.lookup name = some (.json v)) :
    FullKey config attributes ∧ attributeKey config attributes = upsertKey config user body := by
  refine ⟨fun name hname => ?_, List.map_congr_left fun name hname => ?_⟩
  · obtain ⟨v, hnotNull, hv⟩ := h.key name hname
    exact ⟨v, hnotNull, hvalues name hname v hv⟩
  · obtain ⟨v, -, hv⟩ := h.key name hname
    rw [hvalues name hname v hv, hv]

/-- The object has the key of the upsert. -/
theorem Makes.key (hconfig : LawfulModel config) (h : ValidUpsert config env user body)
    {attributes : Dict AttributeValue} {made : AttributeValue}
    (hmakes : Makes config user body attributes made) :
    FullKey config attributes ∧ attributeKey config attributes = upsertKey config user body :=
  key_of_values h fun name hname _ hv =>
    hmakes.values name _ (fun he => hconfig.properties_not_key (he ▸ hname)) hv

/-! ## The date of a new object -/

/-- The values that are set along with a date. -/
theorem sqlmodelUpdate_date (hconfig : LawfulModel config) {date : String}
    (hdate : date ∈ ownColumns) {attributes : Dict AttributeValue} {value : AttributeValue} :
    sqlmodelUpdate config attributes [(date, value)] =
      setAttributes config attributes [(date, value)] :=
  sqlmodelUpdate_eq fun item hitem => by
    rw [List.mem_singleton.mp hitem]
    exact (hconfig.ownColumns_fields date hdate).1

section Dated

variable {attributes : Dict AttributeValue} {made : AttributeValue} (hconfig : LawfulModel config)
  (h : ValidUpsert config env user body) (hmakes : Makes config user body attributes made)

include hconfig hmakes

/-- The properties of an object that is made are an instance. -/
theorem Makes.instanced : Instanced attributes := by
  intro value hvalue
  obtain ⟨v, rfl⟩ := hconfig.assign_properties _ _ hmakes.setWith.assigned
  rw [hmakes.properties, Option.some.injEq] at hvalue
  cases hvalue

include h

omit hconfig in
/-- The type of an object that is made is the body's. -/
theorem Makes.lookup_type : attributes.lookup "type" = body.attributes.lookup "type" := by
  obtain ⟨type, htype⟩ := h.type
  rw [htype]
  refine hmakes.values _ _ (by decide) ?_
  rw [lookup_upsertValues, htype, Option.some_or]

variable (env) in
/-- An object that is made can be dated. -/
theorem Makes.exists_dated : ∃ after,
    sqlmodelUpdate config attributes [("created_at", .json (.int env.now))] = .ok after := by
  rw [sqlmodelUpdate_date hconfig (by decide)]
  have hset : ∃ after,
      setAttribute config attributes "created_at" (.json (.int env.now)) = .ok after := by
    rw [exists_setAttribute_iff, Dict.lookup_update_singleton, Dict.lookup_update_singleton,
      if_neg (by decide), if_neg (by decide), hmakes.lookup_type h, hmakes.properties]
    exact ⟨hmakes.setWith.suits, _, hconfig.times_taken env.now _ (by decide)⟩
  obtain ⟨after, hafter⟩ := hset
  exact ⟨after, bind_eq_ok_iff.mpr ⟨after, hafter, rfl⟩⟩

/-- An object that an upsert makes is one after its date was set. -/
theorem Makes.dated {after : Dict AttributeValue}
    (hdated : sqlmodelUpdate config attributes [("created_at", .json (.int env.now))] = .ok after) :
    Makes config user body after made := by
  have hcolumns := hasColumns_of_sqlmodelUpdate hconfig.toInheritsFields hmakes.columns hdated
  rw [sqlmodelUpdate_date hconfig (by decide)] at hdated
  obtain ⟨_, hset, hdated⟩ := bind_eq_ok_iff.mp hdated
  cases hdated
  dsimp only at hset
  obtain ⟨⟨date, htaken, hdate⟩, -, hkept, hdeleted⟩ :=
    setAttribute_spec hconfig.toInheritsFields (hmakes.instanced hconfig) hset
  rw [hconfig.times_taken env.now _ (by decide), Except.ok.injEq] at htaken
  subst htaken
  obtain ⟨b, hb⟩ := hmakes.deleted
  have hsame : ∀ name, name ≠ "created_at" → after.lookup name = attributes.lookup name := by
    intro name hname
    by_cases hdel : name = "is_deleted"
    · rw [hdel, hb]
      exact hdeleted (by decide) _ (by simp) hb
    · exact hkept name hname hdel
  refine ⟨hcolumns, hmakes.setWith, (hsame _ (by decide)).trans hmakes.properties,
    fun name value hname hvalue => ?_, fun name hfield hname => ?_,
    ⟨b, (hsame _ (by decide)).trans hb⟩, fun hnone => ?_⟩
  · rw [hsame name (h.of_lookup hconfig hvalue).2.1]
    exact hmakes.values name value hname hvalue
  · by_cases hne : name = "created_at"
    · exact ⟨_, hne ▸ hdate⟩
    · rw [hsame name hne]
      exact hmakes.plain name hfield hname
  · rw [hsame _ (by decide)]
    exact hmakes.active hnone

end Dated

end DbConnection.Compat
