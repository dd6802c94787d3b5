import DbConnection.Compat.Columns

/-!
# Assignments to an object

Each assignment validates the properties of the object again, with the model of the type that is
there (`_dispatch_properties`). So a type and properties are assigned, one after the other, only
where each goes with what is there at its turn (`exists_setAttributes_iff`), and an object is
constructed only of a type and properties that go together (`exists_constructModel_iff`).
-/

namespace DbConnection.Compat

open PyData Pydantic OwnedTable

variable {config : ExtensionConfig} {env : RequestEnv} {name : String} {row : TableRow}
  {attributes updated data : Dict AttributeValue} {object : ConnectionObject}

/-! ## Types and properties -/

/-- The application's model inherits the fields of the package's: the type stands before the
properties, whose field makes instances of models, and whether a row is deleted is a Boolean. -/
structure InheritsFields (config : ExtensionConfig) : Prop where
  fields_eq : ∃ before between after, config.model.fields =
    before ++ "type" :: (between ++ "connection_properties" :: after)
  isDeleted_fields : "is_deleted" ∈ config.model.fields
  default_isDeleted : ∀ now,
    (config.model.defaults now).lookup "is_deleted" = some (.json (.bool false))
  assign_properties : ∀ value assigned,
    config.model.assign "connection_properties" value = .ok assigned → ∃ v, assigned = .model v
  assign_isDeleted : ∀ value assigned,
    config.model.assign "is_deleted" value = .ok assigned → ∃ b, assigned = .json (.bool b)

/-- `_dispatch_properties` accepts the type and the properties. -/
def Dispatches (host : Host) (type properties : Option AttributeValue) : Prop :=
  ∀ props, properties = some props → props ≠ .json .null →
    ∃ kind v, type = some (.json (.str (ConnectionType.value kind))) ∧
      validateAttribute (propertiesModel host kind) props = .ok v

/-- The properties are an instance of a model, if there are any. -/
def Instanced (attributes : Dict AttributeValue) : Prop :=
  ∀ value, attributes.lookup "connection_properties" = some (.json value) → value = .null

/-- The properties of a loaded row are an instance, if there are any. -/
theorem instanced_of_loadObject (hconfig : HasKey config) (hrow : HasColumns config row)
    (h : loadObject config row = .ok object) : Instanced object.attributes := by
  obtain ⟨hcolumns, hloaded⟩ := loadObject_spec hconfig hrow h
  intro value hvalue
  have hname : "connection_properties" ∈ config.model.fields := by
    rw [← hcolumns]
    exact List.mem_map_of_mem (Dict.mem_of_lookup hvalue)
  obtain ⟨stored, hstored⟩ := hrow.exists_lookup hname
  obtain ⟨read, hread, hlookup⟩ := hloaded _ stored hstored
  rw [hvalue, Option.some.injEq] at hlookup
  subst hlookup
  unfold resultColumn at hread
  rw [if_pos rfl] at hread
  by_cases hnull : stored = .null
  · subst hnull
    cases hread
    rfl
  · obtain ⟨v, hv⟩ := exists_model_of_processResultValue hnull hread
    cases hv

/-- The type that a value of the attribute is. -/
theorem connectionType?_eq_some_iff {value : AttributeValue} {kind : ConnectionType} :
    connectionType? value = some kind ↔ value = .json (.str kind.value) := by
  unfold connectionType?
  split
  · rw [ConnectionType.ofValue?_eq_some_iff]
    simp
  · rename_i hother
    refine iff_of_false nofun ?_
    rintro rfl
    exact hother _ rfl

/-- An instance of the model is read as it is, and no other. -/
theorem validateAttribute_model_iff {m : ModelClass} {v w : Instance} :
    validateAttribute m (.model v) = .ok w ↔ v.isInstance m.ref = true ∧ v = w := by
  show m.validateInstance v = .ok w ↔ _
  unfold ModelClass.validateInstance
  split_ifs with h <;> simp [h]

/-- What `_dispatch_properties` does with properties. -/
theorem dispatchProperties_of_lookup {host : Host} {props : AttributeValue}
    (hprops : attributes.lookup "connection_properties" = some props) (hne : props ≠ .json .null) :
    dispatchProperties host attributes =
      match (attributes.lookup "type").bind connectionType? with
      | none => .error unsupportedConnectionType
      | some type =>
        match validateAttribute (propertiesModel host type) props with
        | .ok v => .ok (attributes.update [("connection_properties", .model v)])
        | .error e => .error (.ofModel .pydanticError e) := by
  unfold dispatchProperties
  rw [hprops]
  split
  · rename_i h
    cases h
  · rename_i h
    exact absurd (Option.some.inj h) hne
  · rename_i h
    obtain rfl := Option.some.inj h
    rfl

/-- Without properties, `_dispatch_properties` does nothing. -/
theorem dispatchProperties_of_none {host : Host} (h : ∀ props,
    attributes.lookup "connection_properties" = some props → props = .json .null) :
    dispatchProperties host attributes = .ok attributes := by
  unfold dispatchProperties
  cases hprops : attributes.lookup "connection_properties" with
  | none => rfl
  | some props => rw [h props hprops]

/-- `_dispatch_properties` reads the type and the properties only. -/
theorem exists_dispatchProperties_iff {host : Host} : (∃ values,
    dispatchProperties host attributes = .ok values) ↔
      Dispatches host (attributes.lookup "type") (attributes.lookup "connection_properties") := by
  by_cases hnone : ∀ props,
      attributes.lookup "connection_properties" = some props → props = .json .null
  · exact iff_of_true ⟨_, dispatchProperties_of_none hnone⟩
      fun props hprops hne => absurd (hnone props hprops) hne
  · simp only [not_forall] at hnone
    obtain ⟨props, hprops, hne⟩ := hnone
    rw [dispatchProperties_of_lookup hprops hne, hprops]
    unfold Dispatches
    simp only [Option.some.injEq, forall_eq', ne_eq, hne, not_false_eq_true, forall_const]
    cases htype : (attributes.lookup "type").bind connectionType? with
    | none =>
      refine iff_of_false nofun ?_
      rintro ⟨kind, v, hkind, -⟩
      rw [hkind, Option.bind_some, connectionType?_eq_some_iff.mpr rfl] at htype
      cases htype
    | some kind =>
      obtain ⟨value, hvalue, hkind⟩ := Option.bind_eq_some_iff.mp htype
      obtain rfl := connectionType?_eq_some_iff.mp hkind
      dsimp only
      constructor
      · rintro ⟨values, hvalues⟩
        split at hvalues
        · rename_i v hv
          exact ⟨kind, v, hvalue, hv⟩
        · cases hvalues
      · rintro ⟨kind', v, hkind', hv⟩
        rw [hvalue, Option.some.injEq] at hkind'
        rw [hkind'] at hkind
        rw [connectionType?_eq_some_iff.mpr rfl, Option.some.injEq] at hkind
        subst hkind
        rw [hv]
        exact ⟨_, rfl⟩

/-- What `_dispatch_properties` leaves. -/
theorem dispatchProperties_spec {host : Host} {values : Dict AttributeValue}
    (h : dispatchProperties host attributes = .ok values) :
    values.map Prod.fst = attributes.map Prod.fst ∧
      (∀ name, name ≠ "connection_properties" → values.lookup name = attributes.lookup name) ∧
      (Instanced attributes →
        values.lookup "connection_properties" = attributes.lookup "connection_properties") := by
  by_cases hnone : ∀ props,
      attributes.lookup "connection_properties" = some props → props = .json .null
  · rw [dispatchProperties_of_none hnone] at h
    cases h
    exact ⟨rfl, fun _ _ => rfl, fun _ => rfl⟩
  · simp only [not_forall] at hnone
    obtain ⟨props, hprops, hne⟩ := hnone
    rw [dispatchProperties_of_lookup hprops hne] at h
    split at h
    · cases h
    · split at h
      · rename_i v hv
        cases h
        refine ⟨Dict.keys_update_of_subset fun key hkey => ?_, fun name hname => ?_,
          fun hinst => ?_⟩
        · rw [List.map_cons, List.map_nil, List.mem_singleton] at hkey
          rw [hkey]
          exact List.mem_map.mpr ⟨_, Dict.mem_of_lookup hprops, rfl⟩
        · rw [Dict.lookup_update_singleton, if_neg hname]
        · rw [Dict.lookup_update_singleton, if_pos rfl, hprops]
          cases props with
          | json value => exact absurd (congrArg _ (hinst value hprops)) hne
          | model w => rw [(validateAttribute_model_iff.mp hv).2]
      · cases h

/-! ## Assignments -/

/-- `_force_is_deleted_default` changes nothing but whether a row is deleted, and that only where it
is not said. -/
theorem lookup_forceIsDeletedDefault (attributes : Dict AttributeValue) (name : String) :
    (name ≠ "is_deleted" →
      (forceIsDeletedDefault attributes).lookup name = attributes.lookup name) ∧
      ∀ value, value ≠ .json .null → attributes.lookup name = some value →
        (forceIsDeletedDefault attributes).lookup name = some value := by
  unfold forceIsDeletedDefault
  split
  · rename_i hnone
    refine ⟨fun hname => by rw [Dict.lookup_update_singleton, if_neg hname], ?_⟩
    intro value hne hvalue
    rw [Dict.lookup_update_singleton, if_neg, hvalue]
    rintro rfl
    rw [hnone] at hvalue
    cases hvalue
  · rename_i hnull
    refine ⟨fun hname => by rw [Dict.lookup_update_singleton, if_neg hname], ?_⟩
    intro value hne hvalue
    rw [Dict.lookup_update_singleton, if_neg, hvalue]
    rintro rfl
    rw [hnull] at hvalue
    exact hne (Option.some.inj hvalue).symm
  · exact ⟨fun _ => rfl, fun _ _ hvalue => hvalue⟩

/-- A value is assigned where the validators of the package's model accept the attributes with it,
and its field validates it. -/
theorem exists_setAttribute_iff {value : AttributeValue} :
    (∃ after, setAttribute config attributes name value = .ok after) ↔
      Dispatches config.host ((attributes.update [(name, value)]).lookup "type")
        ((attributes.update [(name, value)]).lookup "connection_properties") ∧
      ∃ assigned, config.model.assign name value = .ok assigned := by
  rw [← exists_dispatchProperties_iff]
  constructor
  · rintro ⟨after, h⟩
    obtain ⟨values, hvalues, h⟩ := bind_eq_ok_iff.mp h
    obtain ⟨assigned, hassigned, -⟩ := bind_eq_ok_iff.mp h
    exact ⟨⟨values, hvalues⟩, assigned, hassigned⟩
  · rintro ⟨⟨values, hvalues⟩, assigned, hassigned⟩
    exact ⟨_, bind_eq_ok_iff.mpr ⟨values, hvalues, bind_eq_ok_iff.mpr ⟨assigned, hassigned, rfl⟩⟩⟩

/-- What an assignment does: the attribute has the value that its field makes, and the others
stay. -/
theorem setAttribute_spec {value : AttributeValue} {after : Dict AttributeValue}
    (hfields : InheritsFields config) (hinst : Instanced attributes)
    (h : setAttribute config attributes name value = .ok after) :
    (∃ assigned, config.model.assign name value = .ok assigned ∧
      after.lookup name = some assigned) ∧ Instanced after ∧
      (∀ other, other ≠ name → other ≠ "is_deleted" →
        after.lookup other = attributes.lookup other) ∧
      (name ≠ "is_deleted" → ∀ value, value ≠ .json .null →
        attributes.lookup "is_deleted" = some value → after.lookup "is_deleted" = some value) := by
  obtain ⟨values, hvalues, h⟩ := bind_eq_ok_iff.mp h
  obtain ⟨assigned, hassigned, h⟩ := bind_eq_ok_iff.mp h
  cases h
  obtain ⟨-, hothers, hproperties⟩ := dispatchProperties_spec hvalues
  have hkept : ∀ other, other ≠ name → other ≠ "is_deleted" →
      ((forceIsDeletedDefault values).update [(name, assigned)]).lookup other =
        attributes.lookup other := by
    intro other hname hdeleted
    rw [Dict.lookup_update_singleton, if_neg hname,
      (lookup_forceIsDeletedDefault values other).1 hdeleted]
    by_cases hprops : other = "connection_properties"
    · subst hprops
      have hsame : Instanced (attributes.update [(name, value)]) := by
        intro json hjson
        rw [Dict.lookup_update_singleton, if_neg hname] at hjson
        exact hinst json hjson
      rw [hproperties hsame, Dict.lookup_update_singleton, if_neg hname]
    · rw [hothers other hprops, Dict.lookup_update_singleton, if_neg hname]
  refine ⟨⟨assigned, hassigned, by rw [Dict.lookup_update_singleton, if_pos rfl]⟩,
    fun json hjson => ?_, hkept, fun hname value hne hvalue => ?_⟩
  · by_cases hname : name = "connection_properties"
    · subst hname
      rw [Dict.lookup_update_singleton, if_pos rfl, Option.some.injEq] at hjson
      obtain ⟨v, rfl⟩ := hfields.assign_properties _ _ hassigned
      cases hjson
    · rw [hkept _ (Ne.symm hname) (by decide)] at hjson
      exact hinst json hjson
  · rw [Dict.lookup_update_singleton, if_neg (Ne.symm hname)]
    refine (lookup_forceIsDeletedDefault values _).2 value hne ?_
    rw [hothers _ (by decide), Dict.lookup_update_singleton, if_neg (Ne.symm hname)]
    exact hvalue

/-- What assignments one after another do. -/
structure Assigned (config : ExtensionConfig) (attributes data after : Dict AttributeValue) :
    Prop where
  instanced : Instanced after
  assigned : ∀ name value, data.lookup name = some value →
    ∃ v, config.model.assign name value = .ok v ∧ after.lookup name = some v
  kept : ∀ name, name ≠ "is_deleted" → data.lookup name = none →
    after.lookup name = attributes.lookup name
  keptDeleted : data.lookup "is_deleted" = none → ∀ value, value ≠ .json .null →
    attributes.lookup "is_deleted" = some value → after.lookup "is_deleted" = some value

/-- Each value is assigned, and the attributes without one stay. -/
theorem assigned_of_setAttributes (hfields : InheritsFields config)
    {after : Dict AttributeValue} (hdata : (data.map Prod.fst).Nodup) (hinst : Instanced attributes)
    (h : setAttributes config attributes data = .ok after) :
    Assigned config attributes data after := by
  induction data generalizing attributes with
  | nil =>
    cases h
    exact ⟨hinst, nofun, fun _ _ _ => rfl, fun _ _ _ hvalue => hvalue⟩
  | cons item data ih =>
    obtain ⟨name, value⟩ := item
    obtain ⟨between, hbetween, h⟩ := bind_eq_ok_iff.mp h
    obtain ⟨⟨v, hv, hset⟩, hinstanced, hkept, hdeleted⟩ := setAttribute_spec hfields hinst hbetween
    rw [List.map_cons, List.nodup_cons] at hdata
    have hrest := ih hdata.2 hinstanced h
    have hnone : data.lookup name = none := by
      rw [Option.eq_none_iff_forall_ne_some]
      intro other hother
      exact hdata.1 (List.mem_map.mpr ⟨_, Dict.mem_of_lookup hother, rfl⟩)
    have hlookup : ∀ other, List.lookup other ((name, value) :: data) =
        if other = name then some value else data.lookup other := by
      intro other
      by_cases hother : other = name
      · simp [hother]
      · have hne : (other == name) = false := beq_eq_false_iff_ne.mpr hother
        simp [List.lookup_cons, hne, hother]
    refine ⟨hrest.instanced, fun other w hw => ?_, fun other hother hnot => ?_,
      fun hnot w hne hw => ?_⟩
    · rw [hlookup] at hw
      split at hw
      · rename_i hsame
        subst hsame
        cases hw
        refine ⟨v, hv, ?_⟩
        -- The later assignments leave the attribute as it is.
        by_cases hdel : other = "is_deleted"
        · subst hdel
          obtain ⟨b, rfl⟩ := hfields.assign_isDeleted _ _ hv
          exact hrest.keptDeleted hnone _ (by simp) hset
        · rw [hrest.kept other hdel hnone]
          exact hset
      · exact hrest.assigned other w hw
    · rw [hlookup] at hnot
      split at hnot
      · cases hnot
      · rename_i hne
        rw [hrest.kept other hother hnot, hkept other hne hother]
    · rw [hlookup] at hnot
      split at hnot
      · cases hnot
      · rename_i hdel
        exact hrest.keptDeleted hnot w hne (hdeleted (Ne.symm hdel) w hne hw)

/-- The fields validate their values. -/
def FieldsAccept (config : ExtensionConfig) (data : Dict AttributeValue) : Prop :=
  ∀ item ∈ data, ∃ v, config.model.assign item.1 item.2 = .ok v

/-- Whether the data is assigned depends on the type and the properties that are there. -/
def AssignedWhere (config : ExtensionConfig) (data : Dict AttributeValue)
    (condition : Option AttributeValue → Option AttributeValue → Prop) : Prop :=
  ∀ attributes, Instanced attributes →
    ((∃ after, setAttributes config attributes data = .ok after) ↔
      condition (attributes.lookup "type") (attributes.lookup "connection_properties"))

/-- No data is assigned anywhere. -/
theorem assignedWhere_nil (config : ExtensionConfig) : AssignedWhere config [] fun _ _ => True :=
  fun attributes _ => iff_of_true ⟨attributes, rfl⟩ trivial

section Where

variable {condition : Option AttributeValue → Option AttributeValue → Prop}
  (hfields : InheritsFields config) (hdata : AssignedWhere config data condition)

include hfields hdata

/-- A value before the data: the validators see it, and the data what its field makes of it. -/
theorem AssignedWhere.cons (name : String) (value : AttributeValue) :
    AssignedWhere config ((name, value) :: data) fun type properties =>
      Dispatches config.host (if "type" = name then some value else type)
          (if "connection_properties" = name then some value else properties) ∧
        ∃ assigned, config.model.assign name value = .ok assigned ∧
          condition (if "type" = name then some assigned else type)
            (if "connection_properties" = name then some assigned else properties) := by
  intro attributes hinst
  have hfirst : (∃ between, setAttribute config attributes name value = .ok between) ↔ _ :=
    exists_setAttribute_iff
  simp only [Dict.lookup_update_singleton] at hfirst
  have hrest : ∀ between assigned, setAttribute config attributes name value = .ok between →
      config.model.assign name value = .ok assigned →
        ((∃ after, setAttributes config between data = .ok after) ↔
          condition (if "type" = name then some assigned else attributes.lookup "type")
            (if "connection_properties" = name then some assigned
              else attributes.lookup "connection_properties")) := by
    intro between assigned hbetween hassigned
    obtain ⟨⟨v, hv, hset⟩, hinstanced, hkept, -⟩ := setAttribute_spec hfields hinst hbetween
    rw [hassigned, Except.ok.injEq] at hv
    subst hv
    have hlookup : ∀ other, other ≠ "is_deleted" → between.lookup other =
        if other = name then some assigned else attributes.lookup other := by
      intro other hother
      split
      · rename_i hsame
        rw [hsame, hset]
      · rename_i hne
        exact hkept other hne hother
    rw [hdata between hinstanced, hlookup _ (by decide), hlookup _ (by decide)]
  constructor
  · rintro ⟨after, h⟩
    obtain ⟨between, hbetween, h⟩ := bind_eq_ok_iff.mp h
    obtain ⟨hdispatches, assigned, hassigned⟩ := hfirst.mp ⟨between, hbetween⟩
    exact ⟨hdispatches, assigned, hassigned,
      (hrest between assigned hbetween hassigned).mp ⟨after, h⟩⟩
  · rintro ⟨hdispatches, assigned, hassigned, hcondition⟩
    obtain ⟨between, hbetween⟩ := hfirst.mpr ⟨hdispatches, assigned, hassigned⟩
    obtain ⟨after, h⟩ := (hrest between assigned hbetween hassigned).mpr hcondition
    exact ⟨after, bind_eq_ok_iff.mpr ⟨between, hbetween, h⟩⟩

/-- A type before the data is assigned where it goes together with the properties that are there. -/
theorem AssignedWhere.type {type : AttributeValue}
    (htaken : config.model.assign "type" type = .ok type) :
    AssignedWhere config (("type", type) :: data) fun _ properties =>
      Dispatches config.host (some type) properties ∧ condition (some type) properties := by
  intro attributes hinst
  rw [hdata.cons hfields _ _ attributes hinst]
  beta_reduce
  rw [if_pos rfl, if_neg (by decide)]
  refine and_congr_right fun _ => ⟨?_, fun h => ⟨type, htaken, ?_⟩⟩
  · rintro ⟨assigned, hassigned, h⟩
    rw [htaken, Except.ok.injEq] at hassigned
    rwa [if_pos rfl, if_neg (by decide), ← hassigned] at h
  · rwa [if_pos rfl, if_neg (by decide)]

/-- Properties before the data are assigned where the model of the type reads them, and so does
their field. -/
theorem AssignedWhere.properties (properties : AttributeValue) :
    AssignedWhere config (("connection_properties", properties) :: data) fun type _ =>
      Dispatches config.host type (some properties) ∧
        ∃ assigned, config.model.assign "connection_properties" properties = .ok assigned ∧
          condition type (some assigned) := by
  intro attributes hinst
  rw [hdata.cons hfields _ _ attributes hinst]
  simp only [if_neg (show "type" ≠ "connection_properties" by decide), if_true]

/-- Values of other fields before the data are assigned where the type and the properties go
together. -/
theorem AssignedWhere.append {others : Dict AttributeValue}
    (hothers : ∀ item ∈ others, item.1 ≠ "type" ∧ item.1 ≠ "connection_properties") :
    AssignedWhere config (others ++ data) fun type properties =>
      (others ≠ [] → Dispatches config.host type properties) ∧ FieldsAccept config others ∧
        condition type properties := by
  induction others with
  | nil =>
    intro attributes hinst
    rw [List.nil_append, hdata attributes hinst]
    exact ⟨fun h => ⟨fun hne => absurd rfl hne, nofun, h⟩, fun h => h.2.2⟩
  | cons item others ih =>
    obtain ⟨name, value⟩ := item
    obtain ⟨htype, hprops⟩ := hothers (name, value) List.mem_cons_self
    have hrest := ih fun item hitem => hothers item (List.mem_cons_of_mem _ hitem)
    intro attributes hinst
    rw [List.cons_append, hrest.cons hfields _ _ attributes hinst]
    simp only [if_neg (Ne.symm htype), if_neg (Ne.symm hprops)]
    constructor
    · rintro ⟨hdispatches, assigned, hassigned, -, haccept, hcondition⟩
      exact ⟨fun _ => hdispatches, List.forall_mem_cons.mpr ⟨⟨assigned, hassigned⟩, haccept⟩,
        hcondition⟩
    · rintro ⟨hdispatches, haccept, hcondition⟩
      obtain ⟨⟨assigned, hassigned⟩, haccept⟩ := List.forall_mem_cons.mp haccept
      have hdispatches := hdispatches (List.cons_ne_nil _ _)
      exact ⟨hdispatches, assigned, hassigned, fun _ => hdispatches, haccept, hcondition⟩

end Where

/-- The fields before the type. -/
def leadingFields (config : ExtensionConfig) : List String :=
  config.model.fields.takeWhile (· != "type")

/-- They are the fields that stand before it. -/
theorem leadingFields_eq (hnodup : config.model.fields.Nodup) {before rest : List String}
    (hfields : config.model.fields = before ++ "type" :: rest) :
    leadingFields config = before := by
  rw [hfields] at hnodup
  have hbefore : ∀ name ∈ before, (name != "type") = true := by
    rintro name hname
    refine bne_iff_ne.mpr ?_
    rintro rfl
    exact (List.nodup_append.mp hnodup).2.2 _ hname _ List.mem_cons_self rfl
  unfold leadingFields
  rw [hfields, List.takeWhile_append_of_pos hbefore]
  simp

/-- Data with a type and properties, in the order of the fields, and values of other fields after it
are assigned where each value that comes before the properties goes with those that are there, and
the properties of the data and what their field makes of them go with its type. -/
theorem exists_setAttributes_iff (hconfig : HasKey config) (hfields : InheritsFields config)
    (hinst : Instanced attributes) {type properties : AttributeValue}
    (htype : data.lookup "type" = some type) (htaken : config.model.assign "type" type = .ok type)
    (hproperties : data.lookup "connection_properties" = some properties)
    {rest : Dict AttributeValue} (hne : rest ≠ [])
    (hrest : ∀ item ∈ rest, item.1 ≠ "type" ∧ item.1 ≠ "connection_properties") :
    (∃ after,
        setAttributes config attributes (data.pick config.model.fields ++ rest) = .ok after) ↔
      ((∃ name ∈ leadingFields config, data.contains name = true) →
        Dispatches config.host (attributes.lookup "type")
          (attributes.lookup "connection_properties")) ∧
      Dispatches config.host (some type) (attributes.lookup "connection_properties") ∧
      Dispatches config.host (some type) (some properties) ∧
      FieldsAccept config (data.pick config.model.fields ++ rest) ∧
      ∀ written, config.model.assign "connection_properties" properties = .ok written →
        Dispatches config.host (some type) (some written) := by
  obtain ⟨before, between, after, hsplit⟩ := hfields.fields_eq
  have hnodup := hconfig.fields_nodup
  rw [leadingFields_eq hnodup hsplit]
  rw [hsplit] at hnodup ⊢
  have hpick : data.pick (before ++ "type" :: (between ++ "connection_properties" :: after)) ++
      rest = data.pick before ++ ("type", type) :: (data.pick between ++
        ("connection_properties", properties) :: (data.pick after ++ (rest ++ []))) := by
    simp [Dict.pick, List.filterMap_append, htype, hproperties]
  have hothers : ∀ names : List String, "type" ∉ names → "connection_properties" ∉ names →
      ∀ item ∈ data.pick names, item.1 ≠ "type" ∧ item.1 ≠ "connection_properties" := by
    intro names htype hprops item hitem
    have hmem : item.1 ∈ names := (Dict.fst_mem_of_mem_pick hitem).1
    exact ⟨fun he => htype (he ▸ hmem), fun he => hprops (he ▸ hmem)⟩
  -- The names of the fields are distinct.
  rw [List.nodup_append, List.nodup_cons, List.nodup_append, List.nodup_cons] at hnodup
  obtain ⟨-, ⟨hnotType, -, ⟨hnotProps, -⟩, hbetween⟩, hbefore⟩ := hnodup
  simp only [List.mem_append, List.mem_cons, not_or] at hnotType
  have hwhere := ((((((assignedWhere_nil config).append hfields hrest).append hfields
    (hothers after hnotType.2.2 hnotProps)).properties hfields properties).append hfields
    (hothers between hnotType.1 fun h => hbetween _ h _ List.mem_cons_self rfl)).type hfields
    htaken).append hfields (hothers before (fun h => hbefore _ h _ List.mem_cons_self rfl)
      fun h => hbefore _ h _ (by simp) rfl)
  rw [hpick, hwhere attributes hinst]
  have haccept : FieldsAccept config (data.pick before ++ ("type", type) :: (data.pick between ++
      ("connection_properties", properties) :: (data.pick after ++ (rest ++ [])))) ↔
      FieldsAccept config (data.pick before) ∧ FieldsAccept config (data.pick between) ∧
        (∃ v, config.model.assign "connection_properties" properties = .ok v) ∧
        FieldsAccept config (data.pick after) ∧ FieldsAccept config rest := by
    unfold FieldsAccept
    simp only [List.forall_mem_append, List.forall_mem_cons, List.append_nil]
    have htypeAccepts : ∃ v, config.model.assign "type" type = .ok v := ⟨type, htaken⟩
    simp only [htypeAccepts, true_and]
  rw [haccept, Dict.pick_ne_nil_iff]
  constructor
  · rintro ⟨hleads, hbeforeAccepts, htypeGoes, -, hbetweenAccepts, hpropertiesGo, assigned,
      hassigned, -, hafterAccepts, hrestGoes, hrestAccepts, -⟩
    refine ⟨hleads, htypeGoes, hpropertiesGo, ⟨hbeforeAccepts, hbetweenAccepts,
      ⟨assigned, hassigned⟩, hafterAccepts, hrestAccepts⟩, fun written hwritten => ?_⟩
    rw [hassigned, Except.ok.injEq] at hwritten
    exact hwritten ▸ hrestGoes hne
  · rintro ⟨hleads, htypeGoes, hpropertiesGo, ⟨hbeforeAccepts, hbetweenAccepts,
      ⟨assigned, hassigned⟩, hafterAccepts, hrestAccepts⟩, hgoes⟩
    have hgoes := hgoes assigned hassigned
    exact ⟨hleads, hbeforeAccepts, htypeGoes, fun _ => htypeGoes, hbetweenAccepts, hpropertiesGo,
      assigned, hassigned, fun _ => hgoes, hafterAccepts, fun _ => hgoes, hrestAccepts, trivial⟩

/-! ## Columns of assigned attributes -/

/-- Attributes of the model over others. -/
theorem HasColumns.update {α : Type} {d e : Dict α} (hd : HasColumns config d)
    (he : ∀ key ∈ e.map Prod.fst, key ∈ config.model.fields) : HasColumns config (d.update e) :=
  (Dict.keys_update_of_subset fun key hkey => hd ▸ he key hkey).trans hd

/-- An assignment keeps the columns. -/
theorem hasColumns_of_setAttribute (hfields : InheritsFields config) {value : AttributeValue}
    (hname : name ∈ config.model.fields) (hattributes : HasColumns config attributes)
    (h : setAttribute config attributes name value = .ok updated) : HasColumns config updated := by
  obtain ⟨values, hvalues, h⟩ := bind_eq_ok_iff.mp h
  obtain ⟨assigned, -, h⟩ := bind_eq_ok_iff.mp h
  cases h
  have hsingle : ∀ value : AttributeValue, ∀ key ∈ [(name, value)].map Prod.fst,
      key ∈ config.model.fields := by
    intro value key hkey
    rwa [List.mem_singleton.mp hkey]
  have hset : HasColumns config values :=
    (dispatchProperties_spec hvalues).1.trans (hattributes.update (hsingle value))
  have hforced : HasColumns config (forceIsDeletedDefault values) := by
    have hdeleted : ∀ value : AttributeValue, ∀ key ∈ [("is_deleted", value)].map Prod.fst,
        key ∈ config.model.fields := by
      intro value key hkey
      rw [List.mem_singleton.mp hkey]
      exact hfields.isDeleted_fields
    unfold forceIsDeletedDefault
    split
    · exact hset.update (hdeleted _)
    · exact hset.update (hdeleted _)
    · exact hset
  exact hforced.update (hsingle assigned)

/-- Assignments keep the columns. -/
theorem hasColumns_of_setAttributes (hfields : InheritsFields config)
    (hnames : ∀ item ∈ data, item.1 ∈ config.model.fields)
    (hattributes : HasColumns config attributes)
    (h : setAttributes config attributes data = .ok updated) : HasColumns config updated := by
  induction data generalizing attributes with
  | nil =>
    cases h
    exact hattributes
  | cons item data ih =>
    obtain ⟨between, hbetween, h⟩ := bind_eq_ok_iff.mp h
    exact ih (fun item hitem => hnames item (List.mem_cons_of_mem _ hitem))
      (hasColumns_of_setAttribute hfields (hnames item List.mem_cons_self) hattributes hbetween) h

/-- An update keeps the columns. -/
theorem hasColumns_of_sqlmodelUpdate (hfields : InheritsFields config)
    (hattributes : HasColumns config attributes)
    (h : sqlmodelUpdate config attributes data = .ok updated) : HasColumns config updated := by
  refine hasColumns_of_setAttributes hfields (fun item hitem => ?_) hattributes h
  exact List.contains_iff_mem.mp (List.mem_filter.mp hitem).2

/-- An update with attributes of the model assigns each of them. -/
theorem sqlmodelUpdate_eq (hnames : ∀ item ∈ data, item.1 ∈ config.model.fields) :
    sqlmodelUpdate config attributes data = setAttributes config attributes data := by
  unfold sqlmodelUpdate
  rw [List.filter_eq_self.mpr fun item hitem => List.contains_iff_mem.mpr (hnames item hitem)]

/-! ## Objects that are constructed -/

/-- The value of a field that is constructed. -/
def constructValue (config : ExtensionConfig) (env : RequestEnv) (given : Dict AttributeValue)
    (name : String) : Except PyError AttributeValue :=
  match (given.lookup name).or ((config.model.defaults env.now).lookup name) with
  | none => .ok (.json .null)
  | some value => config.model.assign name value

/-- A value that the constructor assigns is given, or else a default. -/
theorem lookup_constructorData (given : Dict AttributeValue) (hname : name ∈ config.model.fields) :
    (constructorData config env given).lookup name =
      (given.lookup name).or ((config.model.defaults env.now).lookup name) := by
  unfold constructorData
  rw [List.lookup_append, Dict.lookup_pick, Dict.lookup_pick, if_pos hname]
  cases hgiven : given.lookup name with
  | some value => rfl
  | none => rw [if_pos (List.mem_filter.mpr ⟨hname, by simp [Dict.contains, hgiven]⟩)]

/-- The names of the values that the constructor assigns. -/
theorem keys_constructorData (env : RequestEnv) (hconfig : HasKey config)
    (given : Dict AttributeValue) :
    ((constructorData config env given).map Prod.fst).Nodup ∧
      ∀ item ∈ constructorData config env given, item.1 ∈ config.model.fields := by
  have hkeys : (constructorData config env given).map Prod.fst =
      config.model.fields.filter given.contains ++
        (config.model.fields.filter fun name => !given.contains name).filter
          (config.model.defaults env.now).contains := by
    unfold constructorData
    rw [List.map_append, Dict.keys_pick, Dict.keys_pick]
  constructor
  · rw [hkeys, List.nodup_append]
    refine ⟨hconfig.fields_nodup.filter _, (hconfig.fields_nodup.filter _).filter _, ?_⟩
    rintro name hgiven _ hdefault rfl
    have hnot := (List.mem_filter.mp (List.mem_filter.mp hdefault).1).2
    rw [(List.mem_filter.mp hgiven).2] at hnot
    cases hnot
  · intro item hitem
    have hmem : item.1 ∈ (constructorData config env given).map Prod.fst :=
      List.mem_map_of_mem hitem
    rw [hkeys, List.mem_append] at hmem
    rcases hmem with hmem | hmem
    · exact (List.mem_filter.mp hmem).1
    · exact (List.mem_filter.mp (List.mem_filter.mp hmem).1).1

/-- The attributes of an object that is constructed. -/
theorem constructModel_spec (hconfig : HasKey config) (hfields : InheritsFields config)
    {given : Dict AttributeValue} (h : constructModel config env given = .ok attributes) :
    HasColumns config attributes ∧ ∀ name ∈ config.model.fields, ∃ value,
      constructValue config env given name = .ok value ∧ attributes.lookup name = some value := by
  obtain ⟨assigned, hassigned, h⟩ := bind_eq_ok_iff.mp h
  cases h
  have hcolumns : HasColumns config (config.model.fields.map fun name =>
      (name, (assigned.lookup name).getD (.json .null))) := by
    unfold HasColumns
    rw [List.map_map]
    exact List.map_id _
  obtain ⟨hdata, -⟩ := keys_constructorData env hconfig given
  have hspec := assigned_of_setAttributes hfields hdata (fun _ h => by cases h) hassigned
  have hnodup := hconfig.fields_nodup
  rw [← hcolumns] at hnodup
  refine ⟨hcolumns, fun name hname => ?_⟩
  have hlookup := Dict.lookup_of_mem hnodup (List.mem_map_of_mem (f := fun name =>
    (name, (assigned.lookup name).getD (AttributeValue.json .null))) hname)
  rw [hlookup]
  unfold constructValue
  cases hvalue : (given.lookup name).or ((config.model.defaults env.now).lookup name) with
  | some value =>
    obtain ⟨v, hv, hset⟩ := hspec.assigned name value
      ((lookup_constructorData given hname).trans hvalue)
    exact ⟨v, hv, by rw [hset, Option.getD_some]⟩
  | none =>
    have hdeleted : name ≠ "is_deleted" := by
      rintro rfl
      rw [hfields.default_isDeleted, Option.or_eq_none_iff] at hvalue
      cases hvalue.2
    have hkept := hspec.kept name hdeleted ((lookup_constructorData given hname).trans hvalue)
    exact ⟨.json .null, rfl, by rw [hkept]; rfl⟩

/-- The constructor assigns its values when each field is made. -/
theorem fieldsAccept_constructorData_iff (hconfig : HasKey config) (given : Dict AttributeValue) :
    FieldsAccept config (constructorData config env given) ↔
      ∀ name ∈ config.model.fields, ∃ value, constructValue config env given name = .ok value := by
  obtain ⟨hnodup, hnames⟩ := keys_constructorData env hconfig given
  constructor
  · intro h name hname
    unfold constructValue
    split
    · exact ⟨_, rfl⟩
    · rename_i value hvalue
      exact h (name, value)
        (Dict.mem_of_lookup ((lookup_constructorData given hname).trans hvalue))
  · rintro h ⟨name, value⟩ hitem
    have hname := hnames _ hitem
    obtain ⟨v, hv⟩ := h name hname
    unfold constructValue at hv
    rw [← lookup_constructorData given hname, Dict.lookup_of_mem hnodup hitem] at hv
    exact ⟨v, hv⟩

/-- An object with a type and properties, and a field that is not given, is constructed when each of
its fields is made and the properties go with the type, as they are given and as they are made. -/
theorem exists_constructModel_iff (hconfig : HasKey config) (hfields : InheritsFields config)
    {given : Dict AttributeValue} {type properties : AttributeValue}
    (htype : given.lookup "type" = some type) (htaken : config.model.assign "type" type = .ok type)
    (hproperties : given.lookup "connection_properties" = some properties)
    (hdefault : ∃ name ∈ config.model.fields, given.contains name = false ∧
      (config.model.defaults env.now).contains name = true) :
    (∃ attributes, constructModel config env given = .ok attributes) ↔
      Dispatches config.host (some type) (some properties) ∧
      (∀ name ∈ config.model.fields, ∃ value, constructValue config env given name = .ok value) ∧
      ∀ made, config.model.assign "connection_properties" properties = .ok made →
        Dispatches config.host (some type) (some made) := by
  have hset : (∃ attributes, constructModel config env given = .ok attributes) ↔
      ∃ assigned, setAttributes config [] (constructorData config env given) = .ok assigned := by
    constructor
    · rintro ⟨attributes, h⟩
      obtain ⟨assigned, hassigned, -⟩ := bind_eq_ok_iff.mp h
      exact ⟨assigned, hassigned⟩
    · rintro ⟨assigned, hassigned⟩
      exact ⟨_, bind_eq_ok_iff.mpr ⟨assigned, hassigned, rfl⟩⟩
  have hne : (config.model.defaults env.now).pick
      (config.model.fields.filter fun name => !given.contains name) ≠ [] := by
    obtain ⟨name, hname, hnot, hcontains⟩ := hdefault
    have hungiven : (!given.contains name) = true := by
      rw [hnot]
      rfl
    exact Dict.pick_ne_nil_iff.mpr ⟨name, List.mem_filter.mpr ⟨hname, hungiven⟩, hcontains⟩
  have hrest : ∀ item ∈ (config.model.defaults env.now).pick
      (config.model.fields.filter fun name => !given.contains name),
      item.1 ≠ "type" ∧ item.1 ≠ "connection_properties" := by
    intro item hitem
    have hnot := (List.mem_filter.mp (Dict.fst_mem_of_mem_pick hitem).1).2
    constructor <;> intro hname <;> rw [hname] at hnot
    · simp [Dict.contains, htype] at hnot
    · simp [Dict.contains, hproperties] at hnot
  rw [hset, ← fieldsAccept_constructorData_iff hconfig given]
  unfold constructorData
  rw [exists_setAttributes_iff hconfig hfields (fun _ h => by cases h) htype htaken hproperties hne
    hrest]
  constructor
  · exact fun h => h.2.2
  · exact fun h => ⟨fun _ => nofun, nofun, h⟩

end DbConnection.Compat
