import DbConnection.Compat.Isolation

/-!
# Loads and flushes, column by column

What a load and a flush do to each column of a row whose columns are the fields of the model
(`HasColumns`). Only the properties are transformed on their way into the table and out of it; every
other column holds the plain value of its attribute.
-/

namespace DbConnection.Compat

open PyData Pydantic OwnedTable

/-! ## Rows and attributes with the columns of the model -/

/-- The keys are the fields of the model. -/
def HasColumns {α : Type} (config : ExtensionConfig) (d : Dict α) : Prop :=
  d.map Prod.fst = config.model.fields

/-- A plain value. -/
def AttributeValue.plain? : AttributeValue → Option Json
  | .json value => some value
  | .model _ => none

/-- The primary key that attributes give. -/
def attributeKey (config : ExtensionConfig) (attributes : Dict AttributeValue) :
    List (Option Json) :=
  config.model.pks.map fun name => (attributes.lookup name).bind AttributeValue.plain?

/-- The attributes give each column of the primary key. -/
def FullKey (config : ExtensionConfig) (attributes : Dict AttributeValue) : Prop :=
  ∀ name ∈ config.model.pks, ∃ value, value ≠ .null ∧ attributes.lookup name = some (.json value)

/-- The fields of the application's model have distinct names, among them those of the primary key,
which the properties are not part of. -/
structure HasKey (config : ExtensionConfig) : Prop where
  fields_nodup : config.model.fields.Nodup
  pks_fields : ∀ name ∈ config.model.pks, name ∈ config.model.fields
  properties_not_key : "connection_properties" ∉ config.model.pks

variable {config : ExtensionConfig} {env : RequestEnv} {name : String} {row : TableRow}
  {attributes : Dict AttributeValue} {object : ConnectionObject}

/-- A row with the columns of the model has each of them. -/
theorem HasColumns.exists_lookup {α : Type} {d : Dict α} (h : HasColumns config d)
    (hname : name ∈ config.model.fields) : ∃ value, d.lookup name = some value :=
  Dict.exists_lookup_of_mem_keys (h ▸ hname)

/-- A row has the key that attributes give when it has their values. -/
theorem key_eq_attributeKey (hkey : FullKey config attributes)
    (h : ∀ name ∈ config.model.pks, ∀ value, attributes.lookup name = some (.json value) →
      row.lookup name = some value) : config.model.key row = attributeKey config attributes := by
  refine List.map_congr_left fun name hname => ?_
  obtain ⟨value, -, hvalue⟩ := hkey name hname
  rw [h name hname value hvalue, hvalue]
  rfl

/-- A row with the key that attributes give has their values. -/
theorem lookup_of_key_eq (h : config.model.key row = attributeKey config attributes)
    (hname : name ∈ config.model.pks) {value : Json}
    (hvalue : attributes.lookup name = some (.json value)) : row.lookup name = some value := by
  have heq := List.map_inj_left.mp h name hname
  rw [heq, hvalue]
  rfl

/-! ## Columns -/

/-- A column other than the properties is written from a plain value. -/
theorem bindColumn_eq_ok_iff (hname : name ≠ "connection_properties") {value : AttributeValue}
    {stored : Json} : bindColumn config env name value = .ok stored ↔ value = .json stored := by
  unfold bindColumn
  rw [if_neg hname]
  cases value <;> simp

/-- A column other than the properties is read as it is. -/
theorem resultColumn_eq (hname : name ≠ "connection_properties") (stored : Json) :
    resultColumn config name stored = .ok (.json stored) := if_neg hname

/-- The attributes of a loaded row. -/
theorem loadObject_spec (hconfig : HasKey config) (hrow : HasColumns config row)
    (h : loadObject config row = .ok object) : HasColumns config object.attributes ∧
      ∀ name stored, row.lookup name = some stored → ∃ value,
        resultColumn config name stored = .ok value ∧
          object.attributes.lookup name = some value := by
  obtain ⟨attributes, hattributes, h⟩ := bind_eq_ok_iff.mp h
  cases h
  have hnodup : (row.map Prod.fst).Nodup := hrow ▸ hconfig.fields_nodup
  refine ⟨(keys_of_mapM_pairs hattributes).trans hrow, fun name stored hstored => ?_⟩
  exact lookup_of_mapM_items hnodup hattributes hstored

/-- A row is loaded when its properties are. -/
theorem exists_loadObject_iff (hconfig : HasKey config) (hrow : HasColumns config row) :
    (∃ object, loadObject config row = .ok object) ↔
      ∀ stored, row.lookup "connection_properties" = some stored →
        ∃ value, resultColumn config "connection_properties" stored = .ok value := by
  have hnodup : (row.map Prod.fst).Nodup := hrow ▸ hconfig.fields_nodup
  constructor
  · rintro ⟨object, h⟩ stored hstored
    obtain ⟨value, hvalue, -⟩ := (loadObject_spec hconfig hrow h).2 _ stored hstored
    exact ⟨value, hvalue⟩
  · intro h
    have hcolumns : ∀ item ∈ row, ∃ value, resultColumn config item.1 item.2 = .ok value := by
      rintro ⟨name, stored⟩ hitem
      by_cases hname : name = "connection_properties"
      · subst hname
        exact h stored (Dict.lookup_of_mem hnodup hitem)
      · exact ⟨_, resultColumn_eq hname stored⟩
    obtain ⟨attributes, hattributes⟩ := exists_mapM_pairs_iff.mpr hcolumns
    exact ⟨⟨row, attributes⟩, bind_eq_ok_iff.mpr ⟨attributes, hattributes, rfl⟩⟩

/-! ## Flushes -/

variable {table table' : Table config.model.key}

/-- A row that was flushed as a new object has the columns of the model. -/
theorem hasColumns_of_flushInsert (hattributes : HasColumns config attributes)
    (h : flushInsert config env table attributes = .ok (row, table')) : HasColumns config row := by
  obtain ⟨columns, hcolumns, h⟩ := bind_eq_ok_iff.mp h
  obtain ⟨-, -, h⟩ := bind_eq_ok_iff.mp h
  split at h
  · cases h
  rw [← (Prod.mk.inj (Except.ok.inj h)).1]
  refine Eq.trans ?_ ((keys_of_mapM_pairs hcolumns).trans hattributes)
  rw [List.map_map]
  refine List.map_congr_left fun item _ => ?_
  rw [Function.comp_apply]
  split <;> rfl

/-- The columns of a row that was flushed as a new object, from its attributes. -/
theorem flushInsert_spec (hconfig : HasKey config) (hattributes : HasColumns config attributes)
    (hkey : FullKey config attributes)
    (h : flushInsert config env table attributes = .ok (row, table')) :
    ∀ name value, attributes.lookup name = some value → ∃ stored,
      bindColumn config env name value = .ok stored ∧ row.lookup name = some stored := by
  obtain ⟨columns, hcolumns, h⟩ := bind_eq_ok_iff.mp h
  obtain ⟨-, -, h⟩ := bind_eq_ok_iff.mp h
  split at h
  · cases h
  rename_i inserted hinserted
  have hrow := (Prod.mk.inj (Except.ok.inj h)).1
  have hnodup : (attributes.map Prod.fst).Nodup := hattributes ▸ hconfig.fields_nodup
  have hlookup : ∀ name value, attributes.lookup name = some value → ∃ stored,
      bindColumn config env name value = .ok stored ∧ columns.lookup name = some stored :=
    fun name value hvalue => lookup_of_mapM_items hnodup hcolumns hvalue
  have hkeys := keys_of_mapM_pairs hcolumns
  -- The key is given, so no column of it is generated.
  have hsame : row = columns := by
    rw [← hrow]
    refine (List.map_congr_left fun item hitem => ?_).trans (List.map_id columns)
    rw [if_neg]
    · rfl
    simp only [Bool.and_eq_true, List.contains_iff_mem, beq_iff_eq, not_and]
    intro hpk hnull
    obtain ⟨value, hnotNull, hvalue⟩ := hkey item.1 hpk
    obtain ⟨stored, hstored, hcolumn⟩ := hlookup item.1 _ hvalue
    have hname : item.1 ≠ "connection_properties" :=
      fun hname => hconfig.properties_not_key (hname ▸ hpk)
    have hstored := (bindColumn_eq_ok_iff hname).mp hstored
    have hitem : columns.lookup item.1 = some item.2 :=
      Dict.lookup_of_mem (hkeys ▸ hnodup) hitem
    rw [hcolumn, hnull, Option.some.injEq] at hitem
    rw [hitem] at hstored
    exact hnotNull (AttributeValue.json.inj hstored)
  rw [hsame]
  exact hlookup

/-- The row of a new object has the key that its attributes give. -/
theorem key_of_flushInsert (hconfig : HasKey config) (hattributes : HasColumns config attributes)
    (hkey : FullKey config attributes)
    (h : flushInsert config env table attributes = .ok (row, table')) :
    config.model.key row = attributeKey config attributes := by
  refine key_eq_attributeKey hkey fun name hname value hvalue => ?_
  obtain ⟨stored, hstored, hrow⟩ :=
    flushInsert_spec hconfig hattributes hkey h name _ hvalue
  have hne : name ≠ "connection_properties" := fun he => hconfig.properties_not_key (he ▸ hname)
  rw [hrow, AttributeValue.json.inj ((bindColumn_eq_ok_iff hne).mp hstored)]

/-- On a database whose only constraint is the primary key, a new object is flushed when its columns
can be written and no row has its key. -/
theorem exists_flushInsert (hconfig : HasKey config)
    (honly : ∀ rows row, config.model.constraints rows row = .ok ())
    (hattributes : HasColumns config attributes) (hkey : FullKey config attributes)
    (hbind : ∀ name value, attributes.lookup name = some value →
      ∃ stored, bindColumn config env name value = .ok stored)
    (hnew : ∀ r ∈ table.rows, config.model.key r ≠ attributeKey config attributes) :
    ∃ row table', flushInsert config env table attributes = .ok (row, table') := by
  have hnodup : (attributes.map Prod.fst).Nodup := hattributes ▸ hconfig.fields_nodup
  obtain ⟨columns, hcolumns⟩ := exists_mapM_pairs_iff.mpr fun item (hitem : item ∈ attributes) =>
    hbind item.1 item.2 (Dict.lookup_of_mem hnodup hitem)
  obtain ⟨row, hrowEq⟩ : ∃ row, row = columns.map fun item =>
    if config.model.pks.contains item.1 && item.2 == .null then
      (item.1, (env.generated.lookup item.1).getD .null)
    else item := ⟨_, rfl⟩
  have hflush : ∀ before after : Table config.model.key, before.insert row = some after →
      flushInsert config env before attributes = .ok (row, after) := by
    intro before after hinsert
    unfold flushInsert
    rw [hcolumns, ok_bind]
    dsimp only
    rw [honly, ok_bind, ← hrowEq, hinsert]
    rfl
  -- The flush of the object into an empty table says which key the row has.
  obtain ⟨alone, halone⟩ :=
    Table.exists_insert (⟨[], List.nodup_nil⟩ : Table config.model.key) row
      fun r hr => absurd hr List.not_mem_nil
  have hrow : config.model.key row = attributeKey config attributes :=
    key_of_flushInsert hconfig hattributes hkey (hflush _ alone halone)
  obtain ⟨table', hinsert⟩ := Table.exists_insert table row fun r hr => hrow ▸ hnew r hr
  exact ⟨row, table', hflush table table' hinsert⟩

/-- A row that was flushed as a change of a loaded object has the columns of the model. -/
theorem hasColumns_of_flushUpdate (hrow : HasColumns config object.row)
    (hattributes : HasColumns config attributes)
    (h : flushUpdate config env table object attributes = .ok (row, table')) :
    HasColumns config row := by
  obtain ⟨columns, hcolumns, h⟩ := bind_eq_ok_iff.mp h
  obtain ⟨-, -, h⟩ := bind_eq_ok_iff.mp h
  split at h
  · cases h
  rw [← (Prod.mk.inj (Except.ok.inj h)).1]
  refine (Dict.keys_update_of_subset fun key hkey => ?_).trans hrow
  rw [keys_of_mapM_pairs hcolumns] at hkey
  obtain ⟨item, hitem, rfl⟩ := List.mem_map.mp hkey
  rw [hrow, ← hattributes]
  exact List.mem_map_of_mem (List.mem_filter.mp hitem).1

/-- The columns of a row that was flushed as a change of a loaded object: those whose attributes did
not change are as they were, and the others are written. -/
theorem flushUpdate_spec (hconfig : HasKey config) (hattributes : HasColumns config attributes)
    (h : flushUpdate config env table object attributes = .ok (row, table')) :
    ∀ name value, attributes.lookup name = some value →
      (object.attributes.lookup name = some value → row.lookup name = object.row.lookup name) ∧
      (object.attributes.lookup name ≠ some value → ∃ stored,
        bindColumn config env name value = .ok stored ∧ row.lookup name = some stored) := by
  obtain ⟨columns, hcolumns, h⟩ := bind_eq_ok_iff.mp h
  obtain ⟨-, -, h⟩ := bind_eq_ok_iff.mp h
  split at h
  · cases h
  have hrowEq := (Prod.mk.inj (Except.ok.inj h)).1
  subst hrowEq
  have hnodup : (attributes.map Prod.fst).Nodup := hattributes ▸ hconfig.fields_nodup
  let changed := attributes.filter fun item => object.attributes.lookup item.1 != some item.2
  have hchanged : (changed.map Prod.fst).Nodup := hnodup.sublist (List.filter_sublist.map Prod.fst)
  have hkeys : columns.map Prod.fst = changed.map Prod.fst := keys_of_mapM_pairs hcolumns
  refine fun name value hvalue => ⟨fun hsame => ?_, fun hdiffers => ?_⟩
  · have hnone : changed.lookup name = none := by
      rw [Option.eq_none_iff_forall_ne_some]
      intro other hother
      obtain ⟨hmem, hne⟩ := List.mem_filter.mp (Dict.mem_of_lookup hother)
      rw [Dict.lookup_of_mem hnodup hmem, Option.some.injEq] at hvalue
      rw [hvalue, hsame] at hne
      exact absurd hne (by simp)
    rw [Dict.lookup_update, Dict.lookup_eq_none_of_keys hkeys hnone, Option.none_or]
  · have hmem : (name, value) ∈ changed :=
      List.mem_filter.mpr ⟨Dict.mem_of_lookup hvalue, by simpa using hdiffers⟩
    obtain ⟨stored, hstored, hlookup⟩ :=
      lookup_of_mapM_items hchanged hcolumns (Dict.lookup_of_mem hchanged hmem)
    refine ⟨stored, hstored, ?_⟩
    rw [Dict.lookup_update, hlookup, Option.some_or]

/-- A column other than the properties is afterwards the plain value of its attribute. -/
theorem lookup_of_flushUpdate (hconfig : HasKey config) (hrow : HasColumns config object.row)
    (hload : loadObject config object.row = .ok object) (hattributes : HasColumns config attributes)
    (h : flushUpdate config env table object attributes = .ok (row, table'))
    (hname : name ≠ "connection_properties") {value : Json}
    (hvalue : attributes.lookup name = some (.json value)) : row.lookup name = some value := by
  obtain ⟨hkept, hwritten⟩ := flushUpdate_spec hconfig hattributes h name _ hvalue
  by_cases hloaded : object.attributes.lookup name = some (.json value)
  · have hmem : name ∈ config.model.fields := by
      rw [← hattributes]
      exact List.mem_map_of_mem (Dict.mem_of_lookup hvalue)
    obtain ⟨stored, hstored⟩ := hrow.exists_lookup hmem
    obtain ⟨_, hread, hsame⟩ := (loadObject_spec hconfig hrow hload).2 name stored hstored
    rw [resultColumn_eq hname] at hread
    rw [hloaded, ← Except.ok.inj hread, Option.some.injEq] at hsame
    rw [hkept hloaded, hstored, AttributeValue.json.inj hsame]
  · obtain ⟨stored, hstored, hlookup⟩ := hwritten hloaded
    rw [hlookup, AttributeValue.json.inj ((bindColumn_eq_ok_iff hname).mp hstored)]

/-- A flushed change whose attributes give the key of the loaded row keeps the key. -/
theorem key_of_flushUpdate (hconfig : HasKey config) (hrow : HasColumns config object.row)
    (hload : loadObject config object.row = .ok object) (hattributes : HasColumns config attributes)
    (hkey : FullKey config attributes)
    (hsame : config.model.key object.row = attributeKey config attributes)
    (h : flushUpdate config env table object attributes = .ok (row, table')) :
    config.model.key row = config.model.key object.row := by
  rw [hsame]
  refine key_eq_attributeKey hkey fun name hname value hvalue => ?_
  have hne : name ≠ "connection_properties" := fun he => hconfig.properties_not_key (he ▸ hname)
  exact lookup_of_flushUpdate hconfig hrow hload hattributes h hne hvalue

/-- On a database whose only constraint is the primary key, a change that keeps the key is flushed
when the columns that change can be written. -/
theorem exists_flushUpdate (hconfig : HasKey config)
    (honly : ∀ rows row, config.model.constraints rows row = .ok ())
    (hrow : HasColumns config object.row) (hload : loadObject config object.row = .ok object)
    (hattributes : HasColumns config attributes) (hkey : FullKey config attributes)
    (hsame : config.model.key object.row = attributeKey config attributes)
    (hbind : ∀ name value, attributes.lookup name = some value →
      object.attributes.lookup name ≠ some value →
        ∃ stored, bindColumn config env name value = .ok stored) :
    ∃ row table', flushUpdate config env table object attributes = .ok (row, table') := by
  have hnodup : (attributes.map Prod.fst).Nodup := hattributes ▸ hconfig.fields_nodup
  obtain ⟨columns, hcolumns⟩ := exists_mapM_pairs_iff.mpr
    fun item (hitem : item ∈ attributes.filter fun item =>
        object.attributes.lookup item.1 != some item.2) => by
      obtain ⟨hmem, hchanged⟩ := List.mem_filter.mp hitem
      exact hbind item.1 item.2 (Dict.lookup_of_mem hnodup hmem) (by simpa using hchanged)
  have hflush : ∀ before after : Table config.model.key,
      before.replace (config.model.key object.row) (object.row.update columns) = some after →
      flushUpdate config env before object attributes =
        .ok (object.row.update columns, after) := by
    intro before after hreplace
    unfold flushUpdate
    dsimp only
    rw [hcolumns, ok_bind, honly, ok_bind, hreplace]
    rfl
  -- The flush into an empty table says that the row keeps the key.
  have hkept : config.model.key (object.row.update columns) = config.model.key object.row := by
    have hempty : ∃ after, (⟨[], List.nodup_nil⟩ : Table config.model.key).replace
        (config.model.key object.row) (object.row.update columns) = some after :=
      ⟨_, dif_neg fun h => absurd h.choose_spec.1 List.not_mem_nil⟩
    obtain ⟨alone, halone⟩ := hempty
    exact key_of_flushUpdate hconfig hrow hload hattributes hkey hsame (hflush _ alone halone)
  obtain ⟨table', hreplace⟩ := Table.exists_replace table (object.row.update columns)
  rw [hkept] at hreplace
  exact ⟨_, table', hflush table table' hreplace⟩

/-! ## The row with a key -/

/-- The conditions by which the row with the same primary key is selected. -/
theorem exists_conditions (env : RequestEnv) (hconfig : HasKey config)
    (hkey : FullKey config attributes) :
    ∃ conditions, (config.model.pks.mapM fun name => do
        let value ← bindColumn config env name ((attributes.lookup name).getD (.json .null))
        return (name, value)) = .ok conditions ∧
      ∀ row : TableRow, row.satisfies conditions = true ↔
        config.model.key row = attributeKey config attributes := by
  have hvalue : ∀ name ∈ config.model.pks, ∀ stored,
      bindColumn config env name ((attributes.lookup name).getD (.json .null)) = .ok stored →
        attributes.lookup name = some (.json stored) := by
    intro name hname stored hstored
    obtain ⟨value, -, hvalue⟩ := hkey name hname
    rw [hvalue, Option.getD_some] at hstored
    have hne : name ≠ "connection_properties" := fun he => hconfig.properties_not_key (he ▸ hname)
    rw [hvalue, ← (bindColumn_eq_ok_iff hne).mp hstored]
  have hbound : ∀ name ∈ config.model.pks, ∃ stored,
      bindColumn config env name ((attributes.lookup name).getD (.json .null)) = .ok stored := by
    intro name hname
    obtain ⟨value, -, hvalue⟩ := hkey name hname
    have hne : name ≠ "connection_properties" := fun he => hconfig.properties_not_key (he ▸ hname)
    rw [hvalue]
    exact ⟨value, (bindColumn_eq_ok_iff hne).mpr rfl⟩
  obtain ⟨conditions, hconditions⟩ := (exists_mapM_pairs_iff (k := id)).mpr hbound
  refine ⟨conditions, hconditions, fun row => ?_⟩
  unfold TableRow.satisfies
  rw [List.all_eq_true]
  constructor
  · intro h
    refine key_eq_attributeKey hkey fun name hname value hattribute => ?_
    obtain ⟨item, hitem, hbound⟩ := exists_mem_of_mapM hconditions hname
    obtain ⟨stored, hstored, hbound⟩ := bind_eq_ok_iff.mp hbound
    cases hbound
    have hsame := hvalue name hname stored hstored
    rw [hattribute, Option.some.injEq] at hsame
    rw [AttributeValue.json.inj hsame]
    simpa using h _ hitem
  · intro h item hitem
    obtain ⟨name, hname, hbound⟩ := exists_of_mem_mapM hconditions hitem
    obtain ⟨stored, hstored, hbound⟩ := bind_eq_ok_iff.mp hbound
    cases hbound
    simpa using lookup_of_key_eq h hname (hvalue name hname stored hstored)

/-- No row is found where none that is active has the key. -/
theorem findSamePk_eq_none (env : RequestEnv) (hconfig : HasKey config)
    (hkey : FullKey config attributes) {rows : List TableRow} (h : ∀ r ∈ rows,
      config.model.key r = attributeKey config attributes → r.isActive = false) :
    findSamePk config env rows attributes = .ok none := by
  obtain ⟨conditions, hconditions, hsatisfies⟩ := exists_conditions env hconfig hkey
  have hnone : rows.find? (fun row => row.isActive && row.satisfies conditions) = none := by
    rw [List.find?_eq_none]
    intro r hr hfound
    rw [Bool.and_eq_true, hsatisfies] at hfound
    rw [h r hr hfound.2] at hfound
    exact absurd hfound.1 Bool.false_ne_true
  unfold findSamePk selectFirst
  rw [hconditions, ok_bind, hnone]

/-- The active row with the key is the one that is found. -/
theorem findSamePk_eq_some (env : RequestEnv) (hconfig : HasKey config)
    (hkey : FullKey config attributes) (hrow : row ∈ table.rows) (hactive : row.isActive = true)
    (hsame : config.model.key row = attributeKey config attributes) :
    findSamePk config env table.rows attributes = do
      let object ← loadObject config row
      return some object := by
  obtain ⟨conditions, hconditions, hsatisfies⟩ := exists_conditions env hconfig hkey
  have hfound : table.rows.find? (fun row => row.isActive && row.satisfies conditions) =
      some row := by
    cases hfind : table.rows.find? (fun row => row.isActive && row.satisfies conditions) with
    | none =>
      rw [List.find?_eq_none] at hfind
      refine absurd ?_ (hfind row hrow)
      rw [Bool.and_eq_true, hsatisfies]
      exact ⟨hactive, hsame⟩
    | some found =>
      have hselected := List.find?_some hfind
      rw [Bool.and_eq_true, hsatisfies] at hselected
      rw [table.eq_of_key_eq (List.mem_of_find?_eq_some hfind) hrow
        (hselected.2.trans hsame.symm)]
  unfold findSamePk selectFirst
  rw [hconditions, ok_bind, hfound]

end DbConnection.Compat
