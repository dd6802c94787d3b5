import DbConnection.Compat.LegacyRecords
import DbConnection.SqlUrls

/-!
# Legacy SQL properties as runtime properties

`SqlConnectionProperties` and the runtime models of the SQL types declare the same fields, the legacy
model with bounds on some texts and with `None` for the switches. `lookup_runtimeSql` is the agreement:
where a runtime model accepts the values of a legacy one, it has the same values.
-/

namespace DbConnection.Compat

open PyData Pydantic

/-- The fields of the runtime models have plain types, no aliases and no validators. -/
theorem sqlFields_plain : ∀ field ∈ sqlFields,
    field.type.isPlain = true ∧ field.validationAlias = none ∧ field.NoValidators := by
  have hof : ∀ (name : String) (type : FieldType) (default : Option Json), type.isPlain = true →
      (Field.of name type default).type.isPlain = true ∧
        (Field.of name type default).validationAlias = none ∧
          (Field.of name type default).NoValidators :=
    fun name type default hp => ⟨hp, rfl, Field.noValidators name type default⟩
  simp only [sqlFields, sqlOptionFields, List.cons_append, List.nil_append, List.forall_mem_cons]
  exact ⟨hof _ _ _ rfl, hof _ _ _ rfl, hof _ _ _ rfl, hof _ _ _ rfl, hof _ _ _ rfl, hof _ _ _ rfl,
    hof _ _ _ rfl, hof _ _ _ rfl, hof _ _ _ rfl, hof _ _ _ rfl,
    fun _ h => absurd h List.not_mem_nil⟩

/-- Legacy properties have a value for each field of the runtime models, which the field's type fixes
unless it is the `None` of a switch. -/
theorem sqlFields_fixes {payload : Json} {v : Instance}
    (hv : sqlConnectionProperties.validate payload = .ok v) :
    ∀ field ∈ sqlFields, ∃ u, v.dump.lookup field.name = some u ∧
      (field.type.Fixes u ∨ u = .null ∧ field.name ∈ ["secure", "verify"]) := by
  have hfixes := sqlConnectionProperties_fixes hv
  simp only [List.forall_mem_cons] at hfixes
  obtain ⟨host, port, username, -, database, secure, connect, sendReceive, syncRequest, ca, verify,
    -, -⟩ := hfixes
  have hsame : ∀ {name : String} {type : FieldType},
      (∃ u, v.dump.lookup name = some u ∧ type.Fixes u) →
        ∃ u, v.dump.lookup name = some u ∧
          (type.Fixes u ∨ u = .null ∧ name ∈ ["secure", "verify"]) :=
    fun ⟨u, hu, h⟩ => ⟨u, hu, Or.inl h⟩
  have hswitch : ∀ {name : String}, name ∈ ["secure", "verify"] →
      (∃ u, v.dump.lookup name = some u ∧ (FieldType.nullable .bool).Fixes u) →
        ∃ u, v.dump.lookup name = some u ∧
          (FieldType.bool.Fixes u ∨ u = .null ∧ name ∈ ["secure", "verify"]) :=
    fun hname ⟨u, hu, h⟩ =>
      ⟨u, hu, (FieldType.fixes_nullable_iff.mp h).symm.imp_right fun hnull => ⟨hnull, hname⟩⟩
  simp only [sqlFields, sqlOptionFields, List.cons_append, List.nil_append, List.forall_mem_cons]
  exact ⟨hsame host, hsame port, hsame username, hsame database, hswitch (by decide) secure,
    hsame connect, hsame sendReceive, hsame syncRequest, hsame ca, hswitch (by decide) verify,
    fun _ h => absurd h List.not_mem_nil⟩

/-- The payload gives the runtime fields of legacy properties. -/
def GivesFields (payload values : Dict Json) : Prop :=
  ∀ field ∈ sqlFields, payload.lookup field.name = values.lookup field.name

/-- The properties have the runtime fields of legacy properties, with values of their types. -/
def SharesFields (props values : Dict Json) : Prop :=
  ∀ field ∈ sqlFields, ∃ u, props.lookup field.name = some u ∧
    values.lookup field.name = some u ∧ field.type.Fixes u

/-- A model with the runtime fields has the values of the legacy properties that it accepts. -/
theorem lookup_sqlFields {mro : List ClassRef} {extra : Extra} (hextra : extra ≠ .allow)
    {legacyPayload : Json} {v : Instance}
    (hv : sqlConnectionProperties.validate legacyPayload = .ok v) {payload : Dict Json}
    (hgives : GivesFields payload v.dump) {r : Instance}
    (hr : (ModelClass.ofDecl (.ofFields mro sqlFields extra)).validate (.obj payload) = .ok r) :
    SharesFields r.dump v.dump := by
  have hnames : (sqlFields.map Field.name).Nodup := by decide
  intro field hf
  obtain ⟨hp, halias, hvalidators⟩ := sqlFields_plain field hf
  obtain ⟨u, hu, hfixes⟩ := sqlFields_fixes hv field hf
  obtain ⟨w, hw, hread⟩ := ModelDecl.reads_of_validate hextra hnames (fun _ => rfl) hr hf
  have hgiven : field.given payload = some u := by
    unfold Field.given
    rw [halias, hgives field hf, hu]
    rfl
  rw [hgiven, hvalidators.reads_some_iff hp] at hread
  have hsame : w = u := by
    rcases hfixes with hfixes | ⟨rfl, -⟩
    · exact hfixes.eq_of_readJson hread
    · exact FieldType.eq_null_of_readJson hp hread
  rw [hsame] at hw hread
  exact ⟨u, hw, hu, hread⟩

/-- The runtime fields of legacy properties are not among those that are popped off them. -/
theorem givesFields_pop (values : Dict Json) :
    GivesFields ((values.pop "driver_name").pop "password") values := by
  intro field hf
  have hne : field.name ≠ "driver_name" ∧ field.name ≠ "password" := by
    revert field
    decide
  unfold Dict.pop
  rw [Dict.lookup_filter_key fun item => item != "password",
    Dict.lookup_filter_key fun item => item != "driver_name"]
  simp [hne.1, hne.2]

/-- The properties model of an SQL type. -/
theorem propertiesModel_of_sql {host : Host} {spec : TypeSpec} (hspec : spec ∈ defaultTypes host)
    (hsql : spec.name ∈ sqlTypes) :
    spec.propertiesModel = sqlProperties ∨ spec.propertiesModel = mssqlProperties := by
  simp only [defaultTypes, List.mem_cons, List.not_mem_nil, or_false] at hspec
  rcases hspec with rfl | rfl | rfl | rfl | rfl | rfl | rfl | rfl | rfl | rfl <;>
    first
      | exact Or.inl rfl
      | exact Or.inr rfl
      | exact absurd hsql (of_decide_eq_true rfl)

/-- A runtime model of an SQL type has the values of the legacy properties that it accepts. -/
theorem lookup_runtimeSql {host : Host} {spec : TypeSpec} (hspec : spec ∈ defaultTypes host)
    (hsql : spec.name ∈ sqlTypes) {legacyPayload : Json} {v : Instance}
    (hv : sqlConnectionProperties.validate legacyPayload = .ok v) {payload : Dict Json}
    (hgives : GivesFields payload v.dump) {r : Instance}
    (hr : spec.propertiesModel.validate (.obj payload) = .ok r) : SharesFields r.dump v.dump := by
  rcases propertiesModel_of_sql hspec hsql with hmodel | hmodel
  · rw [hmodel] at hr
    exact lookup_sqlFields (by decide) hv hgives hr
  · rw [hmodel] at hr
    obtain ⟨p, hp, rfl⟩ := mssqlProperties_validate_iff.mp hr
    rcases exists_of_unionParse hp with hroot | hroot
    · have hroot := ModelClass.validate_eq_ok_iff.mpr ⟨p, hroot, rfl⟩
      intro field hf
      exact lookup_sqlFields (by decide) hv hgives hroot field hf
    · -- A named instance has no port.
      have hroot := ModelClass.validate_eq_ok_iff.mpr ⟨p, hroot, rfl⟩
      have hport : "port" ∈ payload.map Prod.fst := by
        obtain ⟨u, hu, -⟩ := sqlFields_fixes hv (.required "port" .int) (by simp [sqlFields])
        have hgiven := hgives (.required "port" .int) (by simp [sqlFields])
        rw [hu] at hgiven
        exact Dict.contains_iff_mem.mp (Option.isSome_iff_exists.mpr ⟨u, hgiven⟩)
      exact absurd hroot (ModelDecl.not_validate_of_key rfl (by decide) hport (by decide) _)

/-- A model with the runtime fields accepts the values of legacy properties whose switches are not
`None`. -/
theorem exists_sqlFields {mro : List ClassRef} {extra : Extra} (hextra : extra ≠ .allow)
    {legacyPayload : Json} {v : Instance}
    (hv : sqlConnectionProperties.validate legacyPayload = .ok v) {payload : Dict Json}
    (hgives : GivesFields payload v.dump)
    (hnoExtra : (ModelDecl.ofFields mro sqlFields extra).extraErrors (toFieldInputs payload) = [])
    (hsecure : v.dump.lookup "secure" ≠ some .null)
    (hverify : v.dump.lookup "verify" ≠ some .null) :
    ∃ r, (ModelClass.ofDecl (.ofFields mro sqlFields extra)).validate (.obj payload) = .ok r ∧
      ∀ key ∈ sqlFields.map Field.name, r.dump.lookup key = some (attr v.dump key) := by
  have hnames : (sqlFields.map Field.name).Nodup := by decide
  refine ModelDecl.exists_validate_of_reads hextra hnames (fun _ => rfl) (attr v.dump) hnoExtra ?_
  intro field hf soFar
  obtain ⟨hp, halias, hvalidators⟩ := sqlFields_plain field hf
  obtain ⟨u, hu, hfixes⟩ := sqlFields_fixes hv field hf
  have hgiven : field.given payload = some u := by
    unfold Field.given
    rw [halias, hgives field hf, hu]
    rfl
  have hattr : attr v.dump field.name = u := by
    unfold attr
    rw [hu]
    rfl
  rw [hgiven, hattr]
  refine hvalidators.reads_of_fixes hp ?_
  rcases hfixes with hfixes | ⟨rfl, hname⟩
  · exact hfixes
  · simp only [List.mem_cons, List.not_mem_nil, or_false] at hname
    rcases hname with hname | hname
    · exact absurd (hname ▸ hu) hsecure
    · exact absurd (hname ▸ hu) hverify

/-- Popping a key off a record pops it off the keys. -/
theorem map_fst_pop (values : Dict Json) (key : String) :
    (values.pop key).map Prod.fst = (values.map Prod.fst).filter fun k => k != key := by
  rw [List.filter_map]
  rfl

/-- The keys of legacy properties but the password and the driver's name are those of the runtime
fields. -/
theorem keys_pop {payload : Json} {v : Instance}
    (hv : sqlConnectionProperties.validate payload = .ok v) :
    ((v.dump.pop "driver_name").pop "password").map Prod.fst = sqlFields.map Field.name := by
  rw [map_fst_pop, map_fst_pop, sqlConnectionProperties_keys hv]
  decide

/-- The runtime model of an SQL type accepts legacy properties whose switches are not `None`. -/
theorem exists_runtimeSql {host : Host} {spec : TypeSpec} (hspec : spec ∈ defaultTypes host)
    (hsql : spec.name ∈ sqlTypes) {legacyPayload : Json} {v : Instance}
    (hv : sqlConnectionProperties.validate legacyPayload = .ok v)
    (hsecure : v.dump.lookup "secure" ≠ some .null)
    (hverify : v.dump.lookup "verify" ≠ some .null) :
    ∃ r, spec.propertiesModel.validate (.obj ((v.dump.pop "driver_name").pop "password")) = .ok r ∧
      ∀ key ∈ sqlFields.map Field.name, r.dump.lookup key = some (attr v.dump key) := by
  have hgives := givesFields_pop v.dump
  rcases propertiesModel_of_sql hspec hsql with hmodel | hmodel
  · rw [hmodel]
    exact exists_sqlFields (by decide) hv hgives rfl hsecure hverify
  · rw [hmodel]
    have htcp : ∃ r, mssqlTcpProperties.validate
          (.obj ((v.dump.pop "driver_name").pop "password")) = .ok r ∧
        ∀ key ∈ sqlFields.map Field.name, r.dump.lookup key = some (attr v.dump key) :=
      exists_sqlFields (by decide) hv hgives
        (ModelDecl.extraErrors_record (by decide) (keys_pop hv)) hsecure hverify
    obtain ⟨r, hr, hlookup⟩ := htcp
    obtain ⟨p, hp, rfl⟩ := ModelClass.validate_eq_ok_iff.mp hr
    -- A named instance has no port.
    have hport : "port" ∈ ((v.dump.pop "driver_name").pop "password").map Prod.fst := by
      rw [keys_pop hv]
      decide
    have hrefused : ∀ w, mssqlNamedInstanceProperties.validate
        (.obj ((v.dump.pop "driver_name").pop "password")) ≠ .ok w :=
      ModelDecl.not_validate_of_key rfl (by decide) hport (by decide)
    refine ⟨{ p.value with mro := mssqlMro }, ?_, hlookup⟩
    exact mssqlProperties_validate_iff.mpr ⟨p, unionParse_pair mssqlTcpProperties_quiet
      mssqlNamedInstanceProperties_quiet (Or.inl ⟨hp, hrefused⟩), rfl⟩

/-! ## The ODBC driver of MSSQL -/

/-- The driver options made of a name have that name. -/
theorem odbcDriverOptions_of_name {name : String} {options : Instance}
    (h : odbcDriverOptions.validate (.obj [("odbc_driver_name", .str name)]) = .ok options) :
    requireMssqlDriverOptions (some options) = .ok options ∧
      attr options.dump "odbc_driver_name" = .str name := by
  have hmem : odbcDriverOptions.ref ∈ odbcDriverOptions.mro := by decide
  refine ⟨if_pos (ModelClass.isInstance_of_validate h hmem), ?_⟩
  let field : Field :=
    { Field.required "odbc_driver_name" .str with validationAlias := some "driver_name" }
  obtain ⟨w, hw, hread⟩ := ModelDecl.reads_of_validate (by decide) (by decide) (fun _ => rfl) h
    (List.mem_singleton_self field)
  have hvalidators : field.NoValidators := ⟨fun _ => rfl, fun _ _ => rfl⟩
  have hread := (hvalidators.reads_some_iff rfl).mp hread
  cases hread
  have hw : options.dump.lookup "odbc_driver_name" = some (.str name) := hw
  unfold attr
  rw [hw]
  rfl

/-- Options are made of any name of a driver. -/
theorem exists_odbcDriverOptions (name : String) :
    ∃ options,
      odbcDriverOptions.validate (.obj [("odbc_driver_name", .str name)]) = .ok options := by
  let field : Field :=
    { Field.required "odbc_driver_name" .str with validationAlias := some "driver_name" }
  have hvalidators : field.NoValidators := ⟨fun _ => rfl, fun _ _ => rfl⟩
  have hreads : ∀ f ∈ [field], ∀ soFar,
      f.Reads soFar (f.given [("odbc_driver_name", .str name)]) (.str name) := by
    rw [List.forall_mem_singleton]
    exact fun soFar => hvalidators.reads_of_fixes rfl rfl
  have haccept : ∃ options, odbcDriverOptions.validate (.obj [("odbc_driver_name", .str name)]) =
      .ok options ∧ ∀ key ∈ [field].map Field.name, options.dump.lookup key = some (.str name) :=
    ModelDecl.exists_validate_of_reads (by decide) (by decide) (fun _ => rfl) (fun _ => .str name)
      rfl hreads
  obtain ⟨options, hoptions, -⟩ := haccept
  exact ⟨options, hoptions⟩

end DbConnection.Compat
