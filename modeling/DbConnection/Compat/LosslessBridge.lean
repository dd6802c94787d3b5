import DbConnection.Compat.BridgedProperties

/-!
# The bridge keeps legacy connections

`to_runtime_validated` splits the properties of a legacy connection and validates the parts by the
runtime's models. `Lossless` says what a connection keeps of the legacy one: each field that is no
secret among the properties, each secret among the secrets and nowhere else, and the driver that was
named. `bridge_lossless_iff` is the result: the bridge succeeds and is lossless exactly for the
properties that are `Transferable`.
-/

namespace DbConnection.Compat

open PyData Pydantic PyText

/-- The connection keeps the values of legacy properties. -/
structure Lossless (type : ConnectionType) (values : Dict Json) (c : ValidatedConnection) : Prop where
  /-- A field that is no secret has its value among the properties. -/
  properties : KeepsProperties type values c.properties.dump
  /-- A secret has its value among the secrets, and is not among the properties. -/
  secrets : ∀ key value, key ∈ secretKeys type → values.lookup key = some value → value ≠ .null →
    (∃ s, c.secrets = some s ∧ s.dump.lookup key = some value) ∧
      c.properties.dump.lookup key = none
  /-- A driver that is named is the driver, and for MSSQL the ODBC driver. -/
  driver : ∀ name, values.lookup "driver_name" = some (.str name) →
    if type = .mssql then
      ∃ options, c.driverOptions = some options ∧ attr options.dump "odbc_driver_name" = .str name
    else c.driver = some name

/-- What the bridge hands over but for the properties: the type, the driver and its options, and the
secrets are accepted. -/
structure Prepared (registry : ConnectionRegistry) (connection : DBConnection) (isAsync : Bool)
    (spec : TypeSpec) (data : ConnectionData) (options : Option Instance) (secrets : Instance) :
    Prop where
  backed : connection.type ∈ runtimeBackedTypes
  type : registry.getType connection.type.value = .ok spec
  split : splitConnectionData connection.type connection.connectionProperties.dump isAsync = .ok data
  driver : ∀ draft : ConnectionDraft, draft.driver = data.driver → checkDriver spec draft = .ok ()
  options : validateDriverOptions spec connection.type.value (effectiveDriver spec data.driver)
    (.ofOption data.driverOptions) = .ok options
  secrets : SecretsRead spec (.obj data.secrets) (some secrets)

section Prepared

variable {registry : ConnectionRegistry} {connection : DBConnection} {isAsync : Bool}
  {spec : TypeSpec} {data : ConnectionData} {options : Option Instance} {secrets : Instance}

/-- The connection that the bridge makes with properties. -/
def bridged (connection : DBConnection) (spec : TypeSpec) (data : ConnectionData)
    (options : Option Instance) (secrets properties : Instance) : ValidatedConnection where
  name := some connection.name
  kind := spec.kind
  type := connection.type.value
  driver := effectiveDriver spec data.driver
  driverOptions := options
  properties := properties
  secrets := some secrets
  labels := []
  metadata := []
  extra := []

/-- Secrets are read as one value. -/
theorem secretsRead_unique {payload : Json} {a b : Option Instance}
    (ha : SecretsRead spec payload a) (hb : SecretsRead spec payload b) : a = b := by
  unfold SecretsRead at ha hb
  cases hm : spec.secretsModel with
  | none =>
    rw [hm] at ha hb
    exact ha.trans hb.symm
  | some m =>
    rw [hm] at ha hb
    obtain ⟨s, hs, rfl⟩ := ha
    obtain ⟨t, ht, rfl⟩ := hb
    cases hs.symm.trans ht
    rfl

/-- The bridge makes a connection exactly when the runtime's model accepts the properties. -/
theorem Prepared.toRuntimeValidated_iff
    (h : Prepared registry connection isAsync spec data options secrets) {c : ValidatedConnection} :
    toRuntimeValidated registry connection isAsync = .ok c ↔
      ∃ r, spec.propertiesModel.validate (.obj data.properties) = .ok r ∧
        c = bridged connection spec data options secrets r := by
  have hbacked : runtimeBackedTypes.contains connection.type = true :=
    List.contains_iff_mem.mpr h.backed
  have hdraft : toRuntimeValidated registry connection isAsync =
      validate registry
        { name := some connection.name, kind := spec.kind, type := connection.type.value,
          driver := data.driver, driverOptions := .ofOption data.driverOptions,
          properties := some data.properties, secrets := some data.secrets, labels := some [],
          metadata := some [], extra := some [] } := by
    unfold toRuntimeValidated toRuntimeDraft
    rw [hbacked, h.type, h.split]
    rfl
  rw [hdraft, validate_eq_ok_iff]
  constructor
  · rintro ⟨spec', hvalidates⟩
    cases h.type.symm.trans hvalidates.type
    refine ⟨c.properties, hvalidates.properties, ?_⟩
    obtain ⟨-, -, -, -, hsecrets, hoptions, hlabels, hmetadata, hextra, hname, hkind, htype,
      hdriver⟩ := hvalidates
    have hsecrets := secretsRead_unique hsecrets h.secrets
    have hoptions := Except.ok.inj (h.options.symm.trans hoptions)
    have hlabels := Option.some.inj hlabels
    have hmetadata := Option.some.inj hmetadata
    have hextra := Option.some.inj hextra
    cases c
    simp only at hsecrets hoptions hlabels hmetadata hextra hname hkind htype hdriver
    rw [hsecrets, ← hoptions, ← hlabels, ← hmetadata, ← hextra, hname, hkind, htype, hdriver]
    rfl
  · rintro ⟨r, hr, rfl⟩
    exact ⟨spec, h.type, rfl, h.driver _ rfl, hr, h.secrets, h.options, rfl, rfl, rfl, rfl, rfl, rfl,
      rfl⟩

/-- What is left of losslessness once the other parts are kept: the properties. -/
theorem Prepared.lossless_iff
    (h : Prepared registry connection isAsync spec data options secrets) {values : Dict Json}
    (hsecrets : ∀ key value, key ∈ secretKeys connection.type → values.lookup key = some value →
      value ≠ .null → secrets.dump.lookup key = some value)
    (hprivate : ∀ r, spec.propertiesModel.validate (.obj data.properties) = .ok r →
      ∀ key ∈ secretKeys connection.type, r.dump.lookup key = none)
    (hdriver : ∀ name, values.lookup "driver_name" = some (.str name) →
      if connection.type = .mssql then
        ∃ o, options = some o ∧ attr o.dump "odbc_driver_name" = .str name
      else effectiveDriver spec data.driver = some name) :
    (∃ c, toRuntimeValidated registry connection isAsync = .ok c ∧
        Lossless connection.type values c) ↔
      ∃ r, spec.propertiesModel.validate (.obj data.properties) = .ok r ∧
        KeepsProperties connection.type values r.dump := by
  constructor
  · rintro ⟨c, hc, hlossless⟩
    obtain ⟨r, hr, rfl⟩ := h.toRuntimeValidated_iff.mp hc
    exact ⟨r, hr, hlossless.properties⟩
  · rintro ⟨r, hr, hkeeps⟩
    refine ⟨_, h.toRuntimeValidated_iff.mpr ⟨r, hr, rfl⟩, hkeeps, ?_, hdriver⟩
    intro key value hkey hvalue hne
    exact ⟨⟨secrets, rfl, hsecrets key value hkey hvalue hne⟩, hprivate r hr key hkey⟩

end Prepared

/-! ## Secrets -/

/-- A field of a secrets model reads a secret: `None` is left out of the secrets, and is the default. -/
theorem reads_secret {name : String} {type : FieldType} {default : Option Json}
    (hp : type.isPlain = true) {soFar payload values : Dict Json}
    (hgives : payload.lookup name = (values.lookup name).filter fun value => value ≠ .null)
    (hvalue : ∃ u, values.lookup name = some u ∧ type.Fixes u)
    (hdefault : values.lookup name = some .null → default = some .null) :
    (Field.of name type default).Reads soFar ((Field.of name type default).given payload)
      (attr values name) := by
  obtain ⟨u, hu, hfixes⟩ := hvalue
  have hgiven : (Field.of name type default).given payload = payload.lookup name := rfl
  rw [hgiven, hgives, hu, attr_of_lookup hu]
  by_cases hnull : u = .null
  · subst hnull
    exact hdefault hu
  · have hkept : (some u).filter (fun value => value ≠ Json.null) = some u := by
      simp [Option.filter, hnull]
    rw [hkept]
    exact (Field.noValidators name type default).reads_of_fixes hp hfixes

/-- The secrets have the values of legacy secrets that are not `None`. -/
def KeepsSecrets (type : ConnectionType) (values secrets : Dict Json) : Prop :=
  ∀ key value, key ∈ secretKeys type → values.lookup key = some value → value ≠ .null →
    secrets.lookup key = some value

/-- A secrets model that has the type's secrets as fields, each of which reads its value, keeps them. -/
theorem exists_secretsRead {type : ConnectionType} {spec : TypeSpec} {mro : List ClassRef}
    {fields : List Field}
    (hmodel : spec.secretsModel = some (.ofDecl (.ofFields mro fields .ignore)))
    (hkeys : fields.map Field.name = secretKeys type) (hnames : (fields.map Field.name).Nodup)
    {payload values : Dict Json}
    (hreads : ∀ field ∈ fields, ∀ soFar,
      field.Reads soFar (field.given payload) (attr values field.name)) :
    ∃ s, SecretsRead spec (.obj payload) (some s) ∧ KeepsSecrets type values s.dump := by
  have hallow : (ModelDecl.ofFields mro fields .ignore).extra ≠ .allow := by
    show Extra.ignore ≠ .allow
    decide
  have hforbid : (ModelDecl.ofFields mro fields .ignore).extra ≠ .forbid := by
    show Extra.ignore ≠ .forbid
    decide
  obtain ⟨s, hs, hlookup⟩ := ModelDecl.exists_validate_of_reads hallow hnames (fun _ => rfl)
    (attr values) (ModelDecl.extraErrors_of_not_forbid hforbid _) hreads
  refine ⟨s, ?_, ?_⟩
  · unfold SecretsRead
    rw [hmodel]
    exact ⟨s, hs, rfl⟩
  · intro key value hkey hvalue _
    rw [← hkeys] at hkey
    rw [hlookup key hkey, attr_of_lookup hvalue]

/-- The secrets model of each type keeps the secrets of legacy properties. -/
theorem exists_secrets {host : Host} {type : ConnectionType} {spec : TypeSpec}
    (hspec : (defaultRegistry host).getType type.value = .ok spec) {payload : Json} {v : Instance}
    (hv : (propertiesModel host type).validate payload = .ok v) {secrets : Dict Json}
    (hgives : ∀ key ∈ secretKeys type,
      secrets.lookup key = (v.dump.lookup key).filter fun value => value ≠ .null) :
    ∃ s, SecretsRead spec (.obj secrets) (some s) ∧ KeepsSecrets type v.dump s.dump := by
  have hof : ∀ {name : String} {soFar : Dict Json}, name ∈ secretKeys type →
      (∃ u, v.dump.lookup name = some u ∧ (FieldType.nullable .str).Fixes u) →
        (Field.optional name .str).Reads soFar ((Field.optional name .str).given secrets)
          (attr v.dump name) :=
    fun hname hvalue => reads_secret rfl (hgives _ hname) hvalue fun _ => rfl
  have hsql : sqlConnectionProperties.validate payload = .ok v →
      spec.secretsModel = some sqlSecrets → secretKeys type = ["password"] →
        ∃ s, SecretsRead spec (.obj secrets) (some s) ∧ KeepsSecrets type v.dump s.dump := by
    intro hv hmodel hkeys
    refine exists_secretsRead hmodel hkeys.symm (by decide) ?_
    rw [List.forall_mem_singleton]
    have hpassword := sqlConnectionProperties_fixes hv
      { Field.optional "password" .str with after := maxLength 2048 }
      (List.mem_of_getElem? (i := 3) rfl)
    exact fun soFar => hof (by rw [hkeys]; decide) hpassword
  cases type with
  | postgres => exact hsql hv (by cases hspec; rfl) rfl
  | mysql => exact hsql hv (by cases hspec; rfl) rfl
  | clickhouse => exact hsql hv (by cases hspec; rfl) rfl
  | mongodb => exact hsql hv (by cases hspec; rfl) rfl
  | mssql => exact hsql hv (by cases hspec; rfl) rfl
  | oracle => exact hsql hv (by cases hspec; rfl) rfl
  | kafka =>
    cases hspec
    refine exists_secretsRead rfl rfl (by decide) ?_
    rw [List.forall_mem_singleton]
    have hpassword := kafkaConnectionProperties_fixes hv
      (Field.optional "sasl_plain_password" .str) (List.mem_of_getElem? (i := 4) rfl)
    exact fun soFar => hof (by decide) hpassword
  | s3 =>
    cases hspec
    have hfixes := s3ConnectionProperties_fixes hv
    simp only [s3LegacyFields, List.forall_mem_cons] at hfixes
    obtain ⟨-, -, -, hid, hkey, htoken, -⟩ := hfixes
    have hrequired : ∀ {name : String} {soFar : Dict Json}, name ∈ secretKeys .s3 →
        (∃ u, v.dump.lookup name = some u ∧ FieldType.str.Fixes u) →
          (Field.required name .str).Reads soFar ((Field.required name .str).given secrets)
            (attr v.dump name) := by
      intro name soFar hname hvalue
      refine reads_secret rfl (hgives _ hname) hvalue fun hnull => ?_
      obtain ⟨u, hu, hfixes⟩ := hvalue
      cases hu.symm.trans hnull
      cases hfixes
    refine exists_secretsRead rfl rfl (by decide) ?_
    simp only [List.forall_mem_cons]
    exact ⟨fun soFar => hrequired (by decide) hid, fun soFar => hrequired (by decide) hkey,
      fun soFar => hof (by decide) htoken, fun _ h => absurd h List.not_mem_nil⟩
  | ftp =>
    cases hspec
    refine exists_secretsRead rfl rfl (by decide) ?_
    rw [List.forall_mem_singleton]
    have hpassword := ftpConnectionProperties_fixes hv
      (Field.optional "password" .str) (List.mem_of_getElem? (i := 4) rfl)
    exact fun soFar => hof (by decide) hpassword
  | sftp =>
    cases hspec
    have hfixes := sftpConnectionProperties_fixes hv
    simp only [sftpLegacyFields, List.forall_mem_cons] at hfixes
    obtain ⟨-, -, -, hpassword, -, hpassphrase, hkey, -⟩ := hfixes
    refine exists_secretsRead rfl rfl (by decide) ?_
    simp only [List.forall_mem_cons]
    exact ⟨fun soFar => hof (by decide) hpassword, fun soFar => hof (by decide) hpassphrase,
      fun soFar => hof (by decide) hkey, fun _ h => absurd h List.not_mem_nil⟩
  | custom => cases hspec

/-- The properties model of no type has a secret. -/
theorem properties_no_secret {host : Host} {type : ConnectionType} {spec : TypeSpec}
    (hspec : (defaultRegistry host).getType type.value = .ok spec) {payload : Json} {r : Instance}
    (hr : spec.propertiesModel.validate payload = .ok r) :
    ∀ key ∈ secretKeys type, r.dump.lookup key = none := by
  have hof : ∀ decl : ModelDecl, decl.extra ≠ .allow → (decl.fields.map Field.name).Nodup →
      (ModelClass.ofDecl decl).validate payload = .ok r →
        (∀ key ∈ secretKeys type, key ∉ decl.fields.map Field.name) →
          ∀ key ∈ secretKeys type, r.dump.lookup key = none :=
    fun _ hextra hnames h hkeys key hkey =>
      ModelDecl.lookup_eq_none_of_validate hextra hnames h (hkeys key hkey)
  have hsql : sqlProperties.validate payload = .ok r → secretKeys type = ["password"] →
      ∀ key ∈ secretKeys type, r.dump.lookup key = none := by
    intro hr hkeys
    refine hof _ (by decide) (by decide) hr ?_
    rw [hkeys]
    decide
  cases type with
  | postgres => cases hspec; exact hsql hr rfl
  | mysql => cases hspec; exact hsql hr rfl
  | clickhouse => cases hspec; exact hsql hr rfl
  | mongodb => cases hspec; exact hsql hr rfl
  | oracle => cases hspec; exact hsql hr rfl
  | mssql =>
    cases hspec
    obtain ⟨p, hp, rfl⟩ := mssqlProperties_validate_iff.mp hr
    rcases exists_of_unionParse hp with hroot | hroot
    · have hroot := ModelClass.validate_eq_ok_iff.mpr ⟨p, hroot, rfl⟩
      intro key hkey
      exact ModelDecl.lookup_eq_none_of_validate (by decide) (by decide) hroot
        (by revert key; decide)
    · have hroot := ModelClass.validate_eq_ok_iff.mpr ⟨p, hroot, rfl⟩
      intro key hkey
      exact ModelDecl.lookup_eq_none_of_validate (by decide) (by decide) hroot
        (by revert key; decide)
  | kafka => cases hspec; exact hof _ (by decide) (by decide) hr (by decide)
  | s3 =>
    cases hspec
    have hnames : ((s3Decl host).fields.map Field.name) = ["bucket", "region_name",
      "endpoint_url", "use_ssl", "verify", "path_style", "signature_version", "prefix"] := rfl
    refine hof (s3Decl host) (show Extra.ignore ≠ .allow by decide) ?_ hr ?_ <;>
      rw [hnames] <;> decide
  | ftp => cases hspec; exact hof _ (by decide) (by decide) hr (by decide)
  | sftp =>
    cases hspec
    have hnames : (sftpFields host).map Field.name = ["host", "port", "username",
      "private_key_path", "initial_directory", "allow_agent"] := rfl
    refine hof (packageModel "connectors.ftp" "SFTPProperties" (sftpFields host))
      (show Extra.ignore ≠ .allow by decide) ?_ hr ?_
    · show ((sftpFields host).map Field.name).Nodup
      rw [hnames]
      decide
    · show ∀ key ∈ secretKeys .sftp, key ∉ (sftpFields host).map Field.name
      rw [hnames]
      decide
  | custom => cases hspec

/-! ## Drivers -/

/-- The effective driver is one of the type's, or there is none, and it needs no options. -/
structure DriverAccepted (spec : TypeSpec) (connectionType : String) (driver : Option String) :
    Prop where
  supported : ∀ name, effectiveDriver spec driver = some name → name ∈ spec.supportedDrivers
  options : validateDriverOptions spec connectionType (effectiveDriver spec driver) .none = .ok none

/-- The service finds the driver supported. -/
theorem checkDriver_of_supported {spec : TypeSpec} {draft : ConnectionDraft}
    (h : ∀ name, effectiveDriver spec draft.driver = some name → name ∈ spec.supportedDrivers) :
    checkDriver spec draft = .ok () := by
  unfold checkDriver
  cases hd : effectiveDriver spec draft.driver with
  | none => rfl
  | some name => exact if_pos (Or.inr (Or.inr (h name hd)))

/-- A driver of an SQL type other than MSSQL is accepted without options. -/
theorem driverAccepted_of_supported {host : Host} {type : ConnectionType}
    (htype : type ∈ sqlConnectionTypes) (hmssql : type ≠ .mssql) {spec : TypeSpec}
    (hspec : (defaultRegistry host).getType type.value = .ok spec) {name : String}
    (hname : name ∈ spec.supportedDrivers) :
    DriverAccepted spec type.value (some name) ∧ effectiveDriver spec (some name) = some name := by
  have hof : effectiveDriver spec (some name) = some name →
      validateDriverOptions spec type.value (some name) .none = .ok none →
      DriverAccepted spec type.value (some name) ∧
        effectiveDriver spec (some name) = some name := by
    intro heffective hoptions
    refine ⟨⟨?_, by rw [heffective]; exact hoptions⟩, heffective⟩
    intro driver hdriver
    rw [heffective] at hdriver
    rwa [← Option.some.inj hdriver]
  cases type with
  | postgres =>
    cases hspec
    have hmem : name ∈ ["psycopg", "psycopg2", "asyncpg"] := hname
    simp only [List.mem_cons, List.not_mem_nil, or_false] at hmem
    rcases hmem with rfl | rfl | rfl <;> exact hof rfl rfl
  | mysql =>
    cases hspec
    have hmem : name ∈ ["pymysql", "aiomysql"] := hname
    simp only [List.mem_cons, List.not_mem_nil, or_false] at hmem
    rcases hmem with rfl | rfl <;> exact hof rfl rfl
  | clickhouse =>
    cases hspec
    have hmem : name ∈ ["native", "http"] := hname
    simp only [List.mem_cons, List.not_mem_nil, or_false] at hmem
    rcases hmem with rfl | rfl <;> exact hof rfl rfl
  | oracle =>
    cases hspec
    have hmem : name ∈ ["oracledb"] := hname
    cases List.mem_singleton.mp hmem
    exact hof rfl rfl
  | mongodb =>
    cases hspec
    exact absurd hname List.not_mem_nil
  | _ => first
    | exact absurd rfl hmssql
    | exact absurd htype (by decide)

/-- The driver that the bridge makes of the name of a legacy driver is accepted, and is the one that is
named, if one is. -/
theorem sqlDriver_accepted {host : Host} {type : ConnectionType}
    (htype : type ∈ sqlConnectionTypes) (hmssql : type ≠ .mssql) {spec : TypeSpec}
    (hspec : (defaultRegistry host).getType type.value = .ok spec) {legacyDriver : Option String}
    (hknown : ∀ name, legacyDriver = some name → name ∈ spec.supportedDrivers) (isAsync : Bool) :
    DriverAccepted spec type.value (sqlDriver type legacyDriver isAsync) ∧
    ∀ name, legacyDriver = some name →
      effectiveDriver spec (sqlDriver type legacyDriver isAsync) = some name := by
  cases legacyDriver with
  | some name =>
    have hsame : sqlDriver type (some name) isAsync = some name := by
      unfold sqlDriver
      cases isAsync <;> simp
    obtain ⟨haccepted, heffective⟩ :=
      driverAccepted_of_supported htype hmssql hspec (hknown name rfl)
    rw [hsame]
    refine ⟨haccepted, ?_⟩
    rintro _ ⟨⟩
    exact heffective
  | none =>
    refine ⟨?_, fun name h => by cases h⟩
    -- A driver is chosen for the mode, or the default one is taken.
    cases type with
    | postgres =>
      cases hspec
      cases isAsync <;> exact ⟨by rintro _ ⟨⟩; decide, rfl⟩
    | mysql =>
      cases hspec
      cases isAsync <;> exact ⟨by rintro _ ⟨⟩; decide, rfl⟩
    | clickhouse =>
      cases hspec
      cases isAsync <;> exact ⟨by rintro _ ⟨⟩; decide, rfl⟩
    | oracle =>
      cases hspec
      cases isAsync <;> exact ⟨by rintro _ ⟨⟩; decide, rfl⟩
    | mongodb =>
      cases hspec
      cases isAsync <;> exact ⟨by rintro _ ⟨⟩, rfl⟩
    | _ => first
      | exact absurd rfl hmssql
      | exact absurd htype (by decide)

/-- Options that the model of the driver accepts are the options. -/
theorem validateDriverOptions_of_accepted {spec : TypeSpec} {connectionType driver : String}
    {driverSpec : DriverSpec} {rawOptions : DriverOptions} {v : Instance}
    (hresolve : resolveDriverSpec spec driver = some driverSpec)
    (hmodel : driverSpec.optionsModel.isNoDriverOptions = false)
    (hv : driverSpec.optionsModel.validateOptions rawOptions = .ok v) :
    validateDriverOptions spec connectionType (some driver) rawOptions = .ok (some v) := by
  unfold validateDriverOptions
  simp only [hresolve, hmodel, hv, Bool.false_eq_true, if_false]

/-- The drivers of MSSQL are accepted with their options. -/
theorem mssqlDriver_accepted {host : Host} {spec : TypeSpec}
    (hspec : (defaultRegistry host).getType "mssql" = .ok spec) {name : String} {options : Instance}
    (hoptions : odbcDriverOptions.validate (.obj [("odbc_driver_name", .str name)]) = .ok options)
    (isAsync : Bool) :
    (∀ draft : ConnectionDraft, draft.driver = some (if isAsync then "aioodbc" else "pyodbc") →
      checkDriver spec draft = .ok ()) ∧
    validateDriverOptions spec "mssql"
      (effectiveDriver spec (some (if isAsync then "aioodbc" else "pyodbc"))) (.model options) =
        .ok (some options) := by
  cases hspec
  constructor
  · intro draft hdraft
    refine checkDriver_of_supported ?_
    rw [hdraft]
    cases isAsync <;> exact fun _ h => Option.some.inj h ▸ (by decide)
  · have hmem : odbcDriverOptions.ref ∈ odbcDriverOptions.mro := by decide
    have hinstance : odbcDriverOptions.validateInstance options = .ok options :=
      if_pos (ModelClass.isInstance_of_validate hoptions hmem)
    cases isAsync
    · exact validateDriverOptions_of_accepted (show resolveDriverSpec _ "pyodbc" = some _ from rfl)
        rfl hinstance
    · exact validateDriverOptions_of_accepted (show resolveDriverSpec _ "aioodbc" = some _ from rfl)
        rfl hinstance

/-- Legacy properties of the types that are not SQL have no driver. -/
theorem lookup_driverName {host : Host} {type : ConnectionType} (hsql : type ∉ sqlConnectionTypes)
    (hcustom : type ≠ .custom) {payload : Json} {v : Instance}
    (hv : (propertiesModel host type).validate payload = .ok v) :
    v.dump.lookup "driver_name" = none := by
  cases type with
  | kafka => exact lookup_eq_none_of_keys (kafkaConnectionProperties_keys hv) (by decide)
  | s3 =>
    refine lookup_eq_none_of_keys (s3ConnectionProperties_keys hv) ?_
    rw [s3LegacyFields_names]
    decide
  | ftp => exact lookup_eq_none_of_keys (ftpConnectionProperties_keys hv) (by decide)
  | sftp =>
    refine lookup_eq_none_of_keys (sftpConnectionProperties_keys hv) ?_
    rw [sftpLegacyFields_names]
    decide
  | custom => exact absurd rfl hcustom
  | _ => exact absurd (by decide) hsql

/-- What a splitting finds for the driver is accepted, and keeps the one that is named. -/
structure DriverKept (type : ConnectionType) (spec : TypeSpec) (values : Dict Json)
    (data : ConnectionData) (options : Option Instance) : Prop where
  supported : ∀ draft : ConnectionDraft, draft.driver = data.driver → checkDriver spec draft = .ok ()
  read : validateDriverOptions spec type.value (effectiveDriver spec data.driver)
    (.ofOption data.driverOptions) = .ok options
  kept : ∀ name, values.lookup "driver_name" = some (.str name) →
    if type = .mssql then ∃ o, options = some o ∧ attr o.dump "odbc_driver_name" = .str name
    else effectiveDriver spec data.driver = some name

/-- The name of the driver in legacy SQL properties. -/
theorem legacyDriver_eq_some_iff {values : Dict Json} {name : String} :
    (values.lookup "driver_name").bind Json.str? = some name ↔
      values.lookup "driver_name" = some (.str name) := by
  cases values.lookup "driver_name" with
  | none => simp
  | some u => cases u <;> simp [Json.str?]

/-- The settings that are known of an SQL type other than MSSQL. -/
theorem KnownSettings.driver {registry : ConnectionRegistry} {type : ConnectionType}
    (hsql : type ∈ sqlConnectionTypes) (hmssql : type ≠ .mssql) {values : Dict Json}
    (h : KnownSettings registry type values) {spec : TypeSpec}
    (hspec : registry.getType type.value = .ok spec) {name : String}
    (hname : values.lookup "driver_name" = some (.str name)) : name ∈ spec.supportedDrivers := by
  cases type with
  | mssql => exact absurd rfl hmssql
  | postgres => exact h name hname spec hspec
  | mysql => exact h name hname spec hspec
  | clickhouse => exact h name hname spec hspec
  | mongodb => exact h name hname spec hspec
  | oracle => exact h name hname spec hspec
  | _ => exact absurd hsql (by decide)

section Splits

variable {host : Host} {type : ConnectionType} {spec : TypeSpec} {payload : Json} {v : Instance}

/-- Legacy properties of MSSQL with the name of a driver are split, and the name is an option of the
driver. -/
theorem exists_split_mssql
    (hspec : (defaultRegistry host).getType ConnectionType.mssql.value = .ok spec) {name : String}
    (hname : v.dump.lookup "driver_name" = some (.str name)) (isAsync : Bool) :
    ∃ data options, splitConnectionData .mssql v.dump isAsync = .ok data ∧
      DriverKept .mssql spec v.dump data options := by
  obtain ⟨options, hoptions⟩ := exists_odbcDriverOptions name
  obtain ⟨hsupported, hread⟩ := mssqlDriver_accepted hspec hoptions isAsync
  let data := splitPassword (v.dump.pop "driver_name") "password" passwordSecretKeys
  refine ⟨{ data with
      driver := some (if isAsync then "aioodbc" else "pyodbc")
      driverOptions := some options }, some options, ?_, hsupported, hread, ?_⟩
  · unfold splitConnectionData
    rw [if_pos (by decide), if_pos rfl, hname]
    dsimp only [Option.bind_some, Json.str?]
    rw [hoptions]
  · intro given hgiven
    rw [hname] at hgiven
    cases hgiven
    rw [if_pos rfl]
    exact ⟨options, rfl, (odbcDriverOptions_of_name hoptions).2⟩

/-- Legacy properties of another SQL type are split, and the name of the driver is the driver. -/
theorem exists_split_sql (hsql : type ∈ sqlConnectionTypes) (hmssql : type ≠ .mssql)
    (hspec : (defaultRegistry host).getType type.value = .ok spec)
    (hknown : KnownSettings (defaultRegistry host) type v.dump) (isAsync : Bool) :
    ∃ data options, splitConnectionData type v.dump isAsync = .ok data ∧
      DriverKept type spec v.dump data options := by
  obtain ⟨haccepted, hkept⟩ := sqlDriver_accepted hsql hmssql hspec
    (fun name hname => hknown.driver hsql hmssql hspec (legacyDriver_eq_some_iff.mp hname))
    isAsync
  let data := splitPassword (v.dump.pop "driver_name") "password" passwordSecretKeys
  let legacyDriver := (v.dump.lookup "driver_name").bind Json.str?
  refine ⟨{ data with driver := sqlDriver type legacyDriver isAsync }, none, ?_,
    ⟨?_, haccepted.options, ?_⟩⟩
  · unfold splitConnectionData
    rw [if_pos hsql, if_neg hmssql]
  · intro draft hdraft
    refine checkDriver_of_supported ?_
    rw [hdraft]
    exact haccepted.supported
  · intro name hname
    rw [if_neg hmssql]
    exact hkept name (legacyDriver_eq_some_iff.mpr hname)

/-- Legacy properties of a type that is not SQL are split without a driver. -/
theorem exists_split_other (hsql : type ∉ sqlConnectionTypes)
    (hspec : (defaultRegistry host).getType type.value = .ok spec)
    (hv : (propertiesModel host type).validate payload = .ok v) (isAsync : Bool) :
    ∃ data options, splitConnectionData type v.dump isAsync = .ok data ∧
      DriverKept type spec v.dump data options := by
  have hcustom : type ≠ .custom := by
    rintro rfl
    cases hspec
  have hnone := lookup_driverName hsql hcustom hv
  have hof : ∀ data : ConnectionData, splitConnectionData type v.dump isAsync = .ok data →
      effectiveDriver spec data.driver = none →
        validateDriverOptions spec type.value none (.ofOption data.driverOptions) = .ok none →
          ∃ data options, splitConnectionData type v.dump isAsync = .ok data ∧
            DriverKept type spec v.dump data options := by
    intro data hsplit heffective hread
    refine ⟨data, none, hsplit, ⟨?_, by rw [heffective]; exact hread, ?_⟩⟩
    · intro draft hdraft
      refine checkDriver_of_supported fun name hname => ?_
      rw [hdraft, heffective] at hname
      cases hname
    · intro name hname
      rw [hnone] at hname
      cases hname
  cases type with
  | kafka => cases hspec; exact hof _ rfl rfl rfl
  | s3 => cases hspec; exact hof _ rfl rfl rfl
  | ftp => cases hspec; exact hof _ rfl rfl rfl
  | sftp => cases hspec; exact hof _ rfl rfl rfl
  | custom => exact absurd rfl hcustom
  | _ => exact absurd (by decide) hsql

end Splits

/-- Legacy properties whose settings are known are split, with a driver that is accepted. -/
theorem exists_split {host : Host} {type : ConnectionType} {spec : TypeSpec}
    (hspec : (defaultRegistry host).getType type.value = .ok spec) {payload : Json} {v : Instance}
    (hv : (propertiesModel host type).validate payload = .ok v)
    (hknown : KnownSettings (defaultRegistry host) type v.dump) (isAsync : Bool) :
    ∃ data options, splitConnectionData type v.dump isAsync = .ok data ∧
      DriverKept type spec v.dump data options := by
  by_cases hsql : type ∈ sqlConnectionTypes
  · by_cases hmssql : type = .mssql
    · subst hmssql
      obtain ⟨name, hname⟩ := hknown
      exact exists_split_mssql hspec hname isAsync
    · exact exists_split_sql hsql hmssql hspec hknown isAsync
  · exact exists_split_other hsql hspec hv isAsync

/-! ## The bridge -/

/-- The runtime's model keeps the properties of a splitting exactly where they can be transferred. -/
theorem split_keeps_iff {host : Host} {type : ConnectionType} {spec : TypeSpec}
    (hspec : (defaultRegistry host).getType type.value = .ok spec) {payload : Json} {v : Instance}
    (hv : (propertiesModel host type).validate payload = .ok v)
    (hknown : KnownSettings (defaultRegistry host) type v.dump) {isAsync : Bool}
    {data : ConnectionData} (hsplit : splitConnectionData type v.dump isAsync = .ok data) :
    (∃ r, spec.propertiesModel.validate (.obj data.properties) = .ok r ∧
        KeepsProperties type v.dump r.dump) ↔ Transferable type v.dump := by
  have hgives : Gives type v.dump data.properties := lookup_properties_of_split hsplit
  have hsql : type ∈ sqlConnectionTypes → sqlConnectionProperties.validate payload = .ok v →
      ((∃ r, spec.propertiesModel.validate (.obj data.properties) = .ok r ∧
        KeepsProperties type v.dump r.dump) ↔ Transferable type v.dump) := by
    intro htype hv
    have hmem : spec ∈ defaultTypes host := by
      obtain ⟨spec', hspec', heq⟩ := List.mem_map.mp (ConnectionRegistry.mem_of_getType hspec)
      obtain rfl : spec' = spec := congrArg Prod.snd heq
      exact hspec'
    rw [properties_of_split_sql htype hsplit]
    exact sql_keeps_iff htype hmem (ConnectionRegistry.getType_name hspec) hv
  cases type with
  | kafka =>
    cases hspec
    exact kafka_keeps_iff hv hknown hgives
  | s3 =>
    cases hspec
    exact s3_keeps_iff hv hgives
  | ftp =>
    cases hspec
    exact ftp_keeps_iff hv hknown hgives
  | sftp =>
    cases hspec
    exact sftp_keeps_iff hv hgives
  | custom => cases hspec
  | _ => exact hsql (by decide) hv

/-- The bridge makes a connection that keeps a legacy one exactly where the properties can be
transferred. -/
theorem bridge_lossless_iff {host : Host} {type : ConnectionType} (htype : type ∈ runtimeBackedTypes)
    {payload : Json} {v : Instance} (hv : (propertiesModel host type).validate payload = .ok v)
    (hknown : KnownSettings (defaultRegistry host) type v.dump) (name : String) (isAsync : Bool) :
    (∃ c, toRuntimeValidated (defaultRegistry host) ⟨name, type, v⟩ isAsync = .ok c ∧
        Lossless type v.dump c) ↔ Transferable type v.dump := by
  obtain ⟨spec, hspec⟩ : ∃ spec, (defaultRegistry host).getType type.value = .ok spec := by
    cases type with
    | custom => exact absurd htype (by decide)
    | _ => exact ⟨_, rfl⟩
  obtain ⟨data, options, hsplit, hdriver⟩ := exists_split hspec hv hknown isAsync
  obtain ⟨secrets, hread, hkept⟩ := exists_secrets hspec hv fun key hkey => by
    rw [lookup_secrets_of_split hsplit, if_pos hkey]
  have hprepared : Prepared (defaultRegistry host) ⟨name, type, v⟩ isAsync spec data options
      secrets := ⟨htype, hspec, hsplit, hdriver.supported, hdriver.read, hread⟩
  rw [hprepared.lossless_iff hkept (fun r hr => properties_no_secret hspec hr) hdriver.kept]
  exact split_keeps_iff hspec hv hknown hsplit

/-- A payload of a PostgreSQL connection, with its switch `secure`. -/
def postgresPayload (secure : Json) : Json :=
  .obj [("host", .str "db"), ("port", .int 5432), ("username", .str "service"),
    ("password", .str "secret"), ("database", .str "analytics"), ("secure", secure),
    ("driver_name", .str "psycopg2")]

/-- A PostgreSQL connection without TLS is kept. -/
theorem bridge_lossless_postgres :
    ∃ v, sqlConnectionProperties.validate (postgresPayload (.bool false)) = .ok v ∧
      ∃ c, toRuntimeValidated (defaultRegistry emptyHost) ⟨"warehouse", .postgres, v⟩ true = .ok c ∧
        Lossless .postgres v.dump c := by
  refine ⟨_, rfl, ?_⟩
  have hv : (propertiesModel emptyHost .postgres).validate (postgresPayload (.bool false)) =
      .ok _ := rfl
  have hknown : ∀ name : String, some (Json.str "psycopg2") = some (.str name) →
      ∀ spec, (defaultRegistry emptyHost).getType "postgres" = .ok spec →
        name ∈ spec.supportedDrivers := by
    rintro _ ⟨⟩ _ ⟨⟩
    decide
  exact (bridge_lossless_iff (by decide) hv hknown "warehouse" true).mpr ⟨by decide, by decide⟩

/-- A PostgreSQL connection whose switch `secure` is `None` is refused. -/
theorem bridge_refuses_no_secure :
    ∃ v, sqlConnectionProperties.validate (postgresPayload .null) = .ok v ∧
      KnownSettings (defaultRegistry emptyHost) .postgres v.dump ∧
      ∀ c, toRuntimeValidated (defaultRegistry emptyHost) ⟨"warehouse", .postgres, v⟩ true ≠
        .ok c := by
  refine ⟨_, rfl, ?_, ?_⟩
  · rintro _ ⟨⟩ _ ⟨⟩
    decide
  · intro c h
    cases h

end DbConnection.Compat
