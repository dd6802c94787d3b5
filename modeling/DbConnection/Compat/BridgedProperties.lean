import DbConnection.Compat.RuntimeBridge
import DbConnection.Compat.SqlRecords

/-!
# Legacy properties under the runtime models

What the runtime model of each type makes of the properties that the bridge splits off a legacy
connection. `Transferable` says when it keeps them: the runtime models do not allow `None` for the
switches of SQL and the client of Kafka, set another port for plain FTP on 990, and normalise the
prefix of S3 and the path of a private key in their own way.
-/

namespace DbConnection.Compat

open PyData Pydantic PyText

/-- The fields of legacy properties that are neither secrets nor the driver's name. -/
def KeepsProperties (type : ConnectionType) (values props : Dict Json) : Prop :=
  ∀ key value, values.lookup key = some value → key ∉ secretKeys type → key ≠ "driver_name" →
    props.lookup key = some value

/-- The payload has the fields of legacy properties that are neither secrets nor an SQL driver's
name. -/
def Gives (type : ConnectionType) (values payload : Dict Json) : Prop :=
  ∀ key, payload.lookup key =
    if key ∈ secretKeys type ∨ type ∈ sqlConnectionTypes ∧ key = "driver_name" then none
    else values.lookup key

/-- The runtime model of the type keeps the legacy properties. -/
def Transferable (type : ConnectionType) (values : Dict Json) : Prop :=
  match type with
  | .mysql | .postgres | .clickhouse | .mongodb | .mssql | .oracle =>
    values.lookup "secure" ≠ some .null ∧ values.lookup "verify" ≠ some .null
  | .kafka => values.lookup "client_id" ≠ some .null
  | .s3 => ∀ s, values.lookup "prefix" = some (.str s) → Trimmed (· == '/') s.toList
  | .ftp => ¬ (values.lookup "mode" = some (.str "ftp") ∧ values.lookup "port" = some (.int 990))
  | .sftp => ∀ s, values.lookup "private_key_path" = some (.str s) →
      s ≠ "" ∧ Trimmed isSpace s.toList
  | .custom => True

/-- The enumerated settings of legacy properties are ones that the runtime's registry and models
know; for MSSQL a driver name is given. -/
def KnownSettings (registry : ConnectionRegistry) (type : ConnectionType) (values : Dict Json) :
    Prop :=
  match type with
  | .mssql => ∃ name, values.lookup "driver_name" = some (.str name)
  | .mysql | .postgres | .clickhouse | .mongodb | .oracle =>
    ∀ name, values.lookup "driver_name" = some (.str name) →
      ∀ spec, registry.getType type.value = .ok spec → name ∈ spec.supportedDrivers
  | .kafka =>
    (∀ protocol, values.lookup "security_protocol" = some (.str protocol) →
      protocol ∈ ["PLAINTEXT", "SSL", "SASL_PLAINTEXT", "SASL_SSL"]) ∧
    ∀ mechanism, values.lookup "sasl_mechanism" = some (.str mechanism) →
      mechanism ∈ ["PLAIN", "SCRAM-SHA-256", "SCRAM-SHA-512"]
  | .ftp => values.lookup "mode" ≠ some (.str "sftp")
  | _ => True

/-! ## Fields -/

/-- The value of a key that a record has. -/
theorem attr_of_lookup {values : Dict Json} {key : String} {u : Json}
    (h : values.lookup key = some u) : attr values key = u := by
  unfold attr
  rw [h]
  rfl

/-- The record keeps the properties if it has the value of each key among them. -/
theorem keepsProperties_of_keys {type : ConnectionType} {values props : Dict Json}
    {keys : List String} (hkeys : values.map Prod.fst = keys)
    (h : ∀ key ∈ keys, key ∉ secretKeys type → key ≠ "driver_name" →
      props.lookup key = some (attr values key)) : KeepsProperties type values props := by
  intro key value hvalue hsecret hdriver
  have hmem : key ∈ keys := by
    rw [← hkeys]
    exact Dict.contains_iff_mem.mp (Option.isSome_iff_exists.mpr ⟨value, hvalue⟩)
  rw [h key hmem hsecret hdriver, attr_of_lookup hvalue]

/-- But for the secrets, the payload has what the legacy properties have. -/
theorem Gives.lookup_eq {type : ConnectionType} {values payload : Dict Json}
    (h : Gives type values payload) (hsql : type ∉ sqlConnectionTypes) {key : String}
    (hkey : key ∉ secretKeys type) : payload.lookup key = values.lookup key := by
  rw [h key, if_neg]
  rintro (hsecret | ⟨hmem, -⟩)
  · exact hkey hsecret
  · exact hsql hmem

/-- A field is given the value that legacy properties have. -/
theorem given_of_lookup {field : Field} (halias : field.validationAlias = none)
    {payload values : Dict Json} {u : Json}
    (hgives : payload.lookup field.name = values.lookup field.name)
    (hvalue : values.lookup field.name = some u) : field.given payload = some u := by
  unfold Field.given
  rw [halias]
  exact hgives.trans hvalue

/-- A field reads the value of legacy properties if it reads that value as it is. -/
theorem reads_of_lookup {field : Field} (halias : field.validationAlias = none)
    {soFar payload values : Dict Json} {u : Json}
    (hgives : payload.lookup field.name = values.lookup field.name)
    (hvalue : values.lookup field.name = some u) (h : field.Reads soFar (some u) u) :
    field.Reads soFar (field.given payload) (attr values field.name) := by
  rw [given_of_lookup halias hgives hvalue, attr_of_lookup hvalue]
  exact h

/-- A field without validators reads a value of legacy properties that its type fixes. -/
theorem reads_of_fixes {name : String} {type : FieldType} {default : Option Json}
    (hp : type.isPlain = true) {soFar payload values : Dict Json}
    (hgives : payload.lookup name = values.lookup name)
    (hvalue : ∃ u, values.lookup name = some u ∧ type.Fixes u) :
    (Field.of name type default).Reads soFar ((Field.of name type default).given payload)
      (attr values name) := by
  obtain ⟨u, hu, hfixes⟩ := hvalue
  have hnone : (Field.of name type default).NoValidators := Field.noValidators name type default
  exact reads_of_lookup rfl hgives hu (hnone.reads_of_fixes hp hfixes)

/-- A field that legacy properties do not have has its default. -/
theorem reads_default {name : String} {type : FieldType} {d : Json} {soFar payload : Dict Json}
    (hgiven : payload.lookup name = none) :
    (Field.of name type (some d)).Reads soFar ((Field.of name type (some d)).given payload) d := by
  have hgiven : (Field.of name type (some d)).given payload = none := hgiven
  rw [hgiven]
  rfl

/-! ## Kafka -/

/-- An enumeration fixes its members. -/
theorem fixes_oneOf {members : List String} {s : String} (h : s ∈ members) :
    (FieldType.oneOf members).Fixes (.str s) := by
  unfold FieldType.Fixes
  simp only [FieldType.readJson, List.contains_iff_mem, h, if_true]

/-- A type of texts only fixes texts. -/
theorem exists_str_of_fixes {u : Json} (h : FieldType.str.Fixes u) : ∃ s, u = .str s := by
  cases u with
  | str s => exact ⟨s, rfl⟩
  | _ => cases h

/-- The fields of `KafkaProperties`. -/
def kafkaFields : List Field :=
  [{ Field.required "bootstrap_servers" .strList with before := normalizeBootstrapServers },
    .of "security_protocol" (.oneOf ["PLAINTEXT", "SSL", "SASL_PLAINTEXT", "SASL_SSL"])
      (some (.str "PLAINTEXT")),
    Field.optional "ssl_ca_pem" .str,
    Field.optional "sasl_mechanism" (.oneOf ["PLAIN", "SCRAM-SHA-256", "SCRAM-SHA-512"]),
    Field.optional "sasl_plain_username" .str,
    .of "client_id" .str (some (.str "kafka_client")),
    .of "request_timeout_ms" .int (some (.int 30000))]

/-- A list of texts is read as it is. -/
theorem reads_bootstrapServers {soFar : Dict Json} {u : Json} (hfixes : FieldType.strList.Fixes u) :
    Field.Reads { Field.required "bootstrap_servers" .strList with
      before := normalizeBootstrapServers } soFar (some u) u := by
  refine (Field.reads_some_iff rfl).mpr ⟨u, u, ?_, hfixes, rfl⟩
  cases u with
  | arr items => rfl
  | _ => cases hfixes

/-- The fields of `KafkaProperties` read legacy properties with a client. -/
theorem reads_kafkaFields {registry : ConnectionRegistry} {payload : Json} {v : Instance}
    (hv : kafkaConnectionProperties.validate payload = .ok v)
    (hknown : KnownSettings registry .kafka v.dump) {items : Dict Json}
    (hgives : Gives .kafka v.dump items) (hclient : Transferable .kafka v.dump) :
    ∀ field ∈ kafkaFields, ∀ soFar,
      field.Reads soFar (field.given items) (attr v.dump field.name) := by
  have hother : ∀ key, key ∉ kafkaSecretKeys → items.lookup key = v.dump.lookup key :=
    fun key hkey => hgives.lookup_eq (by decide) hkey
  have hfixes := kafkaConnectionProperties_fixes hv
  simp only [List.forall_mem_cons] at hfixes
  obtain ⟨⟨servers, hservers, hserversFixes⟩, ⟨protocol, hprotocol, hprotocolFixes⟩,
    ⟨mechanism, hmechanism, hmechanismFixes⟩, huser, -, ⟨client, hlookup, hclientFixes⟩,
    htimeout, -⟩ := hfixes
  simp only [kafkaFields, List.forall_mem_cons]
  refine ⟨?_, ?_, ?_, ?_, ?_, ?_, ?_, fun _ h => absurd h List.not_mem_nil⟩
  · exact fun soFar => reads_of_lookup rfl (hother "bootstrap_servers" (by decide)) hservers
      (reads_bootstrapServers hserversFixes)
  · intro soFar
    obtain ⟨s, rfl⟩ := exists_str_of_fixes hprotocolFixes
    exact reads_of_fixes rfl (hother _ (by decide))
      ⟨_, hprotocol, fixes_oneOf (hknown.1 s hprotocol)⟩
  · intro soFar
    have hnone : v.dump.lookup "ssl_ca_pem" = none :=
      lookup_eq_none_of_keys (kafkaConnectionProperties_keys hv) (by decide)
    have hvalue : attr v.dump "ssl_ca_pem" = .null := by
      unfold attr
      rw [hnone]
      rfl
    show Field.Reads _ soFar _ (attr v.dump "ssl_ca_pem")
    rw [hvalue]
    exact reads_default ((hother _ (by decide)).trans hnone)
  · intro soFar
    refine reads_of_fixes rfl (hother _ (by decide)) ⟨_, hmechanism, ?_⟩
    rcases FieldType.fixes_nullable_iff.mp hmechanismFixes with rfl | hstr
    · rfl
    · obtain ⟨s, rfl⟩ := exists_str_of_fixes hstr
      exact FieldType.fixes_nullable_iff.mpr (Or.inr (fixes_oneOf (hknown.2 s hmechanism)))
  · exact fun soFar => reads_of_fixes rfl (hother _ (by decide)) huser
  · intro soFar
    refine reads_of_fixes rfl (hother _ (by decide)) ⟨_, hlookup, ?_⟩
    rcases FieldType.fixes_nullable_iff.mp hclientFixes with rfl | hstr
    · exact absurd hlookup hclient
    · exact hstr
  · exact fun soFar => reads_of_fixes rfl (hother _ (by decide)) htimeout

/-- The runtime model of Kafka keeps legacy properties with a client. -/
theorem kafka_keeps_iff {registry : ConnectionRegistry} {payload : Json} {v : Instance}
    (hv : kafkaConnectionProperties.validate payload = .ok v)
    (hknown : KnownSettings registry .kafka v.dump) {items : Dict Json}
    (hgives : Gives .kafka v.dump items) :
    (∃ r, kafkaProperties.validate (.obj items) = .ok r ∧
        KeepsProperties .kafka v.dump r.dump) ↔ Transferable .kafka v.dump := by
  constructor
  · rintro ⟨r, hr, -⟩ hnull
    have hmem : Field.of "client_id" .str (some (.str "kafka_client")) ∈ kafkaFields :=
      List.mem_of_getElem? (i := 5) rfl
    obtain ⟨w, -, hread⟩ :=
      ModelDecl.reads_of_validate (by decide) (by decide) (fun _ => rfl) hr hmem
    have hgiven : (Field.of "client_id" .str (some (.str "kafka_client"))).given items =
        some .null :=
      given_of_lookup rfl (hgives.lookup_eq (by decide) (by decide)) hnull
    rw [hgiven, (Field.noValidators _ _ _).reads_some_iff rfl] at hread
    cases hread
  · intro hclient
    have haccept : ∃ r, kafkaProperties.validate (.obj items) = .ok r ∧
        ∀ key ∈ kafkaFields.map Field.name, r.dump.lookup key = some (attr v.dump key) :=
      ModelDecl.exists_validate_of_reads (by decide) (by decide) (fun _ => rfl) (attr v.dump) rfl
        (reads_kafkaFields hv hknown hgives hclient)
    obtain ⟨r, hr, hlookup⟩ := haccept
    refine ⟨r, hr, keepsProperties_of_keys (kafkaConnectionProperties_keys hv)
      fun key hkey hsecret _ => hlookup key ?_⟩
    revert key
    decide

/-! ## SQL -/

/-- The runtime model of an SQL type keeps legacy properties whose switches are not `None`. -/
theorem sql_keeps_iff {host : Host} {type : ConnectionType} (htype : type ∈ sqlConnectionTypes)
    {spec : TypeSpec} (hspec : spec ∈ defaultTypes host) (hname : spec.name = type.value)
    {payload : Json} {v : Instance} (hv : sqlConnectionProperties.validate payload = .ok v) :
    (∃ r, spec.propertiesModel.validate (.obj ((v.dump.pop "driver_name").pop "password")) =
        .ok r ∧ KeepsProperties type v.dump r.dump) ↔ Transferable type v.dump := by
  have hkeys := sqlConnectionProperties_keys hv
  have hsql : spec.name ∈ sqlTypes := by
    rw [hname]
    revert htype
    cases type <;> decide
  have hready : Transferable type v.dump ↔
      v.dump.lookup "secure" ≠ some .null ∧ v.dump.lookup "verify" ≠ some .null := by
    revert htype
    cases type <;> first
      | exact fun _ => Iff.rfl
      | exact fun h => absurd h (by decide)
  have hsecrets : secretKeys type = ["password"] := by
    revert htype
    cases type <;> first
      | exact fun _ => rfl
      | exact fun h => absurd h (by decide)
  rw [hready]
  constructor
  · rintro ⟨r, hr, -⟩
    have hshares := lookup_runtimeSql hspec hsql hv (givesFields_pop v.dump) hr
    have hswitch : ∀ name, Field.of name .bool (some (.bool false)) ∈ sqlFields →
        v.dump.lookup name ≠ some .null := by
      intro name hmem hnull
      obtain ⟨u, -, hu, hfixes⟩ := hshares _ hmem
      have hu : v.dump.lookup name = some u := hu
      rw [hnull] at hu
      cases hu
      cases hfixes
    exact ⟨hswitch "secure" (List.mem_of_getElem? (i := 4) rfl),
      hswitch "verify" (List.mem_of_getElem? (i := 9) rfl)⟩
  · rintro ⟨hsecure, hverify⟩
    obtain ⟨r, hr, hlookup⟩ := exists_runtimeSql hspec hsql hv hsecure hverify
    refine ⟨r, hr, keepsProperties_of_keys hkeys fun key hkey hsecret hdriver => hlookup key ?_⟩
    rw [hsecrets] at hsecret
    revert key
    decide

/-! ## S3 -/

/-- The runtime's `normalize_prefix` leaves a text without blanks around it exactly when there are
no slashes around it either. -/
theorem normalizePrefix_eq_iff {s : String} (hs : strip s = s) (hne : s ≠ "") :
    DbConnection.normalizePrefix (.str s) = .ok (.str s) ↔ Trimmed (· == '/') s.toList := by
  have htruthy : (Json.str s).truthy = true := by simpa [Json.truthy] using hne
  unfold DbConnection.normalizePrefix
  simp only [htruthy, Bool.not_true, Bool.false_eq_true, if_false, hs, Except.ok.injEq,
    Json.str.injEq]
  exact stripBy_eq_self_iff

/-- A bucket without blanks around it is read as it is. -/
theorem reads_bucket {host : Host} {soFar : Dict Json} {s : String} (hs : strip s = s)
    (hne : s ≠ "") :
    Field.Reads { Field.required "bucket" .str with before := DbConnection.normalizeBucket host }
      soFar (some (.str s)) (.str s) := by
  refine (Field.reads_some_iff rfl).mpr ⟨.str s, .str s, ?_, rfl, rfl⟩
  dsimp only
  have htext : pyStr host (.str s) = s := rfl
  unfold DbConnection.normalizeBucket
  rw [htext, hs, if_neg hne]

/-- What the runtime model of S3 makes of legacy properties: `verify` has its default. -/
def s3Value (values : Dict Json) (key : String) : Json :=
  if key = "verify" then .bool true else attr values key

/-- The fields of `S3Properties` but the prefix read legacy properties. -/
theorem reads_s3OtherFields {host : Host} {payload : Json} {v : Instance}
    (hv : (s3ConnectionProperties host).validate payload = .ok v) {items : Dict Json}
    (hgives : Gives .s3 v.dump items) :
    ∀ field ∈ s3OtherFields host, ∀ soFar,
      field.Reads soFar (field.given items) (s3Value v.dump field.name) := by
  have hother : ∀ key, key ∉ s3SecretKeys → items.lookup key = v.dump.lookup key :=
    fun key hkey => hgives.lookup_eq (by decide) hkey
  have hfixes := s3ConnectionProperties_fixes hv
  simp only [s3LegacyFields, List.forall_mem_cons] at hfixes
  obtain ⟨-, hregion, hendpoint, -, -, -, hssl, hpath, hsignature, -, -⟩ := hfixes
  obtain ⟨b, hb, hbstrip, hbne⟩ := s3_bucket hv
  simp only [s3OtherFields, List.forall_mem_cons]
  refine ⟨?_, ?_, ?_, ?_, ?_, ?_, ?_, fun _ h => absurd h List.not_mem_nil⟩
  · exact fun soFar => reads_of_lookup rfl (hother "bucket" (by decide)) hb
      (reads_bucket hbstrip hbne)
  · exact fun soFar => reads_of_fixes rfl (hother _ (by decide)) hregion
  · exact fun soFar => reads_of_fixes rfl (hother _ (by decide)) hendpoint
  · exact fun soFar => reads_of_fixes rfl (hother _ (by decide)) hssl
  · intro soFar
    have hkeys := s3ConnectionProperties_keys hv
    rw [s3LegacyFields_names] at hkeys
    have hnone : v.dump.lookup "verify" = none := lookup_eq_none_of_keys hkeys (by decide)
    exact reads_default ((hother _ (by decide)).trans hnone)
  · exact fun soFar => reads_of_fixes rfl (hother _ (by decide)) hpath
  · exact fun soFar => reads_of_fixes rfl (hother _ (by decide)) hsignature

/-- The runtime model of S3 keeps legacy properties whose prefix neither begins nor ends with a
slash. -/
theorem s3_keeps_iff {host : Host} {payload : Json} {v : Instance}
    (hv : (s3ConnectionProperties host).validate payload = .ok v) {items : Dict Json}
    (hgives : Gives .s3 v.dump items) :
    (∃ r, (s3Properties host).validate (.obj items) = .ok r ∧
        KeepsProperties .s3 v.dump r.dump) ↔ Transferable .s3 v.dump := by
  have hextra : (s3Decl host).extra ≠ .allow := by
    show Extra.ignore ≠ .allow
    decide
  have hnames : ((s3Decl host).fields.map Field.name).Nodup := by
    show ["bucket", "region_name", "endpoint_url", "use_ssl", "verify", "path_style",
      "signature_version", "prefix"].Nodup
    decide
  obtain ⟨p, hp, hpstrip, hpne, -⟩ := s3_prefix hv
  have hready : Transferable .s3 v.dump ↔
      DbConnection.normalizePrefix (.str p) = .ok (.str p) := by
    rw [normalizePrefix_eq_iff hpstrip hpne]
    constructor
    · exact fun h => h p hp
    · intro h s hs
      rw [hp] at hs
      cases hs
      exact h
  rw [hready]
  have hgivesPrefix : items.lookup "prefix" = v.dump.lookup "prefix" :=
    hgives.lookup_eq (by decide) (by decide)
  constructor
  · rintro ⟨r, hr, hkeeps⟩
    have hmem : prefixField ∈ (s3Decl host).fields :=
      List.mem_append_right _ (List.mem_singleton_self _)
    obtain ⟨w, hw, hread⟩ := ModelDecl.reads_of_validate hextra hnames (fun _ => rfl) hr hmem
    have hw : r.dump.lookup "prefix" = some w := hw
    rw [given_of_lookup rfl hgivesPrefix hp, prefixField_reads_iff] at hread
    rw [hkeeps "prefix" (.str p) hp (by decide) (by decide)] at hw
    cases hw
    exact hread
  · intro hsame
    have hreads : ∀ field ∈ (s3Decl host).fields, ∀ soFar,
        field.Reads soFar (field.given items) (s3Value v.dump field.name) := by
      show ∀ field ∈ s3OtherFields host ++ [prefixField], _
      rw [List.forall_mem_append, List.forall_mem_singleton]
      refine ⟨reads_s3OtherFields hv hgives, fun soFar => ?_⟩
      exact reads_of_lookup rfl hgivesPrefix hp (prefixField_reads_iff.mpr hsame)
    have hnoExtra : (s3Decl host).extraErrors (toFieldInputs items) = [] :=
      ModelDecl.extraErrors_of_not_forbid (show Extra.ignore ≠ .forbid by decide) _
    obtain ⟨r, hr, hlookup⟩ := ModelDecl.exists_validate_of_reads hextra hnames (fun _ => rfl)
      (s3Value v.dump) hnoExtra hreads
    have hkeys := s3ConnectionProperties_keys hv
    rw [s3LegacyFields_names] at hkeys
    refine ⟨r, hr, keepsProperties_of_keys hkeys fun key hkey hsecret _ => ?_⟩
    have hvalue : s3Value v.dump key = attr v.dump key := if_neg (by
      rintro rfl
      exact absurd hkey (by decide))
    rw [← hvalue]
    refine hlookup key ?_
    show key ∈ ["bucket", "region_name", "endpoint_url", "use_ssl", "verify", "path_style",
      "signature_version", "prefix"]
    have hall : ∀ key ∈ ["bucket", "region_name", "endpoint_url", "access_token_id",
        "access_token_key", "session_token", "use_ssl", "path_style", "signature_version",
        "prefix"], key ∉ secretKeys .s3 → key ∈ ["bucket", "region_name", "endpoint_url", "use_ssl",
          "verify", "path_style", "signature_version", "prefix"] := by decide
    exact hall key hkey hsecret

/-! ## SFTP -/

/-- The field `private_key_path` of `SFTPProperties`. -/
def runtimePathField (host : Host) : Field :=
  { Field.optional "private_key_path" .str with
    after := DbConnection.validatePrivateKeyPath host }

/-- The fields of `SFTPProperties`. -/
def sftpFields (host : Host) : List Field :=
  [.required "host" .str, portField 22, .required "username" .str, runtimePathField host,
    Field.optional "initial_directory" .str, .of "allow_agent" .bool (some (.bool false))]

/-- The runtime's `validate_private_key_path` leaves the path of a file exactly when there are no
blanks around it. It makes `None` of an empty path. -/
theorem validatePrivateKeyPath_eq_iff {host : Host} {soFar : Dict Json} {u : Json}
    (hu : u = .null ∨ ∃ s, u = .str s ∧
      (s = "" ∨ strip s ≠ "" ∧ host.osPathExists s = true ∧ host.osPathIsFile s = true)) :
    DbConnection.validatePrivateKeyPath host soFar u = .ok u ↔
      ∀ s, u = .str s → s ≠ "" ∧ Trimmed isSpace s.toList := by
  rcases hu with rfl | ⟨s, rfl, rfl | ⟨hne, hexists, hfile⟩⟩
  · refine iff_of_true rfl ?_
    rintro s hs
    cases hs
  · have hnull : DbConnection.validatePrivateKeyPath host soFar (.str "") = .ok .null := rfl
    rw [hnull]
    exact iff_of_false (by simp) fun h => (h "" rfl).1 rfl
  · have hs : s ≠ "" := by
      rintro rfl
      exact hne rfl
    have hleft : DbConnection.validatePrivateKeyPath host soFar (.str s) = .ok (.str s) ↔
        strip s = s := by
      unfold DbConnection.validatePrivateKeyPath
      dsimp only
      rw [if_neg hne]
      constructor
      · intro h
        split at h
        · cases h
        · cases h
        · split at h
          · exact Json.str.inj (Except.ok.inj h)
          · cases h
      · intro hsame
        obtain ⟨hexists, hfile⟩ := host.path_of_osPath s hexists hfile
        rw [hsame, hexists]
        exact if_pos hfile
    rw [hleft]
    have htrimmed : strip s = s ↔ Trimmed isSpace s.toList := stripBy_eq_self_iff
    rw [htrimmed]
    constructor
    · rintro h t ht
      cases ht
      exact ⟨hs, h⟩
    · exact fun h => (h s rfl).2

/-- A path that the legacy model accepts is read as what `validate_private_key_path` makes of it. -/
theorem runtimePathField_reads_iff {host : Host} {soFar : Dict Json} {u w : Json}
    (hu : u = .null ∨ ∃ s, u = .str s) :
    (runtimePathField host).Reads soFar (some u) w ↔
      DbConnection.validatePrivateKeyPath host soFar u = .ok w := by
  have hfixed : (FieldType.nullable .str).Fixes u := by
    rcases hu with rfl | ⟨s, rfl⟩ <;> rfl
  rw [Field.reads_some_iff rfl]
  constructor
  · rintro ⟨x, y, hbefore, hread, hafter⟩
    cases hbefore
    rw [hfixed.eq_of_readJson hread] at hafter
    exact hafter
  · exact fun h => ⟨u, u, rfl, hfixed, h⟩

/-- The fields of `SFTPProperties` read legacy properties if the path is left as it is. -/
theorem reads_sftpFields {host : Host} {payload : Json} {v : Instance}
    (hv : (sftpConnectionProperties host).validate payload = .ok v) {items : Dict Json}
    (hgives : Gives .sftp v.dump items) {u : Json}
    (hu : v.dump.lookup "private_key_path" = some u)
    (hpath : ∀ soFar, (runtimePathField host).Reads soFar (some u) u) :
    ∀ field ∈ sftpFields host, ∀ soFar,
      field.Reads soFar (field.given items) (attr v.dump field.name) := by
  have hother : ∀ key, key ∉ sftpSecretKeys → items.lookup key = v.dump.lookup key :=
    fun key hkey => hgives.lookup_eq (by decide) hkey
  have hfixes := sftpConnectionProperties_fixes hv
  simp only [sftpLegacyFields, List.forall_mem_cons] at hfixes
  obtain ⟨hhost, -, huser, -, -, -, -, hdirectory, hagent, -⟩ := hfixes
  obtain ⟨port, hport, hisPort⟩ := sftp_port hv
  simp only [sftpFields, List.forall_mem_cons]
  refine ⟨?_, ?_, ?_, ?_, ?_, ?_, fun _ h => absurd h List.not_mem_nil⟩
  · exact fun soFar => reads_of_fixes rfl (hother _ (by decide)) hhost
  · exact fun soFar => reads_of_lookup rfl (hother "port" (by decide)) hport
      (portField_reads_of_isPort hisPort)
  · exact fun soFar => reads_of_fixes rfl (hother _ (by decide)) huser
  · exact fun soFar => reads_of_lookup rfl (hother "private_key_path" (by decide)) hu (hpath soFar)
  · exact fun soFar => reads_of_fixes rfl (hother _ (by decide)) hdirectory
  · exact fun soFar => reads_of_fixes rfl (hother _ (by decide)) hagent

/-- The runtime model of SFTP keeps legacy properties with no path of a key or one without blanks
around it. -/
theorem sftp_keeps_iff {host : Host} {payload : Json} {v : Instance}
    (hv : (sftpConnectionProperties host).validate payload = .ok v) {items : Dict Json}
    (hgives : Gives .sftp v.dump items) :
    (∃ r, (sftpProperties host).validate (.obj items) = .ok r ∧
        KeepsProperties .sftp v.dump r.dump) ↔ Transferable .sftp v.dump := by
  have hextra : Extra.ignore ≠ .allow := by decide
  have hnames : ((sftpFields host).map Field.name).Nodup := by
    show ["host", "port", "username", "private_key_path", "initial_directory",
      "allow_agent"].Nodup
    decide
  obtain ⟨u, hu, hpath⟩ : ∃ u, v.dump.lookup "private_key_path" = some u ∧
      (u = .null ∨ ∃ s, u = .str s ∧
        (s = "" ∨ strip s ≠ "" ∧ host.osPathExists s = true ∧ host.osPathIsFile s = true)) := by
    rcases sftp_path hv with hnull | ⟨s, hs, hfile⟩
    · exact ⟨.null, hnull, Or.inl rfl⟩
    · exact ⟨.str s, hs, Or.inr ⟨s, rfl, hfile⟩⟩
  have hready : ∀ soFar, Transferable .sftp v.dump ↔
      (runtimePathField host).Reads soFar (some u) u := by
    intro soFar
    rw [runtimePathField_reads_iff (hpath.imp_right fun ⟨s, hs, _⟩ => ⟨s, hs⟩),
      validatePrivateKeyPath_eq_iff hpath]
    unfold Transferable
    dsimp only
    rw [hu]
    simp only [Option.some.injEq]
  constructor
  · rintro ⟨r, hr, hkeeps⟩
    have hmem : runtimePathField host ∈ sftpFields host := List.mem_of_getElem? (i := 3) rfl
    obtain ⟨w, hw, hread⟩ := ModelDecl.reads_of_validate hextra hnames (fun _ => rfl) hr hmem
    have hw : r.dump.lookup "private_key_path" = some w := hw
    have hgivesPath : items.lookup "private_key_path" = v.dump.lookup "private_key_path" :=
      hgives.lookup_eq (by decide) (by decide)
    rw [given_of_lookup rfl hgivesPath hu] at hread
    rw [hkeeps "private_key_path" u hu (by decide) (by decide)] at hw
    cases hw
    exact (hready _).mpr hread
  · intro htransferable
    have haccept : ∃ r, (sftpProperties host).validate (.obj items) = .ok r ∧
        ∀ key ∈ (sftpFields host).map Field.name,
          r.dump.lookup key = some (attr v.dump key) :=
      ModelDecl.exists_validate_of_reads hextra hnames (fun _ => rfl) (attr v.dump)
        (ModelDecl.extraErrors_of_not_forbid (show Extra.ignore ≠ .forbid by decide) _)
        (reads_sftpFields hv hgives hu fun soFar => (hready soFar).mp htransferable)
    obtain ⟨r, hr, hlookup⟩ := haccept
    have hkeys := sftpConnectionProperties_keys hv
    rw [sftpLegacyFields_names] at hkeys
    refine ⟨r, hr, keepsProperties_of_keys hkeys fun key hkey hsecret _ => hlookup key ?_⟩
    show key ∈ ["host", "port", "username", "private_key_path", "initial_directory", "allow_agent"]
    have hall : ∀ key ∈ ["host", "port", "username", "password", "private_key_path",
        "private_key_passphrase", "private_key_string", "initial_directory", "allow_agent"],
        key ∉ secretKeys .sftp → key ∈ ["host", "port", "username", "private_key_path",
          "initial_directory", "allow_agent"] := by decide
    exact hall key hkey hsecret

/-! ## FTP -/

/-- The fields of `FTPProperties`. -/
def ftpRuntimeFields : List Field :=
  [.required "host" .str, portField 21,
    .of "mode" (.oneOf ["ftp", "ftps_implicit", "ftps_explicit"]) (some (.str "ftp")),
    Field.optional "username" .str, anonymousField, .of "encoding" .str (some (.str "utf-8")),
    Field.optional "initial_directory" .str, Field.optional "ssl_context" .dict,
    .of "verify_ssl" .bool (some (.bool true)), Field.optional "certfile" .str,
    Field.optional "keyfile" .str]

/-- The declaration of `FTPProperties`. -/
def ftpDecl : ModelDecl where
  mro := [packageRef "connectors.ftp" "FTPProperties", baseModelRef]
  fields := ftpRuntimeFields
  extra := .ignore
  post := normalizePortForMode

theorem ftpProperties_eq : ftpProperties = .ofDecl ftpDecl := rfl

/-- `normalize_port_for_mode` changes only the port of implicit FTPS from that of plain FTP, and the
other way round. -/
theorem normalizePortForMode_eq_nil {values : Dict Json} {mode : Json} {n : Int}
    (hmode : values.lookup "mode" = some mode) (hport : values.lookup "port" = some (.int n))
    (himplicit : mode = .str "ftps_implicit" → n ≠ 21) (hftp : mode = .str "ftp" → n ≠ 990) :
    normalizePortForMode values = .ok [] := by
  unfold normalizePortForMode
  rw [hmode, hport]
  split
  · rename_i hm hn
    cases hm
    cases hn
    exact absurd rfl (himplicit rfl)
  · rename_i hm hn
    cases hm
    cases hn
    exact absurd rfl (hftp rfl)
  · rfl

/-- What a port is read as is the port. -/
theorem eq_of_portField_reads {default : Int} {soFar : Dict Json} {n : Int} {w : Json}
    (h : (portField default).Reads soFar (some (.int n)) w) : w = .int n := by
  obtain ⟨v, u, hbefore, hread, hafter⟩ := (Field.reads_some_iff rfl).mp h
  cases hbefore
  cases hread
  have hafter : DbConnection.validatePort soFar (.int n) = .ok w := hafter
  unfold DbConnection.validatePort at hafter
  dsimp only at hafter
  split at hafter
  · exact (Except.ok.inj hafter).symm
  · cases hafter

/-- A mode of FTP that the legacy model accepts, but SFTP, is one that the runtime model accepts. -/
theorem fixes_runtimeMode {mode : Json}
    (hfixes : (FieldType.oneOf ["sftp", "ftp", "ftps_implicit", "ftps_explicit"]).Fixes mode)
    (hsftp : mode ≠ .str "sftp") :
    (FieldType.oneOf ["ftp", "ftps_implicit", "ftps_explicit"]).Fixes mode := by
  have hread : (FieldType.oneOf ["sftp", "ftp", "ftps_implicit", "ftps_explicit"]).readJson mode =
      .ok (.json mode) := hfixes
  cases mode with
  | str s =>
    simp only [FieldType.readJson] at hread
    split at hread
    · rename_i hmem
      refine fixes_oneOf ?_
      rcases List.mem_cons.mp (List.contains_iff_mem.mp hmem) with rfl | hmem
      · exact absurd rfl hsftp
      · exact hmem
    · cases hread
  | _ => cases hread

/-- The runtime model of FTP moves plain FTP from port 990 to 21. -/
theorem ftp_port_of_plain_990 {items : Dict Json} {r : Instance}
    (hr : (ModelClass.ofDecl ftpDecl).validate (.obj items) = .ok r)
    (hmode : items.lookup "mode" = some (.str "ftp"))
    (hport : items.lookup "port" = some (.int 990)) :
    r.dump.lookup "port" = some (.int 21) := by
  obtain ⟨-, out, rewritten, hvalues, hpost, rfl⟩ :=
    (ModelDecl.validate_iff (by decide) (by decide)).mp hr
  have hportMem : portField 21 ∈ ftpRuntimeFields := List.mem_of_getElem? (i := 1) rfl
  have hmodeMem : Field.of "mode" (.oneOf ["ftp", "ftps_implicit", "ftps_explicit"])
      (some (.str "ftp")) ∈ ftpRuntimeFields := List.mem_of_getElem? (i := 2) rfl
  obtain ⟨w, hw, hportRead⟩ := hvalues.reads _ hportMem
  obtain ⟨m, hm, hmodeRead⟩ := hvalues.reads _ hmodeMem
  have hgivenPort : (portField 21).given items = some (.int 990) := hport
  have hgivenMode : Field.given (.of "mode" (.oneOf ["ftp", "ftps_implicit", "ftps_explicit"])
      (some (.str "ftp"))) items = some (.str "ftp") := hmode
  rw [hgivenPort] at hportRead
  rw [hgivenMode, (Field.noValidators _ _ _).reads_some_iff rfl] at hmodeRead
  have hfixed : (FieldType.oneOf ["ftp", "ftps_implicit", "ftps_explicit"]).Fixes (.str "ftp") :=
    fixes_oneOf (by decide)
  have hw : out.lookup "port" = some (.int 990) := eq_of_portField_reads hportRead ▸ hw
  have hm : out.lookup "mode" = some (.str "ftp") := hfixed.eq_of_readJson hmodeRead ▸ hm
  have hset : normalizePortForMode out = .ok [("port", .int 21)] := by
    unfold normalizePortForMode
    rw [hm, hw]
    rfl
  have hpost : normalizePortForMode out = .ok rewritten := hpost
  cases hset.symm.trans hpost
  show (rewrite [("port", .int 21)] out).lookup "port" = some (.int 21)
  rw [lookup_rewrite, hw]
  rfl

/-- `validate_anonymous` leaves the flag of a user with no name, and one that is not set. -/
theorem validateAnonymous_eq {soFar : Dict Json} {a user : Json}
    (huser : soFar.lookup "username" = some user)
    (hnone : a.truthy = true → user.truthy = false) :
    DbConnection.validateAnonymous soFar a = .ok a := by
  unfold DbConnection.validateAnonymous
  rw [huser]
  cases htruthy : a.truthy with
  | false => rfl
  | true =>
    rw [Option.getD_some, hnone htruthy]
    rfl

/-- The values of legacy properties as a record of `FTPProperties`. -/
theorem lookup_ftpRecord (values : Dict Json) (key : String)
    (hkey : key ∈ ftpRuntimeFields.map Field.name) :
    (ftpDecl.recordOf (attr values)).lookup key = some (attr values key) :=
  ModelDecl.lookup_recordOf (by decide) (attr values) hkey

/-- The fields of `FTPProperties` read legacy properties as they are. -/
theorem reads_ftpRuntimeFields {registry : ConnectionRegistry} {payload : Json} {v : Instance}
    (hv : ftpConnectionProperties.validate payload = .ok v)
    (hknown : KnownSettings registry .ftp v.dump) {items : Dict Json}
    (hgives : Gives .ftp v.dump items) :
    ∀ field ∈ ftpRuntimeFields,
      field.Reads (before (ftpDecl.recordOf (attr v.dump)) field.name) (field.given items)
        (attr v.dump field.name) := by
  have hother : ∀ key, key ∉ secretKeys .ftp → items.lookup key = v.dump.lookup key :=
    fun key hkey => hgives.lookup_eq (by decide) hkey
  have hfixes := ftpConnectionProperties_fixes hv
  simp only [ftpLegacyFields, List.forall_mem_cons] at hfixes
  obtain ⟨hhost, -, ⟨mode, hmode, hmodeFixes⟩, huser, -, ⟨a, ha, haFixes⟩, hencoding, hdirectory,
    hssl, hverify, hcert, hkey, -⟩ := hfixes
  have hmode : v.dump.lookup "mode" = some mode := hmode
  have ha : v.dump.lookup "anonymous" = some a := ha
  have hsftp : mode ≠ .str "sftp" := by
    rintro rfl
    exact hknown hmode
  obtain ⟨n, hport, hn, -⟩ := ftp_port hv
  obtain ⟨a', user, ha', hu, hnone⟩ := ftp_anonymous hv
  cases ha.symm.trans ha'
  simp only [ftpRuntimeFields, List.forall_mem_cons]
  refine ⟨?_, ?_, ?_, ?_, ?_, ?_, ?_, ?_, ?_, ?_, ?_, fun _ h => absurd h List.not_mem_nil⟩
  · exact reads_of_fixes rfl (hother _ (by decide)) hhost
  · exact reads_of_lookup rfl (hother "port" (by decide)) hport
      (portField_reads_of_isPort ⟨n, rfl, hn⟩)
  · exact reads_of_fixes rfl (hother _ (by decide))
      ⟨mode, hmode, fixes_runtimeMode hmodeFixes hsftp⟩
  · exact reads_of_fixes rfl (hother _ (by decide)) huser
  · refine reads_of_lookup rfl (hother "anonymous" (by decide)) ha ?_
    -- The user's name stands before the flag in the record.
    have hbefore : (before (ftpDecl.recordOf (attr v.dump)) "anonymous").lookup "username" =
        some user := by
      have hvalue : attr v.dump "username" = user := attr_of_lookup hu
      rw [← hvalue, ← lookup_ftpRecord v.dump "username" (by decide)]
      refine lookup_before ?_
      rw [ModelDecl.keys_recordOf]
      decide
    exact (Field.reads_some_iff rfl).mpr ⟨a, a, rfl, haFixes, validateAnonymous_eq hbefore hnone⟩
  · exact reads_of_fixes rfl (hother _ (by decide)) hencoding
  · exact reads_of_fixes rfl (hother _ (by decide)) hdirectory
  · exact reads_of_fixes rfl (hother _ (by decide)) hssl
  · exact reads_of_fixes rfl (hother _ (by decide)) hverify
  · exact reads_of_fixes rfl (hother _ (by decide)) hcert
  · exact reads_of_fixes rfl (hother _ (by decide)) hkey

/-- The runtime model of FTP keeps legacy properties but those of plain FTP on 990. -/
theorem ftp_keeps_iff {registry : ConnectionRegistry} {payload : Json} {v : Instance}
    (hv : ftpConnectionProperties.validate payload = .ok v)
    (hknown : KnownSettings registry .ftp v.dump) {items : Dict Json}
    (hgives : Gives .ftp v.dump items) :
    (∃ r, ftpProperties.validate (.obj items) = .ok r ∧
        KeepsProperties .ftp v.dump r.dump) ↔ Transferable .ftp v.dump := by
  rw [ftpProperties_eq]
  constructor
  · rintro ⟨r, hr, hkeeps⟩ ⟨hftp, h990⟩
    have hmoved : r.dump.lookup "port" = some (.int 21) :=
      ftp_port_of_plain_990 hr ((hgives.lookup_eq (by decide) (by decide)).trans hftp)
        ((hgives.lookup_eq (by decide) (by decide)).trans h990)
    rw [hkeeps "port" (.int 990) h990 (by decide) (by decide)] at hmoved
    exact absurd hmoved (by decide)
  · intro htransferable
    obtain ⟨n, hport, -, himplicit⟩ := ftp_port hv
    obtain ⟨mode, hmode⟩ : ∃ mode, v.dump.lookup "mode" = some mode := by
      obtain ⟨mode, hmode, -⟩ :=
        ftpConnectionProperties_fixes hv _ (List.mem_of_getElem? (i := 2) rfl)
      exact ⟨mode, hmode⟩
    have hpost : normalizePortForMode (ftpDecl.recordOf (attr v.dump)) = .ok [] := by
      have hmodeValue := lookup_ftpRecord v.dump "mode" (by decide)
      have hportValue := lookup_ftpRecord v.dump "port" (by decide)
      rw [attr_of_lookup hmode] at hmodeValue
      rw [attr_of_lookup hport] at hportValue
      refine normalizePortForMode_eq_nil hmodeValue hportValue ?_ ?_
      · rintro rfl
        exact himplicit hmode
      · rintro rfl rfl
        exact htransferable ⟨hmode, hport⟩
    refine ⟨_, ModelDecl.validate_of_reads (by decide) (by decide) (attr v.dump)
      (ModelDecl.extraErrors_of_not_forbid (by decide) _) hpost
      (reads_ftpRuntimeFields hv hknown hgives), ?_⟩
    refine keepsProperties_of_keys (ftpConnectionProperties_keys hv) fun key hkey hsecret _ =>
      lookup_ftpRecord v.dump key ?_
    revert key
    decide

end DbConnection.Compat
