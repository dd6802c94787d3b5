import DbConnection.Compat.Encryption
import DbConnection.Compat.LegacyReading
import DbConnection.Lib.PydanticUnions

/-!
# The round trip through the column of legacy properties

`process_bind_param` writes the dump of an instance, its sensitive fields encrypted, and
`process_result_value` reads it by the union of the models, which says nothing of the type that made it.
A dump sets more fields of its own model than of any other, so the union reads it by its own
(`columnModels_distinguished`). `column_roundTrip_iff` says for which instances the column gives back
what was written: those that are `Storable`.
-/

namespace DbConnection.Compat

open PyData Pydantic PyText

/-! ## Encryption and decryption -/

/-- The dump as it is after its encryption and decryption. -/
def throughColumn (fernet : Option Fernet) (random : String → Nat) (values : Dict Json) : Dict Json :=
  decryptSensitiveFields fernet (encryptSensitiveFields fernet random values)

/-- No sensitive field has a text that is a token. -/
def Unmarked (fernet : Option Fernet) (values : Dict Json) : Prop :=
  ∀ f, fernet = some f → ∀ key ∈ sensitiveFields, ∀ value, values.lookup key = some value →
    ∀ s, ¬ IsTokenOf f s value

/-- Texts without the marker are no tokens. -/
theorem unmarked_of_plain {fernet : Option Fernet} {values : Dict Json}
    (h : ∀ key ∈ sensitiveFields, ∀ t, values.lookup key = some (.str t) →
      startsWith fernetPrefix t = false) : Unmarked fernet values := by
  rintro f - key hkey value hvalue s ⟨token, rfl, hdecrypt⟩
  have hmarked := h key hkey _ hvalue
  rw [startsWith_append] at hmarked
  cases hmarked

/-- Encryption and decryption keep the keys. -/
theorem keys_throughColumn (fernet : Option Fernet) (random : String → Nat) (values : Dict Json) :
    (throughColumn fernet random values).map Prod.fst = values.map Prod.fst := by
  cases fernet with
  | none => rfl
  | some f => exact (Dict.keys_modifyKeys _ _ _).trans (Dict.keys_modifyKeys _ _ _)

section Through

variable {fernet : Option Fernet} (hfernet : ∀ f, fernet = some f → f.Lawful)
  (random : String → Nat) {values : Dict Json}

/-- A field that is not sensitive is left as it is. -/
theorem lookup_throughColumn_of_not_mem {key : String} (hkey : key ∉ sensitiveFields) :
    (throughColumn fernet random values).lookup key = values.lookup key := by
  cases fernet with
  | none => rfl
  | some f =>
    unfold throughColumn
    rw [lookup_decryptSensitiveFields, if_neg hkey, lookup_encryptSensitiveFields, if_neg hkey]

include hfernet

/-- The sensitive fields are what they were exactly when no text of theirs is a token. -/
theorem unmarked_iff :
    (∀ key ∈ sensitiveFields,
        (throughColumn fernet random values).lookup key = values.lookup key) ↔
      Unmarked fernet values := by
  cases fernet with
  | none => exact iff_of_true (fun _ _ => rfl) fun _ hf => by cases hf
  | some f =>
    have hlaw := hfernet f rfl
    have hkey : ∀ key ∈ sensitiveFields,
        (throughColumn (some f) random values).lookup key = values.lookup key ↔
          ∀ value, values.lookup key = some value → ∀ s, ¬ IsTokenOf f s value := by
      intro key hkey
      unfold throughColumn
      rw [lookup_decryptSensitiveFields, if_pos hkey, lookup_encryptSensitiveFields, if_pos hkey]
      cases values.lookup key with
      | none => simp
      | some value =>
        simp only [Option.map_some, Option.some.injEq, forall_eq']
        exact decryptValue_encryptValue_iff hlaw (random key) value
    constructor
    · rintro h _ ⟨⟩ key hmem
      exact (hkey key hmem).mp (h key hmem)
    · exact fun h key hmem => (hkey key hmem).mpr (h f rfl key hmem)

/-- A dump without tokens is what it was. -/
theorem throughColumn_eq (hnodup : (values.map Prod.fst).Nodup) (h : Unmarked fernet values) :
    throughColumn fernet random values = values := by
  have hkeys := keys_throughColumn fernet random values
  refine Dict.eq_of_lookup hkeys (hkeys ▸ hnodup) fun key _ => ?_
  by_cases hkey : key ∈ sensitiveFields
  · exact (unmarked_iff hfernet random).mpr h key hkey
  · exact lookup_throughColumn_of_not_mem random hkey

end Through

/-! ## The union -/

/-- The members of the union of the column, with the names of their fields. -/
def columnModels (host : Host) : List (List String × ModelClass) :=
  [(["host", "port", "username", "password", "database", "secure", "connect_timeout",
      "send_receive_timeout", "sync_request_timeout", "ca_cert_string", "verify", "driver_name"],
      sqlConnectionProperties),
    (["bootstrap_servers", "security_protocol", "sasl_mechanism", "sasl_plain_username",
      "sasl_plain_password", "client_id", "request_timeout_ms"], kafkaConnectionProperties),
    (["bucket", "region_name", "endpoint_url", "access_token_id", "access_token_key",
      "session_token", "use_ssl", "path_style", "signature_version", "prefix"],
      s3ConnectionProperties host),
    (["host", "port", "mode", "username", "password", "anonymous", "encoding",
      "initial_directory", "ssl_context", "verify_ssl", "certfile", "keyfile"],
      ftpConnectionProperties),
    (["host", "port", "username", "password", "private_key_path", "private_key_passphrase",
      "private_key_string", "initial_directory", "allow_agent"], sftpConnectionProperties host)]

/-- What the column reads. -/
theorem processResultValue_eq_ok_iff {fernet : Option Fernet} {host : Host} {items : Dict Json}
    {v : Instance} :
    processResultValue fernet host (.obj items) = .ok (.model v) ↔
      ∃ p, unionOf "ConnectionPropertiesType" ((columnModels host).map fun member =>
          member.2.parse (.obj (decryptSensitiveFields fernet items))) = .ok p ∧ p.value = v := by
  -- The union is the same one, with the names left out.
  have hunion : unionOf "ConnectionPropertiesType" ((columnModels host).map fun member =>
      member.2.parse (.obj (decryptSensitiveFields fernet items))) =
    unionOf "ConnectionPropertiesType" ([sqlConnectionProperties, kafkaConnectionProperties,
      s3ConnectionProperties host, ftpConnectionProperties, sftpConnectionProperties host].map
        fun m => m.parse (.obj (decryptSensitiveFields fernet items))) := rfl
  rw [hunion]
  unfold processResultValue
  dsimp only
  cases unionOf "ConnectionPropertiesType" ([sqlConnectionProperties, kafkaConnectionProperties,
      s3ConnectionProperties host, ftpConnectionProperties, sftpConnectionProperties host].map
        fun m => m.parse (.obj (decryptSensitiveFields fernet items))) with
  | error e => simp
  | ok p => simp

/-- A dump sets more fields of its own model than of any other. -/
theorem columnModels_distinguished (host : Host) :
    Distinguished ((columnModels host).map Prod.fst) := of_decide_eq_true rfl

theorem columnModels_nodup (host : Host) : ((columnModels host).map Prod.fst).Nodup :=
  of_decide_eq_true rfl

/-- The members have their fields. -/
theorem columnModels_hasFields (host : Host) :
    ∀ member ∈ columnModels host, member.2.HasFields member.1 := by
  simp only [columnModels, List.forall_mem_cons]
  refine ⟨?_, ?_, ?_, ?_, ?_, fun _ h => absurd h List.not_mem_nil⟩
  · exact ModelDecl.hasFields (by decide) (by decide) (by decide) (by decide)
  · exact ModelDecl.hasFields (by decide) (by decide) (by decide) (by decide)
  · have hextra : Extra.ignore ≠ .allow := by decide
    have hplain : ∀ field ∈ s3LegacyFields host, field.type.isPlain = true :=
      of_decide_eq_true rfl
    have halias : ∀ field ∈ s3LegacyFields host, field.validationAlias = none :=
      of_decide_eq_true rfl
    exact ModelDecl.hasFields hextra (s3LegacyFields_nodup host) hplain halias
  · have hfields : ftpFields.HasFields (ftpLegacyFields.map Field.name) :=
      ModelDecl.hasFields (by decide) (by decide) (by decide) (by decide)
    -- The port that is set is one of the fields already.
    have hparse : ∀ payload p, ftpConnectionProperties.parse payload = .ok p →
        ∃ q port, ftpFields.parse payload = .ok q ∧
          p.value.dump = setPort port q.value.dump ∧ p.fieldsSet = q.fieldsSet := by
      intro payload p hp
      unfold ftpConnectionProperties at hp
      dsimp only at hp
      split at hp
      · cases hp
      · rename_i q hq
        cases hp
        exact ⟨q, _, hq, rfl, rfl⟩
    constructor
    · intro payload p hp
      obtain ⟨q, port, hq, hdump, -⟩ := hparse payload p hp
      rw [hdump, setPort_eq_rewrite, map_fst_rewrite]
      exact hfields.keys payload q hq
    · intro payload p hp
      obtain ⟨q, -, hq, -, hset⟩ := hparse (.obj payload) p hp
      rw [hset]
      exact hfields.fieldsSet payload q hq
  · have hextra : Extra.ignore ≠ .allow := by decide
    have hplain : ∀ field ∈ sftpLegacyFields host, field.type.isPlain = true :=
      of_decide_eq_true rfl
    have halias : ∀ field ∈ sftpLegacyFields host, field.validationAlias = none :=
      of_decide_eq_true rfl
    exact ModelDecl.hasFields hextra (sftpLegacyFields_nodup host) hplain halias

/-- The bound on a text's length raises no other exception. -/
theorem maxLength_ne_raised (limit : Nat) (soFar : Dict Json) (value : Json)
    (exc : RaisedException) : maxLength limit soFar value ≠ .error (.raised exc) := by
  unfold maxLength
  repeat' split
  all_goals exact fun h => by cases h

/-- The check of a port raises no other exception. -/
theorem validatePort_ne_raised (soFar : Dict Json) (value : Json) (exc : RaisedException) :
    validatePort soFar value ≠ .error (.raised exc) := by
  unfold validatePort DbConnection.validatePort
  repeat' split
  all_goals exact fun h => by cases h

/-- A text with a bound on its length raises no other exception if the validator before it does
not. -/
theorem boundedStr_before_quiet {name : String} {limit : Nat} {f : Json → Except FieldError Json}
    (hf : ∀ value exc, f value ≠ .error (.raised exc)) :
    Field.Quiet { boundedStr name limit with before := f } :=
  Field.quiet_of_validators rfl hf (maxLength_ne_raised limit)

/-- Plain data that a validator leaves as it is raises no exception. -/
theorem ok_ne_raised (value : Json) (exc : RaisedException) :
    (Except.ok value : Except FieldError Json) ≠ .error (.raised exc) := fun h => by cases h

theorem boundedStr_quiet (name : String) (limit : Nat) : (boundedStr name limit).Quiet :=
  boundedStr_before_quiet ok_ne_raised

theorem portField_quiet (default : Nat) : (portField default).Quiet :=
  Field.quiet_of_validators rfl ok_ne_raised validatePort_ne_raised

/-! The legacy models raise nothing but `ValidationError`. -/

theorem sqlConnectionProperties_quiet : sqlConnectionProperties.Quiet := by
  refine ModelDecl.quiet_ofFields ?_
  simp only [List.forall_mem_cons]
  have hcert : ∀ soFar value exc, maxLength 2048 soFar value ≠ .error (.raised exc) :=
    maxLength_ne_raised 2048
  exact ⟨boundedStr_quiet _ _, Field.quiet_of rfl, boundedStr_quiet _ _,
    Field.quiet_of_validators rfl ok_ne_raised hcert, boundedStr_quiet _ _,
    Field.quiet_of rfl, Field.quiet_of rfl, Field.quiet_of rfl, Field.quiet_of rfl,
    Field.quiet_of rfl, Field.quiet_of rfl, Field.quiet_of rfl,
    fun _ h => absurd h List.not_mem_nil⟩

theorem kafkaConnectionProperties_quiet : kafkaConnectionProperties.Quiet := by
  refine ModelDecl.quiet_ofFields ?_
  simp only [List.forall_mem_cons]
  have hservers : ∀ value exc, ensureList value ≠ .error (.raised exc) := by
    intro value exc h
    unfold ensureList at h
    split at h <;> cases h
  exact ⟨Field.quiet_of_validators rfl hservers fun _ => ok_ne_raised, Field.quiet_of rfl,
    Field.quiet_of rfl, Field.quiet_of rfl, Field.quiet_of rfl, Field.quiet_of rfl,
    Field.quiet_of rfl, fun _ h => absurd h List.not_mem_nil⟩

theorem s3ConnectionProperties_quiet (host : Host) : (s3ConnectionProperties host).Quiet := by
  have hbucket : ∀ value exc, normalizeBucket host value ≠ .error (.raised exc) := by
    intro value exc h
    unfold normalizeBucket at h
    dsimp only at h
    split at h <;> cases h
  have hprefix : ∀ value exc, normalizePrefix host value ≠ .error (.raised exc) := by
    intro value exc h
    unfold normalizePrefix at h
    dsimp only at h
    split at h <;> cases h
  have hendpoint : ∀ value exc, normalizeEndpoint host value ≠ .error (.raised exc) := by
    intro value exc h
    unfold normalizeEndpoint at h
    dsimp only at h
    split at h <;> cases h
  have hfields : ∀ field ∈ s3LegacyFields host, field.Quiet := by
    simp only [s3LegacyFields, List.forall_mem_cons]
    exact ⟨boundedStr_before_quiet hbucket, Field.quiet_of rfl,
      Field.quiet_of_validators rfl hendpoint fun _ => ok_ne_raised, boundedStr_quiet _ _,
      boundedStr_quiet _ _, Field.quiet_of rfl, Field.quiet_of rfl, Field.quiet_of rfl,
      Field.quiet_of rfl, boundedStr_before_quiet hprefix, fun _ h => absurd h List.not_mem_nil⟩
  exact ModelDecl.quiet_ofFields hfields

theorem ftpConnectionProperties_quiet : ftpConnectionProperties.Quiet := by
  have hanonymous : ∀ soFar value exc, validateAnonymous soFar value ≠ .error (.raised exc) := by
    intro soFar value exc h
    unfold validateAnonymous DbConnection.validateAnonymous at h
    split at h <;> cases h
  have hfields : ftpFields.Quiet := by
    refine ModelDecl.quiet_ofFields ?_
    simp only [List.forall_mem_cons]
    exact ⟨Field.quiet_of rfl, portField_quiet 21, Field.quiet_of rfl, Field.quiet_of rfl,
      Field.quiet_of rfl, Field.quiet_of_validators rfl ok_ne_raised hanonymous,
      Field.quiet_of rfl, Field.quiet_of rfl, Field.quiet_of rfl, Field.quiet_of rfl,
      Field.quiet_of rfl, Field.quiet_of rfl, fun _ h => absurd h List.not_mem_nil⟩
  -- The port is corrected in what the fields read.
  intro payload exc h
  unfold ftpConnectionProperties at h
  dsimp only at h
  split at h
  · rename_i e he
    exact hfields payload exc (he.trans (congrArg _ (Except.error.inj h)))
  · cases h

theorem sftpConnectionProperties_quiet (host : Host) :
    (sftpConnectionProperties host).Quiet := by
  have hmethod : ∀ soFar value exc, validateAuthMethod soFar value ≠ .error (.raised exc) := by
    intro soFar value exc h
    unfold validateAuthMethod at h
    dsimp only at h
    split at h <;> cases h
  have hpath : ∀ soFar value exc,
      validatePrivateKeyPath host soFar value ≠ .error (.raised exc) := by
    intro soFar value exc h
    unfold validatePrivateKeyPath at h
    repeat' split at h
    all_goals cases h
  have hfields : ∀ field ∈ sftpLegacyFields host, field.Quiet := by
    simp only [sftpLegacyFields, List.forall_mem_cons]
    exact ⟨Field.quiet_of rfl, portField_quiet 22, Field.quiet_of rfl,
      Field.quiet_of_validators rfl ok_ne_raised hmethod,
      Field.quiet_of_validators rfl ok_ne_raised hpath, Field.quiet_of rfl, Field.quiet_of rfl,
      Field.quiet_of rfl, Field.quiet_of rfl, fun _ h => absurd h List.not_mem_nil⟩
  exact ModelDecl.quiet_ofFields hfields

/-- None of the members raises anything but `ValidationError`. -/
theorem columnModels_quiet (host : Host) : ∀ member ∈ columnModels host, member.2.Quiet := by
  simp only [columnModels, List.forall_mem_cons]
  exact ⟨sqlConnectionProperties_quiet, kafkaConnectionProperties_quiet,
    s3ConnectionProperties_quiet host, ftpConnectionProperties_quiet,
    sftpConnectionProperties_quiet host, fun _ h => absurd h List.not_mem_nil⟩

/-- The model of each type but the custom one is a member, and its instances have the fields of that
member. -/
theorem exists_columnModel {host : Host} {type : ConnectionType} (htype : type ≠ .custom)
    {payload : Json} {v : Instance} (hv : (propertiesModel host type).validate payload = .ok v) :
    ∃ names, (names, propertiesModel host type) ∈ columnModels host ∧ names.Nodup ∧
      v.dump.map Prod.fst = names := by
  have hmem : ∃ names, (names, propertiesModel host type) ∈ columnModels host := by
    cases type with
    | kafka => exact ⟨_, List.mem_of_getElem? (i := 1) rfl⟩
    | s3 => exact ⟨_, List.mem_of_getElem? (i := 2) rfl⟩
    | ftp => exact ⟨_, List.mem_of_getElem? (i := 3) rfl⟩
    | sftp => exact ⟨_, List.mem_of_getElem? (i := 4) rfl⟩
    | custom => exact absurd rfl htype
    | _ => exact ⟨_, List.mem_of_getElem? (i := 0) rfl⟩
  have hnodup : ∀ member ∈ columnModels host, member.1.Nodup := of_decide_eq_true rfl
  obtain ⟨names, hmem⟩ := hmem
  obtain ⟨p, hp, rfl⟩ := ModelClass.validate_eq_ok_iff.mp hv
  exact ⟨names, hmem, hnodup _ hmem, (columnModels_hasFields host _ hmem).keys payload p hp⟩

/-! ## The round trip -/

/-- A text that may be `None` is kept. -/
theorem keepsGiven_optionalStr (name : String) : (Field.optional name .str).KeepsGiven :=
  Field.keepsGiven_of rfl rfl (fun _ => rfl) fun _ _ _ h => (Except.ok.inj h).symm

/-- A bounded text is kept. -/
theorem keepsGiven_boundedStr (name : String) (limit : Nat) : (boundedStr name limit).KeepsGiven :=
  Field.keepsGiven_of rfl rfl (fun _ => rfl) fun soFar u w h =>
    eq_of_maxLength (show maxLength limit soFar u = .ok w from h)

/-! The models of the types have of a record with the keys of their instances the sensitive fields as
they are. -/

section Sensitive

variable {host : Host} {payload : Json} {v w : Instance} {values : Dict Json} {key : String}

/-- `SqlConnectionProperties` has of a record with its keys the password as it is. -/
theorem lookup_sensitive_sql (hv : sqlConnectionProperties.validate payload = .ok v)
    (hkeys : values.map Prod.fst = v.dump.map Prod.fst)
    (hw : sqlConnectionProperties.validate (.obj values) = .ok w) (hkey : key ∈ sensitiveFields) :
    w.dump.lookup key = values.lookup key := by
  rw [sqlConnectionProperties_keys hv] at hkeys
  refine ModelDecl.lookup_of_keepsGiven (by decide) (by decide) (by decide) (fun _ => rfl) hw
    hkeys ?_ hkey
  show ∀ field ∈ [_, _, _, _, _, _, _, _, _, _, _, _], field.name ∈ sensitiveFields →
    Field.KeepsGiven field
  simp only [List.forall_mem_cons]
  have hpassword :
      Field.KeepsGiven { Field.optional "password" .str with after := maxLength 2048 } :=
    Field.keepsGiven_of rfl rfl (fun _ => rfl) fun soFar u w h =>
      eq_of_maxLength (show maxLength 2048 soFar u = .ok w from h)
  exact ⟨Not.elim (by decide), Not.elim (by decide), Not.elim (by decide), fun _ => hpassword,
    Not.elim (by decide), Not.elim (by decide), Not.elim (by decide), Not.elim (by decide),
    Not.elim (by decide), Not.elim (by decide), Not.elim (by decide), Not.elim (by decide),
    fun _ h => absurd h List.not_mem_nil⟩

/-- `KafkaConnectionProperties` has of a record with its keys the password as it is. -/
theorem lookup_sensitive_kafka (hv : kafkaConnectionProperties.validate payload = .ok v)
    (hkeys : values.map Prod.fst = v.dump.map Prod.fst)
    (hw : kafkaConnectionProperties.validate (.obj values) = .ok w)
    (hkey : key ∈ sensitiveFields) : w.dump.lookup key = values.lookup key := by
  rw [kafkaConnectionProperties_keys hv] at hkeys
  refine ModelDecl.lookup_of_keepsGiven (by decide) (by decide) (by decide) (fun _ => rfl) hw
    hkeys ?_ hkey
  show ∀ field ∈ [_, _, _, _, _, _, _], field.name ∈ sensitiveFields → Field.KeepsGiven field
  simp only [List.forall_mem_cons]
  exact ⟨Not.elim (by decide), Not.elim (by decide), Not.elim (by decide), Not.elim (by decide),
    fun _ => keepsGiven_optionalStr _, Not.elim (by decide), Not.elim (by decide),
    fun _ h => absurd h List.not_mem_nil⟩

/-- `S3ConnectionProperties` has of a record with its keys the tokens as they are. -/
theorem lookup_sensitive_s3 (hv : (s3ConnectionProperties host).validate payload = .ok v)
    (hkeys : values.map Prod.fst = v.dump.map Prod.fst)
    (hw : (s3ConnectionProperties host).validate (.obj values) = .ok w)
    (hkey : key ∈ sensitiveFields) : w.dump.lookup key = values.lookup key := by
  rw [s3ConnectionProperties_keys hv] at hkeys
  have hextra : Extra.ignore ≠ .allow := by decide
  have hkeeps : ∀ field ∈ s3LegacyFields host, field.name ∈ sensitiveFields →
      field.KeepsGiven := by
    simp only [s3LegacyFields, List.forall_mem_cons]
    exact ⟨Not.elim (of_decide_eq_true rfl), Not.elim (by decide),
      Not.elim (of_decide_eq_true rfl), fun _ => keepsGiven_boundedStr _ _,
      fun _ => keepsGiven_boundedStr _ _, fun _ => keepsGiven_optionalStr _,
      Not.elim (by decide), Not.elim (by decide), Not.elim (by decide),
      Not.elim (of_decide_eq_true rfl), fun _ h => absurd h List.not_mem_nil⟩
  exact ModelDecl.lookup_of_keepsGiven hextra (s3LegacyFields_nodup host) (of_decide_eq_true rfl)
    (fun _ => rfl) hw hkeys hkeeps hkey

/-- `FTPConnectionProperties` has of a record with its keys the password as it is. The port that its
validator sets is no secret. -/
theorem lookup_sensitive_ftp (hv : ftpConnectionProperties.validate payload = .ok v)
    (hkeys : values.map Prod.fst = v.dump.map Prod.fst)
    (hw : ftpConnectionProperties.validate (.obj values) = .ok w) (hkey : key ∈ sensitiveFields) :
    w.dump.lookup key = values.lookup key := by
  rw [ftpConnectionProperties_keys hv] at hkeys
  obtain ⟨u, hu, rfl⟩ := ftp_validate_iff.mp hw
  have hkeeps : ∀ field ∈ ftpLegacyFields, field.name ∈ sensitiveFields → field.KeepsGiven := by
    simp only [ftpLegacyFields, List.forall_mem_cons]
    exact ⟨Not.elim (by decide), Not.elim (by decide), Not.elim (by decide),
      Not.elim (by decide), fun _ => keepsGiven_optionalStr _, Not.elim (by decide),
      Not.elim (by decide), Not.elim (by decide), Not.elim (by decide), Not.elim (by decide),
      Not.elim (by decide), Not.elim (by decide), fun _ h => absurd h List.not_mem_nil⟩
  have hsame : u.dump.lookup key = values.lookup key :=
    ModelDecl.lookup_of_keepsGiven (by decide) (by decide) (by decide) (fun _ => rfl) hu hkeys
      hkeeps hkey
  have hport : key ≠ "port" := by
    rintro rfl
    exact absurd hkey (by decide)
  dsimp only
  rw [lookup_setPort, hsame]
  simp [hport]

/-- `SFTPConnectionProperties` has of a record with its keys the password as it is. -/
theorem lookup_sensitive_sftp (hv : (sftpConnectionProperties host).validate payload = .ok v)
    (hkeys : values.map Prod.fst = v.dump.map Prod.fst)
    (hw : (sftpConnectionProperties host).validate (.obj values) = .ok w)
    (hkey : key ∈ sensitiveFields) : w.dump.lookup key = values.lookup key := by
  rw [sftpConnectionProperties_keys hv] at hkeys
  have hextra : Extra.ignore ≠ .allow := by decide
  have hkeeps : ∀ field ∈ sftpLegacyFields host, field.name ∈ sensitiveFields →
      field.KeepsGiven := by
    simp only [sftpLegacyFields, List.forall_mem_cons]
    exact ⟨Not.elim (by decide), Not.elim (by decide), Not.elim (by decide),
      fun _ => Field.keepsGiven_of rfl rfl (fun _ => rfl) fun _ _ _ => eq_of_validateAuthMethod,
      Not.elim (of_decide_eq_true rfl), Not.elim (by decide), Not.elim (by decide),
      Not.elim (by decide), Not.elim (by decide), fun _ h => absurd h List.not_mem_nil⟩
  exact ModelDecl.lookup_of_keepsGiven hextra (sftpLegacyFields_nodup host)
    (of_decide_eq_true rfl) (fun _ => rfl) hw hkeys hkeeps hkey

end Sensitive

/-- A model has of a record with its keys the sensitive fields as they are. -/
theorem lookup_sensitive {host : Host} {type : ConnectionType} (htype : type ≠ .custom)
    {payload : Json} {v : Instance} (hv : (propertiesModel host type).validate payload = .ok v)
    {values : Dict Json} (hkeys : values.map Prod.fst = v.dump.map Prod.fst) {w : Instance}
    (hw : (propertiesModel host type).validate (.obj values) = .ok w) {key : String}
    (hkey : key ∈ sensitiveFields) : w.dump.lookup key = values.lookup key := by
  cases type with
  | kafka => exact lookup_sensitive_kafka hv hkeys hw hkey
  | s3 => exact lookup_sensitive_s3 hv hkeys hw hkey
  | ftp => exact lookup_sensitive_ftp hv hkeys hw hkey
  | sftp => exact lookup_sensitive_sftp hv hkeys hw hkey
  | custom => exact absurd rfl htype
  | _ => exact lookup_sensitive_sql hv hkeys hw hkey

/-- An instance that the column gives back. -/
structure Storable (fernet : Option Fernet) (type : ConnectionType) (values : Dict Json) : Prop where
  /-- There is no custom model in the union. -/
  inUnion : type ≠ .custom
  /-- The model leaves the values as they are. -/
  rereadable : Rereadable type values
  /-- No sensitive text is taken for a ciphertext. -/
  unmarked : Unmarked fernet values

/-- Custom properties are refused. -/
theorem processBindParam_custom {fernet : Option Fernet} {random : String → Nat} {payload : Json}
    {v : Instance} (hv : customConnectionProperties.validate payload = .ok v) (stored : Json) :
    processBindParam fernet random (.model v) ≠ .ok stored := by
  have hmro := (ModelDecl.instance_of_validate hv).1
  have hnone : (connectionPropertiesType.any fun cls => v.isInstance cls) = false := by
    unfold Instance.isInstance
    rw [hmro]
    decide
  unfold processBindParam
  dsimp only
  rw [hnone]
  exact fun h => by cases h

/-- Properties of the other types are written. -/
theorem processBindParam_model {fernet : Option Fernet} {random : String → Nat} {host : Host}
    {type : ConnectionType} (htype : type ≠ .custom) {payload : Json} {v : Instance}
    (hv : (propertiesModel host type).validate payload = .ok v) :
    processBindParam fernet random (.model v) =
      .ok (.obj (encryptSensitiveFields fernet random v.dump)) := by
  unfold processBindParam
  dsimp only
  rw [isInstance_connectionPropertiesType htype hv]
  rfl

/-- The column gives back an instance exactly where the type's model makes it of the dump after its
encryption and decryption. -/
theorem processResultValue_iff {fernet : Option Fernet} {random : String → Nat} {host : Host}
    {type : ConnectionType} (htype : type ≠ .custom) {payload : Json} {v : Instance}
    (hv : (propertiesModel host type).validate payload = .ok v) :
    processResultValue fernet host (.obj (encryptSensitiveFields fernet random v.dump)) =
        .ok (.model v) ↔
      (propertiesModel host type).validate (.obj (throughColumn fernet random v.dump)) = .ok v := by
  obtain ⟨names, hmem, -, hnames⟩ := exists_columnModel htype hv
  have hkeys := keys_throughColumn fernet random v.dump
  rw [processResultValue_eq_ok_iff]
  exact exists_unionOf_record_iff (columnModels_hasFields host) (columnModels_nodup host) hmem
    (columnModels_distinguished host) (columnModels_quiet host) (hkeys.trans hnames) hnames

/-- What is written of an instance is read as the instance exactly where it is storable. -/
theorem exists_stored_iff {fernet : Option Fernet} (hfernet : ∀ f, fernet = some f → f.Lawful)
    {host : Host} {type : ConnectionType} {payload : Json} {v : Instance}
    (hv : (propertiesModel host type).validate payload = .ok v) (random : String → Nat) :
    (∃ stored, processBindParam fernet random (.model v) = .ok stored ∧
        processResultValue fernet host stored = .ok (.model v)) ↔ Storable fernet type v.dump := by
  by_cases htype : type = .custom
  · subst htype
    refine iff_of_false ?_ fun h => h.inUnion rfl
    rintro ⟨stored, hstored, -⟩
    exact processBindParam_custom hv stored hstored
  · have hwritten : (∃ stored, processBindParam fernet random (.model v) = .ok stored ∧
          processResultValue fernet host stored = .ok (.model v)) ↔
        (propertiesModel host type).validate (.obj (throughColumn fernet random v.dump)) =
          .ok v := by
      rw [processBindParam_model htype hv, ← processResultValue_iff htype hv]
      simp
    have hnodup : (v.dump.map Prod.fst).Nodup := by
      obtain ⟨names, -, hnodup, hnames⟩ := exists_columnModel htype hv
      rwa [hnames]
    rw [hwritten]
    constructor
    · intro hback
      have hunmarked : Unmarked fernet v.dump := by
        rw [← unmarked_iff hfernet random]
        intro key hkey
        exact (lookup_sensitive htype hv (keys_throughColumn fernet random v.dump) hback
          hkey).symm
      rw [throughColumn_eq hfernet random hnodup hunmarked,
        propertiesModel_readsBack_iff htype hv] at hback
      exact ⟨htype, hback, hunmarked⟩
    · intro h
      rw [throughColumn_eq hfernet random hnodup h.unmarked,
        propertiesModel_readsBack_iff htype hv]
      exact h.rereadable

/-- For every type, every properties value that its model accepts, and with or without a Fernet: the
column writes the value and gives it back exactly if it is storable. -/
theorem column_roundTrip_iff {fernet : Option Fernet} (hfernet : ∀ f, fernet = some f → f.Lawful)
    {host : Host} {type : ConnectionType} {payload : Json} {v : Instance}
    (hv : (propertiesModel host type).validate payload = .ok v) (random : String → Nat) :
    (∃ stored, processBindParam fernet random (.model v) = .ok stored ∧
        processResultValue fernet host stored = .ok (.model v)) ↔ Storable fernet type v.dump :=
  exists_stored_iff hfernet hv random

/-- A payload of an S3 connection with a prefix. -/
def prefixPayload (path : String) : Json :=
  .obj [("bucket", .str "backups"), ("access_token_id", .str "id"),
    ("access_token_key", .str "key"), ("prefix", .str path)]

/-- A bucket with a plain prefix comes back, its keys encrypted on the way. -/
theorem column_roundTrip_bucket :
    ∃ v, (propertiesModel emptyHost .s3).validate (prefixPayload "daily") = .ok v ∧
      ∃ stored, processBindParam (some markFernet) (fun _ => 0) (.model v) = .ok stored ∧
        processResultValue (some markFernet) emptyHost stored = .ok (.model v) := by
  refine ⟨_, rfl, ?_⟩
  have hv : (propertiesModel emptyHost .s3).validate (prefixPayload "daily") = .ok _ := rfl
  have hlawful : ∀ f, some markFernet = some f → f.Lawful := by
    rintro _ ⟨⟩
    exact lawful_markFernet
  refine (column_roundTrip_iff hlawful hv (fun _ => 0)).mpr ⟨by decide, ?_, ?_⟩
  · intro s hs
    have hs : some (Json.str "daily") = some (.str s) := hs
    cases hs
    constructor
    · intro c hc
      have hc : some 'd' = some c := hc
      cases hc
      rfl
    · intro c hc
      have hc : some 'y' = some c := hc
      cases hc
      rfl
  · refine unmarked_of_plain ?_
    simp only [sensitiveFields, List.forall_mem_cons]
    refine ⟨?_, ?_, ?_, ?_, ?_, fun _ h => absurd h List.not_mem_nil⟩ <;> rintro t ⟨⟩ <;> decide

/-- A prefix with blanks between slashes comes back without its slash. -/
theorem column_changes_prefix :
    ∃ v stored w, (propertiesModel emptyHost .s3).validate (prefixPayload "/ /daily") = .ok v ∧
      processBindParam none (fun _ => 0) (.model v) = .ok stored ∧
      processResultValue none emptyHost stored = .ok (.model w) ∧
      v.dump.lookup "prefix" = some (.str "/daily") ∧
      w.dump.lookup "prefix" = some (.str "daily") := by
  refine ⟨_, _, _, rfl, rfl, rfl, ?_, ?_⟩
  · decide
  · decide

end DbConnection.Compat
