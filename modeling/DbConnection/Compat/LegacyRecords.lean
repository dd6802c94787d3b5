import DbConnection.Compat.Properties
import DbConnection.Lib.PydanticTransfer
import DbConnection.NormalisationStability

/-!
# The records of the legacy models

Which values the fields of the legacy properties can have. Each is one that its type reads as it is;
the validators of the S3, FTP and SFTP models add what they normalise or check.
-/

namespace DbConnection.Compat

open PyData Pydantic PyText

/-! ## Typed fields -/

/-- The bound on the length of texts leaves what it accepts. -/
theorem eq_of_maxLength {limit : Nat} {soFar : Dict Json} {u w : Json}
    (h : maxLength limit soFar u = .ok w) : w = u := by
  unfold maxLength at h
  split at h
  · split at h
    · exact (Except.ok.inj h).symm
    · cases h
  · exact (Except.ok.inj h).symm

/-- A field whose validator bounds the length of its texts is typed. -/
theorem typed_maxLength {field : Field} {limit : Nat} (hafter : field.after = maxLength limit)
    (hp : field.type.isPlain = true) (hdefault : ∀ d, field.default = some d → field.type.Fixes d) :
    field.Typed := by
  refine Field.typed_of hp ?_ hdefault
  intro soFar u w hfixes hw
  rw [hafter] at hw
  rwa [eq_of_maxLength hw]

theorem typed_boundedStr (name : String) (limit : Nat) : (boundedStr name limit).Typed :=
  typed_maxLength rfl rfl fun _ hd => by cases hd

/-- A port is typed. -/
theorem typed_port (default : Int) : (portField default).Typed := by
  refine Field.typed_of rfl ?_ ?_
  · intro soFar u w hfixes hw
    have hw : DbConnection.validatePort soFar u = .ok w := hw
    unfold DbConnection.validatePort at hw
    split at hw
    · split at hw
      · cases hw
        exact hfixes
      · cases hw
    · cases hw
      exact hfixes
  · intro d hd
    cases hd
    rfl

/-- `validate_anonymous` leaves what it accepts, and a user who logs in anonymously has no name. -/
theorem validateAnonymous_spec {soFar : Dict Json} {u w : Json}
    (h : DbConnection.validateAnonymous soFar u = .ok w) :
    w = u ∧ (u.truthy = true → ((soFar.lookup "username").getD .null).truthy = false) := by
  unfold DbConnection.validateAnonymous at h
  split at h
  · cases h
  · rename_i hnone
    refine ⟨(Except.ok.inj h).symm, fun htruthy => ?_⟩
    rw [htruthy, Bool.true_and] at hnone
    exact Bool.eq_false_iff.mpr hnone

/-- The switch `anonymous` is typed. -/
theorem typed_anonymous : anonymousField.Typed := by
  refine Field.typed_of rfl ?_ fun d hd => by cases hd; rfl
  intro soFar u w hfixes hw
  rwa [(validateAnonymous_spec hw).1]

/-! ## SQL and Kafka -/

/-- The keys of legacy SQL properties. -/
theorem sqlConnectionProperties_keys {payload : Json} {v : Instance}
    (hv : sqlConnectionProperties.validate payload = .ok v) :
    v.dump.map Prod.fst = ["host", "port", "username", "password", "database", "secure",
      "connect_timeout", "send_receive_timeout", "sync_request_timeout", "ca_cert_string", "verify",
      "driver_name"] := by
  rw [(ModelDecl.instance_of_validate hv).2]
  exact ModelDecl.keys_of_validate (by decide) (by decide) hv

/-- The values of legacy SQL properties. -/
theorem sqlConnectionProperties_fixes {payload : Json} {v : Instance}
    (hv : sqlConnectionProperties.validate payload = .ok v) :
    ∀ field ∈ [boundedStr "host" 255, .required "port" .int, boundedStr "username" 100,
        { Field.optional "password" .str with after := maxLength 2048 }, boundedStr "database" 255,
        .of "secure" (.nullable .bool) (some (.bool false)),
        .of "connect_timeout" (.nullable .int) (some (.int 30)),
        .of "send_receive_timeout" (.nullable .int) (some (.int 60)),
        .of "sync_request_timeout" (.nullable .int) (some (.int 60)),
        .optional "ca_cert_string" .str, .of "verify" (.nullable .bool) (some (.bool false)),
        .optional "driver_name" .str],
      ∃ w, v.dump.lookup field.name = some w ∧ field.type.Fixes w := by
  intro field hf
  refine ModelDecl.fixes_of_validate (by decide) (by decide) (fun _ => rfl) hv hf ?_
  revert field
  simp only [List.forall_mem_cons]
  exact ⟨typed_boundedStr _ _, Field.typed_required rfl, typed_boundedStr _ _,
    typed_maxLength rfl rfl (fun d hd => by cases hd; rfl), typed_boundedStr _ _,
    Field.typed_default rfl rfl, Field.typed_default rfl rfl, Field.typed_default rfl rfl,
    Field.typed_default rfl rfl, Field.typed_optional rfl, Field.typed_default rfl rfl,
    Field.typed_optional rfl, fun _ h => absurd h List.not_mem_nil⟩

/-- The keys of legacy Kafka properties. -/
theorem kafkaConnectionProperties_keys {payload : Json} {v : Instance}
    (hv : kafkaConnectionProperties.validate payload = .ok v) :
    v.dump.map Prod.fst = ["bootstrap_servers", "security_protocol", "sasl_mechanism",
      "sasl_plain_username", "sasl_plain_password", "client_id", "request_timeout_ms"] := by
  rw [(ModelDecl.instance_of_validate hv).2]
  exact ModelDecl.keys_of_validate (by decide) (by decide) hv

/-- The values of legacy Kafka properties. -/
theorem kafkaConnectionProperties_fixes {payload : Json} {v : Instance}
    (hv : kafkaConnectionProperties.validate payload = .ok v) :
    ∀ field ∈ [{ Field.required "bootstrap_servers" .strList with before := ensureList },
        .of "security_protocol" .str (some (.str "PLAINTEXT")), .optional "sasl_mechanism" .str,
        .optional "sasl_plain_username" .str, .optional "sasl_plain_password" .str,
        .of "client_id" (.nullable .str) (some (.str "kafka_client")),
        .of "request_timeout_ms" .int (some (.int 30000))],
      ∃ w, v.dump.lookup field.name = some w ∧ field.type.Fixes w := by
  intro field hf
  refine ModelDecl.fixes_of_validate (by decide) (by decide) (fun _ => rfl) hv hf ?_
  revert field
  simp only [List.forall_mem_cons]
  exact ⟨Field.typed_plain rfl (fun _ _ => rfl) (fun _ hd => by cases hd),
    Field.typed_default rfl rfl, Field.typed_optional rfl, Field.typed_optional rfl,
    Field.typed_optional rfl, Field.typed_default rfl rfl, Field.typed_default rfl rfl,
    fun _ h => absurd h List.not_mem_nil⟩

/-! ## S3 -/

/-- The field `prefix` of `S3ConnectionProperties`. -/
def legacyPrefixField (host : Host) : Field :=
  { boundedStr "prefix" 512 with before := normalizePrefix host }

/-- The fields of `S3ConnectionProperties`. -/
def s3LegacyFields (host : Host) : List Field :=
  [{ boundedStr "bucket" 255 with before := normalizeBucket host }, .optional "region_name" .str,
    { Field.optional "endpoint_url" .str with before := normalizeEndpoint host },
    boundedStr "access_token_id" 2048, boundedStr "access_token_key" 2048,
    .optional "session_token" .str, .of "use_ssl" .bool (some (.bool true)),
    .of "path_style" .bool (some (.bool false)), .optional "signature_version" .str,
    legacyPrefixField host]

theorem s3LegacyFields_names (host : Host) :
    (s3LegacyFields host).map Field.name = ["bucket", "region_name", "endpoint_url",
      "access_token_id", "access_token_key", "session_token", "use_ssl", "path_style",
      "signature_version", "prefix"] := rfl

theorem s3LegacyFields_nodup (host : Host) : ((s3LegacyFields host).map Field.name).Nodup := by
  rw [s3LegacyFields_names]
  decide

/-- What the fields of legacy S3 properties read. -/
theorem s3ConnectionProperties_reads {host : Host} {items : Dict Json} {v : Instance}
    (hv : (s3ConnectionProperties host).validate (.obj items) = .ok v) {field : Field}
    (hf : field ∈ s3LegacyFields host) :
    ∃ w, v.dump.lookup field.name = some w ∧
      field.Reads (before v.dump field.name) (field.given items) w := by
  have hextra : Extra.ignore ≠ .allow := by decide
  exact ModelDecl.reads_of_validate hextra (s3LegacyFields_nodup host) (fun _ => rfl) hv hf

/-- The keys of legacy S3 properties. -/
theorem s3ConnectionProperties_keys {host : Host} {payload : Json} {v : Instance}
    (hv : (s3ConnectionProperties host).validate payload = .ok v) :
    v.dump.map Prod.fst = (s3LegacyFields host).map Field.name := by
  have hextra : Extra.ignore ≠ .allow := by decide
  rw [(ModelDecl.instance_of_validate hv).2]
  exact ModelDecl.keys_of_validate hextra (s3LegacyFields_nodup host) hv

/-- The values of legacy S3 properties. -/
theorem s3ConnectionProperties_fixes {host : Host} {payload : Json} {v : Instance}
    (hv : (s3ConnectionProperties host).validate payload = .ok v) :
    ∀ field ∈ s3LegacyFields host,
      ∃ w, v.dump.lookup field.name = some w ∧ field.type.Fixes w := by
  have htyped : ∀ field ∈ s3LegacyFields host, field.Typed := by
    simp only [s3LegacyFields, List.forall_mem_cons]
    exact ⟨typed_maxLength rfl rfl (fun _ hd => by cases hd), Field.typed_optional rfl,
      Field.typed_plain rfl (fun _ _ => rfl) (fun d hd => by cases hd; rfl), typed_boundedStr _ _,
      typed_boundedStr _ _, Field.typed_optional rfl, Field.typed_default rfl rfl,
      Field.typed_default rfl rfl, Field.typed_optional rfl,
      typed_maxLength rfl rfl (fun _ hd => by cases hd), fun _ h => absurd h List.not_mem_nil⟩
  obtain ⟨items, rfl⟩ := ModelDecl.exists_obj_of_validate hv
  intro field hf
  obtain ⟨w, hw, hr⟩ := s3ConnectionProperties_reads hv hf
  exact ⟨w, hw, htyped field hf _ _ _ hr⟩

/-- A text with a bound on its length that must be given is what the validator before it makes. -/
theorem text_of_reads {name : String} {limit : Nat} {f : Json → Except FieldError Json}
    {soFar : Dict Json} {given : Option Json} {w : Json}
    (h : Field.Reads { boundedStr name limit with before := f } soFar given w) :
    ∃ value s, given = some value ∧ f value = .ok (.str s) ∧ w = .str s ∧ s.length ≤ limit := by
  cases given with
  | none => cases h
  | some value =>
    obtain ⟨v, u, hbefore, hread, hafter⟩ := (Field.reads_some_iff rfl).mp h
    have hread : FieldType.str.readJson v = .ok (.json u) := hread
    cases v with
    | str s =>
      cases hread
      have hafter : maxLength limit soFar (.str s) = .ok w := hafter
      unfold maxLength at hafter
      dsimp only at hafter
      split at hafter
      · rename_i hle
        cases hafter
        exact ⟨value, s, rfl, hbefore, rfl, hle⟩
      · cases hafter
    | _ => cases hread

/-- The bucket of legacy S3 properties is a text without blanks around it. -/
theorem s3_bucket {host : Host} {payload : Json} {v : Instance}
    (hv : (s3ConnectionProperties host).validate payload = .ok v) :
    ∃ s, v.dump.lookup "bucket" = some (.str s) ∧ strip s = s ∧ s ≠ "" := by
  obtain ⟨items, rfl⟩ := ModelDecl.exists_obj_of_validate hv
  obtain ⟨w, hw, hr⟩ := s3ConnectionProperties_reads hv
    (List.mem_cons_self : { boundedStr "bucket" 255 with before := normalizeBucket host } ∈ _)
  obtain ⟨value, s, -, hs, rfl, -⟩ := text_of_reads hr
  unfold normalizeBucket at hs
  dsimp only at hs
  split at hs
  · cases hs
  · rename_i hne
    have hsame : _ = s := Json.str.inj (Except.ok.inj hs)
    rw [hsame] at hne
    refine ⟨s, hw, ?_, hne⟩
    rw [← hsame]
    exact stripBy_stripBy _ _

/-- The prefix of legacy S3 properties is a text without blanks around it. -/
theorem s3_prefix {host : Host} {payload : Json} {v : Instance}
    (hv : (s3ConnectionProperties host).validate payload = .ok v) :
    ∃ s, v.dump.lookup "prefix" = some (.str s) ∧ strip s = s ∧ s ≠ "" ∧ s.length ≤ 512 := by
  obtain ⟨items, rfl⟩ := ModelDecl.exists_obj_of_validate hv
  have hlast : (s3LegacyFields host)[9]? = some (legacyPrefixField host) := rfl
  have hmem : legacyPrefixField host ∈ s3LegacyFields host := List.mem_of_getElem? hlast
  obtain ⟨w, hw, hr⟩ := s3ConnectionProperties_reads hv hmem
  obtain ⟨value, s, -, hs, rfl, hlength⟩ := text_of_reads hr
  unfold normalizePrefix at hs
  dsimp only at hs
  split at hs
  · cases hs
  · rename_i hne
    have hsame : _ = s := Json.str.inj (Except.ok.inj hs)
    rw [hsame] at hne
    refine ⟨s, hw, ?_, hne, hlength⟩
    rw [← hsame]
    exact stripBy_stripBy _ _

/-! ## FTP -/

/-- The fields of `FTPConnectionProperties`. -/
def ftpLegacyFields : List Field :=
  [.required "host" .str, portField 21,
    .of "mode" (.oneOf ["sftp", "ftp", "ftps_implicit", "ftps_explicit"]) (some (.str "ftp")),
    .optional "username" .str, .optional "password" .str, anonymousField,
    .of "encoding" .str (some (.str "utf-8")), .optional "initial_directory" .str,
    .optional "ssl_context" .dict, .of "verify_ssl" .bool (some (.bool true)),
    .optional "certfile" .str, .optional "keyfile" .str]

/-- What `FTPConnectionProperties` makes of a payload: the fields, and the port for the mode. -/
theorem ftp_validate_iff {payload : Json} {v : Instance} :
    ftpConnectionProperties.validate payload = .ok v ↔
      ∃ w, ftpFields.validate payload = .ok w ∧
        v = ⟨w.mro, setPort (validateModePort payload w.dump) w.dump,
          setPort (validateModePort payload w.dump) w.dumpJson⟩ := by
  unfold ModelClass.validate ftpConnectionProperties
  dsimp only
  cases ftpFields.parse payload with
  | error e => simp
  | ok r => simp [eq_comm]

/-- The values where the port is set. -/
theorem lookup_setPort (port : Option Int) (values : Dict Json) (key : String) :
    (setPort port values).lookup key =
      (values.lookup key).map fun w => if key = "port" then (port.map Json.int).getD w else w :=
  Dict.lookup_map_key (fun k w => if k = "port" then (port.map Json.int).getD w else w) values key

/-- The port for the mode is a port. -/
theorem validateModePort_isPort {payload : Json} {values : Dict Json} {n : Int}
    (h : validateModePort payload values = some n) : n = 990 ∨ n = 21 := by
  unfold validateModePort at h
  split at h
  · cases h
  · split at h
    · exact Or.inl (Option.some.inj h).symm
    · exact Or.inr (Option.some.inj h).symm
    · cases h

section Ftp

variable {items : Dict Json} {w v : Instance}

/-- What the fields of legacy FTP properties read. -/
theorem ftpFields_reads (hw : ftpFields.validate (.obj items) = .ok w) {field : Field}
    (hf : field ∈ ftpLegacyFields) :
    ∃ u, w.dump.lookup field.name = some u ∧
      field.Reads (before w.dump field.name) (field.given items) u :=
  ModelDecl.reads_of_validate (by decide) (by decide) (fun _ => rfl) hw hf

/-- The keys of legacy FTP properties. -/
theorem ftpConnectionProperties_keys {payload : Json}
    (hv : ftpConnectionProperties.validate payload = .ok v) :
    v.dump.map Prod.fst = ftpLegacyFields.map Field.name := by
  obtain ⟨w, hw, rfl⟩ := ftp_validate_iff.mp hv
  have hkeys := ModelDecl.keys_of_validate (by decide) (by decide) hw
  rw [← (ModelDecl.instance_of_validate hw).2] at hkeys
  show (setPort _ w.dump).map Prod.fst = _
  unfold setPort
  rw [List.map_map]
  exact hkeys

/-- The values of legacy FTP properties. -/
theorem ftpConnectionProperties_fixes {payload : Json}
    (hv : ftpConnectionProperties.validate payload = .ok v) :
    ∀ field ∈ ftpLegacyFields, ∃ u, v.dump.lookup field.name = some u ∧ field.type.Fixes u := by
  have htyped : ∀ field ∈ ftpLegacyFields, field.Typed := by
    simp only [ftpLegacyFields, List.forall_mem_cons]
    exact ⟨Field.typed_required rfl, typed_port 21, Field.typed_default rfl rfl,
      Field.typed_optional rfl, Field.typed_optional rfl, typed_anonymous,
      Field.typed_default rfl rfl, Field.typed_optional rfl, Field.typed_optional rfl,
      Field.typed_default rfl rfl, Field.typed_optional rfl, Field.typed_optional rfl,
      fun _ h => absurd h List.not_mem_nil⟩
  obtain ⟨w, hw, rfl⟩ := ftp_validate_iff.mp hv
  obtain ⟨items, rfl⟩ := ModelDecl.exists_obj_of_validate hw
  intro field hf
  obtain ⟨u, hu, hr⟩ := ftpFields_reads hw hf
  have hfixes := htyped field hf _ _ _ hr
  dsimp only
  rw [lookup_setPort, hu]
  refine ⟨_, rfl, ?_⟩
  split
  · rename_i hname
    cases validateModePort (.obj items) w.dump with
    | none => exact hfixes
    | some n =>
      -- The field of that name is the port.
      have hport : ∀ field ∈ ftpLegacyFields, field.name = "port" → field.type.Fixes (.int n) := by
        simp only [ftpLegacyFields, List.forall_mem_cons]
        refine ⟨?_, fun _ => rfl, ?_, ?_, ?_, ?_, ?_, ?_, ?_, ?_, ?_, ?_,
          fun _ h => absurd h List.not_mem_nil⟩ <;> exact fun h => absurd h (by decide)
      exact hport field hf hname
  · exact hfixes

/-- The port of legacy FTP properties is a port, and not the one of plain FTP where the mode is implicit
FTPS. -/
theorem ftp_port {payload : Json} (hv : ftpConnectionProperties.validate payload = .ok v) :
    ∃ n, v.dump.lookup "port" = some (.int n) ∧ (1 ≤ n ∧ n ≤ 65535) ∧
      (v.dump.lookup "mode" = some (.str "ftps_implicit") → n ≠ 21) := by
  obtain ⟨w, hw, rfl⟩ := ftp_validate_iff.mp hv
  obtain ⟨items, rfl⟩ := ModelDecl.exists_obj_of_validate hw
  have hportMem : portField 21 ∈ ftpLegacyFields := List.mem_of_getElem? (i := 1) rfl
  have hmodeMem : Field.of "mode" (.oneOf ["sftp", "ftp", "ftps_implicit", "ftps_explicit"])
      (some (.str "ftp")) ∈ ftpLegacyFields := List.mem_of_getElem? (i := 2) rfl
  obtain ⟨u, hport, hread⟩ := ftpFields_reads hw hportMem
  obtain ⟨n, rfl, hn⟩ := portField_isPort (by decide) hread
  have hport : w.dump.lookup "port" = some (.int n) := hport
  obtain ⟨m, hmode, hmodeRead⟩ := ftpFields_reads hw hmodeMem
  have hmode : w.dump.lookup "mode" = some m := hmode
  dsimp only
  rw [lookup_setPort, lookup_setPort, hport, hmode, Option.map_some, Option.map_some, if_pos rfl,
    if_neg (by decide)]
  cases hset : validateModePort (.obj items) w.dump with
  | some p =>
    rcases validateModePort_isPort hset with rfl | rfl
    · exact ⟨990, rfl, by decide, fun _ => by decide⟩
    · refine ⟨21, rfl, by decide, fun himplicit => ?_⟩
      -- The port of implicit FTPS is never set to the one of plain FTP.
      cases himplicit
      unfold validateModePort at hset
      rw [hmode, hport] at hset
      split at hset
      · cases hset
      · split at hset <;> simp_all
  | none =>
    refine ⟨n, rfl, hn, fun himplicit hn => ?_⟩
    cases himplicit
    unfold validateModePort at hset
    rw [hmode, hport, hn] at hset
    cases hgiven : items.lookup "mode" with
    | none =>
      have hgiven : Field.given (Field.of "mode" (.oneOf ["sftp", "ftp", "ftps_implicit",
        "ftps_explicit"]) (some (.str "ftp"))) items = none := hgiven
      rw [hgiven] at hmodeRead
      have hdefault : some (Json.str "ftp") = some (.str "ftps_implicit") := hmodeRead
      exact absurd hdefault (by decide)
    | some value => simp [Json.obj?, hgiven] at hset

/-- Legacy FTP properties with the switch `anonymous` have no user. -/
theorem ftp_anonymous {payload : Json} (hv : ftpConnectionProperties.validate payload = .ok v) :
    ∃ a u, v.dump.lookup "anonymous" = some a ∧ v.dump.lookup "username" = some u ∧
      (a.truthy = true → u.truthy = false) := by
  obtain ⟨w, hw, rfl⟩ := ftp_validate_iff.mp hv
  obtain ⟨items, rfl⟩ := ModelDecl.exists_obj_of_validate hw
  have hanonymousMem : anonymousField ∈ ftpLegacyFields := List.mem_of_getElem? (i := 5) rfl
  have huserMem : Field.optional "username" .str ∈ ftpLegacyFields :=
    List.mem_of_getElem? (i := 3) rfl
  obtain ⟨a, ha, hread⟩ := ftpFields_reads hw hanonymousMem
  obtain ⟨u, hu, -⟩ := ftpFields_reads hw huserMem
  have ha : w.dump.lookup "anonymous" = some a := ha
  have hu : w.dump.lookup "username" = some u := hu
  refine ⟨a, u, ?_, ?_, ?_⟩
  · dsimp only
    rw [lookup_setPort, ha]
    rfl
  · dsimp only
    rw [lookup_setPort, hu]
    rfl
  · cases hgiven : Field.given anonymousField items with
    | none =>
      rw [hgiven] at hread
      cases hread
      exact fun h => by cases h
    | some value =>
      rw [hgiven] at hread
      obtain ⟨v, b, -, -, hafter⟩ := (Field.reads_some_iff rfl).mp hread
      obtain ⟨rfl, hnone⟩ := validateAnonymous_spec hafter
      -- The user's name was read before.
      have hkeys := ModelDecl.keys_of_validate (by decide) (by decide) hw
      rw [← (ModelDecl.instance_of_validate hw).2] at hkeys
      have hbefore : (before w.dump "anonymous").lookup "username" = some u := by
        rw [lookup_before, hu]
        rw [hkeys]
        decide
      have hnone : a.truthy = true →
          (((before w.dump "anonymous").lookup "username").getD .null).truthy = false := hnone
      rwa [hbefore] at hnone

end Ftp

/-! ## SFTP -/

/-- The field `private_key_path` of `SFTPConnectionProperties`. -/
def legacyPathField (host : Host) : Field :=
  { Field.optional "private_key_path" .str with after := validatePrivateKeyPath host }

/-- The fields of `SFTPConnectionProperties`. -/
def sftpLegacyFields (host : Host) : List Field :=
  [.required "host" .str, portField 22, .required "username" .str,
    { Field.optional "password" .str with after := validateAuthMethod }, legacyPathField host,
    .optional "private_key_passphrase" .str, .optional "private_key_string" .str,
    .optional "initial_directory" .str, .of "allow_agent" .bool (some (.bool false))]

theorem sftpLegacyFields_names (host : Host) :
    (sftpLegacyFields host).map Field.name = ["host", "port", "username", "password",
      "private_key_path", "private_key_passphrase", "private_key_string", "initial_directory",
      "allow_agent"] := rfl

theorem sftpLegacyFields_nodup (host : Host) :
    ((sftpLegacyFields host).map Field.name).Nodup := by
  rw [sftpLegacyFields_names]
  decide

/-- `validate_auth_method` leaves what it accepts. -/
theorem eq_of_validateAuthMethod {soFar : Dict Json} {u w : Json}
    (h : validateAuthMethod soFar u = .ok w) : w = u := by
  unfold validateAuthMethod at h
  dsimp only at h
  split at h
  · cases h
  · exact (Except.ok.inj h).symm

/-- What `validate_private_key_path` leaves: `None`, the empty text, or the path of a file. -/
theorem validatePrivateKeyPath_spec {host : Host} {soFar : Dict Json} {u w : Json}
    (hfixes : (FieldType.nullable .str).Fixes u)
    (h : validatePrivateKeyPath host soFar u = .ok w) :
    w = .null ∨ ∃ s, w = .str s ∧
      (s = "" ∨ strip s ≠ "" ∧ host.osPathExists s = true ∧ host.osPathIsFile s = true) := by
  rcases FieldType.fixes_nullable_iff.mp hfixes with rfl | hstr
  · exact Or.inl (Except.ok.inj h).symm
  · cases u with
    | str s =>
      unfold validatePrivateKeyPath at h
      dsimp only at h
      split at h
      · rename_i hempty
        exact Or.inr ⟨s, (Except.ok.inj h).symm, Or.inl hempty⟩
      · split at h
        · exact Or.inl (Except.ok.inj h).symm
        · rename_i hne
          split at h
          · cases h
          · rename_i hexists
            split at h
            · cases h
            · rename_i hfile
              refine Or.inr ⟨s, (Except.ok.inj h).symm, Or.inr ⟨hne, ?_, ?_⟩⟩
              · simpa using hexists
              · simpa using hfile
    | _ => cases hstr

section Sftp

variable {host : Host} {v : Instance}

/-- What the fields of legacy SFTP properties read. -/
theorem sftpConnectionProperties_reads {items : Dict Json}
    (hv : (sftpConnectionProperties host).validate (.obj items) = .ok v) {field : Field}
    (hf : field ∈ sftpLegacyFields host) :
    ∃ w, v.dump.lookup field.name = some w ∧
      field.Reads (before v.dump field.name) (field.given items) w := by
  have hextra : Extra.ignore ≠ .allow := by decide
  exact ModelDecl.reads_of_validate hextra (sftpLegacyFields_nodup host) (fun _ => rfl) hv hf

/-- The keys of legacy SFTP properties. -/
theorem sftpConnectionProperties_keys {payload : Json}
    (hv : (sftpConnectionProperties host).validate payload = .ok v) :
    v.dump.map Prod.fst = (sftpLegacyFields host).map Field.name := by
  have hextra : Extra.ignore ≠ .allow := by decide
  rw [(ModelDecl.instance_of_validate hv).2]
  exact ModelDecl.keys_of_validate hextra (sftpLegacyFields_nodup host) hv

/-- The values of legacy SFTP properties. -/
theorem sftpConnectionProperties_fixes {payload : Json}
    (hv : (sftpConnectionProperties host).validate payload = .ok v) :
    ∀ field ∈ sftpLegacyFields host,
      ∃ w, v.dump.lookup field.name = some w ∧ field.type.Fixes w := by
  have hauth : Field.Typed { Field.optional "password" .str with after := validateAuthMethod } := by
    refine Field.typed_of rfl ?_ fun d hd => by cases hd; rfl
    intro soFar u w hfixes hw
    rwa [eq_of_validateAuthMethod hw]
  have hpath : (legacyPathField host).Typed := by
    refine Field.typed_of rfl ?_ fun d hd => by cases hd; rfl
    intro soFar u w hfixes hw
    have hw : validatePrivateKeyPath host soFar u = .ok w := hw
    rcases validatePrivateKeyPath_spec hfixes hw with rfl | ⟨s, rfl, -⟩
    · rfl
    · rfl
  have htyped : ∀ field ∈ sftpLegacyFields host, field.Typed := by
    simp only [sftpLegacyFields, List.forall_mem_cons]
    exact ⟨Field.typed_required rfl, typed_port 22, Field.typed_required rfl, hauth, hpath,
      Field.typed_optional rfl, Field.typed_optional rfl, Field.typed_optional rfl,
      Field.typed_default rfl rfl, fun _ h => absurd h List.not_mem_nil⟩
  obtain ⟨items, rfl⟩ := ModelDecl.exists_obj_of_validate hv
  intro field hf
  obtain ⟨w, hw, hr⟩ := sftpConnectionProperties_reads hv hf
  exact ⟨w, hw, htyped field hf _ _ _ hr⟩

/-- The port of legacy SFTP properties is a port. -/
theorem sftp_port {payload : Json} (hv : (sftpConnectionProperties host).validate payload = .ok v) :
    ∃ w, v.dump.lookup "port" = some w ∧ IsPort w := by
  obtain ⟨items, rfl⟩ := ModelDecl.exists_obj_of_validate hv
  have hmem : portField 22 ∈ sftpLegacyFields host := List.mem_of_getElem? (i := 1) rfl
  obtain ⟨w, hw, hr⟩ := sftpConnectionProperties_reads hv hmem
  exact ⟨w, hw, portField_isPort (by decide) hr⟩

/-- The path of the private key is `None`, empty, or the path of a file. -/
theorem sftp_path {payload : Json} (hv : (sftpConnectionProperties host).validate payload = .ok v) :
    v.dump.lookup "private_key_path" = some .null ∨
      ∃ s, v.dump.lookup "private_key_path" = some (.str s) ∧
        (s = "" ∨ strip s ≠ "" ∧ host.osPathExists s = true ∧ host.osPathIsFile s = true) := by
  obtain ⟨items, rfl⟩ := ModelDecl.exists_obj_of_validate hv
  have hmem : legacyPathField host ∈ sftpLegacyFields host :=
    List.mem_of_getElem? (i := 4) rfl
  obtain ⟨w, hw, hr⟩ := sftpConnectionProperties_reads hv hmem
  have hw : v.dump.lookup "private_key_path" = some w := hw
  rw [hw]
  have hspec : w = .null ∨ ∃ s, w = .str s ∧
      (s = "" ∨ strip s ≠ "" ∧ host.osPathExists s = true ∧ host.osPathIsFile s = true) := by
    cases hgiven : (legacyPathField host).given items with
    | none =>
      rw [hgiven] at hr
      exact Or.inl (Option.some.inj hr).symm
    | some value =>
      rw [hgiven] at hr
      obtain ⟨x, u, -, hread, hafter⟩ := (Field.reads_some_iff rfl).mp hr
      obtain ⟨u', hu', hfixes⟩ := FieldType.readJson_of_readJson rfl hread
      cases hu'
      have hafter : validatePrivateKeyPath host (before v.dump "private_key_path") u = .ok w :=
        hafter
      exact validatePrivateKeyPath_spec hfixes hafter
  rcases hspec with rfl | ⟨s, rfl, hs⟩
  · exact Or.inl rfl
  · exact Or.inr ⟨s, rfl, hs⟩

end Sftp

end DbConnection.Compat
