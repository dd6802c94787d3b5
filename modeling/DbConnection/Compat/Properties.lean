import DbConnection.Connectors

/-!
# The legacy connection types and their properties

`compat/types.py` and `compat/connection_properties.py`: the types of the legacy interface, and for
each the model by which `DBConnection` reads the connection properties. These models hold the secrets
of a connection beside its other properties.
-/

namespace DbConnection.Compat

open PyData Pydantic PyText

/-- `ConnectionType`. -/
inductive ConnectionType where
  | mysql
  | postgres
  | clickhouse
  | mongodb
  | mssql
  | kafka
  | s3
  | oracle
  | ftp
  | sftp
  | custom
  deriving DecidableEq, Repr

/-- The value of a type. -/
def ConnectionType.value : ConnectionType → String
  | .mysql => "mysql"
  | .postgres => "postgres"
  | .clickhouse => "clickhouse"
  | .mongodb => "mongodb"
  | .mssql => "mssql"
  | .kafka => "kafka"
  | .s3 => "s3"
  | .oracle => "oracle"
  | .ftp => "ftp"
  | .sftp => "sftp"
  | .custom => "custom"

/-- The types, in the order of the enumeration. -/
def connectionTypes : List ConnectionType :=
  [.mysql, .postgres, .clickhouse, .mongodb, .mssql, .kafka, .s3, .oracle, .ftp, .sftp, .custom]

/-- `ConnectionType(value)`. -/
def ConnectionType.ofValue? (value : String) : Option ConnectionType :=
  connectionTypes.find? fun type => type.value == value

/-- A value names the type that has it. -/
theorem ConnectionType.ofValue?_eq_some_iff {value : String} {type : ConnectionType} :
    ConnectionType.ofValue? value = some type ↔ value = type.value := by
  constructor
  · intro h
    unfold ConnectionType.ofValue? at h
    have hvalue := List.find?_some h
    exact (beq_iff_eq.mp hvalue).symm
  · rintro rfl
    cases type <;> decide

/-- `SQLConnectionTypes`. -/
def sqlConnectionTypes : List ConnectionType :=
  [.mysql, .postgres, .clickhouse, .mongodb, .mssql, .oracle]

/-- `ConnectionPropertiesBase`. -/
def connectionPropertiesBaseRef : ClassRef :=
  packageRef "compat.connection_properties" "ConnectionPropertiesBase"

/-- A class of `compat/connection_properties.py` and its bases. -/
def propertiesMro (qualname : String) : List ClassRef :=
  [packageRef "compat.connection_properties" qualname, connectionPropertiesBaseRef, baseModelRef]

/-- The `max_length` of a string field. `None` has no length. -/
def maxLength (limit : Nat) (_ : Dict Json) (value : Json) : Except FieldError Json :=
  match value with
  | .str s =>
    if s.length ≤ limit then .ok value
    else .error (.invalid "string_too_long" s!"String should have at most {limit} characters")
  | _ => .ok value

/-- A string field of bounded length that must be given. -/
def boundedStr (name : String) (limit : Nat) : Field :=
  { Field.required name .str with after := maxLength limit }

/-- `SqlConnectionProperties`. -/
def sqlConnectionProperties : ModelClass :=
  .ofDecl (.ofFields (propertiesMro "SqlConnectionProperties")
    [boundedStr "host" 255,
      .required "port" .int,
      boundedStr "username" 100,
      { Field.optional "password" .str with after := maxLength 2048 },
      boundedStr "database" 255,
      .of "secure" (.nullable .bool) (some (.bool false)),
      .of "connect_timeout" (.nullable .int) (some (.int 30)),
      .of "send_receive_timeout" (.nullable .int) (some (.int 60)),
      .of "sync_request_timeout" (.nullable .int) (some (.int 60)),
      .optional "ca_cert_string" .str,
      .of "verify" (.nullable .bool) (some (.bool false)),
      .optional "driver_name" .str]
    .ignore)

/-- `KafkaConnectionProperties.ensure_list`. -/
def ensureList : Json → Except FieldError Json
  | .str s => .ok (.arr ((split ',' s).map fun piece => .str (strip piece)))
  | .arr items => .ok (.arr items)
  | _ => .error (.valueError "bootstrap_servers must be a string or a list of strings.")

/-- `KafkaConnectionProperties`. -/
def kafkaConnectionProperties : ModelClass :=
  .ofDecl (.ofFields (propertiesMro "KafkaConnectionProperties")
    [{ Field.required "bootstrap_servers" .strList with before := ensureList },
      .of "security_protocol" .str (some (.str "PLAINTEXT")),
      .optional "sasl_mechanism" .str,
      .optional "sasl_plain_username" .str,
      .optional "sasl_plain_password" .str,
      .of "client_id" (.nullable .str) (some (.str "kafka_client")),
      .of "request_timeout_ms" .int (some (.int 30000))]
    .ignore)

/-- `str(value)` of a value that may be `None`, which has the empty text. -/
def textOrEmpty (host : Host) (value : Json) : String :=
  if value = .null then "" else pyStr host value

/-- `S3ConnectionProperties.normalize_bucket`. -/
def normalizeBucket (host : Host) (value : Json) : Except FieldError Json :=
  let bucket := strip (textOrEmpty host value)
  if bucket = "" then .error (.valueError "bucket must be a non-empty string.")
  else .ok (.str bucket)

/-- `S3ConnectionProperties.normalize_prefix`. -/
def normalizePrefix (host : Host) (value : Json) : Except FieldError Json :=
  let path := strip (stripBy (· == '/') (textOrEmpty host value))
  if path = "" then
    .error (.valueError "prefix must be a non-empty string without leading/trailing slashes.")
  else .ok (.str path)

/-- `S3ConnectionProperties.normalize_endpoint`. -/
def normalizeEndpoint (host : Host) (value : Json) : Except FieldError Json :=
  let endpoint := strip (textOrEmpty host value)
  if endpoint = "" then .ok .null else .ok (.str endpoint)

/-- `S3ConnectionProperties`. -/
def s3ConnectionProperties (host : Host) : ModelClass :=
  .ofDecl (.ofFields (propertiesMro "S3ConnectionProperties")
    [{ boundedStr "bucket" 255 with before := normalizeBucket host },
      .optional "region_name" .str,
      { Field.optional "endpoint_url" .str with before := normalizeEndpoint host },
      boundedStr "access_token_id" 2048,
      boundedStr "access_token_key" 2048,
      .optional "session_token" .str,
      .of "use_ssl" .bool (some (.bool true)),
      .of "path_style" .bool (some (.bool false)),
      .optional "signature_version" .str,
      { boundedStr "prefix" 512 with before := normalizePrefix host }]
    .ignore)

/-- `FTPConnectionProperties.validate_port` and that of `SFTPConnectionProperties`. -/
def validatePort : Dict Json → Json → Except FieldError Json := DbConnection.validatePort

/-- `FTPConnectionProperties.validate_anonymous`. -/
def validateAnonymous : Dict Json → Json → Except FieldError Json := DbConnection.validateAnonymous

/-- `FTPConnectionProperties` before `validate_mode_port`. -/
def ftpFields : ModelClass :=
  .ofDecl (.ofFields (propertiesMro "FTPConnectionProperties")
    [.required "host" .str,
      { Field.of "port" .int (some (.int 21)) with after := validatePort },
      .of "mode" (.oneOf ["sftp", "ftp", "ftps_implicit", "ftps_explicit"]) (some (.str "ftp")),
      .optional "username" .str,
      .optional "password" .str,
      { Field.of "anonymous" .bool (some (.bool false)) with after := validateAnonymous },
      .of "encoding" .str (some (.str "utf-8")),
      .optional "initial_directory" .str,
      .optional "ssl_context" .dict,
      .of "verify_ssl" .bool (some (.bool true)),
      .optional "certfile" .str,
      .optional "keyfile" .str]
    .ignore)

/-- `FTPConnectionProperties.validate_mode_port`: the port it writes among the values read, if any. A
default is not validated, so it only runs where the payload gives the mode. -/
def validateModePort (payload : Json) (values : Dict Json) : Option Int :=
  match payload.obj?.bind fun items => items.lookup "mode" with
  | none => none
  | some _ =>
    match values.lookup "mode", values.lookup "port" with
    | some (.str "ftps_implicit"), some (.int 21) => some 990
    | some (.str "ftp"), some (.int 990) => some 21
    | _, _ => none

/-- `values['port'] = port` where the values have a port. -/
def setPort (port : Option Int) (values : Dict Json) : Dict Json :=
  values.map fun item =>
    (item.1, if item.1 = "port" then (port.map Json.int).getD item.2 else item.2)

/-- `FTPConnectionProperties`. The port that `validate_mode_port` writes does not become one of the
fields that were set. -/
def ftpConnectionProperties : ModelClass where
  mro := propertiesMro "FTPConnectionProperties"
  parse payload :=
    match ftpFields.parse payload with
    | .error e => .error e
    | .ok r =>
      let port := validateModePort payload r.value.dump
      .ok { r with
        value := ⟨r.value.mro, setPort port r.value.dump, setPort port r.value.dumpJson⟩
        dumpSet := setPort port r.dumpSet }
  parse_mro payload r h := by
    cases hp : ftpFields.parse payload with
    | error e => simp [hp] at h
    | ok r' =>
      simp only [hp, Except.ok.injEq] at h
      subst h
      exact ftpFields.parse_mro payload r' hp

/-- `SFTPConnectionProperties.validate_auth_method`. It runs before the fields of the keys are read,
and there is no field `look_for_keys`. -/
def validateAuthMethod (data : Dict Json) (value : Json) : Except FieldError Json :=
  let given := fun key default => ((data.lookup key).getD default).truthy
  let hasPrivateKey := given "private_key_path" .null || given "private_key_string" .null
  if !value.truthy && !hasPrivateKey && !given "allow_agent" (.bool false) &&
      !given "look_for_keys" (.bool true) then
    .error (.valueError ("At least one authentication method must be specified: " ++
      "password, private_key_path, private_key_string, allow_agent=True, or look_for_keys=True"))
  else .ok value

/-- `SFTPConnectionProperties.validate_private_key_path`. -/
def validatePrivateKeyPath (host : Host) (_ : Dict Json) (value : Json) : Except FieldError Json :=
  match value with
  | .str path =>
    -- `if not v`: only a text of blanks becomes `None`.
    if path = "" then .ok value
    else if strip path = "" then .ok .null
    else if !host.osPathExists path then
      .error (.valueError s!"Private key file not found: {path}")
    else if !host.osPathIsFile path then
      .error (.valueError s!"Private key path is not a file: {path}")
    else .ok value
  | _ => .ok value

/-- `SFTPConnectionProperties`. -/
def sftpConnectionProperties (host : Host) : ModelClass :=
  .ofDecl (.ofFields (propertiesMro "SFTPConnectionProperties")
    [.required "host" .str,
      { Field.of "port" .int (some (.int 22)) with after := validatePort },
      .required "username" .str,
      { Field.optional "password" .str with after := validateAuthMethod },
      { Field.optional "private_key_path" .str with after := validatePrivateKeyPath host },
      .optional "private_key_passphrase" .str,
      .optional "private_key_string" .str,
      .optional "initial_directory" .str,
      .of "allow_agent" .bool (some (.bool false))]
    .ignore)

/-- `CustomConnectionProperties`. -/
def customConnectionProperties : ModelClass :=
  .ofDecl (.ofFields (propertiesMro "CustomConnectionProperties") [.required "type" .str] .allow)

/-- The model by which `DBConnection._dispatch_properties` reads the properties of a type. -/
def propertiesModel (host : Host) : ConnectionType → ModelClass
  | .mysql | .postgres | .clickhouse | .mongodb | .mssql | .oracle => sqlConnectionProperties
  | .kafka => kafkaConnectionProperties
  | .s3 => s3ConnectionProperties host
  | .ftp => ftpConnectionProperties
  | .sftp => sftpConnectionProperties host
  | .custom => customConnectionProperties

/-- The classes of `ConnectionPropertiesType`. -/
def connectionPropertiesType : List ClassRef :=
  ["SqlConnectionProperties", "KafkaConnectionProperties", "S3ConnectionProperties",
    "FTPConnectionProperties", "SFTPConnectionProperties"].map
    (packageRef "compat.connection_properties")

/-- The properties of every type but the custom one are of a class of `ConnectionPropertiesType`. -/
theorem isInstance_connectionPropertiesType {host : Host} {type : ConnectionType}
    (htype : type ≠ .custom) {payload : Json} {v : Instance}
    (h : (propertiesModel host type).validate payload = .ok v) :
    (connectionPropertiesType.any fun cls => v.isInstance cls) = true := by
  -- The model of a type begins its classes with one of the union.
  have hcls : ∃ cls ∈ connectionPropertiesType, cls ∈ (propertiesModel host type).mro := by
    unfold connectionPropertiesType
    cases type <;> first
      | exact absurd rfl htype
      | exact ⟨_, by simp, List.mem_cons_self⟩
  obtain ⟨cls, hmem, hmro⟩ := hcls
  exact List.any_eq_true.mpr ⟨cls, hmem, ModelClass.isInstance_of_validate h hmro⟩

end DbConnection.Compat
