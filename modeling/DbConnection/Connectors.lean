import DbConnection.Lib.PydanticRecords
import DbConnection.Service

/-!
# The models of the built-in connection types

The properties, secrets and driver options models of `connectors/sql.py`, `connectors/kafka.py`,
`connectors/s3.py`, `connectors/ftp.py` and `domain/drivers.py`, field by field with their
validators. What the validators ask of the machine they run on is a parameter (`Host`).
-/

namespace DbConnection

open PyData Pydantic PyText

/-- What validators ask of the machine: `str(value)` of a value that is no string, integer, truth
value or `None`, and the file system. `Path.exists` raises what the file system raises unless that
says that there is no such file, while `os.path.exists` raises nothing. -/
structure Host where
  textOf : Json → String
  /-- `Path(p).exists()`. -/
  pathExists : String → Except RaisedException Bool
  /-- `Path(p).is_file()`, where the path exists. -/
  isFile : String → Bool
  /-- `os.path.exists(p)`. -/
  osPathExists : String → Bool
  /-- `os.path.isfile(p)`. -/
  osPathIsFile : String → Bool
  /-- What `os.path` takes for a file `Path` does as well. -/
  path_of_osPath : ∀ p, osPathExists p = true → osPathIsFile p = true →
    pathExists p = .ok true ∧ isFile p = true

/-- A model of the package that ignores the keys that are no field's. -/
def packageModel (moduleName qualname : String) (fields : List Field) : ModelDecl :=
  .ofFields [packageRef moduleName qualname, baseModelRef] fields .ignore

/-! ## SQL -/

/-- The fields that `SQLProperties` and `MSSQLNamedInstanceProperties` end with. -/
def sqlOptionFields : List Field :=
  [.of "secure" .bool (some (.bool false)),
    .of "connect_timeout" (.nullable .int) (some (.int 30)),
    .of "send_receive_timeout" (.nullable .int) (some (.int 60)),
    .of "sync_request_timeout" (.nullable .int) (some (.int 60)),
    Field.optional "ca_cert_string" .str,
    .of "verify" .bool (some (.bool false))]

/-- The fields of `SQLProperties`. -/
def sqlFields : List Field :=
  [.required "host" .str, .required "port" .int, .required "username" .str,
    .required "database" .str] ++ sqlOptionFields

/-- `SQLProperties`. -/
def sqlProperties : ModelClass :=
  .ofDecl (packageModel "connectors.sql" "SQLProperties" sqlFields)

/-- `MSSQLTCPProperties`. -/
def mssqlTcpProperties : ModelClass :=
  .ofDecl (.ofFields [packageRef "connectors.sql" "MSSQLTCPProperties",
    packageRef "connectors.sql" "SQLProperties", baseModelRef] sqlFields .forbid)

/-- `MSSQLNamedInstanceProperties`. -/
def mssqlNamedInstanceProperties : ModelClass :=
  .ofDecl (.ofFields [packageRef "connectors.sql" "MSSQLNamedInstanceProperties", baseModelRef]
    ([.required "host" .str, .required "instance_name" .str, .required "username" .str,
      .required "database" .str] ++ sqlOptionFields) .forbid)

/-- `MSSQLProperties` and its bases. -/
def mssqlMro : List ClassRef :=
  [packageRef "connectors.sql" "MSSQLProperties", ⟨"pydantic.root_model", "RootModel"⟩,
    baseModelRef]

/-- `MSSQLProperties`, whose root is read by a union and whose dump is its root's. -/
def mssqlProperties : ModelClass where
  mro := mssqlMro
  parse payload :=
    -- Each of the two forbids the other's own field, so at most one accepts.
    match unionParse mssqlMro [mssqlTcpProperties, mssqlNamedInstanceProperties] payload with
    | .ok r => .ok { r with value := { r.value with mro := mssqlMro } }
    | .error e => .error e
  parse_mro payload r h := by
    split at h
    · cases h
      exact List.Subset.refl _
    · cases h

/-- `SQLSecrets`. -/
def sqlSecrets : ModelClass :=
  .ofDecl (packageModel "connectors.sql" "SQLSecrets" [Field.optional "password" .str])

/-- `ODBCDriverOptions`. -/
def odbcDriverOptions : OptionsModel where
  toModelClass := .ofDecl (.ofFields
    [packageRef "domain.drivers" "ODBCDriverOptions", driverOptionsBaseRef, baseModelRef]
    [{ Field.required "odbc_driver_name" .str with validationAlias := some "driver_name" }]
    .forbid)
  derives := by simp [ModelClass.ofDecl, ModelDecl.ofFields]

/-- The fields of the SQL models read their values back. -/
theorem sqlFields_readsBack : ∀ field ∈ sqlFields, field.ReadsBack := by
  have hof : ∀ (name : String) (type : FieldType) (default : Option Json), type.isPlain = true →
      (∀ d, default = some d → type.readJson d = .ok (.json d)) →
        (Field.of name type default).ReadsBack :=
    fun name type default hp hd => Field.readsBack_of none hp hd
  simp only [sqlFields, sqlOptionFields, List.cons_append, List.nil_append, List.forall_mem_cons,
    List.not_mem_nil, false_imp_iff, implies_true, and_true, Field.required, Field.optional]
  refine ⟨?_, ?_, ?_, ?_, ?_, ?_, ?_, ?_, ?_, ?_⟩ <;>
    · refine hof _ _ _ rfl fun d hd => ?_
      cases hd
      try rfl

/-- `MSSQLTCPProperties` reads its dumps back. -/
theorem mssqlTcpProperties_readsBack : mssqlTcpProperties.ReadsBack :=
  ModelDecl.readsBack_ofFields (by decide) (by decide) (by decide) sqlFields_readsBack

/-- The fields that the SQL models end with raise no other exception. -/
theorem sqlOptionFields_quiet : ∀ field ∈ sqlOptionFields, field.Quiet := by
  simp only [sqlOptionFields, List.forall_mem_cons]
  exact ⟨Field.quiet_of rfl, Field.quiet_of rfl, Field.quiet_of rfl, Field.quiet_of rfl,
    Field.quiet_of rfl, Field.quiet_of rfl, fun _ h => absurd h List.not_mem_nil⟩

/-- `MSSQLTCPProperties` raises nothing but `ValidationError`. -/
theorem mssqlTcpProperties_quiet : mssqlTcpProperties.Quiet := by
  refine ModelDecl.quiet_ofFields ?_
  simp only [sqlFields, List.cons_append, List.nil_append, List.forall_mem_cons]
  exact ⟨Field.quiet_of rfl, Field.quiet_of rfl, Field.quiet_of rfl, Field.quiet_of rfl,
    sqlOptionFields_quiet⟩

/-- `MSSQLNamedInstanceProperties` raises nothing but `ValidationError`. -/
theorem mssqlNamedInstanceProperties_quiet : mssqlNamedInstanceProperties.Quiet := by
  refine ModelDecl.quiet_ofFields ?_
  simp only [List.cons_append, List.nil_append, List.forall_mem_cons]
  exact ⟨Field.quiet_of rfl, Field.quiet_of rfl, Field.quiet_of rfl, Field.quiet_of rfl,
    sqlOptionFields_quiet⟩

/-- `SQLSecrets` reads its dumps back. -/
theorem sqlSecrets_readsBack : sqlSecrets.ReadsBack := by
  refine ModelDecl.readsBack_ofFields (by decide) (by decide) (by decide) ?_
  intro field hf
  rw [List.mem_singleton.mp hf]
  refine Field.readsBack_of none rfl fun d hd => ?_
  cases hd
  rfl

/-- `SQLSecrets` raises nothing but `ValidationError`. -/
theorem sqlSecrets_quiet : sqlSecrets.Quiet := by
  refine ModelDecl.quiet_ofFields fun field hf => ?_
  rw [List.mem_singleton.mp hf]
  exact Field.quiet_of rfl

/-- `ODBCDriverOptions` raises nothing but `ValidationError`. -/
theorem odbcDriverOptions_quiet : odbcDriverOptions.Quiet := by
  refine ModelDecl.quiet_ofFields fun field hf => ?_
  rw [List.mem_singleton.mp hf]
  exact Field.NoValidators.quiet ⟨fun _ => rfl, fun _ _ => rfl⟩ <|
    FieldType.readJson_ne_raised rfl

/-- `ODBCDriverOptions` reads its dumps back, by the name of its field. -/
theorem odbcDriverOptions_readsBack : odbcDriverOptions.ReadsBack := by
  refine ModelDecl.readsBack_ofFields (by decide) (by decide) (by decide) ?_
  intro field hf
  rw [List.mem_singleton.mp hf]
  refine Field.readsBack_of (some "driver_name") rfl fun d hd => ?_
  cases hd

/-! ## Kafka -/

/-- `normalize_bootstrap_servers`. -/
def normalizeBootstrapServers : Json → Except FieldError Json
  | .str s => .ok (.arr (((split ',' s).map strip).filter (· != "") |>.map Json.str))
  | value => .ok value

/-- `KafkaProperties`. -/
def kafkaProperties : ModelClass :=
  .ofDecl (packageModel "connectors.kafka" "KafkaProperties"
    [{ Field.required "bootstrap_servers" .strList with before := normalizeBootstrapServers },
      .of "security_protocol" (.oneOf ["PLAINTEXT", "SSL", "SASL_PLAINTEXT", "SASL_SSL"])
        (some (.str "PLAINTEXT")),
      Field.optional "ssl_ca_pem" .str,
      Field.optional "sasl_mechanism" (.oneOf ["PLAIN", "SCRAM-SHA-256", "SCRAM-SHA-512"]),
      Field.optional "sasl_plain_username" .str,
      .of "client_id" .str (some (.str "kafka_client")),
      .of "request_timeout_ms" .int (some (.int 30000))])

/-- `KafkaSecrets`. -/
def kafkaSecrets : ModelClass :=
  .ofDecl (packageModel "connectors.kafka" "KafkaSecrets"
    [Field.optional "sasl_plain_password" .str])

/-! ## S3 -/

/-- `str(value)`. -/
def pyStr (host : Host) : Json → String
  | .str s => s
  | .null => "None"
  | .bool true => "True"
  | .bool false => "False"
  | .int n => toString n
  | value => host.textOf value

/-- `normalize_bucket`. -/
def normalizeBucket (host : Host) (value : Json) : Except FieldError Json :=
  if strip (pyStr host value) = "" then .error (.valueError "bucket must be a non-empty string")
  else .ok (.str (strip (pyStr host value)))

/-- `normalize_prefix`. -/
def normalizePrefix (value : Json) : Except FieldError Json :=
  if !value.truthy then .ok .null
  else
    match value with
    | .str s => .ok (.str (stripBy (· == '/') (strip s)))
    | _ => .error (.valueError "prefix must be a string or None")

/-- `S3Properties`. -/
def s3Properties (host : Host) : ModelClass :=
  .ofDecl (packageModel "connectors.s3" "S3Properties"
    [{ Field.required "bucket" .str with before := normalizeBucket host },
      Field.optional "region_name" .str,
      Field.optional "endpoint_url" .str,
      .of "use_ssl" .bool (some (.bool true)),
      .of "verify" .bool (some (.bool true)),
      .of "path_style" .bool (some (.bool false)),
      Field.optional "signature_version" .str,
      { Field.optional "prefix" .str with before := normalizePrefix }])

/-- `S3Secrets`. -/
def s3Secrets : ModelClass :=
  .ofDecl (packageModel "connectors.s3" "S3Secrets"
    [.required "access_token_id" .str, .required "access_token_key" .str,
      Field.optional "session_token" .str])

/-! ## FTP and SFTP -/

/-- `validate_port`. -/
def validatePort (_ : Dict Json) (value : Json) : Except FieldError Json :=
  match value with
  | .int n =>
    if 1 ≤ n ∧ n ≤ 65535 then .ok value
    else .error (.valueError "Port must be between 1 and 65535")
  | _ => .ok value

/-- `validate_anonymous`. -/
def validateAnonymous (data : Dict Json) (value : Json) : Except FieldError Json :=
  if value.truthy && ((data.lookup "username").getD .null).truthy then
    .error (.valueError "Cannot specify both anonymous=True and username")
  else .ok value

/-- `normalize_port_for_mode`: the port it gives to the field. -/
def normalizePortForMode (values : Dict Json) : Except FieldError (Dict Json) :=
  match values.lookup "mode", values.lookup "port" with
  -- Setting the attribute marks the port as set.
  | some (.str "ftps_implicit"), some (.int 21) => .ok [("port", .int 990)]
  | some (.str "ftp"), some (.int 990) => .ok [("port", .int 21)]
  | _, _ => .ok []

/-- `FTPProperties`. -/
def ftpProperties : ModelClass :=
  .ofDecl
    { mro := [packageRef "connectors.ftp" "FTPProperties", baseModelRef]
      fields :=
        [.required "host" .str,
          { Field.of "port" .int (some (.int 21)) with after := validatePort },
          .of "mode" (.oneOf ["ftp", "ftps_implicit", "ftps_explicit"]) (some (.str "ftp")),
          Field.optional "username" .str,
          { Field.of "anonymous" .bool (some (.bool false)) with after := validateAnonymous },
          .of "encoding" .str (some (.str "utf-8")),
          Field.optional "initial_directory" .str,
          Field.optional "ssl_context" .dict,
          .of "verify_ssl" .bool (some (.bool true)),
          Field.optional "certfile" .str,
          Field.optional "keyfile" .str]
      extra := .ignore
      post := normalizePortForMode }

/-- `FTPSecrets`. -/
def ftpSecrets : ModelClass :=
  .ofDecl (packageModel "connectors.ftp" "FTPSecrets" [Field.optional "password" .str])

/-- `validate_private_key_path`. -/
def validatePrivateKeyPath (host : Host) (_ : Dict Json) (value : Json) :
    Except FieldError Json :=
  match value with
  | .str s =>
    if strip s = "" then .ok .null
    else
      match host.pathExists (strip s) with
      -- An `OSError` is no `ValueError`: pydantic passes it on.
      | .error exc => .error (.raised exc)
      | .ok false => .error (.valueError s!"Private key file not found: {strip s}")
      | .ok true =>
        if host.isFile (strip s) then .ok (.str (strip s))
        else .error (.valueError s!"Private key path is not a file: {strip s}")
  | _ => .ok .null

/-- `SFTPProperties`. -/
def sftpProperties (host : Host) : ModelClass :=
  .ofDecl (packageModel "connectors.ftp" "SFTPProperties"
    [.required "host" .str,
      { Field.of "port" .int (some (.int 22)) with after := validatePort },
      .required "username" .str,
      { Field.optional "private_key_path" .str with after := validatePrivateKeyPath host },
      Field.optional "initial_directory" .str,
      .of "allow_agent" .bool (some (.bool false))])

/-- `SFTPSecrets`. -/
def sftpSecrets : ModelClass :=
  .ofDecl (packageModel "connectors.ftp" "SFTPSecrets"
    [Field.optional "password" .str, Field.optional "private_key_passphrase" .str,
      Field.optional "private_key_string" .str])

/-! ## The default registry -/

/-- A built-in type, whose public model is its properties model. -/
def builtinType (name kind : String) (propertiesModel secretsModel : ModelClass)
    (connector : String) : TypeSpec where
  name := name
  kind := kind
  propertiesModel := propertiesModel
  secretsModel := some secretsModel
  publicModel := some propertiesModel
  connectorFactory := some connector
  defaultDriver := none
  driverSpecs := []
  default_supported d h := by cases h

/-- A built-in type with drivers, the first of which is the default. -/
def builtinSqlType (name : String) (propertiesModel : ModelClass) (defaultDriver : DriverSpec)
    (others : List DriverSpec) : TypeSpec where
  name := name
  kind := "sql"
  propertiesModel := propertiesModel
  secretsModel := some sqlSecrets
  publicModel := some propertiesModel
  connectorFactory := some "SQLConnector"
  defaultDriver := some defaultDriver.name
  driverSpecs := defaultDriver :: others
  default_supported d h := by simp [Option.some.inj h]

/-- A driver without options. -/
def plainDriver (name : String) : DriverSpec := .ofOptions name noDriverOptions

/-- The types of `build_default_registry`. -/
def defaultTypes (host : Host) : List TypeSpec :=
  [builtinSqlType "postgres" sqlProperties (plainDriver "psycopg")
      [plainDriver "psycopg2", plainDriver "asyncpg"],
    builtinSqlType "mysql" sqlProperties (plainDriver "pymysql") [plainDriver "aiomysql"],
    builtinSqlType "clickhouse" sqlProperties (plainDriver "native") [plainDriver "http"],
    builtinSqlType "mssql" mssqlProperties (.ofOptions "pyodbc" odbcDriverOptions)
      [.ofOptions "aioodbc" odbcDriverOptions],
    builtinSqlType "oracle" sqlProperties (plainDriver "oracledb") [],
    builtinType "mongodb" "sql" sqlProperties sqlSecrets "SQLConnector",
    builtinType "kafka" "queue" kafkaProperties kafkaSecrets "AsyncKafkaConnector",
    builtinType "s3" "file" (s3Properties host) s3Secrets "S3Connector",
    builtinType "ftp" "file" ftpProperties ftpSecrets "FTPConnector",
    builtinType "sftp" "file" (sftpProperties host) sftpSecrets "SFTPConnector"]

/-- `build_default_registry`. -/
def defaultRegistry (host : Host) : ConnectionRegistry where
  kinds := [("sql", ⟨"sql"⟩), ("queue", ⟨"queue"⟩), ("file", ⟨"file"⟩)]
  types := (defaultTypes host).map fun spec => (spec.name, spec)
  kinds_name := by simp
  types_name := by simp
  types_nodup := by simp [defaultTypes, builtinSqlType, builtinType]
  kinds_known := by
    simp [defaultTypes, builtinSqlType, builtinType, Dict.contains, List.lookup_cons]

/-- The importer of an installation with nothing but the package: it finds the package's driver
options classes. -/
def packageImporter : Importer := fun moduleName attributePath =>
  if moduleName = "db_connection.domain.drivers" then
    if attributePath = "ODBCDriverOptions" then .ok (.model odbcDriverOptions.toModelClass)
    else if attributePath = "NoDriverOptions" then .ok (.model noDriverOptions.toModelClass)
    else .error s!"module '{moduleName}' has no attribute '{attributePath}'"
  else .error s!"No module named '{moduleName}'"

/-- A machine without files, whose other values have an empty text. -/
def emptyHost : Host where
  textOf _ := ""
  pathExists _ := .ok false
  isFile _ := false
  osPathExists _ := false
  osPathIsFile _ := false
  path_of_osPath _ h := by cases h

/-- A draft of an S3 connection. -/
def bucketDraft (name : String) : ConnectionDraft where
  name := some name
  kind := "file"
  type := "s3"
  driver := none
  driverOptions := .none
  properties := some [("bucket", .str "backups")]
  secrets := some [("access_token_id", .str "id"), ("access_token_key", .str "key")]
  labels := some []
  metadata := some []
  extra := some []

/-- A stored S3 connection. -/
def bucketRow (id : String) : Row Json where
  id := id
  name := "backups"
  kind := "file"
  type := "s3"
  driver := none
  driverOptionsJson := .null
  propertiesJson := .obj [("bucket", .str "backups")]
  secretsCiphertext := .obj [("access_token_id", .str "id"), ("access_token_key", .str "key")]
  labelsJson := .obj []
  metadataJson := .obj []
  extraJson := .obj []
  createdAt := 0
  updatedAt := 0
  deletedAt := none

/-- A service over the default registry with everything else at its default, and
`max_connections` as given. -/
def defaultService (maxConnections : Option Int) : ConnectionService Json where
  maxConnections := maxConnections
  registry := defaultRegistry emptyHost
  storage := ⟨noOpEncryptionProvider, packageImporter, id⟩
  accessPolicy := allowAllAccessPolicy
  ownershipResolver := noOpOwnershipResolver

/-- A registry with one type, whose drivers take ODBC options. -/
def odbcRegistry : ConnectionRegistry where
  kinds := [("sql", ⟨"sql"⟩)]
  types := [("odbc", builtinSqlType "odbc" mssqlTcpProperties
    (.ofOptions "pyodbc" odbcDriverOptions) [.ofOptions "aioodbc" odbcDriverOptions])]
  kinds_name := by simp
  types_name := by simp [builtinSqlType]
  types_nodup := by simp
  kinds_known := by simp [builtinSqlType, Dict.contains]

/-- Its models raise nothing but `ValidationError`. -/
theorem odbcRegistry_quiet : odbcRegistry.Quiet := by
  intro spec hspec
  have hdriver : ∀ driverSpec ∈ [DriverSpec.ofOptions "pyodbc" odbcDriverOptions,
      .ofOptions "aioodbc" odbcDriverOptions], driverSpec.optionsModel.Quiet ∧
        driverSpec.publicOptionsModel.Quiet := by
    simp only [List.forall_mem_cons]
    exact ⟨⟨odbcDriverOptions_quiet, odbcDriverOptions_quiet⟩,
      ⟨odbcDriverOptions_quiet, odbcDriverOptions_quiet⟩, fun _ h => absurd h List.not_mem_nil⟩
  obtain ⟨-, rfl⟩ := Prod.mk.inj (List.mem_singleton.mp hspec)
  exact
    { properties := mssqlTcpProperties_quiet
      publicProperties := mssqlTcpProperties_quiet
      secrets := fun m hm => Option.some.inj hm ▸ sqlSecrets_quiet
      driverOptions := fun driverSpec h => (hdriver driverSpec h).1
      publicOptions := fun driverSpec h => (hdriver driverSpec h).2 }

/-- A draft of a connection with ODBC options. -/
def odbcDraft (name : String) : ConnectionDraft where
  name := some name
  kind := "sql"
  type := "odbc"
  driver := none
  driverOptions := .raw [("driver_name", .str "ODBC Driver 18")]
  properties := some [("host", .str "db"), ("port", .str "1433"), ("username", .str "sa"),
    ("database", .str "main")]
  secrets := some [("password", .str "secret")]
  labels := some [("team", "data")]
  metadata := some []
  extra := some [("project_id", .int 7)]

/-- A service over the registry with ODBC options, with everything else at its default. -/
def odbcService : ConnectionService Json := { defaultService none with registry := odbcRegistry }

end DbConnection
