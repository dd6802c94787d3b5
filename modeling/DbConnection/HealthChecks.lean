import DbConnection.Domain
import DbConnection.Lib.ExternalCalls
import DbConnection.Lib.PyText

/-!
# The health checks of the runtime connectors

`check` of the connectors of `connectors/sql.py`, `connectors/kafka.py`, `connectors/s3.py` and
`connectors/ftp.py`, as programs over the calls that they make to the libraries. The answer to each
call is the environment's: any value, or any exception. What a check computes without the network
(the URL of an engine, the configuration of a Kafka client, an SSL context) is a call too, as it
may raise.
-/

namespace DbConnection

open PyData Pydantic PyText ExternalCalls Program

/-! ## Exceptions and calls -/

/-- The classes of exceptions that the connectors tell apart. -/
inductive ExceptionClass where
  | timeout
  | osError
  | noValidConnections
  | errorPerm
  /-- `error_temp`, `error_reply` and `error_proto`. -/
  | ftpError
  | authentication
  | sshException
  | noBrokersAvailable
  /-- `ClientError` and `EndpointConnectionError`. -/
  | clientError
  | importError
  /-- Any other `Exception`. -/
  | exception
  /-- A `BaseException` that is no `Exception`. -/
  | baseException
  deriving DecidableEq, Repr

/-- An exception, with `type(exc).__name__` and `str(exc)`. -/
structure Raised where
  cls : ExceptionClass
  name : String
  text : String
  deriving DecidableEq, Repr

/-- `isinstance(exc, Exception)`. -/
def Raised.isException (e : Raised) : Bool := e.cls != .baseException

/-- `isinstance(exc, TimeoutError)`. -/
def Raised.isTimeout (e : Raised) : Bool := e.cls == .timeout

/-- `isinstance(exc, OSError)`. -/
def Raised.isOSError (e : Raised) : Bool :=
  [ExceptionClass.timeout, .osError, .noValidConnections].contains e.cls

/-- `isinstance(exc, error_perm)`. -/
def Raised.isErrorPerm (e : Raised) : Bool := e.cls == .errorPerm

/-- `isinstance(exc, FTP_ERRORS)`. -/
def Raised.isFtpError (e : Raised) : Bool := [ExceptionClass.errorPerm, .ftpError].contains e.cls

/-- `isinstance(exc, AuthenticationException)`. -/
def Raised.isAuthentication (e : Raised) : Bool := e.cls == .authentication

/-- `isinstance(exc, (SSHException, NoValidConnectionsError))`. -/
def Raised.isSshError (e : Raised) : Bool :=
  [ExceptionClass.authentication, .sshException, .noValidConnections].contains e.cls

/-- `RuntimeError(message)`. -/
def runtimeError (message : String) : Raised := ⟨.exception, "RuntimeError", message⟩

/-- `ConnectionTypeNotSupportedError(connection_type)`. -/
def typeNotSupported : Raised :=
  ⟨.exception, "ConnectionTypeNotSupportedError", "Connection type is not supported."⟩

/-- The classes of private keys, in the order in which they are tried. -/
inductive KeyClass where
  | rsa
  | ecdsa
  | ed25519
  deriving DecidableEq, Repr

/-- `PRIVATE_KEY_CLASSES`. -/
def privateKeyClasses : List KeyClass := [.rsa, .ecdsa, .ed25519]

/-- The calls that a check makes. Each is made at most once in a check. -/
inductive ExternalCall where
  -- `socket.create_connection`, and leaving its `with`.
  | openSocket
  | closeSocket
  -- `ssl.create_default_context` and `load_cert_chain`.
  | createContext
  | loadCertChain
  -- SQL: the URL with its query, the engine, its connection and the statement run on it.
  | buildUrl
  | createEngine
  | connectEngine
  | execute (statement : String)
  | closeConnection
  | disposeEngine
  -- Kafka: `build_kafka_config`, `KafkaAdminClient(…)`, `AIOKafkaAdminClient(…)` and its `start`.
  | buildKafkaConfig
  | createAdmin
  | createAsyncAdmin
  | startAdmin
  | listTopics
  | closeAdmin
  -- S3.
  | importBoto3
  | createConfig
  | createS3Client
  | listObjects
  | closeS3Client
  -- FTP. The last three are those of `_create_ftp_directory` on one part of the path.
  | createFtp
  | connectFtp
  | auth
  | protP
  | login
  | setPasv
  | cwd
  | pwd
  | quit
  | closeFtp
  | cwdPart (path : String)
  | mkd (path : String)
  | cwdMade (path : String)
  -- SFTP.
  | createSsh
  | setHostKeyPolicy
  | keyFromString (cls : KeyClass)
  | keyFromFile (cls : KeyClass)
  | connectSsh
  | openSftp
  | chdir
  | getcwd
  | closeSftp
  | closeSsh
  deriving DecidableEq, Repr

/-- A program over the external calls, which answer with a text or raise. -/
abbrev Check (α : Type) := Program ExternalCall Raised String α

/-- What is installed beside the package. -/
structure Installation where
  psycopg : Bool
  sqlalchemy : Bool
  /-- Both of `kafka` and `aiokafka`. -/
  kafka : Bool
  botocore : Bool
  /-- An S3 client has a `close`. -/
  s3ClientCloses : Bool
  ftplib : Bool
  paramiko : Bool

/-- `ConnectionCheckResult`. -/
structure ConnectionCheckResult where
  name : Option String
  connected : Bool
  message : Option String
  exception : Option String
  deriving DecidableEq, Repr

/-- The result of a check that went well. -/
def checkSuccess (connection : ValidatedConnection) (message : String) : ConnectionCheckResult :=
  ⟨connection.name, true, some message, none⟩

/-- `_check_failure_result`, and the other results of a check that failed. -/
def checkFailure (connection : ValidatedConnection) (message : String)
    (exception : Option String) : ConnectionCheckResult :=
  ⟨connection.name, false, some message, exception⟩

/-- An `except` clause of a check: what it catches, and the message and the exception of the
result that it returns. -/
structure ExceptClause where
  catches : Raised → Bool
  message : Raised → String
  exception : Raised → Option String

/-- The first clause that catches an exception reports it. -/
def reportBy (connection : ValidatedConnection) (clauses : List ExceptClause) (e : Raised) :
    Option (Check ConnectionCheckResult) :=
  (clauses.find? (·.catches e)).map fun clause =>
    pure (checkFailure connection (clause.message e) (clause.exception e))

/-- A field of a model. -/
def attr (values : Dict Json) (name : String) : Json := (values.lookup name).getD .null

/-- The text of a string or an integer. -/
def attrText (values : Dict Json) (name : String) : String :=
  match attr values name with
  | .str s => s
  | .int n => toString n
  | _ => ""

/-! ## SQL -/

/-- `SQLDriverSpec`. -/
structure SQLDriverSpec where
  syncDialect : Option String
  asyncDialect : Option String

/-- `ResolvedRuntimeDriver`. -/
structure ResolvedRuntimeDriver where
  driver : String
  sqlalchemyDialect : String
  useAsync : Bool

/-- `SQL_TYPES`. -/
def sqlTypes : List String := ["postgres", "mysql", "clickhouse", "mssql", "oracle", "mongodb"]

/-- `_resolve_driver`. -/
def resolveDriver (modules : Installation) (connectionType : String) (driver : Option String) :
    String :=
  if (driver.getD "") ≠ "" then driver.getD ""
  else if connectionType = "postgres" then (if modules.psycopg then "psycopg" else "psycopg2")
  else
    (List.lookup connectionType [("clickhouse", "native"), ("mysql", "pymysql"),
      ("mssql", "pyodbc"), ("oracle", "oracledb")]).getD ""

/-- The table of `_resolve_driver_spec`. -/
def driverSpecTable : List ((String × String) × SQLDriverSpec) :=
  [(("postgres", "psycopg"), ⟨some "postgresql+psycopg", some "postgresql+psycopg"⟩),
    (("postgres", "psycopg2"), ⟨some "postgresql+psycopg2", none⟩),
    (("postgres", "asyncpg"), ⟨none, some "postgresql+asyncpg"⟩),
    (("clickhouse", "native"), ⟨some "clickhouse+native", none⟩),
    (("clickhouse", "http"), ⟨some "clickhouse+http", none⟩),
    (("mysql", "pymysql"), ⟨some "mysql+pymysql", none⟩),
    (("mysql", "aiomysql"), ⟨none, some "mysql+aiomysql"⟩),
    (("mssql", "pyodbc"), ⟨some "mssql+pyodbc", none⟩),
    (("mssql", "aioodbc"), ⟨none, some "mssql+aioodbc"⟩),
    (("oracle", "oracledb"), ⟨some "oracle+oracledb", none⟩),
    (("mongodb", ""), ⟨some "mongodb", none⟩)]

/-- `_resolve_driver_spec`. -/
def SQLConnector.resolveDriverSpec (connectionType driver : String) : Except Raised SQLDriverSpec :=
  match driverSpecTable.lookup (connectionType, driver) with
  | some spec => .ok spec
  | none => .error typeNotSupported

/-- `_resolve_runtime_driver`. -/
def resolveRuntimeDriver (modules : Installation) (preferAsync : Bool)
    (connection : ValidatedConnection) : Except Raised ResolvedRuntimeDriver :=
  let driver := resolveDriver modules connection.type connection.driver
  match SQLConnector.resolveDriverSpec connection.type driver with
  | .error e => .error e
  | .ok spec =>
    match preferAsync, spec.asyncDialect, spec.syncDialect with
    | true, some dialect, _ => .ok ⟨driver, dialect, true⟩
    | _, _, some dialect => .ok ⟨driver, dialect, false⟩
    | _, _, none => .error typeNotSupported

/-- `build_connection_url`, up to what it makes of the properties. -/
def buildConnectionUrl (modules : Installation) (preferAsync : Bool)
    (connection : ValidatedConnection) : Check Unit := do
  require modules.sqlalchemy
    (runtimeError "SQL connections support requires Python's sqlalchemy module")
  require (sqlTypes.contains connection.type) typeNotSupported
  let _ ← ofExcept (resolveRuntimeDriver modules preferAsync connection)
  perform .buildUrl

/-- The body of the `try` of `_check_async` and `_check_blocking`. -/
def probeSql (modules : Installation) (preferAsync : Bool) (connection : ValidatedConnection)
    (statement : String) : Check ConnectionCheckResult := do
  buildConnectionUrl modules preferAsync connection
  perform .createEngine
  perform .connectEngine
  -- The `with` closes the connection in any case; the engine is disposed of after it only.
  tryFinally (perform (.execute statement)) (perform .closeConnection)
  perform .disposeEngine
  return checkSuccess connection "Connection successful."

/-- The `except` of `_check_async` and `_check_blocking`. -/
def sqlClauses : List ExceptClause :=
  [⟨Raised.isException, Raised.text, fun e => some e.text⟩]

/-- `SQLConnector._check_async`. -/
def checkSqlAsync (modules : Installation) (preferAsync : Bool)
    (connection : ValidatedConnection) : Check ConnectionCheckResult := do
  require modules.sqlalchemy
    (runtimeError "SQL connections support requires Python's sqlalchemy module")
  tryExcept (probeSql modules preferAsync connection "SELECT 1") (reportBy connection sqlClauses)

/-- `SQLConnector._check_blocking`. -/
def checkSqlBlocking (modules : Installation) (preferAsync : Bool)
    (connection : ValidatedConnection) : Check ConnectionCheckResult :=
  tryExcept
    (do
      -- `sa.create_engine`, where `sa` may be `None`.
      require modules.sqlalchemy
        ⟨.exception, "AttributeError", "'NoneType' object has no attribute 'create_engine'"⟩
      probeSql modules preferAsync connection
        (if connection.type = "oracle" then "SELECT 1 FROM DUAL" else "SELECT 1"))
    (reportBy connection sqlClauses)

/-- `SQLConnector.check`. -/
def checkSql (modules : Installation) (preferAsync : Bool) (connection : ValidatedConnection) :
    Check ConnectionCheckResult := do
  let runtime ← ofExcept (resolveRuntimeDriver modules preferAsync connection)
  if runtime.useAsync then checkSqlAsync modules preferAsync connection
  else checkSqlBlocking modules preferAsync connection

/-! ## Kafka -/

/-- The `except` clauses of both Kafka checks. -/
def kafkaClauses : List ExceptClause :=
  [⟨fun e => e.cls == .noBrokersAvailable, fun _ => "Could not connect to any Kafka brokers.",
      fun e => some e.name⟩,
    ⟨Raised.isException, fun _ => "Kafka connection check failed.", fun e => some e.name⟩]

/-- `KafkaConnector._check_blocking`. -/
def checkKafka (modules : Installation) (connection : ValidatedConnection) :
    Check ConnectionCheckResult := do
  require modules.kafka (runtimeError "Kafka support requires Python's kafka module")
  tryExcept
    (do
      perform .buildKafkaConfig
      perform .createAdmin
      tryFinally (perform .listTopics) (perform .closeAdmin)
      return checkSuccess connection "Connection to Kafka successful.")
    (reportBy connection kafkaClauses)

/-- `AsyncKafkaConnector.check`. -/
def checkAsyncKafka (modules : Installation) (connection : ValidatedConnection) :
    Check ConnectionCheckResult := do
  require modules.kafka (runtimeError "AIOKafka support requires Python's aiokafka module")
  tryExcept
    (do
      perform .buildKafkaConfig
      perform .createAsyncAdmin
      tryFinally (do perform .startAdmin; perform .listTopics) (perform .closeAdmin)
      return checkSuccess connection "Connection to Kafka successful.")
    (reportBy connection kafkaClauses)

/-! ## S3 -/

/-- `props[key]`. -/
def getItem (props : Dict Json) (key : String) : Except Raised Json :=
  match props.lookup key with
  | some value => .ok value
  | none => .error ⟨.exception, "KeyError", "'" ++ key ++ "'"⟩

/-- Whether `_get_client_blocking` makes a `Config`. -/
def needsConfig (modules : Installation) (connection : ValidatedConnection) : Bool :=
  ((attr connection.properties.dump "signature_version").truthy ||
    (attr connection.properties.dump "path_style").truthy) && modules.botocore

/-- `S3Connector._get_client_blocking`. -/
def getS3Client (modules : Installation) (connection : ValidatedConnection) : Check Unit := do
  tryExcept (perform .importBoto3) fun e =>
    if e.cls = .importError then
      some (throw (runtimeError "boto3 is required for S3 connections."))
    else none
  onlyIf (needsConfig modules connection) (perform .createConfig)
  perform .createS3Client

/-- The `except` clauses of the S3 check. -/
def s3Clauses : List ExceptClause :=
  [⟨fun e => e.cls == .clientError, fun _ => "S3 connectivity check failed.",
      fun e => some e.text⟩,
    ⟨Raised.isException, Raised.text, fun e => some e.text⟩]

/-- `S3Connector._check_blocking`. -/
def checkS3 (modules : Installation) (connection : ValidatedConnection) :
    Check ConnectionCheckResult :=
  tryExcept
    (do
      getS3Client modules connection
      let _ ← ofExcept (getItem connection.properties.dump "bucket")
      let _ ← ofExcept (getItem connection.properties.dump "prefix")
      perform .listObjects
      onlyIf modules.s3ClientCloses (perform .closeS3Client)
      return checkSuccess connection "Connection to S3 successful.")
    (reportBy connection s3Clauses)

/-! ## FTP -/

/-- `_ensure_properties`, of both connectors. -/
def ensureProperties (cls : String) (connection : ValidatedConnection) :
    Except Raised (Dict Json) :=
  if connection.properties.isInstance (packageRef "connectors.ftp" cls) then
    .ok connection.properties.dump
  else
    .error ⟨.exception, "TypeError",
      "Expected " ++ cls ++ ", got " ++ connection.properties.cls.qualname⟩

/-- `_get_ftp_secrets` and `_get_sftp_secrets`. All fields of the models default to `None`. -/
def getSecrets (cls : String) (connection : ValidatedConnection) : Except Raised (Dict Json) :=
  match connection.secrets with
  | none => .ok []
  | some secrets =>
    if secrets.isInstance (packageRef "connectors.ftp" cls) then .ok secrets.dump
    else .error ⟨.exception, "TypeError", "Expected " ++ cls ++ ", got " ++ secrets.cls.qualname⟩

/-- `_check_host_port`, of both connectors. -/
def checkHostPort : Check Bool :=
  tryExcept
    (do
      perform .openSocket
      tryFinally (pure true) (perform .closeSocket))
    fun e => if e.isOSError then some (pure false) else none

/-- The message about a host that `_check_host_port` did not reach. -/
def unreachable (connection : ValidatedConnection) (props : Dict Json) : ConnectionCheckResult :=
  checkFailure connection
    ("Host " ++ attrText props "host" ++ ":" ++ attrText props "port" ++ " is unreachable") none

/-- The paths of `_create_ftp_directory`, each a part longer than the one before. -/
def directoryPaths (directory : String) : List String :=
  if directory = "" ∨ directory = "/" then []
  else go "" ((split '/' (stripBy (· == '/') directory)).filter (· ≠ ""))
where
  go (currentPath : String) : List String → List String
    | [] => []
    | part :: parts =>
      let path := if currentPath ≠ "" then currentPath ++ "/" ++ part else part
      path :: go path parts

/-- The loop of `_create_ftp_directory`. -/
def createFtpDirectory : List String → Check Unit
  | [] => pure ()
  | path :: paths => do
    tryExcept (perform (.cwdPart path)) fun e =>
      if e.isErrorPerm then some (do perform (.mkd path); perform (.cwdMade path)) else none
    createFtpDirectory paths

/-- The client is an `FTP_TLS`, and so has `prot_p`. -/
def usesTls (props : Dict Json) : Bool :=
  [Json.str "ftps_implicit", .str "ftps_explicit"].contains (attr props "mode")

/-- `_build_ssl_context`. -/
def buildSslContext (props : Dict Json) : Check Unit := do
  perform .createContext
  onlyIf (attr props "certfile").truthy (perform .loadCertChain)

/-- The change into the initial directory, at the end of `FTPConnector._create_client`. -/
def enterFtpDirectory (props : Dict Json) : Check Unit :=
  onlyIf (attr props "initial_directory").truthy <|
    tryExcept (perform .cwd) fun e =>
      -- Any `error_perm` is dropped; the directory is made for those that say it is missing.
      if e.isErrorPerm then
        some (onlyIf (occursIn "550" e.text) (suppress Raised.isException
          (createFtpDirectory (directoryPaths (attrText props "initial_directory")))))
      else none

/-- `FTPConnector._create_client`. -/
def createFtpClient (modules : Installation) (props : Dict Json) : Check Unit := do
  require modules.ftplib (runtimeError "FTP support requires Python's ftplib module")
  onlyIf (usesTls props) (buildSslContext props)
  perform .createFtp
  perform .connectFtp
  onlyIf (usesTls props) (do perform .auth; perform .protP)
  perform .login
  perform .setPasv
  enterFtpDirectory props

/-- `FTPConnector._get_client_blocking`. -/
def getFtpClient (modules : Installation) (connection : ValidatedConnection) : Check Unit := do
  let props ← ofExcept (ensureProperties "FTPProperties" connection)
  let _ ← ofExcept (getSecrets "FTPSecrets" connection)
  createFtpClient modules props

/-- `FTPConnector._close_client`. -/
def closeFtpClient : Check Unit :=
  tryExcept (perform .quit) fun e =>
    if e.isException then some (suppress Raised.isException (perform .closeFtp)) else none

/-- `_parse_ftp_error`. -/
def parseFtpError (error : String) : String :=
  if occursIn "530" error then "Authentication failed (incorrect username or password)"
  else if occursIn "550" error then "Permission denied or directory not found"
  else "FTP Error: " ++ takeFirst 100 error

/-- The `except` clauses of the FTP check. -/
def ftpClauses : List ExceptClause :=
  [⟨Raised.isTimeout, fun _ => "Connection timed out", fun _ => none⟩,
    ⟨Raised.isFtpError, fun e => parseFtpError e.text, fun e => some e.text⟩,
    ⟨Raised.isException, fun e => "Unexpected error: " ++ e.text, fun e => some e.text⟩]

/-- `SUPPORTED_MODES`. -/
def supportedModes : List Json := [.str "ftp", .str "ftps_implicit", .str "ftps_explicit"]

/-- What `FTPConnector._check_blocking` does until it has its client. -/
def acquireFtp (modules : Installation) (connection : ValidatedConnection) (props : Dict Json) :
    Check (Option ConnectionCheckResult) := do
  if supportedModes.contains (attr props "mode") then
    if ← checkHostPort then
      getFtpClient modules connection
      return none
    else return some (unreachable connection props)
  else
    return some (checkFailure connection
      ("FTPConnector does not support mode: " ++ attrText props "mode") none)

/-- `FTPConnector._check_blocking`. -/
def checkFtp (modules : Installation) (connection : ValidatedConnection) :
    Check ConnectionCheckResult := do
  let props ← ofExcept (ensureProperties "FTPProperties" connection)
  tryWith (acquireFtp modules connection props)
    (do
      let directory ← call .pwd
      return checkSuccess connection
        ("Connected successfully. Current directory: " ++ directory))
    (reportBy connection ftpClauses) closeFtpClient

/-! ## SFTP -/

/-- A loop of `_load_private_key` over the key classes: whether one of them made a key. -/
def loadKeyWith (load : KeyClass → ExternalCall) : List KeyClass → Check Bool
  | [] => pure false
  | cls :: rest =>
    tryExcept (do perform (load cls); return true) fun e =>
      if e.isException then some (loadKeyWith load rest) else none

/-- `_load_private_key`: whether it returns a key. -/
def loadPrivateKey (props secrets : Dict Json) : Check Bool := do
  let fromString ←
    if (attr secrets "private_key_string").truthy then
      loadKeyWith .keyFromString privateKeyClasses
    else pure false
  if fromString then return true
  else if (attr props "private_key_path").truthy then
    loadKeyWith .keyFromFile privateKeyClasses
  else return false

/-- `_create_ssh_client`. -/
def createSshClient (modules : Installation) (props secrets : Dict Json) : Check Unit := do
  require modules.paramiko (runtimeError "SFTP support requires 'paramiko' module.")
  perform .createSsh
  perform .setHostKeyPolicy
  let _ ← tryExcept (loadPrivateKey props secrets) fun e =>
    if e.isException then
      some (if (attr secrets "password").truthy then pure false
        else throw (runtimeError ("Failed to load private key: " ++ e.text)))
    else none
  perform .connectSsh

/-- `SFTPConnector._create_client`. -/
def createSftpClient (modules : Installation) (props secrets : Dict Json) : Check Unit := do
  createSshClient modules props secrets
  perform .openSftp
  onlyIf (attr props "initial_directory").truthy (suppress Raised.isException (perform .chdir))

/-- `SFTPConnector._get_client_blocking`. -/
def getSftpClient (modules : Installation) (connection : ValidatedConnection) : Check Unit := do
  let props ← ofExcept (ensureProperties "SFTPProperties" connection)
  let secrets ← ofExcept (getSecrets "SFTPSecrets" connection)
  createSftpClient modules props secrets

/-- `SFTPConnector._close_client`. -/
def closeSftpClient : Check Unit :=
  suppress Raised.isException do
    perform .closeSftp
    perform .closeSsh

/-- The `except` clauses of the SFTP check. -/
def sftpClauses : List ExceptClause :=
  [⟨Raised.isTimeout, fun _ => "Connection timed out", fun _ => none⟩,
    ⟨Raised.isAuthentication, fun _ => "Authentication failed. Check credentials or keys.",
      fun _ => none⟩,
    ⟨Raised.isSshError, fun e => "SSH error: " ++ e.text, fun e => some e.text⟩,
    ⟨Raised.isException, fun e => "Error: " ++ e.text, fun e => some e.text⟩]

/-- What `SFTPConnector._check_blocking` does until it has its client. -/
def acquireSftp (modules : Installation) (connection : ValidatedConnection) (props : Dict Json) :
    Check (Option ConnectionCheckResult) := do
  if ← checkHostPort then
    getSftpClient modules connection
    return none
  else return some (unreachable connection props)

/-- `SFTPConnector._check_blocking`. -/
def checkSftp (modules : Installation) (connection : ValidatedConnection) :
    Check ConnectionCheckResult := do
  let props ← ofExcept (ensureProperties "SFTPProperties" connection)
  tryWith (acquireSftp modules connection props)
    (do
      let directory ← call .getcwd
      return checkSuccess connection ("SFTP connected. Current directory: " ++ directory))
    (reportBy connection sftpClauses) closeSftpClient

/-! ## The connectors -/

/-- The connectors of `connectors/`, the SQL one with its preferred mode. -/
inductive RuntimeConnector where
  | sql (preferAsync : Bool)
  | kafka
  | asyncKafka
  | s3
  | ftp
  | sftp
  deriving DecidableEq, Repr

/-- `connector.check(connection)`. -/
def RuntimeConnector.check (modules : Installation) (connection : ValidatedConnection) :
    RuntimeConnector → Check ConnectionCheckResult
  | .sql preferAsync => checkSql modules preferAsync connection
  | .kafka => checkKafka modules connection
  | .asyncKafka => checkAsyncKafka modules connection
  | .s3 => checkS3 modules connection
  | .ftp => checkFtp modules connection
  | .sftp => checkSftp modules connection

/-- The objects that can hold a connection over the network. -/
inductive Resource where
  | socket
  | engine
  | sqlConnection
  | kafkaAdmin
  | s3Client
  | ftpClient
  | sshClient
  | sftpClient
  deriving DecidableEq, Repr

/-- The objects that can hold a connection from a call on. One that exists before it connects can
hold a connection even when the connecting call raises; one that the call itself returns only when
it does return. -/
def opensAt (event : Event ExternalCall) : List Resource :=
  match event.call, event.raised with
  | .openSocket, false => [.socket]
  | .connectEngine, false => [.engine, .sqlConnection]
  | .connectEngine, true => [.engine]
  | .createAdmin, false => [.kafkaAdmin]
  | .startAdmin, _ => [.kafkaAdmin]
  | .listObjects, _ => [.s3Client]
  | .connectFtp, _ => [.ftpClient]
  | .connectSsh, _ => [.sshClient]
  | .openSftp, false => [.sftpClient]
  | _, _ => []

/-- The objects whose `close`, `quit` or `dispose` a call is, whether or not it raises. -/
def closesAt (event : Event ExternalCall) : List Resource :=
  match event.call with
  | .closeSocket => [.socket]
  | .closeConnection => [.sqlConnection]
  | .disposeEngine => [.engine]
  | .closeAdmin => [.kafkaAdmin]
  | .closeS3Client => [.s3Client]
  | .quit => [.ftpClient]
  | .closeFtp => [.ftpClient]
  | .closeSsh => [.sshClient]
  | .closeSftp => [.sftpClient]
  | _ => []

/-- What the calls of a check open and close. -/
def networkHandles : Handles ExternalCall Resource := ⟨opensAt, closesAt⟩

end DbConnection
