import DbConnection.HealthChecks

/-!
# What a health check leaves open

For every connector, exactly when its check closes what it opens, as a condition on what the
environment answers. The Kafka checks close their client in a `finally` and always do. The SQL
checks dispose of the engine and the S3 check closes its client only after a probe that went well.
The FTP and SFTP checks have a `finally`, which knows the client only once `_create_client` has
returned: what fails after the client has connected, in `_create_client` itself, leaves it open.
-/

namespace DbConnection

open PyData Pydantic PyText ExternalCalls Program

/-! ## Conditions on the environment -/

section

variable (modules : Installation) (connection : ValidatedConnection)
  (env : ExternalCall → Except Raised String)

/-- The call does not raise. -/
def Answers (k : ExternalCall) : Prop := ∃ v, env k = .ok v

/-- The call raises an `Exception`, which `except Exception` catches. -/
def Fails (k : ExternalCall) : Prop := ∃ e, env k = .error e ∧ e.isException = true

/-- The call raises an `error_perm`. -/
def Refuses (k : ExternalCall) : Prop := ∃ e, env k = .error e ∧ e.isErrorPerm = true

/-- The call raises what no `except Exception` catches. -/
def Interrupts (k : ExternalCall) : Prop := ∃ e, env k = .error e ∧ e.isException = false

/-- An engine is asked to connect only if these hold. -/
def EngineCreated (preferAsync : Bool) : Prop :=
  modules.sqlalchemy = true ∧ connection.type ∈ sqlTypes ∧
    (∃ runtime, resolveRuntimeDriver modules preferAsync connection = .ok runtime) ∧
    Answers env .buildUrl ∧ Answers env .createEngine

/-- The statement that a SQL check runs. -/
def sqlStatement (connection : ValidatedConnection) : String :=
  if connection.type = "oracle" then "SELECT 1 FROM DUAL" else "SELECT 1"

/-- A SQL check that has an engine gets as far as disposing of it. -/
def SqlProbeSucceeds (statement : String) : Prop :=
  Answers env .connectEngine ∧ Answers env (.execute statement) ∧ Answers env .closeConnection

/-- The S3 check has a client. -/
def S3ClientCreated : Prop :=
  Answers env .importBoto3 ∧ (needsConfig modules connection = true → Answers env .createConfig) ∧
    Answers env .createS3Client

/-- The S3 check asks its client for its objects. -/
def S3Lists : Prop :=
  S3ClientCreated modules connection env ∧
    (∃ v, connection.properties.dump.lookup "bucket" = some v) ∧
    ∃ v, connection.properties.dump.lookup "prefix" = some v

/-- The host answers on its port. -/
def HostReached : Prop := Answers env .openSocket ∧ Answers env .closeSocket

/-- The context of an `FTP_TLS` is made. -/
def ContextBuilt (props : Dict Json) : Prop :=
  Answers env .createContext ∧
    ((attr props "certfile").truthy = true → Answers env .loadCertChain)

/-- `_create_client` has an FTP client. -/
def FtpClientCreated (props : Dict Json) : Prop :=
  modules.ftplib = true ∧ (usesTls props = true → ContextBuilt env props) ∧ Answers env .createFtp

/-- The FTP check has a client and connects it. -/
def FtpConnects (props : Dict Json) : Prop :=
  connection.properties.isInstance (packageRef "connectors.ftp" "FTPProperties") = true ∧
    attr props "mode" ∈ supportedModes ∧ HostReached env ∧
    (∃ secrets, getSecrets "FTPSecrets" connection = .ok secrets) ∧
    FtpClientCreated modules env props

/-- Making the directories of these paths comes upon a call that raises what no
`except Exception` catches. -/
def DirectoryInterrupted : List String → Prop
  | [] => False
  | path :: paths =>
    Interrupts env (.cwdPart path) ∨
      (Refuses env (.cwdPart path) ∧
        (Interrupts env (.mkd path) ∨ (Answers env (.mkd path) ∧ Interrupts env (.cwdMade path)))) ∨
      ((Answers env (.cwdPart path) ∨
          (Refuses env (.cwdPart path) ∧ Answers env (.mkd path) ∧ Answers env (.cwdMade path))) ∧
        DirectoryInterrupted paths)

/-- The change into the initial directory goes well, or fails as the connector allows it to. -/
def DirectoryEntered (props : Dict Json) : Prop :=
  (attr props "initial_directory").truthy = true →
    Answers env .cwd ∨ ∃ e, env .cwd = .error e ∧ e.isErrorPerm = true ∧
      (occursIn "550" e.text = true →
        ¬ DirectoryInterrupted env (directoryPaths (attrText props "initial_directory")))

/-- The data channel of an `FTP_TLS` is secured. -/
def ChannelSecured : Prop := Answers env .auth ∧ Answers env .protP

/-- Everything that `_create_client` does with an FTP client goes well. -/
def FtpSetUp (props : Dict Json) : Prop :=
  Answers env .connectFtp ∧ (usesTls props = true → ChannelSecured env) ∧ Answers env .login ∧
    Answers env .setPasv ∧ DirectoryEntered env props

/-- One of the key classes makes a key, the ones before it failing. -/
def KeyLoaded (load : KeyClass → ExternalCall) : List KeyClass → Prop
  | [] => False
  | cls :: rest => Answers env (load cls) ∨ (Fails env (load cls) ∧ KeyLoaded load rest)

/-- One of the key classes raises what no `except Exception` catches, the ones before it
failing. -/
def KeyInterrupted (load : KeyClass → ExternalCall) : List KeyClass → Prop
  | [] => False
  | cls :: rest => Interrupts env (load cls) ∨ (Fails env (load cls) ∧ KeyInterrupted load rest)

/-- `_load_private_key` returns, with a key or without. -/
def KeysTried (props secrets : Dict Json) : Prop :=
  ((attr secrets "private_key_string").truthy = true →
    ¬ KeyInterrupted env .keyFromString privateKeyClasses) ∧
  ((attr props "private_key_path").truthy = true →
    ((attr secrets "private_key_string").truthy = true ∧
      KeyLoaded env .keyFromString privateKeyClasses) ∨
    ¬ KeyInterrupted env .keyFromFile privateKeyClasses)

/-- `_create_ssh_client` has an SSH client. -/
def SshClientCreated (props secrets : Dict Json) : Prop :=
  modules.paramiko = true ∧ Answers env .createSsh ∧ Answers env .setHostKeyPolicy ∧
    KeysTried env props secrets

/-- The SFTP check has an SSH client and connects it. -/
def SshConnects (props : Dict Json) : Prop :=
  connection.properties.isInstance (packageRef "connectors.ftp" "SFTPProperties") = true ∧
    HostReached env ∧ ∃ secrets, getSecrets "SFTPSecrets" connection = .ok secrets ∧
      SshClientCreated modules env props secrets

/-- Everything that `_create_client` does with an SSH client goes well. -/
def SftpSetUp (props : Dict Json) : Prop :=
  Answers env .connectSsh ∧ Answers env .openSftp ∧
    ((attr props "initial_directory").truthy = true → ¬ Interrupts env .chdir)

/-- The environment lets the check of a connector close what it opens. -/
def RuntimeConnector.CleansUp : RuntimeConnector → Prop
  | .sql preferAsync =>
    EngineCreated modules connection env preferAsync →
      SqlProbeSucceeds env (sqlStatement connection)
  | .kafka => True
  | .asyncKafka => True
  | .s3 =>
    S3Lists modules connection env → Answers env .listObjects ∧ modules.s3ClientCloses = true
  | .ftp =>
    FtpConnects modules connection env connection.properties.dump →
      FtpSetUp env connection.properties.dump
  | .sftp =>
    -- The SSH client is closed after the SFTP client, if closing that one goes well.
    SshConnects modules connection env connection.properties.dump →
      SftpSetUp env connection.properties.dump ∧ Answers env .closeSftp

/-- The calls that a check makes to find out whether it can connect. The change into the initial
directory, which may fail, and closing are not among them. -/
def RuntimeConnector.probes : RuntimeConnector → List ExternalCall
  | .sql _ => [.buildUrl, .createEngine, .connectEngine, .execute (sqlStatement connection)]
  | .kafka => [.buildKafkaConfig, .createAdmin, .listTopics]
  | .asyncKafka => [.buildKafkaConfig, .createAsyncAdmin, .startAdmin, .listTopics]
  | .s3 => [.importBoto3, .createS3Client, .listObjects]
  | .ftp =>
    [.openSocket, .createFtp, .connectFtp, .login, .setPasv, .pwd] ++
      (if usesTls connection.properties.dump then [.createContext, .auth, .protP] else [])
  | .sftp => [.openSocket, .createSsh, .setHostKeyPolicy, .connectSsh, .openSftp, .getcwd]

end

/-! ## What the parts of a check leave open -/

section

variable (modules : Installation) (connection : ValidatedConnection)
  (env : ExternalCall → Except Raised String)

/-- What is open after a call. -/
@[simp] theorem step_networkHandles (held : List Resource) (event : Event ExternalCall) :
    networkHandles.step held event =
      held.filter (fun r => !(closesAt event).contains r) ++ opensAt event := by
  rw [networkHandles, Handles.step]

variable {connection} in
/-- What a clause of a check returns is the result of a check that failed. -/
theorem reportBy_eq_some {clauses : List ExceptClause} {e : Raised}
    {p : Check ConnectionCheckResult} (h : reportBy connection clauses e = some p) :
    ∃ result, p = pure result ∧ result.connected = false := by
  obtain ⟨clause, -, hp⟩ := Option.map_eq_some_iff.mp h
  exact ⟨_, hp.symm, rfl⟩

variable {connection} in
/-- The clauses only return. -/
theorem reportBy_pure (clauses : List ExceptClause) (e : Raised) (p : Check ConnectionCheckResult)
    (h : reportBy connection clauses e = some p) : ∃ result, p = pure result := by
  obtain ⟨result, hp, -⟩ := reportBy_eq_some h
  exact ⟨result, hp⟩

/-- An engine that connected is disposed of exactly when the probe goes well. -/
theorem open_probeSql (preferAsync : Bool) (statement : String) :
    (exec networkHandles env (probeSql modules preferAsync connection statement) []).1 = [] ↔
      (EngineCreated modules connection env preferAsync → SqlProbeSucceeds env statement) := by
  unfold probeSql buildConnectionUrl EngineCreated SqlProbeSucceeds Answers
  by_cases hm : modules.sqlalchemy = true
  swap
  · simp [hm]
  by_cases ht : connection.type ∈ sqlTypes
  swap
  · simp [hm, ht]
  cases hr : resolveRuntimeDriver modules preferAsync connection with
  | error e => simp [hm, ht]
  | ok r =>
  cases hu : env .buildUrl with
  | error e => simp [hm, ht, hu, opensAt, closesAt]
  | ok v =>
  cases he : env .createEngine with
  | error e => simp [hm, ht, hu, he, opensAt, closesAt]
  | ok v =>
  cases hc : env .connectEngine with
  | error e => simp [hm, ht, hu, he, hc, opensAt, closesAt]
  | ok v =>
  cases hx : env (.execute statement) <;> cases hcc : env .closeConnection <;>
    cases hd : env .disposeEngine <;>
    simp [hm, ht, hu, he, hc, hx, hcc, hd, opensAt, closesAt]

/-- The Kafka check closes its client. -/
theorem open_checkKafka : (exec networkHandles env (checkKafka modules connection) []).1 = [] := by
  unfold checkKafka
  by_cases hm : modules.kafka = true
  swap
  · simp [hm]
  rw [exec_bind, exec_require, hm, if_pos rfl, onOk_ok,
    exec_tryExcept_fst networkHandles env (reportBy_pure kafkaClauses)]
  cases hb : env .buildKafkaConfig with
  | error e => simp [hb, opensAt, closesAt]
  | ok v =>
  cases hc : env .createAdmin with
  | error e => simp [hb, hc, opensAt, closesAt]
  | ok v =>
  cases hl : env .listTopics <;> cases hx : env .closeAdmin <;>
    simp [hb, hc, hl, hx, opensAt, closesAt]

/-- The asynchronous Kafka check closes its client. -/
theorem open_checkAsyncKafka :
    (exec networkHandles env (checkAsyncKafka modules connection) []).1 = [] := by
  unfold checkAsyncKafka
  by_cases hm : modules.kafka = true
  swap
  · simp [hm]
  rw [exec_bind, exec_require, hm, if_pos rfl, onOk_ok,
    exec_tryExcept_fst networkHandles env (reportBy_pure kafkaClauses)]
  cases hb : env .buildKafkaConfig with
  | error e => simp [hb, opensAt, closesAt]
  | ok v =>
  cases hc : env .createAsyncAdmin with
  | error e => simp [hb, hc, opensAt, closesAt]
  | ok v =>
  cases hs : env .startAdmin <;> cases hl : env .listTopics <;> cases hx : env .closeAdmin <;>
    simp [hb, hc, hs, hl, hx, opensAt, closesAt]

/-- Getting an S3 client opens nothing, and returns it exactly when its calls return. -/
theorem exec_getS3Client :
    ∃ outcome, exec networkHandles env (getS3Client modules connection) [] = ([], outcome) ∧
      ((∃ u, outcome = .ok u) ↔ S3ClientCreated modules connection env) := by
  unfold getS3Client S3ClientCreated Answers
  cases hi : env .importBoto3 with
  | error e => by_cases hc : e.cls = .importError <;> simp [hi, hc, opensAt, closesAt]
  | ok v =>
  cases hn : needsConfig modules connection with
  | false => cases hs : env .createS3Client <;> simp [hi, hs, opensAt, closesAt]
  | true =>
    cases hg : env .createConfig <;> cases hs : env .createS3Client <;>
      simp [hi, hg, hs, opensAt, closesAt]

/-- The S3 check closes its client exactly when listing the objects goes well. -/
theorem open_checkS3 : (exec networkHandles env (checkS3 modules connection) []).1 = [] ↔
    RuntimeConnector.s3.CleansUp modules connection env := by
  unfold checkS3 RuntimeConnector.CleansUp S3Lists getItem
  rw [exec_tryExcept_fst networkHandles env (reportBy_pure s3Clauses)]
  obtain ⟨outcome, hclient, hiff⟩ := exec_getS3Client modules connection env
  cases outcome with
  | error e =>
    have hnot : ¬ S3ClientCreated modules connection env := by
      intro h
      obtain ⟨u, hu⟩ := hiff.mpr h
      cases hu
    simp [hclient, hnot]
  | ok u =>
    have hcreated := hiff.mp ⟨u, rfl⟩
    cases hb : connection.properties.dump.lookup "bucket" with
    | none => simp [hclient]
    | some bucket =>
    cases hp : connection.properties.dump.lookup "prefix" with
    | none => simp [hclient]
    | some path =>
    cases hm : modules.s3ClientCloses <;> cases hl : env .listObjects <;>
      cases hx : env .closeS3Client <;>
      simp [hclient, hcreated, hl, hx, Answers, opensAt, closesAt]

/-- Trying the host's port leaves no socket open, and finds it open exactly when the socket is
opened and closed. -/
theorem exec_checkHostPort :
    ∃ outcome, exec networkHandles env checkHostPort [] = ([], outcome) ∧
      (outcome = .ok true ↔ HostReached env) := by
  unfold checkHostPort HostReached Answers
  cases ho : env .openSocket with
  | error e => by_cases hs : e.isOSError = true <;> simp [ho, hs, opensAt, closesAt]
  | ok v =>
  cases hc : env .closeSocket with
  | error e => by_cases hs : e.isOSError = true <;> simp [ho, hc, hs, opensAt, closesAt]
  | ok v => simp [ho, hc, opensAt, closesAt]

/-- Making directories opens and closes nothing, and raises what no `except Exception` catches
exactly when it is interrupted. -/
theorem exec_createFtpDirectory (paths : List String) (held : List Resource) :
    ∃ outcome, exec networkHandles env (createFtpDirectory paths) held = (held, outcome) ∧
      ((∃ e, outcome = .error e ∧ e.isException = false) ↔ DirectoryInterrupted env paths) := by
  induction paths with
  | nil => exact ⟨.ok (), rfl, by simp [DirectoryInterrupted]⟩
  | cons path paths ih =>
    obtain ⟨rest, hrest, hiff⟩ := ih
    unfold createFtpDirectory DirectoryInterrupted Interrupts Refuses Answers
    cases hc : env (.cwdPart path) with
    | ok v => exact ⟨rest, by simp [hc, hrest, opensAt, closesAt], by simp [hiff]⟩
    | error e =>
    by_cases hp : e.isErrorPerm = true
    swap
    · exact ⟨.error e, by simp [hc, hp, opensAt, closesAt], by simp [hp]⟩
    -- A refusal is an `Exception`, so only what comes after it can interrupt.
    have he : e.isException = true := by
      have hcls : e.cls = .errorPerm := by simpa [Raised.isErrorPerm] using hp
      simp [Raised.isException, hcls]
    cases hm : env (.mkd path) with
    | error e' =>
      exact ⟨.error e', by simp [hc, hp, hm, opensAt, closesAt], by simp [hp, he]⟩
    | ok v =>
    cases hd : env (.cwdMade path) with
    | error e' =>
      exact ⟨.error e', by simp [hc, hp, hm, hd, opensAt, closesAt], by simp [hp, he]⟩
    | ok v' =>
      exact ⟨rest, by simp [hc, hp, hm, hd, hrest, opensAt, closesAt], by simp [hp, he, hiff]⟩

/-- The change into the initial directory opens and closes nothing. -/
theorem exec_enterFtpDirectory (props : Dict Json) (held : List Resource) :
    ∃ outcome, exec networkHandles env (enterFtpDirectory props) held = (held, outcome) ∧
      ((∃ u, outcome = .ok u) ↔ DirectoryEntered env props) := by
  unfold enterFtpDirectory DirectoryEntered Answers
  by_cases hi : (attr props "initial_directory").truthy = true
  swap
  · exact ⟨.ok (), by simp [hi], by simp [hi]⟩
  cases hc : env .cwd with
  | ok v => exact ⟨.ok (), by simp [hi, hc, opensAt, closesAt], by simp⟩
  | error e =>
  by_cases hp : e.isErrorPerm = true
  swap
  · exact ⟨.error e, by simp [hi, hc, hp, opensAt, closesAt], by simp [hi, hp]⟩
  by_cases ho : occursIn "550" e.text = true
  swap
  · exact ⟨.ok (), by simp [hi, hc, hp, ho, opensAt, closesAt], by simp [hp, ho]⟩
  obtain ⟨outcome, hmade, hiff⟩ := exec_createFtpDirectory env
    (directoryPaths (attrText props "initial_directory")) held
  cases outcome with
  | ok u =>
    have hnot := hiff.not.mp (by simp)
    exact ⟨.ok u, by simp [hi, hc, hp, ho, hmade, suppress, opensAt, closesAt], by simp [hp, hnot]⟩
  | error e' =>
    by_cases hx : e'.isException = true
    · have hnot := hiff.not.mp (by simp [hx])
      exact ⟨.ok (), by simp [hi, hc, hp, ho, hmade, hx, suppress, opensAt, closesAt],
        by simp [hp, hnot]⟩
    · have hint := hiff.mp ⟨e', rfl, by simpa using hx⟩
      exact ⟨.error e', by simp [hi, hc, hp, ho, hmade, hx, suppress, opensAt, closesAt],
        by simp [hi, hp, ho, hint]⟩

/-- The context of an FTP client, where it has one. -/
theorem exec_ftpContext (props : Dict Json) (held : List Resource) :
    ∃ outcome, exec networkHandles env
        (onlyIf (usesTls props) (buildSslContext props)) held = (held, outcome) ∧
      ((∃ u, outcome = .ok u) ↔ (usesTls props = true → ContextBuilt env props)) := by
  unfold buildSslContext ContextBuilt Answers
  cases ht : usesTls props with
  | false => exact ⟨.ok (), by simp, by simp⟩
  | true =>
  cases hc : env .createContext with
  | error e => exact ⟨.error e, by simp [hc, opensAt, closesAt], by simp⟩
  | ok v =>
  by_cases hf : (attr props "certfile").truthy = true
  swap
  · exact ⟨.ok (), by simp [hc, hf, opensAt, closesAt], by simp [hf]⟩
  cases hl : env .loadCertChain with
  | error e => exact ⟨.error e, by simp [hc, hf, hl, opensAt, closesAt], by simp [hf]⟩
  | ok v => exact ⟨.ok (), by simp [hc, hf, hl, opensAt, closesAt], by simp⟩

/-- Securing the data channel of an FTP client, where it has one to secure. -/
theorem exec_ftpChannel (props : Dict Json) (held : List Resource) :
    ∃ outcome, exec networkHandles env
        (onlyIf (usesTls props) (do perform .auth; perform .protP)) held =
          (held, outcome) ∧
      ((∃ u, outcome = .ok u) ↔ (usesTls props = true → ChannelSecured env)) := by
  unfold ChannelSecured Answers
  cases ht : usesTls props with
  | false => exact ⟨.ok (), by simp, by simp⟩
  | true =>
  cases ha : env .auth with
  | error e => exact ⟨.error e, by simp [ha, opensAt, closesAt], by simp⟩
  | ok v =>
  cases hp : env .protP with
  | error e => exact ⟨.error e, by simp [ha, hp, opensAt, closesAt], by simp⟩
  | ok v => exact ⟨.ok (), by simp [ha, hp, opensAt, closesAt], by simp⟩

/-- What `_create_client` does with an FTP client that it has. -/
theorem exec_setUpFtp (props : Dict Json) :
    ∃ outcome, exec networkHandles env (do
        perform .connectFtp
        onlyIf (usesTls props) (do perform .auth; perform .protP)
        perform .login
        perform .setPasv
        enterFtpDirectory props) [] = ([.ftpClient], outcome) ∧
      ((∃ u, outcome = .ok u) ↔ FtpSetUp env props) := by
  unfold FtpSetUp
  cases hc : env .connectFtp with
  | error e => exact ⟨.error e, by simp [hc, opensAt, closesAt], by simp [Answers, hc]⟩
  | ok v =>
  obtain ⟨channel, hchannel, hsecured⟩ := exec_ftpChannel env props [.ftpClient]
  cases channel with
  | error e =>
    have hnot := hsecured.not.mp (by simp)
    exact ⟨.error e, by simp [hc, hchannel, opensAt, closesAt], by simp [hnot]⟩
  | ok u =>
  have hsecured := hsecured.mp ⟨u, rfl⟩
  cases hl : env .login with
  | error e =>
    exact ⟨.error e, by simp [hc, hchannel, hl, opensAt, closesAt], by simp [Answers, hl]⟩
  | ok v =>
  cases hs : env .setPasv with
  | error e =>
    exact ⟨.error e, by simp [hc, hchannel, hl, hs, opensAt, closesAt], by simp [Answers, hs]⟩
  | ok v =>
  obtain ⟨outcome, hentered, hiff⟩ := exec_enterFtpDirectory env props [.ftpClient]
  refine ⟨outcome, by simp [hc, hchannel, hl, hs, hentered, opensAt, closesAt], ?_⟩
  rw [hiff]
  exact ⟨fun h => ⟨⟨_, hc⟩, hsecured, ⟨_, hl⟩, ⟨_, hs⟩, h⟩, fun h => h.2.2.2.2⟩

/-- `_create_client` either makes no client, or loses the client that it made, or returns it. -/
theorem exec_createFtpClient (props : Dict Json) :
    (∃ e, exec networkHandles env (createFtpClient modules props) [] = ([], .error e) ∧
        ¬ FtpClientCreated modules env props) ∨
      (∃ e, exec networkHandles env (createFtpClient modules props) [] = ([.ftpClient], .error e) ∧
        FtpClientCreated modules env props ∧ ¬ FtpSetUp env props) ∨
      (exec networkHandles env (createFtpClient modules props) [] = ([.ftpClient], .ok ()) ∧
        FtpClientCreated modules env props ∧ FtpSetUp env props) := by
  unfold FtpClientCreated createFtpClient
  by_cases hm : modules.ftplib = true
  swap
  · exact .inl ⟨_, by simp [hm]; rfl, by simp [hm]⟩
  obtain ⟨context, hcontext, hbuilt⟩ := exec_ftpContext env props []
  cases context with
  | error e =>
    have hnot := hbuilt.not.mp (by simp)
    exact .inl ⟨e, by simp [hm, hcontext], by simp [hnot]⟩
  | ok u =>
  have hbuilt := hbuilt.mp ⟨u, rfl⟩
  cases hc : env .createFtp with
  | error e =>
    exact .inl ⟨e, by simp [hm, hcontext, hc, opensAt, closesAt], by simp [Answers, hc]⟩
  | ok v =>
  obtain ⟨outcome, hset, hiff⟩ := exec_setUpFtp env props
  have hexec : exec networkHandles env (createFtpClient modules props) [] =
      ([.ftpClient], outcome) := by
    rw [← hset]
    unfold createFtpClient
    rw [exec_bind, exec_require, hm, if_pos rfl, onOk_ok, exec_bind, hcontext, onOk_ok, exec_bind,
      exec_perform, hc, onOk_ok, onOk_ok]
    rfl
  have hcreated : modules.ftplib = true ∧ (usesTls props = true → ContextBuilt env props) ∧
      Answers env .createFtp := ⟨hm, hbuilt, v, hc⟩
  cases outcome with
  | error e => exact .inr (.inl ⟨e, hexec, hcreated, hiff.not.mp (by simp)⟩)
  | ok u => exact .inr (.inr ⟨hexec, hcreated, hiff.mp ⟨u, rfl⟩⟩)

variable {connection} in
/-- The properties of a connection, where they are of the connector's class. -/
theorem ensureProperties_of_isInstance {cls : String}
    (h : connection.properties.isInstance (packageRef "connectors.ftp" cls) = true) :
    ensureProperties cls connection = .ok connection.properties.dump := by
  unfold ensureProperties
  rw [if_pos h]

/-- The FTP check either connects no client, or loses the client that it connected, or has it. -/
theorem exec_acquireFtp
    (hcls : connection.properties.isInstance (packageRef "connectors.ftp" "FTPProperties") = true) :
    (∃ outcome, exec networkHandles env
          (acquireFtp modules connection connection.properties.dump) [] = ([], outcome) ∧
        outcome ≠ .ok none ∧
        ¬ FtpConnects modules connection env connection.properties.dump) ∨
      (∃ e, exec networkHandles env
          (acquireFtp modules connection connection.properties.dump) [] =
            ([.ftpClient], .error e) ∧
        FtpConnects modules connection env connection.properties.dump ∧
        ¬ FtpSetUp env connection.properties.dump) ∨
      (exec networkHandles env (acquireFtp modules connection connection.properties.dump) [] =
          ([.ftpClient], .ok none) ∧
        FtpConnects modules connection env connection.properties.dump ∧
        FtpSetUp env connection.properties.dump) := by
  unfold acquireFtp getFtpClient FtpConnects
  by_cases hmode : attr connection.properties.dump "mode" ∈ supportedModes
  swap
  · exact .inl ⟨_, by simp [hmode]; rfl, by simp, by simp [hmode]⟩
  obtain ⟨reached, hport, hreached⟩ := exec_checkHostPort env
  cases reached with
  | error e =>
    have hnot := hreached.not.mp (by simp)
    exact .inl ⟨.error e, by simp [hmode, hport], by simp, by simp [hnot]⟩
  | ok reached =>
  cases reached with
  | false =>
    have hnot := hreached.not.mp (by simp)
    exact .inl ⟨_, by simp [hmode, hport]; rfl, by simp, by simp [hnot]⟩
  | true =>
  have hreached := hreached.mp rfl
  cases hsecrets : getSecrets "FTPSecrets" connection with
  | error e =>
    exact .inl ⟨.error e, by simp [hmode, hport, ensureProperties_of_isInstance hcls], by simp,
      by simp⟩
  | ok secrets =>
  rcases exec_createFtpClient modules env connection.properties.dump with
    ⟨e, hclient, hnot⟩ | ⟨e, hclient, hcreated, hnot⟩ | ⟨hclient, hcreated, hset⟩
  · exact .inl ⟨.error e,
      by simp [hmode, hport, ensureProperties_of_isInstance hcls, hclient], by simp,
      by simp [hnot]⟩
  · exact .inr (.inl ⟨e, by simp [hmode, hport, ensureProperties_of_isInstance hcls, hclient],
      ⟨hcls, hmode, hreached, ⟨secrets, rfl⟩, hcreated⟩, hnot⟩)
  · exact .inr (.inr ⟨by simp [hmode, hport, ensureProperties_of_isInstance hcls, hclient],
      ⟨hcls, hmode, hreached, ⟨secrets, rfl⟩, hcreated⟩, hset⟩)

/-- Closing an FTP client closes it, by `quit` or after it by `close`. -/
theorem open_closeFtpClient : (exec networkHandles env closeFtpClient [.ftpClient]).1 = [] := by
  unfold closeFtpClient suppress
  cases hq : env .quit with
  | ok v => simp [hq, opensAt, closesAt]
  | error e =>
  by_cases he : e.isException = true
  swap
  · simp [hq, he, opensAt, closesAt]
  cases hc : env .closeFtp with
  | ok v => simp [hq, he, hc, opensAt, closesAt]
  | error e' => by_cases he' : e'.isException = true <;> simp [hq, he, hc, he', opensAt, closesAt]

/-- The FTP check closes its client exactly when `_create_client` returns the client that it
connects. -/
theorem open_checkFtp : (exec networkHandles env (checkFtp modules connection) []).1 = [] ↔
    RuntimeConnector.ftp.CleansUp modules connection env := by
  unfold RuntimeConnector.CleansUp checkFtp
  by_cases hcls :
      connection.properties.isInstance (packageRef "connectors.ftp" "FTPProperties") = true
  swap
  · have hnot : ¬ FtpConnects modules connection env connection.properties.dump :=
      fun h => hcls h.1
    simp [ensureProperties, hcls, hnot]
  rw [exec_bind, ensureProperties_of_isInstance hcls, exec_ofExcept, onOk_ok]
  rcases exec_acquireFtp modules connection env hcls with
    ⟨outcome, hacquire, hne, hnot⟩ | ⟨e, hacquire, hconnects, hnot⟩ | ⟨hacquire, hconnects, hset⟩
  · refine iff_of_true ?_ fun h => absurd h hnot
    exact exec_tryWith_fst_of_ne networkHandles env (reportBy_pure ftpClauses) hne hacquire
  · refine iff_of_false ?_ fun h => hnot (h hconnects)
    rw [exec_tryWith_error networkHandles env (reportBy_pure ftpClauses) hacquire]
    simp
  · refine iff_of_true ?_ fun _ => hset
    rw [exec_tryWith_none networkHandles env hacquire, exec_tryFinally_fst,
      exec_tryExcept_fst networkHandles env (reportBy_pure ftpClauses)]
    cases hp : env .pwd with
    | ok v => simp [hp, open_closeFtpClient, opensAt, closesAt]
    | error e => simp [hp, open_closeFtpClient, opensAt, closesAt]

/-- Trying the key classes opens and closes nothing, and raises only what no `except Exception`
catches. -/
theorem exec_loadKeyWith (load : KeyClass → ExternalCall)
    (hload : ∀ cls raised, opensAt ⟨load cls, raised⟩ = [] ∧ closesAt ⟨load cls, raised⟩ = [])
    (classes : List KeyClass) (held : List Resource) :
    ∃ outcome, exec networkHandles env (loadKeyWith load classes) held = (held, outcome) ∧
      (∀ e, outcome = .error e → e.isException = false) ∧
      ((∃ e, outcome = .error e) ↔ KeyInterrupted env load classes) ∧
      (outcome = .ok true ↔ KeyLoaded env load classes) := by
  induction classes with
  | nil => exact ⟨.ok false, rfl, by simp, by simp [KeyInterrupted], by simp [KeyLoaded]⟩
  | cons cls rest ih =>
    obtain ⟨outcome, hrest, hclass, herror, htrue⟩ := ih
    unfold loadKeyWith KeyInterrupted KeyLoaded Interrupts Fails Answers
    cases hl : env (load cls) with
    | ok v => exact ⟨.ok true, by simp [hl, hload], by simp, by simp, by simp⟩
    | error e =>
    by_cases he : e.isException = true
    · exact ⟨outcome, by simp [hl, he, hload, hrest], hclass, by simp [he, herror],
        by simp [he, htrue]⟩
    · exact ⟨.error e, by simp [hl, he, hload], by simpa using he, by simp [he], by simp [he]⟩

/-- `_load_private_key` opens and closes nothing, and raises only what no `except Exception`
catches. -/
theorem exec_loadPrivateKey (props secrets : Dict Json) (held : List Resource) :
    ∃ outcome, exec networkHandles env (loadPrivateKey props secrets) held = (held, outcome) ∧
      (∀ e, outcome = .error e → e.isException = false) ∧
      ((∃ found, outcome = .ok found) ↔ KeysTried env props secrets) := by
  have hneutral : ∀ cls raised, (opensAt ⟨.keyFromString cls, raised⟩ = [] ∧
      closesAt ⟨.keyFromString cls, raised⟩ = []) ∧
      opensAt ⟨.keyFromFile cls, raised⟩ = [] ∧ closesAt ⟨.keyFromFile cls, raised⟩ = [] :=
    fun _ _ => ⟨⟨rfl, rfl⟩, rfl, rfl⟩
  obtain ⟨first, hfirst, hfirstClass, hfirstError, hfirstTrue⟩ :=
    exec_loadKeyWith env .keyFromString (fun cls raised => (hneutral cls raised).1)
      privateKeyClasses held
  obtain ⟨second, hsecond, hsecondClass, hsecondError, -⟩ :=
    exec_loadKeyWith env .keyFromFile (fun cls raised => (hneutral cls raised).2)
      privateKeyClasses held
  have hfile : (∃ found, second = .ok found) ↔ ¬ KeyInterrupted env .keyFromFile
      privateKeyClasses := by
    rw [← hsecondError]
    cases second <;> simp
  -- What comes after the loop over the string's classes, when that finds no key.
  have hafter : ∃ outcome, exec networkHandles env
      (if (attr props "private_key_path").truthy then loadKeyWith .keyFromFile privateKeyClasses
        else pure false) held = (held, outcome) ∧
      (∀ e, outcome = .error e → e.isException = false) ∧
      ((∃ found, outcome = .ok found) ↔ ((attr props "private_key_path").truthy = true →
        ¬ KeyInterrupted env .keyFromFile privateKeyClasses)) := by
    cases hpath : (attr props "private_key_path").truthy with
    | false => exact ⟨.ok false, by simp, by simp, by simp⟩
    | true => exact ⟨second, by simp [hsecond], hsecondClass, by simp [hfile]⟩
  obtain ⟨last, hlast, hlastClass, hlastIff⟩ := hafter
  unfold loadPrivateKey KeysTried
  cases hstring : (attr secrets "private_key_string").truthy with
  | false => exact ⟨last, by simpa using hlast, hlastClass, by rw [hlastIff]; simp⟩
  | true =>
  cases first with
  | error e =>
    have hint := hfirstError.mp ⟨e, rfl⟩
    exact ⟨.error e, by simp [hfirst], hfirstClass, by simp [hint]⟩
  | ok found =>
  have hint := hfirstError.not.mp (by simp)
  cases found with
  | true => exact ⟨.ok true, by simp [hfirst], by simp, by simp [hint, hfirstTrue.mp rfl]⟩
  | false =>
    have hloaded := hfirstTrue.not.mp (by simp)
    exact ⟨last, by simpa [hfirst] using hlast, hlastClass, by
      rw [hlastIff]
      simp [hint, hloaded]⟩

/-- `_create_ssh_client` either makes no client or connects the one that it made. -/
theorem exec_createSshClient (props secrets : Dict Json) :
    (∃ e, exec networkHandles env (createSshClient modules props secrets) [] = ([], .error e) ∧
        ¬ SshClientCreated modules env props secrets) ∨
      (∃ outcome, exec networkHandles env (createSshClient modules props secrets) [] =
          ([.sshClient], outcome) ∧ SshClientCreated modules env props secrets ∧
        ((∃ u, outcome = .ok u) ↔ Answers env .connectSsh)) := by
  unfold createSshClient SshClientCreated Answers
  by_cases hm : modules.paramiko = true
  swap
  · exact .inl ⟨_, by simp [hm]; rfl, by simp [hm]⟩
  cases hs : env .createSsh with
  | error e => exact .inl ⟨e, by simp [hm, hs, opensAt, closesAt], by simp⟩
  | ok v =>
  cases hp : env .setHostKeyPolicy with
  | error e => exact .inl ⟨e, by simp [hm, hs, hp, opensAt, closesAt], by simp⟩
  | ok v =>
  obtain ⟨key, hkey, hclass, htried⟩ := exec_loadPrivateKey env props secrets []
  cases key with
  | error e =>
    have hnot := htried.not.mp (by simp)
    -- What stops the key loops is no `Exception`, so the handler around them lets it pass.
    exact .inl ⟨e, by simp [hm, hs, hp, hkey, hclass e rfl, opensAt, closesAt], by simp [hnot]⟩
  | ok found =>
  have htried := htried.mp ⟨found, rfl⟩
  cases hc : env .connectSsh with
  | error e =>
    exact .inr ⟨.error e, by simp [hm, hs, hp, hkey, hc, opensAt, closesAt],
      by simp [hm, htried], by simp⟩
  | ok v =>
    exact .inr ⟨.ok (), by simp [hm, hs, hp, hkey, hc, opensAt, closesAt],
      by simp [hm, htried], by simp⟩

/-- `_create_client` either makes no SSH client, or loses the one that it connected, or returns the
SFTP client made of it. -/
theorem exec_createSftpClient (props secrets : Dict Json) :
    (∃ e, exec networkHandles env (createSftpClient modules props secrets) [] = ([], .error e) ∧
        ¬ SshClientCreated modules env props secrets) ∨
      (∃ held e, exec networkHandles env (createSftpClient modules props secrets) [] =
          (.sshClient :: held, .error e) ∧ SshClientCreated modules env props secrets ∧
        ¬ SftpSetUp env props) ∨
      (exec networkHandles env (createSftpClient modules props secrets) [] =
          ([.sshClient, .sftpClient], .ok ()) ∧ SshClientCreated modules env props secrets ∧
        SftpSetUp env props) := by
  unfold createSftpClient SftpSetUp
  rcases exec_createSshClient modules env props secrets with
    ⟨e, hssh, hnot⟩ | ⟨outcome, hssh, hcreated, hiff⟩
  · exact .inl ⟨e, by simp [hssh], hnot⟩
  cases outcome with
  | error e =>
    have hnot := hiff.not.mp (by simp)
    exact .inr (.inl ⟨[], e, by simp [hssh], hcreated, by simp [hnot]⟩)
  | ok u =>
  have hconnected := hiff.mp ⟨u, rfl⟩
  cases ho : env .openSftp with
  | error e =>
    exact .inr (.inl ⟨[], e, by simp [hssh, ho, opensAt, closesAt], hcreated, by simp [Answers, ho]⟩)
  | ok v =>
  have hopened : Answers env .openSftp := ⟨v, ho⟩
  cases hd : (attr props "initial_directory").truthy with
  | false =>
    exact .inr (.inr ⟨by simp [hssh, ho, opensAt, closesAt], hcreated, hconnected, hopened,
      by simp⟩)
  | true =>
  cases hc : env .chdir with
  | ok v =>
    exact .inr (.inr ⟨by simp [hssh, ho, hc, suppress, opensAt, closesAt], hcreated, hconnected,
      hopened, by simp [Interrupts, hc]⟩)
  | error e =>
  by_cases he : e.isException = true
  · exact .inr (.inr ⟨by simp [hssh, ho, hc, he, suppress, opensAt, closesAt], hcreated,
      hconnected, hopened, by simp [Interrupts, hc, he]⟩)
  · exact .inr (.inl ⟨[.sftpClient], e, by simp [hssh, ho, hc, he, suppress, opensAt, closesAt],
      hcreated, by simp [Interrupts, hc, he]⟩)

/-- The SFTP check either connects no client, or loses the client that it connected, or has it. -/
theorem exec_acquireSftp
    (hcls : connection.properties.isInstance (packageRef "connectors.ftp" "SFTPProperties") =
      true) :
    (∃ outcome, exec networkHandles env
          (acquireSftp modules connection connection.properties.dump) [] = ([], outcome) ∧
        outcome ≠ .ok none ∧
        ¬ SshConnects modules connection env connection.properties.dump) ∨
      (∃ held e, exec networkHandles env
          (acquireSftp modules connection connection.properties.dump) [] =
            (.sshClient :: held, .error e) ∧
        SshConnects modules connection env connection.properties.dump ∧
        ¬ SftpSetUp env connection.properties.dump) ∨
      (exec networkHandles env (acquireSftp modules connection connection.properties.dump) [] =
          ([.sshClient, .sftpClient], .ok none) ∧
        SshConnects modules connection env connection.properties.dump ∧
        SftpSetUp env connection.properties.dump) := by
  unfold acquireSftp getSftpClient SshConnects
  obtain ⟨reached, hport, hreached⟩ := exec_checkHostPort env
  cases reached with
  | error e =>
    have hnot := hreached.not.mp (by simp)
    exact .inl ⟨.error e, by simp [hport], by simp, by simp [hnot]⟩
  | ok reached =>
  cases reached with
  | false =>
    have hnot := hreached.not.mp (by simp)
    exact .inl ⟨_, by simp [hport]; rfl, by simp, by simp [hnot]⟩
  | true =>
  have hreached := hreached.mp rfl
  cases hsecrets : getSecrets "SFTPSecrets" connection with
  | error e =>
    exact .inl ⟨.error e, by simp [hport, ensureProperties_of_isInstance hcls], by simp, by simp⟩
  | ok secrets =>
  rcases exec_createSftpClient modules env connection.properties.dump secrets with
    ⟨e, hclient, hnot⟩ | ⟨held, e, hclient, hcreated, hnot⟩ | ⟨hclient, hcreated, hset⟩
  · exact .inl ⟨.error e, by simp [hport, ensureProperties_of_isInstance hcls, hclient], by simp,
      by simp [hnot]⟩
  · exact .inr (.inl ⟨held, e, by simp [hport, ensureProperties_of_isInstance hcls, hclient],
      ⟨hcls, hreached, secrets, rfl, hcreated⟩, hnot⟩)
  · exact .inr (.inr ⟨by simp [hport, ensureProperties_of_isInstance hcls, hclient],
      ⟨hcls, hreached, secrets, rfl, hcreated⟩, hset⟩)

/-- Closing an SFTP client closes its SSH client only if closing the first goes well. -/
theorem open_closeSftpClient :
    (exec networkHandles env closeSftpClient [.sshClient, .sftpClient]).1 = [] ↔
      Answers env .closeSftp := by
  unfold closeSftpClient suppress Answers
  cases hf : env .closeSftp with
  | error e => by_cases he : e.isException = true <;> simp [hf, he, opensAt, closesAt]
  | ok v =>
  cases hs : env .closeSsh with
  | ok v => simp [hf, hs, opensAt, closesAt]
  | error e => by_cases he : e.isException = true <;> simp [hf, hs, he, opensAt, closesAt]

/-- The SFTP check closes its clients exactly when `_create_client` returns the client that it
connects and closing that one goes well. -/
theorem open_checkSftp : (exec networkHandles env (checkSftp modules connection) []).1 = [] ↔
    RuntimeConnector.sftp.CleansUp modules connection env := by
  unfold RuntimeConnector.CleansUp checkSftp
  by_cases hcls :
      connection.properties.isInstance (packageRef "connectors.ftp" "SFTPProperties") = true
  swap
  · have hnot : ¬ SshConnects modules connection env connection.properties.dump :=
      fun h => hcls h.1
    simp [ensureProperties, hcls, hnot]
  rw [exec_bind, ensureProperties_of_isInstance hcls, exec_ofExcept, onOk_ok]
  rcases exec_acquireSftp modules connection env hcls with
    ⟨outcome, hacquire, hne, hnot⟩ | ⟨held, e, hacquire, hconnects, hnot⟩ |
      ⟨hacquire, hconnects, hset⟩
  · refine iff_of_true ?_ fun h => absurd h hnot
    exact exec_tryWith_fst_of_ne networkHandles env (reportBy_pure sftpClauses) hne hacquire
  · refine iff_of_false ?_ fun h => hnot (h hconnects).1
    rw [exec_tryWith_error networkHandles env (reportBy_pure sftpClauses) hacquire]
    simp
  · rw [exec_tryWith_none networkHandles env hacquire, exec_tryFinally_fst,
      exec_tryExcept_fst networkHandles env (reportBy_pure sftpClauses)]
    have hheld : (exec networkHandles env (do
        let directory ← call .getcwd
        return checkSuccess connection ("SFTP connected. Current directory: " ++ directory))
        [.sshClient, .sftpClient]).1 = [.sshClient, .sftpClient] := by
      cases hg : env .getcwd <;> simp [hg, opensAt, closesAt]
    rw [hheld, open_closeSftpClient]
    exact ⟨fun h _ => ⟨hset, h⟩, fun h => (h hconnects).2⟩

/-- An Oracle connection has no asynchronous driver. -/
theorem not_oracle_of_useAsync {preferAsync : Bool} {runtime : ResolvedRuntimeDriver}
    (h : resolveRuntimeDriver modules preferAsync connection = .ok runtime)
    (ha : runtime.useAsync = true) : connection.type ≠ "oracle" := by
  intro horacle
  have hspec : ∀ driver spec, SQLConnector.resolveDriverSpec "oracle" driver = .ok spec →
      spec.asyncDialect = none := by
    intro driver spec hs
    have htable : ∀ entry ∈ driverSpecTable, entry.1.1 = "oracle" → entry.2.asyncDialect = none := by
      simp [driverSpecTable]
    unfold SQLConnector.resolveDriverSpec at hs
    cases hl : driverSpecTable.lookup ("oracle", driver) with
    | none => simp [hl] at hs
    | some found =>
      obtain ⟨before, after, heq, -⟩ := List.lookup_eq_some_iff.mp hl
      have hmem : (("oracle", driver), found) ∈ driverSpecTable := by simp [heq]
      simp only [hl, Except.ok.injEq] at hs
      rw [← hs]
      exact htable _ hmem rfl
  unfold resolveRuntimeDriver at h
  rw [horacle] at h
  cases hs : SQLConnector.resolveDriverSpec "oracle"
      (resolveDriver modules "oracle" connection.driver) with
  | error e => simp [hs] at h
  | ok spec =>
    simp only [hs, hspec _ spec hs] at h
    split at h
    · rename_i hnone
      cases hnone
    · cases h
      cases ha
    · cases h

/-- The SQL check disposes of its engine exactly when the probe goes well. -/
theorem open_checkSql (preferAsync : Bool) :
    (exec networkHandles env (checkSql modules preferAsync connection) []).1 = [] ↔
      (RuntimeConnector.sql preferAsync).CleansUp modules connection env := by
  unfold RuntimeConnector.CleansUp checkSql
  cases hr : resolveRuntimeDriver modules preferAsync connection with
  | error e => simp [EngineCreated, hr]
  | ok runtime =>
  rw [exec_bind, exec_ofExcept, onOk_ok]
  by_cases hm : modules.sqlalchemy = true
  swap
  · have hnot : ¬ EngineCreated modules connection env preferAsync := fun h => hm h.1
    refine iff_of_true ?_ fun h => absurd h hnot
    cases ha : runtime.useAsync with
    | true => simp [checkSqlAsync, hm]
    | false =>
      unfold checkSqlBlocking
      rw [if_neg (by simp), exec_tryExcept_fst networkHandles env (reportBy_pure sqlClauses)]
      simp [hm]
  cases ha : runtime.useAsync with
  | true =>
    have hstatement : sqlStatement connection = "SELECT 1" := by
      unfold sqlStatement
      rw [if_neg (not_oracle_of_useAsync modules connection hr ha)]
    unfold checkSqlAsync
    rw [if_pos rfl, exec_bind, exec_require, hm, if_pos rfl, onOk_ok,
      exec_tryExcept_fst networkHandles env (reportBy_pure sqlClauses), open_probeSql, hstatement]
  | false =>
    unfold checkSqlBlocking
    rw [if_neg (by simp), exec_tryExcept_fst networkHandles env (reportBy_pure sqlClauses),
      exec_bind, exec_require, hm, if_pos rfl, onOk_ok, open_probeSql]
    rfl

end

end DbConnection
