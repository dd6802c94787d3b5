import DbConnection.HealthCheckCleanup

/-!
# Health checks release what they open

A check that reports a connection has made all its probes, and none of them has raised. With what
the checks leave open this says, for every connector, connection and environment, exactly when a
check meets its contract (`cleanCheck_iff`).
-/

namespace DbConnection

open PyData Pydantic PyText ExternalCalls Program

section

variable {modules : Installation} {connection : ValidatedConnection}
  {env : ExternalCall → Except Raised String}

/-- What a clause of a check returns is not the result of a check that went well. -/
theorem ensures_reportBy (clauses : List ExceptClause) (e : Raised)
    (p : Check ConnectionCheckResult) (h : reportBy connection clauses e = some p)
    (made : List ExternalCall) : Ensures env p (·.connected = true) made := by
  obtain ⟨result, rfl, hfailed⟩ := reportBy_eq_some h
  exact Ensures.pure (by simp [hfailed])

/-- A SQL probe. -/
theorem ensures_probeSql (preferAsync : Bool) (statement : String)
    (q : ConnectionCheckResult → Prop) :
    Ensures env (probeSql modules preferAsync connection statement) q
      [.buildUrl, .createEngine, .connectEngine, .execute statement] := by
  have hurl : Ensures env (buildConnectionUrl modules preferAsync connection) (fun _ => True)
      [.buildUrl] :=
    (Ensures.nil _ _).bind fun _ => (Ensures.nil _ _).bind fun _ => (Ensures.nil _ _).bind fun _ =>
      Ensures.perform _ _
  have hexecute : Ensures env (tryFinally (perform (.execute statement)) (perform .closeConnection))
      (fun _ => True) [ExternalCall.execute statement] := (Ensures.perform _ _).tryFinally
  exact hurl.bind fun _ => (Ensures.perform _ _).bind fun _ => (Ensures.perform _ _).bind fun _ =>
    hexecute.bind fun _ => Ensures.nil _ _

/-- The SQL check. -/
theorem ensures_checkSql (preferAsync : Bool) :
    Ensures env (checkSql modules preferAsync connection) (·.connected = true)
      ((RuntimeConnector.sql preferAsync).probes connection) := by
  refine Ensures.ofExcept_bind fun runtime hr => ?_
  have hprobed : ∀ statement, Ensures env (tryExcept
      (probeSql modules preferAsync connection statement) (reportBy connection sqlClauses))
      (·.connected = true) [.buildUrl, .createEngine, .connectEngine, .execute statement] :=
    fun statement => (ensures_probeSql preferAsync statement _).tryExcept fun e p hp =>
      ensures_reportBy sqlClauses e p hp _
  unfold RuntimeConnector.probes
  cases ha : runtime.useAsync with
  | true =>
    have hstatement : sqlStatement connection = "SELECT 1" := by
      unfold sqlStatement
      rw [if_neg (not_oracle_of_useAsync modules connection hr ha)]
    rw [if_pos rfl, hstatement]
    exact (Ensures.nil _ _).bind fun _ => hprobed "SELECT 1"
  | false =>
    rw [if_neg (by simp)]
    exact ((Ensures.nil _ _).bind fun _ => ensures_probeSql preferAsync _ _).tryExcept
      fun e p hp => ensures_reportBy sqlClauses e p hp _

/-- The Kafka check. -/
theorem ensures_checkKafka : Ensures env (checkKafka modules connection) (·.connected = true)
    (RuntimeConnector.kafka.probes connection) := by
  have hlist : Ensures env (tryFinally (perform .listTopics) (perform .closeAdmin))
      (fun _ => True) [ExternalCall.listTopics] := (Ensures.perform _ _).tryFinally
  refine (Ensures.nil _ _).bind fun _ => Ensures.tryExcept ?_ fun e p hp =>
    ensures_reportBy kafkaClauses e p hp _
  exact (Ensures.perform _ _).bind fun _ => (Ensures.perform _ _).bind fun _ =>
    hlist.bind fun _ => Ensures.nil _ _

/-- The asynchronous Kafka check. -/
theorem ensures_checkAsyncKafka :
    Ensures env (checkAsyncKafka modules connection) (·.connected = true)
      (RuntimeConnector.asyncKafka.probes connection) := by
  have hlist : Ensures env
      (tryFinally (do perform .startAdmin; perform .listTopics) (perform .closeAdmin))
      (fun _ => True) [ExternalCall.startAdmin, .listTopics] :=
    ((Ensures.perform _ _).bind fun _ => Ensures.perform _ _).tryFinally
  refine (Ensures.nil _ _).bind fun _ => Ensures.tryExcept ?_ fun e p hp =>
    ensures_reportBy kafkaClauses e p hp _
  exact (Ensures.perform _ _).bind fun _ => (Ensures.perform _ _).bind fun _ =>
    hlist.bind fun _ => Ensures.nil _ _

/-- The S3 check. -/
theorem ensures_checkS3 : Ensures env (checkS3 modules connection) (·.connected = true)
    (RuntimeConnector.s3.probes connection) := by
  have hclient : Ensures env (getS3Client modules connection) (fun _ => True)
      [.importBoto3, .createS3Client] := by
    -- The handler of the import only raises.
    refine Ensures.bind (Ensures.tryExcept (Ensures.perform _ _) fun e p hp => ?_) fun _ =>
      (Ensures.nil _ _).bind fun _ => Ensures.perform _ _
    split at hp
    · rw [← Option.some.inj hp]
      exact Ensures.throw _
    · cases hp
  refine Ensures.tryExcept ?_ fun e p hp => ensures_reportBy s3Clauses e p hp _
  exact hclient.bind fun _ => (Ensures.nil _ _).bind fun _ => (Ensures.nil _ _).bind fun _ =>
    (Ensures.perform ExternalCall.listObjects _).bind fun _ => Ensures.nil _ _

/-- Trying the host's port. -/
theorem ensures_checkHostPort : Ensures env checkHostPort (· = true) [.openSocket] := by
  refine Ensures.tryExcept ?_ fun e p hp => ?_
  · exact (Ensures.perform _ _).bind fun _ => Ensures.nil _ _
  · split at hp
    · rw [← Option.some.inj hp]
      exact Ensures.pure (by simp)
    · cases hp

/-- The calls by which `_create_client` of the FTP connector finds out whether it can connect. -/
def ftpProbes (props : Dict Json) : List ExternalCall :=
  (if usesTls props then [.createContext] else []) ++ [.createFtp, .connectFtp] ++
    (if usesTls props then [.auth, .protP] else []) ++ [.login, .setPasv]

/-- Creating an FTP client. -/
theorem ensures_createFtpClient (props : Dict Json) :
    Ensures env (createFtpClient modules props) (fun _ => True) (ftpProbes props) := by
  have hcontext : Ensures env (onlyIf (usesTls props) (buildSslContext props)) (fun _ => True)
      (if usesTls props then [.createContext] else []) :=
    Ensures.onlyIf ((Ensures.perform _ _).bind fun _ => Ensures.nil _ _)
  have hchannel : Ensures env (onlyIf (usesTls props) (do perform .auth; perform .protP))
      (fun _ => True) (if usesTls props then [.auth, .protP] else []) :=
    Ensures.onlyIf ((Ensures.perform _ _).bind fun _ => Ensures.perform _ _)
  have h : Ensures env (createFtpClient modules props) (fun _ => True) ([] ++
      ((if usesTls props then [.createContext] else []) ++ ([.createFtp] ++ ([.connectFtp] ++
        ((if usesTls props then [.auth, .protP] else []) ++ ([.login] ++ ([.setPasv] ++ []))))))) :=
    (Ensures.nil _ _).bind fun _ => hcontext.bind fun _ => (Ensures.perform _ _).bind fun _ =>
      (Ensures.perform _ _).bind fun _ => hchannel.bind fun _ => (Ensures.perform _ _).bind fun _ =>
        (Ensures.perform _ _).bind fun _ => Ensures.nil _ _
  refine h.mono ?_
  unfold ftpProbes
  simp

/-- The properties that a connector of files goes by are the connection's. -/
theorem dump_of_ensureProperties {cls : String} {props : Dict Json}
    (h : ensureProperties cls connection = .ok props) : props = connection.properties.dump := by
  unfold ensureProperties at h
  split at h
  · exact (Except.ok.inj h).symm
  · cases h

/-- What the FTP check does until it has its client. -/
theorem ensures_acquireFtp (props : Dict Json) :
    Ensures env (acquireFtp modules connection props) (· = none)
      ([.openSocket] ++ ftpProbes connection.properties.dump) := by
  have hclient : Ensures env (getFtpClient modules connection) (fun _ => True)
      (ftpProbes connection.properties.dump) := by
    refine Ensures.ofExcept_bind fun found hfound => Ensures.ofExcept_bind fun _ _ => ?_
    rw [dump_of_ensureProperties hfound]
    exact ensures_createFtpClient _
  unfold acquireFtp
  split
  swap
  · exact Ensures.pure (by simp)
  refine ensures_checkHostPort.bindOn (fun reached hreached => ?_) fun reached hnot => ?_
  · rw [hreached, if_pos rfl, ← List.append_nil (ftpProbes _)]
    exact hclient.bind fun _ => Ensures.nil _ _
  · rw [if_neg hnot]
    exact Ensures.pure (by simp)

/-- What the FTP check returns without a client is no connection. -/
theorem ensures_acquireFtp_some (props : Dict Json) (made : List ExternalCall) :
    Ensures env (acquireFtp modules connection props)
      (fun found => ∃ result, found = some result ∧ result.connected = true) made := by
  unfold acquireFtp
  split
  swap
  · exact Ensures.pure (by simp [checkFailure])
  refine Ensures.bind (Ensures.nil _ _) fun reached => ?_
  split
  · exact Ensures.bind (Ensures.nil _ _) fun _ => Ensures.pure (by simp)
  · exact Ensures.pure (by simp [unreachable, checkFailure])

/-- The FTP check. -/
theorem ensures_checkFtp : Ensures env (checkFtp modules connection) (·.connected = true)
    (RuntimeConnector.ftp.probes connection) := by
  refine Ensures.ofExcept_bind fun props _ => ?_
  refine Ensures.mono (Ensures.tryWith (ensures_acquireFtp props) (ensures_acquireFtp_some props _)
    ((Ensures.call _ _).bind fun _ => Ensures.nil _ _) (ensures_reportBy ftpClauses)) ?_
  unfold RuntimeConnector.probes ftpProbes
  cases usesTls connection.properties.dump <;> simp

/-- The calls by which `_create_client` of the SFTP connector finds out whether it can connect. -/
def sftpProbes : List ExternalCall := [.createSsh, .setHostKeyPolicy, .connectSsh, .openSftp]

/-- Creating an SFTP client. -/
theorem ensures_createSftpClient (props secrets : Dict Json) :
    Ensures env (createSftpClient modules props secrets) (fun _ => True) sftpProbes := by
  have hssh : Ensures env (createSshClient modules props secrets) (fun _ => True)
      [.createSsh, .setHostKeyPolicy, .connectSsh] :=
    (Ensures.nil _ _).bind fun _ => (Ensures.perform _ _).bind fun _ =>
      (Ensures.perform _ _).bind fun _ => (Ensures.nil _ _).bind fun _ => Ensures.perform _ _
  exact hssh.bind fun _ => (Ensures.perform _ _).bind fun _ => Ensures.nil _ _

/-- What the SFTP check does until it has its client. -/
theorem ensures_acquireSftp (props : Dict Json) :
    Ensures env (acquireSftp modules connection props) (· = none) ([.openSocket] ++ sftpProbes) := by
  have hclient : Ensures env (getSftpClient modules connection) (fun _ => True) sftpProbes :=
    Ensures.ofExcept_bind fun _ _ => Ensures.ofExcept_bind fun _ _ => ensures_createSftpClient _ _
  refine ensures_checkHostPort.bindOn (fun reached hreached => ?_) fun reached hnot => ?_
  · rw [hreached, if_pos rfl, ← List.append_nil sftpProbes]
    exact hclient.bind fun _ => Ensures.nil _ _
  · rw [if_neg hnot]
    exact Ensures.pure (by simp)

/-- What the SFTP check returns without a client is no connection. -/
theorem ensures_acquireSftp_some (props : Dict Json) (made : List ExternalCall) :
    Ensures env (acquireSftp modules connection props)
      (fun found => ∃ result, found = some result ∧ result.connected = true) made := by
  refine Ensures.bind (Ensures.nil _ _) fun reached => ?_
  split
  · exact Ensures.bind (Ensures.nil _ _) fun _ => Ensures.pure (by simp)
  · exact Ensures.pure (by simp [unreachable, checkFailure])

/-- The SFTP check. -/
theorem ensures_checkSftp : Ensures env (checkSftp modules connection) (·.connected = true)
    (RuntimeConnector.sftp.probes connection) := by
  refine Ensures.ofExcept_bind fun props _ => ?_
  refine Ensures.mono (Ensures.tryWith (ensures_acquireSftp props) (ensures_acquireSftp_some props _)
    ((Ensures.call _ _).bind fun _ => Ensures.nil _ _) (ensures_reportBy sftpClauses)) ?_
  unfold RuntimeConnector.probes sftpProbes
  simp

end

/-- The contract of a health check: at its end, everything that can hold a connection has had its
`close`, `quit` or `dispose` called, and it reports a connection only if every probe was made and
succeeded. -/
structure CleanCheck (connector : RuntimeConnector) (modules : Installation)
    (connection : ValidatedConnection) (env : ExternalCall → Except Raised String) : Prop where
  released : Released networkHandles (connector.check modules connection env).events
  probed : ∀ result, (connector.check modules connection env).outcome = .ok result →
    result.connected = true → ∀ k ∈ connector.probes connection,
      ⟨k, false⟩ ∈ (connector.check modules connection env).events

/-- Every check reports a connection only if every probe was made and succeeded. -/
theorem ensures_check (connector : RuntimeConnector) (modules : Installation)
    (connection : ValidatedConnection) (env : ExternalCall → Except Raised String) :
    Ensures env (connector.check modules connection) (·.connected = true)
      (connector.probes connection) := by
  cases connector with
  | sql preferAsync => exact ensures_checkSql preferAsync
  | kafka => exact ensures_checkKafka
  | asyncKafka => exact ensures_checkAsyncKafka
  | s3 => exact ensures_checkS3
  | ftp => exact ensures_checkFtp
  | sftp => exact ensures_checkSftp

/-- What every check leaves open. -/
theorem open_check (connector : RuntimeConnector) (modules : Installation)
    (connection : ValidatedConnection) (env : ExternalCall → Except Raised String) :
    (exec networkHandles env (connector.check modules connection) []).1 = [] ↔
      connector.CleansUp modules connection env := by
  cases connector with
  | sql preferAsync => exact open_checkSql modules connection env preferAsync
  | kafka => exact iff_of_true (open_checkKafka modules connection env) trivial
  | asyncKafka => exact iff_of_true (open_checkAsyncKafka modules connection env) trivial
  | s3 => exact open_checkS3 modules connection env
  | ftp => exact open_checkFtp modules connection env
  | sftp => exact open_checkSftp modules connection env

/-- A health check meets its contract exactly when the calls after the one that connects go well as
far as the connector needs them to. -/
theorem cleanCheck_iff (connector : RuntimeConnector) (modules : Installation)
    (connection : ValidatedConnection) (env : ExternalCall → Except Raised String) :
    CleanCheck connector modules connection env ↔ connector.CleansUp modules connection env := by
  rw [← open_check connector modules connection env, ← released_events_iff]
  constructor
  · exact fun h => h.released
  · intro h
    refine ⟨h, fun result hresult hconnected => ?_⟩
    exact ensures_check connector modules connection env _ result
      (by rw [← hresult]) hconnected

/-- Everything is installed. -/
def fullInstallation : Installation := ⟨true, true, true, true, true, true, true⟩

/-- The properties of a connection to an FTP server, most of them defaults. -/
def ftpConnectionProperties : Dict Json :=
  [("host", .str "ftp.local"), ("port", .int 21), ("mode", .str "ftp"),
    ("username", .str "reader"), ("anonymous", .bool false), ("encoding", .str "utf-8"),
    ("initial_directory", .null), ("ssl_context", .null), ("verify_ssl", .bool true),
    ("certfile", .null), ("keyfile", .null)]

/-- A connection to an FTP server. -/
def ftpConnection : ValidatedConnection where
  name := some "files"
  kind := "file"
  type := "ftp"
  driver := none
  driverOptions := none
  properties :=
    ⟨[packageRef "connectors.ftp" "FTPProperties", baseModelRef], ftpConnectionProperties,
      ftpConnectionProperties⟩
  secrets := none
  labels := []
  metadata := []
  extra := []

/-- A server that refuses the login. -/
def loginRefused : ExternalCall → Except Raised String
  | .login => .error ⟨.errorPerm, "error_perm", "530 Login incorrect."⟩
  | _ => .ok ""

/-- A refused login leaves the client connected: the check ends without a `quit` or `close`. -/
theorem refused_login_leaves_client_open :
    (RuntimeConnector.ftp.check fullInstallation ftpConnection loginRefused).events =
      [⟨.openSocket, false⟩, ⟨.closeSocket, false⟩, ⟨.createFtp, false⟩, ⟨.connectFtp, false⟩,
        ⟨.login, true⟩] ∧
    ¬ CleanCheck .ftp fullInstallation ftpConnection loginRefused := by
  have hevents : (RuntimeConnector.ftp.check fullInstallation ftpConnection loginRefused).events =
      [⟨.openSocket, false⟩, ⟨.closeSocket, false⟩, ⟨.createFtp, false⟩, ⟨.connectFtp, false⟩,
        ⟨.login, true⟩] := by decide
  refine ⟨hevents, fun h => ?_⟩
  have hreleased := h.released
  rw [hevents, released_iff] at hreleased
  exact absurd hreleased (by decide)

end DbConnection
