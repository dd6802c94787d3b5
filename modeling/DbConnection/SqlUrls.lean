import DbConnection.Connectors
import DbConnection.HealthCheckProbes

/-!
# The URLs of SQL connections

`build_connection_url` of `connectors/sql.py` with its queries, one branch for each type. How
SQLAlchemy renders a URL is a parameter; `RendersQuery` is the format that it documents.

Two connections that differ in a switch only, `secure` or `verify`, have the same URL but for what the
query makes of the switch. `switches_differ_iff` says when the URLs differ: always, but for MySQL,
whose query has nothing of `verify`, and of `secure` only the CA certificate.
-/

namespace DbConnection

open PyData Pydantic

/-! ## Queries -/

/-- `str(value)` of a value of a query: a string, an integer, a truth value or `None`. -/
def queryText (value : Json) : String := pyStr emptyHost value

/-- `if value is not None: query[key] = value`. -/
def unlessNone (key : String) (value : Json) : Dict Json :=
  if value = .null then [] else [(key, value)]

/-- `if value: query[key] = value`. -/
def ifTruthy (key : String) (value : Json) : Dict Json :=
  if value.truthy then [(key, value)] else []

/-- `value * 1000`, where there is an integer. -/
def inMilliseconds : Json → Json
  | .int n => .int (n * 1000)
  | value => value

/-- What `_build_query` reads of the properties. -/
structure SqlSettings where
  secure : Bool
  verify : Bool
  caCertString : Json
  connectTimeout : Json
  sendReceiveTimeout : Json
  syncRequestTimeout : Json
  database : Json

def sqlSettings (props : Dict Json) : SqlSettings where
  secure := (attr props "secure").truthy
  verify := (attr props "verify").truthy
  caCertString := attr props "ca_cert_string"
  connectTimeout := attr props "connect_timeout"
  sendReceiveTimeout := attr props "send_receive_timeout"
  syncRequestTimeout := attr props "sync_request_timeout"
  database := attr props "database"

/-- `_build_query` for PostgreSQL. -/
def postgresQuery (driver : String) (useAsync : Bool) (s : SqlSettings) : Dict Json :=
  unlessNone "connect_timeout" s.connectTimeout ++
    if s.secure then
      [("sslmode", .str (if s.verify then "verify-full" else "require"))] ++
        (if useAsync && driver == "asyncpg" then [("ssl", .bool true)] else []) ++
        ifTruthy "sslrootcert" s.caCertString
    else []

/-- `_build_query` for MySQL. -/
def mysqlQuery (useAsync : Bool) (s : SqlSettings) : Dict Json :=
  unlessNone "connect_timeout" s.connectTimeout ++
    (if useAsync then []
      else unlessNone "read_timeout" s.sendReceiveTimeout ++
        unlessNone "write_timeout" s.sendReceiveTimeout) ++
    -- Without a CA certificate the query has nothing of `secure`.
    if s.secure then ifTruthy "ssl_ca" s.caCertString else []

/-- `_build_query` for MongoDB. -/
def mongodbQuery (s : SqlSettings) : Dict Json :=
  unlessNone "connectTimeoutMS" (inMilliseconds s.connectTimeout) ++
    unlessNone "socketTimeoutMS" (inMilliseconds s.sendReceiveTimeout) ++
    if s.secure then
      [("tls", .bool true), ("tlsAllowInvalidCertificates", .bool !s.verify)] ++
        ifTruthy "tlsCAFile" s.caCertString
    else []

/-- `_build_query` for ClickHouse over its native protocol. -/
def clickhouseNativeQuery (s : SqlSettings) : Dict Json :=
  (if s.secure then
      [("secure", .bool true), ("verify", .bool s.verify)] ++ ifTruthy "ca_certs" s.caCertString
    else []) ++
    unlessNone "connect_timeout" s.connectTimeout ++
    unlessNone "sync_request_timeout" s.syncRequestTimeout

/-- `_build_query` for ClickHouse over HTTP. -/
def clickhouseHttpQuery (s : SqlSettings) : Dict Json :=
  [("protocol", .str (if s.secure then "https" else "http")), ("verify", .bool s.verify)] ++
    ifTruthy "ca_certs" s.caCertString ++ unlessNone "timeout" s.connectTimeout

/-- `_build_query` for Oracle. -/
def oracleQuery (s : SqlSettings) : Dict Json :=
  unlessNone "tcp_connect_timeout" s.connectTimeout ++
    (if s.secure then
      [("ssl_server_dn_match", .bool s.verify)] ++
        (if s.verify then ifTruthy "ssl_cert" s.caCertString else [])
    else []) ++
    [("service_name", s.database)]

/-- `_require_mssql_driver_options`. -/
def requireMssqlDriverOptions : Option Instance → Except Raised Instance
  | some options =>
    if options.isInstance odbcDriverOptions.ref then .ok options
    else .error ⟨.exception, "ValueError", "MSSQL ODBC driver options are required."⟩
  | none => .error ⟨.exception, "ValueError", "MSSQL ODBC driver options are required."⟩

/-- `_build_mssql_query` of the driver options. -/
def mssqlQuery (options : Instance) (s : SqlSettings) : Dict Json :=
  [("driver", attr options.dump "odbc_driver_name")] ++
    (if s.connectTimeout = .null then []
      else [("Connect Timeout", .str (queryText s.connectTimeout))]) ++
    [("Encrypt", .str (if s.secure then "yes" else "no"))] ++
    if s.secure then [("TrustServerCertificate", .str (if s.verify then "no" else "yes"))] else []

/-- The query of a type, before its values become strings. -/
def typeQuery (connectionType driver : String) (driverOptions : Option Instance) (useAsync : Bool)
    (s : SqlSettings) : Except Raised (Dict Json) :=
  if connectionType = "postgres" then .ok (postgresQuery driver useAsync s)
  else if connectionType = "mysql" then .ok (mysqlQuery useAsync s)
  else if connectionType = "mongodb" then .ok (mongodbQuery s)
  else if connectionType = "clickhouse" then
    .ok (if driver = "native" then clickhouseNativeQuery s else clickhouseHttpQuery s)
  else if connectionType = "mssql" then
    (requireMssqlDriverOptions driverOptions).map fun options => mssqlQuery options s
  else if connectionType = "oracle" then .ok (oracleQuery s)
  else .ok []

/-- `{key: str(value) for key, value in query.items()}`. -/
def queryTexts (query : Dict Json) : Dict String :=
  query.map fun item => (item.1, queryText item.2)

/-- `_build_query`. -/
def buildQuery (connectionType driver : String) (props : Dict Json)
    (driverOptions : Option Instance) (useAsync : Bool) : Except Raised (Dict String) :=
  (typeQuery connectionType driver driverOptions useAsync (sqlSettings props)).map queryTexts

/-! ## URLs -/

/-- `sa.URL`. -/
structure SqlUrl where
  drivername : String
  username : Option String
  password : Option String
  host : Option String
  port : Option Int
  database : Option String
  query : Dict String
  deriving DecidableEq, Repr

/-- What `build_connection_url` returns. -/
inductive ConnectionUrl where
  | url (value : SqlUrl)
  /-- A URL rendered as a string. -/
  | text (value : String)
  deriving DecidableEq, Repr

/-- A string property. -/
def strAttr (values : Dict Json) (name : String) : Option String := (attr values name).str?

/-- An integer property. -/
def intAttr (values : Dict Json) (name : String) : Option Int :=
  match attr values name with
  | .int n => some n
  | _ => none

/-- `_build_mssql_url`. -/
def buildMssqlUrl (drivername : String) (props : Dict Json) (password : Option String)
    (query : Dict String) : SqlUrl :=
  let host := strAttr props "host"
  -- A named instance stands behind the host, without a port.
  let isNamed := (attr props "instance_name").truthy
  { drivername := drivername
    username := strAttr props "username"
    password := password
    host := if isNamed then
        host.map fun host => host ++ "\\" ++ (strAttr props "instance_name").getD ""
      else host
    port := if isNamed then none else intAttr props "port"
    database := strAttr props "database"
    query := query }

/-- The URL of a connection with a query. -/
def sqlUrl (connectionType drivername : String) (props secrets : Dict Json)
    (query : Dict String) : SqlUrl :=
  if connectionType = "mssql" then
    buildMssqlUrl drivername props (strAttr secrets "password") query
  else
    { drivername := drivername
      username := strAttr props "username"
      password := strAttr secrets "password"
      host := strAttr props "host"
      port := intAttr props "port"
      -- Oracle has the database as the service name of its query.
      database := if connectionType = "oracle" then none else strAttr props "database"
      query := query }

/-- `build_connection_url`. -/
def SQLConnector.buildConnectionUrl (modules : Installation) (render : SqlUrl → String)
    (preferAsync : Bool) (connection : ValidatedConnection) : Except Raised ConnectionUrl := do
  if !modules.sqlalchemy then
    .error (runtimeError "SQL connections support requires Python's sqlalchemy module")
  if !sqlTypes.contains connection.type then .error typeNotSupported
  let runtime ← resolveRuntimeDriver modules preferAsync connection
  let props := connection.properties.dump
  let query ← buildQuery connection.type runtime.driver props connection.driverOptions
    runtime.useAsync
  let secrets := (connection.secrets.map Instance.dump).getD []
  let url := sqlUrl connection.type runtime.sqlalchemyDialect props secrets query
  return if connection.type = "mongodb" then .text (render url) else .url url

/-- Two URLs are equal: their queries are compared as dictionaries. -/
def SqlUrl.Equal (a b : SqlUrl) : Prop :=
  { a with query := [] } = { b with query := [] } ∧ ∀ key, a.query.lookup key = b.query.lookup key

/-- What two connections are given is equal. -/
def ConnectionUrl.Equal : ConnectionUrl → ConnectionUrl → Prop
  | .url a, .url b => a.Equal b
  | .text a, .text b => a = b
  | _, _ => False

/-! ## Rendered queries -/

/-- `quote_plus` on a character: letters, digits and `_.-~` stay, a space becomes `+`, and the bytes of
any other character are written in hexadecimal. -/
def quoteChar (c : Char) : List Char :=
  if c.isAlphanum || ['_', '.', '-', '~'].contains c then [c]
  else if c = ' ' then ['+']
  else (String.utf8EncodeChar c).flatMap fun byte =>
    ['%', Nat.digitChar (byte.toNat / 16) |>.toUpper, Nat.digitChar (byte.toNat % 16) |>.toUpper]

/-- `f"{quote_plus(key)}={quote_plus(value)}"`. -/
def itemText (item : String × String) : List Char :=
  item.1.toList.flatMap quoteChar ++ '=' :: item.2.toList.flatMap quoteChar

/-- The query of a rendered URL: `?`, and the items by their keys, with `&` between them. -/
def queryString (query : Dict String) : String :=
  String.ofList
    (match (query.insertionSort fun a b => a.1 ≤ b.1).map itemText with
      | [] => []
      | item :: items => '?' :: item ++ items.flatMap fun item => '&' :: item)

/-- A rendered URL ends with its query, after what does not depend on the query. -/
def RendersQuery (render : SqlUrl → String) : Prop :=
  ∀ url : SqlUrl, ∃ origin : String, ∀ query,
    render { url with query := query } = origin ++ queryString query

/-- How long a rendered query is. -/
def queryWidth : Dict String → Nat
  | [] => 0
  | item :: items => (itemText item).length + 1 + queryWidth items

theorem length_queryString (query : Dict String) :
    (queryString query).length = queryWidth query := by
  have hsum : ∀ items : List (List Char), (items.flatMap fun item => '&' :: item).length =
      (items.map fun item => item.length + 1).sum := by
    intro items
    simp [List.length_flatMap]
  have hlength : ∀ items : List (List Char),
      (match items with
        | [] => []
        | item :: items => '?' :: item ++ items.flatMap fun item => '&' :: item : List Char).length =
      (items.map fun item => item.length + 1).sum := by
    intro items
    cases items with
    | nil => rfl
    | cons item items =>
      rw [List.length_append, hsum, List.length_cons, List.map_cons, List.sum_cons]
  have hwidth : ∀ items : Dict String,
      queryWidth items = (items.map fun item => (itemText item).length + 1).sum := by
    intro items
    induction items with
    | nil => rfl
    | cons item items ih => rw [queryWidth, ih, List.map_cons, List.sum_cons]
  -- Sorting the items does not change the sum.
  have hperm := (List.perm_insertionSort (fun a b : String × String => a.1 ≤ b.1) query).map fun item =>
    (itemText item).length + 1
  unfold queryString
  rw [String.length_ofList, hlength, List.map_map, hwidth]
  exact hperm.sum_nat

theorem queryWidth_append (a b : Dict String) : queryWidth (a ++ b) = queryWidth a + queryWidth b := by
  induction a with
  | nil => exact (Nat.zero_add _).symm
  | cons item items ih =>
    rw [List.cons_append, queryWidth, ih, queryWidth]
    omega

/-- URLs whose queries are not as long are rendered to different strings. -/
theorem render_ne_of_queryWidth_ne {render : SqlUrl → String} (hrender : RendersQuery render)
    (url : SqlUrl) {query query' : Dict String} (hne : queryWidth query ≠ queryWidth query') :
    render { url with query := query } ≠ render { url with query := query' } := by
  obtain ⟨origin, horigin⟩ := hrender url
  intro heq
  rw [horigin, horigin] at heq
  have hlength := congrArg String.length heq
  rw [String.length_append, String.length_append, length_queryString, length_queryString] at hlength
  omega

/-! ## The switches -/

theorem lookup_unlessNone (k : String) (value : Json) (key : String) :
    (unlessNone k value).lookup key = if key = k ∧ value ≠ .null then some value else none := by
  unfold unlessNone
  by_cases hnull : value = .null
  · simp [hnull]
  · by_cases hkey : key = k
    · simp [hnull, hkey]
    · simp [hnull, hkey, List.lookup_cons, beq_eq_false_iff_ne.mpr hkey]

theorem lookup_ifTruthy (k : String) (value : Json) (key : String) :
    (ifTruthy k value).lookup key = if key = k ∧ value.truthy = true then some value else none := by
  unfold ifTruthy
  by_cases htruthy : value.truthy = true
  · by_cases hkey : key = k
    · simp [htruthy, hkey]
    · simp [htruthy, hkey, List.lookup_cons, beq_eq_false_iff_ne.mpr hkey]
  · simp [htruthy]

theorem lookup_queryTexts (query : Dict Json) (key : String) :
    (queryTexts query).lookup key = (query.lookup key).map queryText :=
  Dict.lookup_map_values queryText query key

/-- A property after one of them is set. -/
theorem attr_update (props : Dict Json) (key : String) (value : Json) (name : String) :
    attr (props.update [(key, value)]) name = if name = key then value else attr props name := by
  unfold attr
  rw [Dict.lookup_update]
  by_cases hname : name = key
  · subst hname
    simp
  · simp [List.lookup_cons, hname, beq_eq_false_iff_ne.mpr hname]

/-- The settings after `secure` is set. -/
theorem sqlSettings_secure (props : Dict Json) (on : Bool) :
    sqlSettings (props.update [("secure", .bool on)]) =
      { sqlSettings props with secure := on } := by
  simp [sqlSettings, attr_update, Json.truthy]

/-- The settings after `verify` is set. -/
theorem sqlSettings_verify (props : Dict Json) (on : Bool) :
    sqlSettings (props.update [("verify", .bool on)]) =
      { sqlSettings props with verify := on } := by
  simp [sqlSettings, attr_update, Json.truthy]

/-- The query is the only part of a URL that a switch of the properties goes into. -/
theorem sqlUrl_switch {connectionType drivername : String} {props secrets : Dict Json} {key : String}
    (hkey : key ∈ ["secure", "verify"]) (value : Json) (query : Dict String) :
    sqlUrl connectionType drivername (props.update [(key, value)]) secrets query =
      { sqlUrl connectionType drivername props secrets [] with query := query } := by
  have hname : ∀ name ∈ ["host", "port", "username", "database", "instance_name"],
      attr (props.update [(key, value)]) name = attr props name := by
    intro name hmem
    rw [attr_update, if_neg]
    rintro rfl
    simp only [List.mem_cons, List.not_mem_nil, or_false] at hkey hmem
    rcases hkey with rfl | rfl <;> simp at hmem
  unfold sqlUrl buildMssqlUrl strAttr intAttr
  rw [hname "host" (by decide), hname "port" (by decide), hname "username" (by decide),
    hname "database" (by decide), hname "instance_name" (by decide)]
  split <;> rfl

/-- The queries make a difference to the URL: some key has another value, or, for MongoDB, whose URL is
rendered, they are not as long. -/
def Distinct (connectionType : String) (query query' : Dict String) : Prop :=
  if connectionType = "mongodb" then queryWidth query ≠ queryWidth query'
  else ∃ key, query.lookup key ≠ query'.lookup key

/-- The query of MSSQL is built of ODBC options. -/
theorem typeQuery_mssql {driver : String} {driverOptions : Option Instance} {useAsync : Bool}
    {s : SqlSettings} {query : Dict Json}
    (h : typeQuery "mssql" driver driverOptions useAsync s = .ok query) :
    ∃ options, requireMssqlDriverOptions driverOptions = .ok options ∧
      query = mssqlQuery options s := by
  have hmap : (requireMssqlDriverOptions driverOptions).map (fun options => mssqlQuery options s) =
      .ok query := h
  cases hoptions : requireMssqlDriverOptions driverOptions with
  | error e =>
    rw [hoptions] at hmap
    cases hmap
  | ok options =>
    rw [hoptions] at hmap
    exact ⟨options, rfl, (Except.ok.inj hmap).symm⟩

/-- Items at the end of a query make it longer. -/
theorem queryWidth_append_ne (query : Dict String) (item : String × String) (items : Dict String) :
    queryWidth (query ++ item :: items) ≠ queryWidth query := by
  rw [queryWidth_append, queryWidth]
  omega

/-- What `secure` makes of a query. -/
theorem secure_query {connectionType driver : String} {driverOptions : Option Instance}
    {useAsync : Bool} {s : SqlSettings} {on off : Dict Json}
    (htype : connectionType ∈ sqlTypes)
    (hon : typeQuery connectionType driver driverOptions useAsync { s with secure := true } = .ok on)
    (hoff : typeQuery connectionType driver driverOptions useAsync { s with secure := false } =
      .ok off) :
    if connectionType = "mysql" ∧ s.caCertString.truthy = false then on = off
    else Distinct connectionType (queryTexts on) (queryTexts off) := by
  simp only [sqlTypes, List.mem_cons, List.not_mem_nil, or_false] at htype
  unfold Distinct
  rcases htype with rfl | rfl | rfl | rfl | rfl | rfl
  · cases hon
    cases hoff
    refine ⟨"sslmode", ?_⟩
    simp [lookup_queryTexts, postgresQuery, List.lookup_append, lookup_unlessNone]
  · cases hon
    cases hoff
    cases hca : s.caCertString.truthy with
    | false => simp [mysqlQuery, ifTruthy, hca]
    | true =>
      simp only [true_and, Bool.true_eq_false, if_false, String.reduceEq]
      refine ⟨"ssl_ca", ?_⟩
      cases useAsync <;>
        simp [lookup_queryTexts, mysqlQuery, List.lookup_append, lookup_unlessNone, lookup_ifTruthy,
          hca]
  · cases hon
    cases hoff
    by_cases hnative : driver = "native"
    · refine ⟨"secure", ?_⟩
      simp [hnative, lookup_queryTexts, clickhouseNativeQuery, List.lookup_append,
        lookup_unlessNone]
    · refine ⟨"protocol", ?_⟩
      simp [hnative, lookup_queryTexts, clickhouseHttpQuery, queryText, pyStr]
  · obtain ⟨options, hoptions, rfl⟩ := typeQuery_mssql hon
    obtain ⟨options', hoptions', rfl⟩ := typeQuery_mssql hoff
    cases hoptions.symm.trans hoptions'
    refine ⟨"Encrypt", ?_⟩
    by_cases hnull : s.connectTimeout = .null <;>
      simp [hnull, lookup_queryTexts, mssqlQuery, List.lookup_cons, queryText, pyStr]
  · cases hon
    cases hoff
    refine ⟨"ssl_server_dn_match", ?_⟩
    simp [lookup_queryTexts, oracleQuery, List.lookup_append, lookup_unlessNone, List.lookup_cons]
  · cases hon
    cases hoff
    simp only [String.reduceEq, false_and, if_false, if_true, mongodbQuery, queryTexts,
      Bool.false_eq_true, List.map_append, List.append_nil, ← List.append_assoc]
    rw [List.append_assoc]
    exact queryWidth_append_ne _ _ _

/-- What `verify` makes of a query, where `secure` is set. -/
theorem verify_query {connectionType driver : String} {driverOptions : Option Instance}
    {useAsync : Bool} {s : SqlSettings} {on off : Dict Json}
    (htype : connectionType ∈ sqlTypes)
    (hon : typeQuery connectionType driver driverOptions useAsync
      { s with secure := true, verify := true } = .ok on)
    (hoff : typeQuery connectionType driver driverOptions useAsync
      { s with secure := true, verify := false } = .ok off) :
    if connectionType = "mysql" then on = off
    else Distinct connectionType (queryTexts on) (queryTexts off) := by
  simp only [sqlTypes, List.mem_cons, List.not_mem_nil, or_false] at htype
  unfold Distinct
  rcases htype with rfl | rfl | rfl | rfl | rfl | rfl
  · cases hon
    cases hoff
    refine ⟨"sslmode", ?_⟩
    simp [lookup_queryTexts, postgresQuery, List.lookup_append, lookup_unlessNone, queryText, pyStr]
  · cases hon
    cases hoff
    rfl
  · cases hon
    cases hoff
    refine ⟨"verify", ?_⟩
    by_cases hnative : driver = "native"
    · simp [hnative, lookup_queryTexts, clickhouseNativeQuery, List.lookup_cons, queryText, pyStr]
    · simp [hnative, lookup_queryTexts, clickhouseHttpQuery, List.lookup_cons, queryText, pyStr]
  · obtain ⟨options, hoptions, rfl⟩ := typeQuery_mssql hon
    obtain ⟨options', hoptions', rfl⟩ := typeQuery_mssql hoff
    cases hoptions.symm.trans hoptions'
    refine ⟨"TrustServerCertificate", ?_⟩
    by_cases hnull : s.connectTimeout = .null <;>
      simp [hnull, lookup_queryTexts, mssqlQuery, List.lookup_cons, queryText, pyStr]
  · cases hon
    cases hoff
    refine ⟨"ssl_server_dn_match", ?_⟩
    simp [lookup_queryTexts, oracleQuery, List.lookup_append, lookup_unlessNone, queryText, pyStr]
  · cases hon
    cases hoff
    have hwidth : queryWidth (queryTexts [("tls", .bool true),
          ("tlsAllowInvalidCertificates", .bool true)]) + 1 =
        queryWidth (queryTexts [("tls", .bool true),
          ("tlsAllowInvalidCertificates", .bool false)]) := by decide
    simp only [String.reduceEq, if_false, if_true, mongodbQuery, queryTexts, List.map_append,
      queryWidth_append, Bool.not_true, Bool.not_false] at hwidth ⊢
    omega

/-- Whether a type has a query depends on the driver options, not on the settings. -/
theorem typeQuery_isOk {connectionType driver : String} {driverOptions : Option Instance}
    {useAsync : Bool} {s : SqlSettings} {query : Dict Json}
    (h : typeQuery connectionType driver driverOptions useAsync s = .ok query) (s' : SqlSettings) :
    ∃ query', typeQuery connectionType driver driverOptions useAsync s' = .ok query' := by
  by_cases hmssql : connectionType = "mssql"
  · subst hmssql
    obtain ⟨options, hoptions, -⟩ := typeQuery_mssql h
    refine ⟨mssqlQuery options s', ?_⟩
    show (requireMssqlDriverOptions driverOptions).map (fun options => mssqlQuery options s') = _
    rw [hoptions]
    rfl
  · unfold typeQuery
    rw [if_neg hmssql]
    repeat' split
    all_goals exact ⟨_, rfl⟩

/-- What a URL of a type is given as: MongoDB's is rendered. -/
def ConnectionUrl.ofSql (render : SqlUrl → String) (connectionType : String) (url : SqlUrl) :
    ConnectionUrl :=
  if connectionType = "mongodb" then .text (render url) else .url url

theorem ConnectionUrl.equal_refl (url : ConnectionUrl) : url.Equal url := by
  cases url with
  | url value => exact ⟨rfl, fun _ => rfl⟩
  | text value => rfl

/-- Queries that make a difference make URLs that are not equal. -/
theorem ConnectionUrl.not_equal_of_distinct {render : SqlUrl → String} (hrender : RendersQuery render)
    {connectionType : String} (url : SqlUrl) {query query' : Dict String}
    (hdistinct : Distinct connectionType query query') :
    ¬ (ofSql render connectionType { url with query := query }).Equal
      (ofSql render connectionType { url with query := query' }) := by
  unfold Distinct at hdistinct
  unfold ofSql
  split at hdistinct <;> rename_i hmongodb
  · rw [if_pos hmongodb, if_pos hmongodb]
    exact render_ne_of_queryWidth_ne hrender url hdistinct
  · rw [if_neg hmongodb, if_neg hmongodb]
    obtain ⟨key, hne⟩ := hdistinct
    rintro ⟨-, hlookup⟩
    exact hne (hlookup key)

/-- When a URL is built, and which. -/
theorem SQLConnector.buildConnectionUrl_eq_ok_iff {modules : Installation} {render : SqlUrl → String}
    {preferAsync : Bool} {connection : ValidatedConnection} {url : ConnectionUrl} :
    SQLConnector.buildConnectionUrl modules render preferAsync connection = .ok url ↔
      modules.sqlalchemy = true ∧ connection.type ∈ sqlTypes ∧
        ∃ runtime query, resolveRuntimeDriver modules preferAsync connection = .ok runtime ∧
          typeQuery connection.type runtime.driver connection.driverOptions runtime.useAsync
            (sqlSettings connection.properties.dump) = .ok query ∧
          url = .ofSql render connection.type (sqlUrl connection.type runtime.sqlalchemyDialect
            connection.properties.dump ((connection.secrets.map Instance.dump).getD [])
            (queryTexts query)) := by
  unfold SQLConnector.buildConnectionUrl buildQuery
  cases hsql : modules.sqlalchemy with
  | false => simp [bind, Except.bind]
  | true =>
    by_cases htype : connection.type ∈ sqlTypes
    · cases hruntime : resolveRuntimeDriver modules preferAsync connection with
      | error e => simp [htype, bind, Except.bind]
      | ok runtime =>
        cases hquery : typeQuery connection.type runtime.driver connection.driverOptions
            runtime.useAsync (sqlSettings connection.properties.dump) with
        | error e => simp [htype, hquery, bind, Except.bind, Except.map]
        | ok query =>
          simp [htype, hquery, bind, Except.bind, pure, Except.pure, Except.map,
            ConnectionUrl.ofSql, eq_comm]
    · simp [htype, bind, Except.bind]

/-- The connection with a switch of its properties set. -/
def ValidatedConnection.withSwitch (connection : ValidatedConnection) (key : String) (on : Bool) :
    ValidatedConnection :=
  { connection with
    properties :=
      { connection.properties with
        dump := connection.properties.dump.update [(key, .bool on)]
        dumpJson := connection.properties.dumpJson.update [(key, .bool on)] } }

/-- A connection with a URL has one with a switch set, and only the query is another. -/
theorem SQLConnector.buildConnectionUrl_withSwitch {modules : Installation}
    {render : SqlUrl → String} {preferAsync : Bool} {connection : ValidatedConnection}
    {url : ConnectionUrl} {runtime : ResolvedRuntimeDriver}
    (hbuild : SQLConnector.buildConnectionUrl modules render preferAsync connection = .ok url)
    (hruntime : resolveRuntimeDriver modules preferAsync connection = .ok runtime) {key : String}
    (hkey : key ∈ ["secure", "verify"]) (on : Bool) :
    ∃ query,
      typeQuery connection.type runtime.driver connection.driverOptions runtime.useAsync
        (sqlSettings (connection.properties.dump.update [(key, .bool on)])) = .ok query ∧
      SQLConnector.buildConnectionUrl modules render preferAsync (connection.withSwitch key on) =
        .ok (.ofSql render connection.type
          { sqlUrl connection.type runtime.sqlalchemyDialect connection.properties.dump
              ((connection.secrets.map Instance.dump).getD []) [] with query := queryTexts query }) := by
  obtain ⟨hsql, htype, runtime', query, hruntime', hquery, -⟩ :=
    SQLConnector.buildConnectionUrl_eq_ok_iff.mp hbuild
  cases hruntime.symm.trans hruntime'
  obtain ⟨query', hquery'⟩ := typeQuery_isOk hquery
    (sqlSettings (connection.properties.dump.update [(key, .bool on)]))
  refine ⟨query', hquery', ?_⟩
  refine SQLConnector.buildConnectionUrl_eq_ok_iff.mpr
    ⟨hsql, htype, runtime, query', hruntime, hquery', ?_⟩
  rw [← sqlUrl_switch hkey (.bool on)]
  rfl

/-- A connection with a URL has one however its switches are set. The URLs differ in `secure` as well as
in `verify` when the connection is not MySQL's, and in `secure` for MySQL too with a CA certificate. -/
theorem SQLConnector.switches_differ_iff {modules : Installation} {render : SqlUrl → String}
    (hrender : RendersQuery render) {preferAsync : Bool} {connection : ValidatedConnection}
    {url : ConnectionUrl}
    (hbuild : SQLConnector.buildConnectionUrl modules render preferAsync connection = .ok url) :
    ∃ on off strict lax,
      SQLConnector.buildConnectionUrl modules render preferAsync
        (connection.withSwitch "secure" true) = .ok on ∧
      SQLConnector.buildConnectionUrl modules render preferAsync
        (connection.withSwitch "secure" false) = .ok off ∧
      SQLConnector.buildConnectionUrl modules render preferAsync
        ((connection.withSwitch "secure" true).withSwitch "verify" true) = .ok strict ∧
      SQLConnector.buildConnectionUrl modules render preferAsync
        ((connection.withSwitch "secure" true).withSwitch "verify" false) = .ok lax ∧
      ((¬ on.Equal off ∧ ¬ strict.Equal lax) ↔ connection.type ≠ "mysql") ∧
      (¬ on.Equal off ↔ connection.type ≠ "mysql" ∨
        (attr connection.properties.dump "ca_cert_string").truthy = true) := by
  obtain ⟨-, htype, runtime, -, hruntime, -, -⟩ :=
    SQLConnector.buildConnectionUrl_eq_ok_iff.mp hbuild
  have hsecureKey : "secure" ∈ ["secure", "verify"] := by decide
  have hverifyKey : "verify" ∈ ["secure", "verify"] := by decide
  obtain ⟨qOn, hOn, hbuildOn⟩ :=
    SQLConnector.buildConnectionUrl_withSwitch hbuild hruntime hsecureKey true
  obtain ⟨qOff, hOff, hbuildOff⟩ :=
    SQLConnector.buildConnectionUrl_withSwitch hbuild hruntime hsecureKey false
  obtain ⟨qStrict, hStrict, hbuildStrict⟩ :=
    SQLConnector.buildConnectionUrl_withSwitch hbuildOn hruntime hverifyKey true
  obtain ⟨qLax, hLax, hbuildLax⟩ :=
    SQLConnector.buildConnectionUrl_withSwitch hbuildOn hruntime hverifyKey false
  refine ⟨_, _, _, _, hbuildOn, hbuildOff, hbuildStrict, hbuildLax, ?_⟩
  rw [sqlSettings_secure] at hOn hOff
  rw [sqlSettings_verify] at hStrict hLax
  have hsettings : sqlSettings (connection.withSwitch "secure" true).properties.dump =
      { sqlSettings connection.properties.dump with secure := true } := sqlSettings_secure _ _
  rw [hsettings] at hStrict hLax
  have hsecure := secure_query htype hOn hOff
  have hverify := verify_query htype hStrict hLax
  by_cases hmysql : connection.type = "mysql"
  · rw [if_pos hmysql] at hverify
    refine ⟨iff_of_false ?_ (not_not_intro hmysql), ?_⟩
    · rintro ⟨-, hdiffer⟩
      refine hdiffer ?_
      rw [hverify]
      exact ConnectionUrl.equal_refl _
    · cases hca : (attr connection.properties.dump "ca_cert_string").truthy with
      | false =>
        rw [if_pos ⟨hmysql, hca⟩] at hsecure
        refine iff_of_false (not_not_intro ?_) ?_
        · rw [hsecure]
          exact ConnectionUrl.equal_refl _
        · rintro (hother | hfalse)
          · exact hother hmysql
          · cases hfalse
      | true =>
        have hgiven : ¬ (connection.type = "mysql" ∧
            (sqlSettings connection.properties.dump).caCertString.truthy = false) := by
          rintro ⟨-, hnone⟩
          cases hca.symm.trans hnone
        rw [if_neg hgiven] at hsecure
        exact iff_of_true (ConnectionUrl.not_equal_of_distinct hrender _ hsecure) (.inr rfl)
  · rw [if_neg hmysql] at hverify
    rw [if_neg (fun h => hmysql h.1)] at hsecure
    have hdiffer := ConnectionUrl.not_equal_of_distinct hrender
      (sqlUrl connection.type runtime.sqlalchemyDialect connection.properties.dump
        ((connection.secrets.map Instance.dump).getD []) []) hsecure
    refine ⟨iff_of_true ⟨hdiffer, ?_⟩ hmysql, iff_of_true hdiffer (.inl hmysql)⟩
    exact ConnectionUrl.not_equal_of_distinct hrender _ hverify

/-- The properties of a SQL connection. -/
def plainSqlProperties : Instance :=
  let values : Dict Json :=
    [("host", .str "db"), ("port", .int 3306), ("username", .str "app"), ("database", .str "web"),
      ("secure", .bool false), ("connect_timeout", .int 30), ("send_receive_timeout", .int 60),
      ("sync_request_timeout", .int 60), ("ca_cert_string", .null), ("verify", .bool false)]
  ⟨sqlProperties.mro, values, values⟩

/-- A SQL connection of a type. -/
def plainSqlConnection (connectionType : String) : ValidatedConnection :=
  ⟨none, "sql", connectionType, none, none, plainSqlProperties, none, [], [], []⟩

/-- The rendered URL of a connection without a password, where nothing has to be quoted but the query. -/
def renderPlain (url : SqlUrl) : String :=
  url.drivername ++ "://" ++ url.username.getD "" ++ "@" ++ url.host.getD "" ++ ":" ++
    toString (url.port.getD 0) ++ "/" ++ url.database.getD "" ++ queryString url.query

/-- The URLs of a MongoDB connection. -/
theorem SQLConnector.switches_differ_iff_mongodb :
    ∃ on off strict lax,
      SQLConnector.buildConnectionUrl fullInstallation renderPlain true
        ((plainSqlConnection "mongodb").withSwitch "secure" true) = .ok on ∧
      SQLConnector.buildConnectionUrl fullInstallation renderPlain true
        ((plainSqlConnection "mongodb").withSwitch "secure" false) = .ok off ∧
      SQLConnector.buildConnectionUrl fullInstallation renderPlain true
        (((plainSqlConnection "mongodb").withSwitch "secure" true).withSwitch "verify" true) =
          .ok strict ∧
      SQLConnector.buildConnectionUrl fullInstallation renderPlain true
        (((plainSqlConnection "mongodb").withSwitch "secure" true).withSwitch "verify" false) =
          .ok lax ∧
      ¬ on.Equal off ∧ ¬ strict.Equal lax := by
  have hrender : RendersQuery renderPlain := by
    intro url
    refine ⟨url.drivername ++ "://" ++ url.username.getD "" ++ "@" ++ url.host.getD "" ++ ":" ++
      toString (url.port.getD 0) ++ "/" ++ url.database.getD "", fun query => rfl⟩
  obtain ⟨on, off, strict, lax, hon, hoff, hstrict, hlax, hdiffer, -⟩ :=
    SQLConnector.switches_differ_iff hrender
      (SQLConnector.buildConnectionUrl_eq_ok_iff.mpr
        ⟨rfl, by decide, _, _, rfl, rfl, rfl⟩ :
          SQLConnector.buildConnectionUrl fullInstallation renderPlain true
            (plainSqlConnection "mongodb") = .ok _)
  exact ⟨on, off, strict, lax, hon, hoff, hstrict, hlax, hdiffer.mpr (by decide)⟩

/-- The URL of a MySQL connection without a CA certificate has nothing of `secure` or `verify`. -/
theorem SQLConnector.mysql_ignores_switches :
    sqlProperties.validate (.obj [("host", .str "db"), ("port", .int 3306), ("username", .str "app"),
      ("database", .str "web")]) = .ok plainSqlProperties ∧
    (∃ url, ∀ on,
      SQLConnector.buildConnectionUrl fullInstallation renderPlain false
        ((plainSqlConnection "mysql").withSwitch "secure" on) = .ok url) ∧
    ∃ url, ∀ on,
      SQLConnector.buildConnectionUrl fullInstallation renderPlain false
        (((plainSqlConnection "mysql").withSwitch "secure" true).withSwitch "verify" on) =
          .ok url := by
  refine ⟨by decide +kernel, ⟨_, Bool.forall_bool.mpr ⟨rfl, ?_⟩⟩,
    ⟨_, Bool.forall_bool.mpr ⟨rfl, ?_⟩⟩⟩
  · decide +kernel
  · decide +kernel

end DbConnection
