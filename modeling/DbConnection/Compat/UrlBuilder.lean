import DbConnection.Compat.RuntimeBridge
import DbConnection.Compat.SqlRecords

/-!
# The legacy dialects

`compat/url_builder.py`: the table of the SQL dialects, with an adapter for each that makes the query
of a URL out of legacy properties. `DialectEntry.queryMatches_iff` compares it with the runtime
connector, which has the same dialects and, for all but two kinds of properties, the same queries:
asyncpg's adapter has no timeout, and those of MSSQL refuse an empty driver name.
-/

namespace DbConnection.Compat

open PyData Pydantic

/-! ## The adapters -/

/-- `PostgresAdapter.to_query`, of properties. -/
def PostgresAdapter.toQuery (props : Dict Json) : Except PyError (Dict Json) :=
  .ok (unlessNone "connect_timeout" (attr props "connect_timeout") ++
    if (attr props "secure").truthy then
      [("sslmode", .str (if (attr props "verify").truthy then "verify-full" else "require"))] ++
        ifTruthy "sslrootcert" (attr props "ca_cert_string")
    else [])

/-- `AsyncpgAdapter.to_query`. -/
def AsyncpgAdapter.toQuery (props : Dict Json) : Except PyError (Dict Json) :=
  -- Unlike the other adapters it has no timeout.
  .ok (if (attr props "secure").truthy then
      [("sslmode", .str (if (attr props "verify").truthy then "verify-full" else "require"))] ++
        ifTruthy "sslrootcert" (attr props "ca_cert_string") ++ [("ssl", .bool true)]
    else [])

/-- `PyMySQLAdapter.to_query`. -/
def PyMySQLAdapter.toQuery (props : Dict Json) : Except PyError (Dict Json) :=
  .ok (unlessNone "connect_timeout" (attr props "connect_timeout") ++
    (if (attr props "secure").truthy then ifTruthy "ssl_ca" (attr props "ca_cert_string") else []) ++
    unlessNone "read_timeout" (attr props "send_receive_timeout") ++
    unlessNone "write_timeout" (attr props "send_receive_timeout"))

/-- `AIOSQLAdapter.to_query`. -/
def AIOSQLAdapter.toQuery (props : Dict Json) : Except PyError (Dict Json) :=
  .ok (unlessNone "connect_timeout" (attr props "connect_timeout") ++
    if (attr props "secure").truthy then ifTruthy "ssl_ca" (attr props "ca_cert_string") else [])

/-- `MongoAdapter.to_query`. -/
def MongoAdapter.toQuery (props : Dict Json) : Except PyError (Dict Json) :=
  .ok (unlessNone "connectTimeoutMS" (inMilliseconds (attr props "connect_timeout")) ++
    unlessNone "socketTimeoutMS" (inMilliseconds (attr props "send_receive_timeout")) ++
    if (attr props "secure").truthy then
      [("tls", .bool true), ("tlsAllowInvalidCertificates", .bool !(attr props "verify").truthy)] ++
        ifTruthy "tlsCAFile" (attr props "ca_cert_string")
    else [])

/-- `ClickHouseNativeAdapter.to_query`. -/
def ClickHouseNativeAdapter.toQuery (props : Dict Json) : Except PyError (Dict Json) :=
  .ok ((if (attr props "secure").truthy then
      [("secure", .bool true)] ++ ifTruthy "ca_certs" (attr props "ca_cert_string") ++
        [("verify", attr props "verify")]
    else []) ++
    unlessNone "connect_timeout" (attr props "connect_timeout") ++
    unlessNone "sync_request_timeout" (attr props "sync_request_timeout"))

/-- `ClickHouseHttpAdapter.to_query`. -/
def ClickHouseHttpAdapter.toQuery (props : Dict Json) : Except PyError (Dict Json) :=
  .ok ([("protocol", .str (if (attr props "secure").truthy then "https" else "http")),
      ("verify", attr props "verify")] ++
    ifTruthy "ca_certs" (attr props "ca_cert_string") ++
    unlessNone "timeout" (attr props "connect_timeout"))

/-- `PYODBCMSSQLAdapter.to_query`, and `AIODBCMSSQLAdapter.to_query`, which has the same body. -/
def PYODBCMSSQLAdapter.toQuery (props : Dict Json) : Except PyError (Dict Json) :=
  if !(attr props "driver_name").truthy then .error (driverNotSpecifiedError .mssql)
  else
    .ok ([("driver", attr props "driver_name")] ++
      (if attr props "connect_timeout" = .null then []
        else [("Connect Timeout", .str (queryText (attr props "connect_timeout")))]) ++
      if (attr props "secure").truthy then
        [("Encrypt", .str "yes"),
          ("TrustServerCertificate", .str (if (attr props "verify").truthy then "no" else "yes"))]
      else [("Encrypt", .str "no")])

def AIODBCMSSQLAdapter.toQuery : Dict Json → Except PyError (Dict Json) :=
  PYODBCMSSQLAdapter.toQuery

/-- `OracleAdapter.to_query`. -/
def OracleAdapter.toQuery (props : Dict Json) : Except PyError (Dict Json) :=
  .ok (unlessNone "tcp_connect_timeout" (attr props "connect_timeout") ++
    (if (attr props "secure").truthy then
      [("ssl_server_dn_match", attr props "verify")] ++
        (if (attr props "verify").truthy then ifTruthy "ssl_cert" (attr props "ca_cert_string")
          else [])
    else []) ++
    [("service_name", attr props "database")])

/-! ## The table -/

/-- An entry of `DIALECTS`. -/
structure DialectEntry where
  type : ConnectionType
  /-- The driver, but for MongoDB, whose key is the type. -/
  driver : Option String
  dialect : String
  adapter : Dict Json → Except PyError (Dict Json)

/-- The adapter's `to_query`. Every adapter has an empty query without properties. -/
def DialectEntry.toQuery (entry : DialectEntry) : Option (Dict Json) → Except PyError (Dict Json)
  | none => .ok []
  | some props => entry.adapter props

/-- `DIALECTS`. -/
def dialects : List DialectEntry :=
  [⟨.postgres, some "psycopg", "postgresql+psycopg", PostgresAdapter.toQuery⟩,
    ⟨.postgres, some "psycopg2", "postgresql+psycopg2", PostgresAdapter.toQuery⟩,
    ⟨.postgres, some "asyncpg", "postgresql+asyncpg", AsyncpgAdapter.toQuery⟩,
    ⟨.clickhouse, some "native", "clickhouse+native", ClickHouseNativeAdapter.toQuery⟩,
    ⟨.clickhouse, some "http", "clickhouse+http", ClickHouseHttpAdapter.toQuery⟩,
    ⟨.mysql, some "pymysql", "mysql+pymysql", PyMySQLAdapter.toQuery⟩,
    ⟨.mysql, some "aiomysql", "mysql+aiomysql", AIOSQLAdapter.toQuery⟩,
    ⟨.mssql, some "pyodbc", "mssql+pyodbc", PYODBCMSSQLAdapter.toQuery⟩,
    ⟨.mssql, some "aioodbc", "mssql+aioodbc", AIODBCMSSQLAdapter.toQuery⟩,
    ⟨.oracle, some "oracledb", "oracle+oracledb", OracleAdapter.toQuery⟩,
    ⟨.mongodb, none, "mongodb", MongoAdapter.toQuery⟩]

/-! ## The runtime connector -/

/-- Whether the connector uses the driver of an entry asynchronously. -/
def DialectEntry.usesAsync (entry : DialectEntry) (preferAsync : Bool) : Bool :=
  if entry.driver = some "psycopg" then preferAsync
  else [some "asyncpg", some "aiomysql", some "aioodbc"].contains entry.driver

/-- The connector resolves the type and driver of an entry to the dialect of the entry. -/
theorem DialectEntry.eq_of_resolve {entry : DialectEntry} (hentry : entry ∈ dialects)
    {modules : Installation} {preferAsync : Bool} {connection : ValidatedConnection}
    (htype : connection.type = entry.type.value) (hdriver : connection.driver = entry.driver)
    {runtime : ResolvedRuntimeDriver}
    (h : resolveRuntimeDriver modules preferAsync connection = .ok runtime) :
    runtime = ⟨entry.driver.getD "", entry.dialect, entry.usesAsync preferAsync⟩ := by
  unfold resolveRuntimeDriver at h
  rw [htype, hdriver] at h
  simp only [dialects, List.mem_cons, List.not_mem_nil, or_false] at hentry
  rcases hentry with rfl | rfl | rfl | rfl | rfl | rfl | rfl | rfl | rfl | rfl | rfl <;>
    cases preferAsync <;> cases h <;> rfl

/-- It resolves each of them where asynchronous drivers are preferred. -/
theorem DialectEntry.exists_resolve {entry : DialectEntry} (hentry : entry ∈ dialects)
    (modules : Installation) {connection : ValidatedConnection}
    (htype : connection.type = entry.type.value) (hdriver : connection.driver = entry.driver) :
    ∃ runtime, resolveRuntimeDriver modules true connection = .ok runtime := by
  unfold resolveRuntimeDriver
  rw [htype, hdriver]
  simp only [dialects, List.mem_cons, List.not_mem_nil, or_false] at hentry
  rcases hentry with rfl | rfl | rfl | rfl | rfl | rfl | rfl | rfl | rfl | rfl | rfl <;>
    exact ⟨_, rfl⟩

/-- The query is the legacy one, once its values are strings. -/
def Matches (query : Dict String) (legacy : Dict Json) : Prop :=
  ∀ key, query.lookup key = (legacy.lookup key).map queryText

/-- The query is the one that an entry makes of legacy properties. -/
def DialectEntry.QueryMatches (entry : DialectEntry) (query : Except Raised (Dict String))
    (values : Dict Json) : Prop :=
  ∃ texts legacy, query = .ok texts ∧ entry.toQuery (some values) = .ok legacy ∧
    Matches texts legacy

theorem matches_of_lookup {query legacy : Dict Json}
    (h : ∀ key, query.lookup key = legacy.lookup key) : Matches (queryTexts query) legacy := by
  intro key
  rw [lookup_queryTexts, h]

/-- The order of two parts of a dictionary does not matter for a key that one of them is without. -/
theorem lookup_swap (front a b back : Dict Json) {key : String}
    (h : a.lookup key = none ∨ b.lookup key = none) :
    (front ++ (a ++ b) ++ back).lookup key = (front ++ (b ++ a) ++ back).lookup key := by
  have hcomm : (a ++ b).lookup key = (b ++ a).lookup key := by
    rw [List.lookup_append, List.lookup_append]
    rcases h with h | h <;> rw [h] <;> simp
  rw [List.lookup_append, List.lookup_append, hcomm, ← List.lookup_append, ← List.lookup_append]

/-- MySQL's legacy query has the certificate in front of the timeouts. -/
theorem pyMySQLAdapter_matches (props : Dict Json) :
    ∃ legacy, PyMySQLAdapter.toQuery props = .ok legacy ∧
      Matches (queryTexts (mysqlQuery false (sqlSettings props))) legacy := by
  refine ⟨_, rfl, matches_of_lookup fun key => ?_⟩
  have hparts : (unlessNone "read_timeout" (attr props "send_receive_timeout") ++
        unlessNone "write_timeout" (attr props "send_receive_timeout")).lookup key = none ∨
      (ifTruthy "ssl_ca" (attr props "ca_cert_string")).lookup key = none := by
    by_cases hkey : key = "ssl_ca"
    · left
      simp [hkey, List.lookup_append, lookup_unlessNone]
    · right
      simp [lookup_ifTruthy, hkey]
  have hswap := lookup_swap (unlessNone "connect_timeout" (attr props "connect_timeout")) _ _ []
    hparts
  cases hsecure : (attr props "secure").truthy with
  | false => simp [mysqlQuery, sqlSettings, hsecure]
  | true => simpa [mysqlQuery, sqlSettings, hsecure] using hswap

/-- ClickHouse's legacy native query has the certificate in front of `verify`. -/
theorem clickHouseNativeAdapter_matches {props : Dict Json} {b : Bool}
    (hverify : attr props "verify" = .bool b) :
    ∃ legacy, ClickHouseNativeAdapter.toQuery props = .ok legacy ∧
      Matches (queryTexts (clickhouseNativeQuery (sqlSettings props))) legacy := by
  refine ⟨_, rfl, matches_of_lookup fun key => ?_⟩
  have hparts : List.lookup key [("verify", Json.bool b)] = none ∨
      (ifTruthy "ca_certs" (attr props "ca_cert_string")).lookup key = none := by
    by_cases hkey : key = "verify"
    · right
      simp [hkey, lookup_ifTruthy]
    · left
      simp [List.lookup_cons, beq_eq_false_iff_ne.mpr hkey]
  have hswap := lookup_swap [("secure", .bool true)] _ _
    (unlessNone "connect_timeout" (attr props "connect_timeout") ++
      unlessNone "sync_request_timeout" (attr props "sync_request_timeout")) hparts
  have htruthy : (Json.bool b).truthy = b := rfl
  cases hsecure : (attr props "secure").truthy with
  | false => simp [clickhouseNativeQuery, sqlSettings, hsecure]
  | true =>
    simpa [clickhouseNativeQuery, sqlSettings, hsecure, hverify, htruthy] using hswap

/-- PostgreSQL's legacy query is the one of the connector for the other drivers. -/
theorem postgresAdapter_matches {driver : String} (hdriver : driver ≠ "asyncpg") (useAsync : Bool)
    (props : Dict Json) :
    ∃ legacy, PostgresAdapter.toQuery props = .ok legacy ∧
      Matches (queryTexts (postgresQuery driver useAsync (sqlSettings props))) legacy := by
  refine ⟨_, rfl, matches_of_lookup fun key => ?_⟩
  cases hsecure : (attr props "secure").truthy <;>
    simp [postgresQuery, sqlSettings, hsecure, beq_eq_false_iff_ne.mpr hdriver]

theorem aioSQLAdapter_matches (props : Dict Json) :
    ∃ legacy, AIOSQLAdapter.toQuery props = .ok legacy ∧
      Matches (queryTexts (mysqlQuery true (sqlSettings props))) legacy := by
  refine ⟨_, rfl, matches_of_lookup fun key => ?_⟩
  cases hsecure : (attr props "secure").truthy <;> simp [mysqlQuery, sqlSettings, hsecure]

theorem clickHouseHttpAdapter_matches {props : Dict Json} {b : Bool}
    (hverify : attr props "verify" = .bool b) :
    ∃ legacy, ClickHouseHttpAdapter.toQuery props = .ok legacy ∧
      Matches (queryTexts (clickhouseHttpQuery (sqlSettings props))) legacy := by
  refine ⟨_, rfl, matches_of_lookup fun key => ?_⟩
  have htruthy : (Json.bool b).truthy = b := rfl
  simp [clickhouseHttpQuery, sqlSettings, hverify, htruthy]

theorem oracleAdapter_matches {props : Dict Json} {b : Bool}
    (hverify : attr props "verify" = .bool b) :
    ∃ legacy, OracleAdapter.toQuery props = .ok legacy ∧
      Matches (queryTexts (oracleQuery (sqlSettings props))) legacy := by
  refine ⟨_, rfl, matches_of_lookup fun key => ?_⟩
  have htruthy : (Json.bool b).truthy = b := rfl
  simp [oracleQuery, sqlSettings, hverify, htruthy]

/-- The legacy query of asyncpg is the one of the connector without the timeout. -/
theorem asyncpgAdapter_matches_iff (props : Dict Json) :
    ∃ legacy, AsyncpgAdapter.toQuery props = .ok legacy ∧
      (Matches (queryTexts (postgresQuery "asyncpg" true (sqlSettings props))) legacy ↔
        attr props "connect_timeout" = .null) := by
  refine ⟨_, rfl, ?_⟩
  constructor
  · intro hmatches
    have hkey := hmatches "connect_timeout"
    rw [lookup_queryTexts] at hkey
    by_contra hne
    cases hsecure : (attr props "secure").truthy <;>
      simp [postgresQuery, sqlSettings, List.lookup_append, lookup_unlessNone, lookup_ifTruthy,
        hne, hsecure, List.lookup_cons] at hkey
  · intro hnull
    refine matches_of_lookup fun key => ?_
    have hparts : List.lookup key [("ssl", Json.bool true)] = none ∨
        (ifTruthy "sslrootcert" (attr props "ca_cert_string")).lookup key = none := by
      by_cases hkey : key = "ssl"
      · right
        simp [hkey, lookup_ifTruthy]
      · left
        simp [List.lookup_cons, beq_eq_false_iff_ne.mpr hkey]
    have hswap := lookup_swap
      [("sslmode", .str (if (attr props "verify").truthy then "verify-full" else "require"))]
      _ _ [] hparts
    cases hsecure : (attr props "secure").truthy with
    | false => simp [postgresQuery, sqlSettings, unlessNone, hnull, hsecure]
    | true => simpa [postgresQuery, sqlSettings, unlessNone, hnull, hsecure] using hswap

/-- The legacy query of MSSQL needs a name of an ODBC driver. -/
theorem pyodbcMSSQLAdapter_matches_iff {props : Dict Json} {options : Instance} {name : String}
    (hname : attr props "driver_name" = .str name)
    (hoptions : attr options.dump "odbc_driver_name" = .str name) :
    (∃ legacy, PYODBCMSSQLAdapter.toQuery props = .ok legacy ∧
        Matches (queryTexts (mssqlQuery options (sqlSettings props))) legacy) ↔ name ≠ "" := by
  by_cases hempty : name = ""
  · simp [PYODBCMSSQLAdapter.toQuery, hname, hempty, Json.truthy]
  · refine iff_of_true ⟨mssqlQuery options (sqlSettings props), ?_, matches_of_lookup fun _ => rfl⟩
      hempty
    have htruthy : (Json.str name).truthy = true := by simpa [Json.truthy] using hempty
    unfold PYODBCMSSQLAdapter.toQuery mssqlQuery
    rw [hname, hoptions, htruthy]
    cases hsecure : (attr props "secure").truthy <;> simp [sqlSettings, hsecure]

/-- The settings of properties with the same runtime fields are the same. -/
theorem sqlSettings_congr {props values : Dict Json} (h : SharesFields props values) :
    sqlSettings props = sqlSettings values := by
  have hattr : ∀ name ∈ sqlFields.map Field.name, attr props name = attr values name := by
    intro name hname
    obtain ⟨field, hf, rfl⟩ := List.mem_map.mp hname
    obtain ⟨u, hprops, hvalues, -⟩ := h field hf
    unfold attr
    rw [hprops, hvalues]
  unfold sqlSettings
  rw [hattr "secure" (by decide), hattr "verify" (by decide), hattr "ca_cert_string" (by decide),
    hattr "connect_timeout" (by decide), hattr "send_receive_timeout" (by decide),
    hattr "sync_request_timeout" (by decide), hattr "database" (by decide)]

/-- The switch `verify` of legacy properties that a runtime model accepts is a truth value. -/
theorem SharesFields.verify {props values : Dict Json} (h : SharesFields props values) :
    ∃ b, attr values "verify" = .bool b := by
  obtain ⟨u, -, hu, hfixes⟩ :=
    h (.of "verify" .bool (some (.bool false))) (by simp [sqlFields, sqlOptionFields])
  have hu : values.lookup "verify" = some u := hu
  have hread : FieldType.bool.readJson u = .ok (.json u) := hfixes
  simp only [FieldType.readJson] at hread
  cases hb : readBool u with
  | none => simp [hb] at hread
  | some b =>
    rw [hb] at hread
    cases hread
    refine ⟨b, ?_⟩
    unfold attr
    rw [hu]
    rfl

/-- What a type's query is built of settles whether it matches. -/
theorem DialectEntry.queryMatches_of_ok {entry : DialectEntry} {query : Dict Json}
    {built : Except Raised (Dict Json)} (hbuilt : built = .ok query) {values : Dict Json} :
    entry.QueryMatches (built.map queryTexts) values ↔
      ∃ legacy, entry.toQuery (some values) = .ok legacy ∧ Matches (queryTexts query) legacy := by
  rw [hbuilt]
  constructor
  · rintro ⟨texts, legacy, htexts, hlegacy, hmatches⟩
    cases htexts
    exact ⟨legacy, hlegacy, hmatches⟩
  · rintro ⟨legacy, hlegacy, hmatches⟩
    exact ⟨_, legacy, rfl, hlegacy, hmatches⟩

/-- Of the same properties the connector and an entry make matching queries: but for asyncpg, where the
legacy query has no timeout, and for MSSQL, where the adapters refuse an empty driver name. -/
theorem DialectEntry.queryMatches_iff {entry : DialectEntry} (hentry : entry ∈ dialects)
    (preferAsync : Bool) {props : Dict Json} {b : Bool} (hverify : attr props "verify" = .bool b)
    {driverOptions : Option Instance}
    (hmssql : entry.type = .mssql → ∃ name options, attr props "driver_name" = .str name ∧
      requireMssqlDriverOptions driverOptions = .ok options ∧
      attr options.dump "odbc_driver_name" = .str name) :
    entry.QueryMatches ((typeQuery entry.type.value (entry.driver.getD "") driverOptions
        (entry.usesAsync preferAsync) (sqlSettings props)).map queryTexts) props ↔
      (entry.driver = some "asyncpg" → attr props "connect_timeout" = .null) ∧
      (entry.type = .mssql → attr props "driver_name" ≠ .str "") := by
  have hodbc : ∀ useAsync driver, (∃ name options, attr props "driver_name" = .str name ∧
      requireMssqlDriverOptions driverOptions = .ok options ∧
      attr options.dump "odbc_driver_name" = .str name) →
      ∃ query, typeQuery "mssql" driver driverOptions useAsync (sqlSettings props) = .ok query ∧
        ((∃ legacy, PYODBCMSSQLAdapter.toQuery props = .ok legacy ∧
          Matches (queryTexts query) legacy) ↔ attr props "driver_name" ≠ .str "") := by
    rintro useAsync driver ⟨name, options, hname, hoptions, hodbcName⟩
    refine ⟨mssqlQuery options (sqlSettings props), ?_, ?_⟩
    · show (requireMssqlDriverOptions driverOptions).map _ = _
      rw [hoptions]
      rfl
    · rw [pyodbcMSSQLAdapter_matches_iff hname hodbcName, hname]
      simp
  have hplain : ∀ {query : Dict Json}, entry.driver ≠ some "asyncpg" → entry.type ≠ .mssql →
      typeQuery entry.type.value (entry.driver.getD "") driverOptions
        (entry.usesAsync preferAsync) (sqlSettings props) = .ok query →
      (∃ legacy, entry.toQuery (some props) = .ok legacy ∧ Matches (queryTexts query) legacy) →
      (entry.QueryMatches ((typeQuery entry.type.value (entry.driver.getD "") driverOptions
          (entry.usesAsync preferAsync) (sqlSettings props)).map queryTexts) props ↔
        (entry.driver = some "asyncpg" → attr props "connect_timeout" = .null) ∧
        (entry.type = .mssql → attr props "driver_name" ≠ .str "")) :=
    fun hdriver htype hquery hmatches =>
      iff_of_true ((DialectEntry.queryMatches_of_ok hquery).mpr hmatches)
        ⟨fun h => absurd h hdriver, fun h => absurd h htype⟩
  simp only [dialects, List.mem_cons, List.not_mem_nil, or_false] at hentry
  rcases hentry with rfl | rfl | rfl | rfl | rfl | rfl | rfl | rfl | rfl | rfl | rfl
  · exact hplain (by decide) (by decide) rfl (postgresAdapter_matches (by decide) _ _)
  · exact hplain (by decide) (by decide) rfl (postgresAdapter_matches (by decide) _ _)
  · obtain ⟨legacy, hlegacy, hmatches⟩ := asyncpgAdapter_matches_iff props
    refine (DialectEntry.queryMatches_of_ok rfl).trans ?_
    constructor
    · rintro ⟨legacy', hlegacy', hm⟩
      cases hlegacy.symm.trans hlegacy'
      exact ⟨fun _ => hmatches.mp hm, fun h => by cases h⟩
    · rintro ⟨hnull, -⟩
      exact ⟨legacy, hlegacy, hmatches.mpr (hnull rfl)⟩
  · exact hplain (by decide) (by decide) rfl (clickHouseNativeAdapter_matches hverify)
  · exact hplain (by decide) (by decide) rfl (clickHouseHttpAdapter_matches hverify)
  · exact hplain (by decide) (by decide) rfl (pyMySQLAdapter_matches props)
  · exact hplain (by decide) (by decide) rfl (aioSQLAdapter_matches props)
  · obtain ⟨query, hquery, hmatches⟩ := hodbc false "pyodbc" (hmssql rfl)
    refine (DialectEntry.queryMatches_of_ok hquery).trans (hmatches.trans ?_)
    exact ⟨fun h => ⟨fun hd => absurd hd (by decide), fun _ => h⟩, fun h => h.2 rfl⟩
  · obtain ⟨query, hquery, hmatches⟩ := hodbc true "aioodbc" (hmssql rfl)
    refine (DialectEntry.queryMatches_of_ok hquery).trans (hmatches.trans ?_)
    exact ⟨fun h => ⟨fun hd => absurd hd (by decide), fun _ => h⟩, fun h => h.2 rfl⟩
  · exact hplain (by decide) (by decide) rfl (oracleAdapter_matches hverify)
  · exact hplain (by decide) (by decide) rfl ⟨_, rfl, matches_of_lookup fun _ => rfl⟩

/-- The connector of the runtime makes the dialect and the query of an entry of the table, in each
mode that resolves, from legacy properties that the runtime accepts, but for the two differences of
`queryMatches_iff`. -/
theorem DialectEntry.runtime_matches_iff {host : Host} {entry : DialectEntry}
    (hentry : entry ∈ dialects) {payload : Json} {v : Instance}
    (hv : sqlConnectionProperties.validate payload = .ok v) {spec : TypeSpec}
    (hspec : spec ∈ defaultTypes host) (hname : spec.name = entry.type.value)
    {connection : ValidatedConnection} (htype : connection.type = entry.type.value)
    (hdriver : connection.driver = entry.driver)
    (hprops : spec.propertiesModel.validate (.obj ((v.dump.pop "driver_name").pop "password")) =
      .ok connection.properties)
    (hmssql : entry.type = .mssql → ∃ name options, attr v.dump "driver_name" = .str name ∧
      odbcDriverOptions.validate (.obj [("odbc_driver_name", .str name)]) = .ok options ∧
      connection.driverOptions = some options)
    (modules : Installation) :
    (∃ preferAsync runtime, resolveRuntimeDriver modules preferAsync connection = .ok runtime) ∧
    ∀ preferAsync runtime,
      resolveRuntimeDriver modules preferAsync connection = .ok runtime →
        ((runtime.sqlalchemyDialect = entry.dialect ∧
            entry.QueryMatches (buildQuery connection.type runtime.driver
              connection.properties.dump connection.driverOptions runtime.useAsync) v.dump) ↔
          (entry.driver = some "asyncpg" → attr v.dump "connect_timeout" = .null) ∧
          (entry.type = .mssql → attr v.dump "driver_name" ≠ .str "")) := by
  have hsql : spec.name ∈ sqlTypes := by
    have hall : ∀ entry ∈ dialects, entry.type.value ∈ sqlTypes := by decide
    rw [hname]
    exact hall entry hentry
  have hshares := lookup_runtimeSql hspec hsql hv (givesFields_pop v.dump) hprops
  obtain ⟨b, hverify⟩ := hshares.verify
  refine ⟨⟨true, DialectEntry.exists_resolve hentry modules htype hdriver⟩, ?_⟩
  intro preferAsync runtime hruntime
  rw [DialectEntry.eq_of_resolve hentry htype hdriver hruntime, htype]
  unfold buildQuery
  rw [sqlSettings_congr hshares, and_iff_right rfl]
  refine DialectEntry.queryMatches_iff hentry preferAsync hverify fun h => ?_
  obtain ⟨name, options, hgiven, hoptions, hconnection⟩ := hmssql h
  obtain ⟨hrequire, hodbcName⟩ := odbcDriverOptions_of_name hoptions
  exact ⟨name, options, hgiven, hconnection ▸ hrequire, hodbcName⟩

/-- Legacy properties with the default timeouts. -/
def plainSqlPayload : Json :=
  .obj [("host", .str "db"), ("port", .int 3306), ("username", .str "app"), ("database", .str "web")]

/-- The entry of `pymysql`. -/
def pymysqlEntry : DialectEntry :=
  ⟨.mysql, some "pymysql", "mysql+pymysql", PyMySQLAdapter.toQuery⟩

/-- The query of `pymysql` is the legacy one. -/
theorem DialectEntry.runtime_matches_pymysql :
    ∃ v runtime, sqlConnectionProperties.validate plainSqlPayload = .ok v ∧
      resolveRuntimeDriver fullInstallation false
        { plainSqlConnection "mysql" with driver := some "pymysql" } = .ok runtime ∧
      runtime.sqlalchemyDialect = pymysqlEntry.dialect ∧
      pymysqlEntry.QueryMatches
        (buildQuery "mysql" runtime.driver plainSqlProperties.dump none runtime.useAsync) v.dump := by
  refine ⟨_, _, rfl, rfl, ?_⟩
  have hentry : pymysqlEntry ∈ dialects := by simp [dialects, pymysqlEntry]
  have hspec : builtinSqlType "mysql" sqlProperties (plainDriver "pymysql")
      [plainDriver "aiomysql"] ∈ defaultTypes emptyHost := by simp [defaultTypes]
  have hv : sqlConnectionProperties.validate plainSqlPayload = .ok _ := rfl
  have htype : ({ plainSqlConnection "mysql" with driver := some "pymysql" } :
      ValidatedConnection).type = pymysqlEntry.type.value := rfl
  have hiff := (DialectEntry.runtime_matches_iff hentry hv hspec rfl htype rfl rfl
    (fun h => by cases h) fullInstallation).2 false _ rfl
  exact hiff.mpr ⟨fun h => absurd h (by decide), fun h => by cases h⟩

/-- The connector gives asyncpg a timeout that the legacy query does not have. -/
theorem asyncpg_timeout_differs :
    ∃ v runtime entry, sqlConnectionProperties.validate plainSqlPayload = .ok v ∧
      sqlProperties.validate (.obj ((v.dump.pop "driver_name").pop "password")) =
        .ok plainSqlProperties ∧
      entry ∈ dialects ∧ entry.type = .postgres ∧ entry.driver = some "asyncpg" ∧
      resolveRuntimeDriver fullInstallation true
        { plainSqlConnection "postgres" with driver := some "asyncpg" } = .ok runtime ∧
      ¬ entry.QueryMatches
        (buildQuery "postgres" runtime.driver plainSqlProperties.dump none runtime.useAsync)
        v.dump := by
  refine ⟨_, _, ⟨.postgres, some "asyncpg", "postgresql+asyncpg", AsyncpgAdapter.toQuery⟩, rfl, rfl,
    by simp [dialects], rfl, rfl, rfl, ?_⟩
  rintro ⟨texts, legacy, htexts, hlegacy, hmatches⟩
  cases htexts
  cases hlegacy
  exact absurd (hmatches "connect_timeout") (by decide)

end DbConnection.Compat
