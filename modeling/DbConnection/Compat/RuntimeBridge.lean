import DbConnection.Compat.Properties
import DbConnection.Validation

/-!
# The bridge from legacy connections to the runtime

`compat/runtime_bridge.py`: the splitting of legacy connection properties into the properties, the
secrets, the driver and the driver options of a connection, out of the dump of its legacy model, and
the runtime's draft and validated connection that are made of the parts. `lookup_secrets_of_split`
says which fields are secrets, type by type (`secretKeys`).
-/

namespace DbConnection.Compat

open PyData Pydantic

/-- `PASSWORD_SECRET_KEYS`. -/
def passwordSecretKeys : List String := ["password"]

/-- `KAFKA_SECRET_KEYS`. -/
def kafkaSecretKeys : List String := ["sasl_plain_password"]

/-- `S3_SECRET_KEYS`. -/
def s3SecretKeys : List String := ["access_token_id", "access_token_key", "session_token"]

/-- `SFTP_SECRET_KEYS`. -/
def sftpSecretKeys : List String := ["password", "private_key_passphrase", "private_key_string"]

/-- `_resolve_async_sql_driver`. -/
def resolveAsyncSqlDriver : ConnectionType → Option String
  | .postgres => some "asyncpg"
  | .mysql => some "aiomysql"
  | .mssql => some "aioodbc"
  | _ => none

/-- `CH_DRIVER`. -/
def chDriver : String := "http"

/-- `WrongDBTypeError`. -/
def wrongDBTypeError (type : ConnectionType) : PyError :=
  .other "WrongDBTypeError" s!"Wrong DB type, received: {type.value}"

/-- `DriverNotSpecifiedError`. -/
def driverNotSpecifiedError (type : ConnectionType) : PyError :=
  .other "DriverNotSpecifiedError" s!"Driver not specified for {type.value} connection"

/-- What `_split_connection_data` returns. -/
structure ConnectionData where
  properties : Dict Json
  secrets : Dict Json
  driver : Option String
  driverOptions : Option Instance
  deriving DecidableEq, Repr

/-- `_drop_none`. -/
def dropNone (values : Dict Json) : Dict Json := values.filter fun item => item.2 ≠ .null

/-- One key of `_extract_secrets`: it is popped off the raw properties unless it has a value. -/
def extractKey (state : Dict Json × Dict Json) (key : String) : Dict Json × Dict Json :=
  if state.1.contains key then state
  else (state.1 ++ [(key, (state.2.lookup key).getD .null)], state.2.pop key)

/-- `_extract_secrets`: the secrets, and what it leaves of the raw properties. -/
def extractSecrets (raw : Dict Json) (secretKeys : List String) (values : Dict Json) :
    Dict Json × Dict Json :=
  let extracted := secretKeys.foldl extractKey (values, raw)
  (dropNone extracted.1, extracted.2)

/-- The splitting of a type whose secrets are extracted from the raw properties. -/
def splitSecrets (raw : Dict Json) (secretKeys : List String) : ConnectionData :=
  let (secrets, rest) := extractSecrets raw secretKeys []
  ⟨rest, secrets, none, none⟩

/-- The splitting of a type whose only secret is popped off the raw properties by name. -/
def splitPassword (raw : Dict Json) (key : String) (secretKeys : List String) : ConnectionData :=
  let password := (raw.lookup key).getD .null
  ⟨raw.pop key, (extractSecrets [] secretKeys [(key, password)]).1, none, none⟩

/-- The driver of an SQL type other than MSSQL. -/
def sqlDriver (type : ConnectionType) (legacyDriverName : Option String) (isAsync : Bool) :
    Option String :=
  let driver := if isAsync then legacyDriverName.or (resolveAsyncSqlDriver type)
    else legacyDriverName
  if type = .clickhouse then driver.or (some chDriver) else driver

/-- `_split_connection_data`, on the dump of the properties. -/
def splitConnectionData (type : ConnectionType) (raw : Dict Json) (isAsync : Bool) :
    Except PyError ConnectionData :=
  if type ∈ sqlConnectionTypes then
    let legacyDriverName := (raw.lookup "driver_name").bind Json.str?
    let data := splitPassword (raw.pop "driver_name") "password" passwordSecretKeys
    if type = .mssql then
      -- The legacy driver is the name of the ODBC driver, and goes into the driver options.
      match legacyDriverName with
      | none => .error (driverNotSpecifiedError .mssql)
      | some name =>
        match odbcDriverOptions.validate (.obj [("odbc_driver_name", .str name)]) with
        | .error e => .error (.ofModel .pydanticError e)
        | .ok options => .ok { data with
            driver := some (if isAsync then "aioodbc" else "pyodbc")
            driverOptions := some options }
    else .ok { data with driver := sqlDriver type legacyDriverName isAsync }
  else
    match type with
    | .kafka => .ok (splitPassword raw "sasl_plain_password" kafkaSecretKeys)
    | .s3 => .ok (splitSecrets raw s3SecretKeys)
    | .ftp => .ok (splitPassword raw "password" passwordSecretKeys)
    -- All three are secrets here, the private key and its passphrase among them.
    | .sftp => .ok (splitSecrets raw sftpSecretKeys)
    | _ => .error (wrongDBTypeError type)

/-- `RUNTIME_BACKED_TYPES`. -/
def runtimeBackedTypes : List ConnectionType :=
  [.postgres, .mysql, .clickhouse, .mongodb, .mssql, .oracle, .kafka, .s3, .ftp, .sftp]

/-- What the bridge reads of a `DBConnection`. -/
structure DBConnection where
  name : String
  type : ConnectionType
  connectionProperties : Instance
  deriving DecidableEq, Repr

/-- `to_runtime_draft`, with the runtime's registry. -/
def toRuntimeDraft (registry : ConnectionRegistry) (connection : DBConnection) (isAsync : Bool) :
    Except PyError ConnectionDraft := do
  if !runtimeBackedTypes.contains connection.type then
    .error (wrongDBTypeError connection.type)
  let spec ← registry.getType connection.type.value
  let data ← splitConnectionData connection.type connection.connectionProperties.dump isAsync
  return { name := some connection.name, kind := spec.kind, type := connection.type.value,
           driver := data.driver, driverOptions := .ofOption data.driverOptions,
           properties := some data.properties, secrets := some data.secrets, labels := some [],
           metadata := some [], extra := some [] }

/-- `to_runtime_validated`. -/
def toRuntimeValidated (registry : ConnectionRegistry) (connection : DBConnection)
    (isAsync : Bool) : Except PyError ValidatedConnection := do
  if !runtimeBackedTypes.contains connection.type then
    .error (wrongDBTypeError connection.type)
  let draft ← toRuntimeDraft registry connection isAsync
  validate registry draft

/-- The fields of a type's properties that are secrets. -/
def secretKeys : ConnectionType → List String
  | .mysql | .postgres | .clickhouse | .mongodb | .mssql | .oracle | .ftp => passwordSecretKeys
  | .kafka => kafkaSecretKeys
  | .s3 => s3SecretKeys
  | .sftp => sftpSecretKeys
  | .custom => []

/-! ## What is extracted -/

/-- A key of values that are given by their keys, `None` dropped. -/
theorem lookup_dropNone_map (keys : List String) (g : String → Json) (key : String) :
    (dropNone (keys.map fun k => (k, g k))).lookup key =
      if key ∈ keys ∧ g key ≠ .null then some (g key) else none := by
  unfold dropNone
  induction keys with
  | nil => simp
  | cons k keys ih =>
    rw [List.map_cons, List.filter_cons]
    by_cases hk : key = k
    · subst hk
      by_cases hnull : g key = .null
      · simp only [hnull, ne_eq, not_true_eq_false, decide_false, Bool.false_eq_true, if_false,
          and_false] at ih ⊢
        exact ih
      · simp [hnull]
    · have hne : (key == k) = false := by simpa using hk
      split
      · rw [List.lookup_cons, hne]
        simpa [hk] using ih
      · simpa [hk] using ih

/-- The extraction of distinct keys that have no value yet. -/
theorem foldl_extractKey {keys : List String} (hkeys : keys.Nodup) (values raw : Dict Json)
    (hvalues : ∀ key ∈ keys, values.contains key = false) :
    keys.foldl extractKey (values, raw) =
      (values ++ keys.map (fun key => (key, (raw.lookup key).getD .null)),
        raw.filter fun item => !keys.contains item.1) := by
  induction keys generalizing values raw with
  | nil => simp
  | cons key keys ih =>
    obtain ⟨hkey, hnodup⟩ := List.nodup_cons.mp hkeys
    have hstep : extractKey (values, raw) key =
        (values ++ [(key, (raw.lookup key).getD .null)], raw.pop key) := by
      unfold extractKey
      dsimp only
      rw [hvalues key List.mem_cons_self]
      rfl
    have hothers : ∀ k ∈ keys,
        Dict.contains (values ++ [(key, (raw.lookup key).getD .null)]) k = false := by
      intro k hk
      have hne : k ≠ key := fun e => hkey (e ▸ hk)
      have hv := hvalues k (List.mem_cons_of_mem key hk)
      unfold Dict.contains at hv ⊢
      have hbeq : (k == key) = false := by simpa using hne
      rw [List.lookup_append, List.lookup_cons, hbeq]
      simpa using hv
    -- Popping the first key leaves the values of the others.
    have hlookup : ∀ k ∈ keys, (raw.pop key).lookup k = raw.lookup k := by
      intro k hk
      have hne : k ≠ key := fun e => hkey (e ▸ hk)
      unfold Dict.pop
      rw [Dict.lookup_filter_key fun item => item != key]
      simp [hne]
    rw [List.foldl_cons, hstep, ih hnodup _ _ hothers, List.append_assoc]
    refine Prod.ext ?_ ?_
    · refine congrArg (values ++ ·) (congrArg₂ List.cons rfl ?_)
      exact List.map_congr_left fun k hk => by rw [hlookup k hk]
    · dsimp only [Dict.pop]
      rw [List.filter_filter]
      refine List.filter_congr fun item _ => ?_
      by_cases hi : item.1 = key
      · simp [hi]
      · simp [hi]

/-- The secrets extracted from raw properties. -/
theorem lookup_secrets_splitSecrets {keys : List String} (hkeys : keys.Nodup) (raw : Dict Json)
    (key : String) :
    (splitSecrets raw keys).secrets.lookup key =
      if key ∈ keys then (raw.lookup key).filter fun value => value ≠ .null else none := by
  unfold splitSecrets extractSecrets
  rw [foldl_extractKey hkeys [] raw (fun _ _ => rfl)]
  dsimp only
  rw [List.nil_append, lookup_dropNone_map]
  by_cases hk : key ∈ keys
  · cases hv : raw.lookup key with
    | none => simp
    | some value => by_cases hn : value = .null <;> simp [hk, hn, Option.filter]
  · simp [hk]

/-- The secret popped off the raw properties. -/
theorem lookup_secrets_splitPassword (raw : Dict Json) (name key : String) :
    (splitPassword raw name [name]).secrets.lookup key =
      if key ∈ [name] then (raw.lookup key).filter fun value => value ≠ .null else none := by
  have hsecrets : (splitPassword raw name [name]).secrets =
      dropNone ([name].map fun k => (k, (raw.lookup k).getD .null)) := by
    simp [splitPassword, extractSecrets, extractKey, Dict.contains]
  rw [hsecrets, lookup_dropNone_map]
  by_cases hk : key ∈ [name]
  · cases hv : raw.lookup key with
    | none => simp
    | some value => by_cases hn : value = .null <;> simp [hk, hn, Option.filter]
  · simp [hk]

/-- Popping the driver's name leaves the secrets. -/
theorem lookup_pop_driverName (raw : Dict Json) {key : String} (hkey : key ∈ passwordSecretKeys) :
    (raw.pop "driver_name").lookup key = raw.lookup key := by
  have hname : key = "password" := by simpa [passwordSecretKeys] using hkey
  unfold Dict.pop
  rw [Dict.lookup_filter_key fun item => item != "driver_name", hname]
  rfl

/-- The secrets that a splitting finds are the values of the type's secret fields that are not
`None`. -/
theorem lookup_secrets_of_split {type : ConnectionType} {raw : Dict Json} {isAsync : Bool}
    {data : ConnectionData} (h : splitConnectionData type raw isAsync = .ok data) (key : String) :
    data.secrets.lookup key =
      if key ∈ secretKeys type then (raw.lookup key).filter fun value => value ≠ .null
      else none := by
  unfold splitConnectionData at h
  by_cases hsql : type ∈ sqlConnectionTypes
  · have hkeys : secretKeys type = passwordSecretKeys := by
      revert hsql
      cases type <;> first
        | exact fun _ => rfl
        | exact fun hsql => absurd hsql (by decide)
    have hsecrets : data.secrets =
        (splitPassword (raw.pop "driver_name") "password" passwordSecretKeys).secrets := by
      rw [if_pos hsql] at h
      dsimp only at h
      split at h
      · split at h
        · cases h
        · split at h <;> cases h
          rfl
      · cases h
        rfl
    rw [hsecrets, hkeys]
    refine (lookup_secrets_splitPassword (raw.pop "driver_name") "password" key).trans ?_
    -- The driver's name was popped before, but it is no secret.
    by_cases hk : key ∈ passwordSecretKeys
    · rw [if_pos hk, lookup_pop_driverName raw hk]
      exact if_pos hk
    · rw [if_neg hk]
      exact if_neg hk
  · rw [if_neg hsql] at h
    cases type <;> simp only [Except.ok.injEq, reduceCtorEq] at h <;> subst h
    · exact lookup_secrets_splitPassword raw "sasl_plain_password" key
    · exact lookup_secrets_splitSecrets (by decide) raw key
    · exact lookup_secrets_splitPassword raw "password" key
    · exact lookup_secrets_splitSecrets (by decide) raw key

/-- The properties that an extraction leaves. -/
theorem lookup_properties_splitSecrets {keys : List String} (hkeys : keys.Nodup) (raw : Dict Json)
    (key : String) :
    (splitSecrets raw keys).properties.lookup key =
      if key ∈ keys then none else raw.lookup key := by
  unfold splitSecrets extractSecrets
  rw [foldl_extractKey hkeys [] raw (fun _ _ => rfl)]
  dsimp only
  rw [Dict.lookup_filter_key fun k => !keys.contains k]
  by_cases hk : key ∈ keys <;> simp [hk]

/-- A key that is popped off is gone, and the others stay. -/
theorem lookup_pop (raw : Dict Json) (name key : String) :
    (raw.pop name).lookup key = if key = name then none else raw.lookup key := by
  unfold Dict.pop
  rw [Dict.lookup_filter_key fun k => k != name]
  by_cases hk : key = name <;> simp [hk]

/-- The properties of a splitting of an SQL type. -/
theorem properties_of_split_sql {type : ConnectionType} (hsql : type ∈ sqlConnectionTypes)
    {raw : Dict Json} {isAsync : Bool} {data : ConnectionData}
    (h : splitConnectionData type raw isAsync = .ok data) :
    data.properties = (raw.pop "driver_name").pop "password" := by
  unfold splitConnectionData at h
  rw [if_pos hsql] at h
  dsimp only at h
  split at h
  · split at h
    · cases h
    · split at h <;> cases h
      rfl
  · cases h
    rfl

/-- The properties of a splitting are the fields that are no secrets; of an SQL type the driver's name
is left out too. -/
theorem lookup_properties_of_split {type : ConnectionType} {raw : Dict Json} {isAsync : Bool}
    {data : ConnectionData} (h : splitConnectionData type raw isAsync = .ok data) (key : String) :
    data.properties.lookup key =
      if key ∈ secretKeys type ∨ type ∈ sqlConnectionTypes ∧ key = "driver_name" then none
      else raw.lookup key := by
  by_cases hsql : type ∈ sqlConnectionTypes
  · have hkeys : secretKeys type = ["password"] := by
      revert hsql
      cases type <;> first
        | exact fun _ => rfl
        | exact fun hsql => absurd hsql (by decide)
    rw [properties_of_split_sql hsql h, hkeys, lookup_pop, lookup_pop]
    by_cases hpassword : key = "password" <;> by_cases hdriver : key = "driver_name" <;>
      simp [hsql, hpassword, hdriver]
  · unfold splitConnectionData at h
    rw [if_neg hsql] at h
    have hnot : ∀ p : Prop, (p ∨ type ∈ sqlConnectionTypes ∧ key = "driver_name") ↔ p :=
      fun p => or_iff_left fun hand => hsql hand.1
    cases type <;> simp only [Except.ok.injEq, reduceCtorEq] at h <;> subst h <;>
      simp only [hnot]
    · exact (lookup_pop raw "sasl_plain_password" key).trans
        (by simp [secretKeys, kafkaSecretKeys])
    · exact lookup_properties_splitSecrets (by decide) raw key
    · exact (lookup_pop raw "password" key).trans (by simp [secretKeys, passwordSecretKeys])
    · exact lookup_properties_splitSecrets (by decide) raw key

end DbConnection.Compat
