import Mathlib.Data.Finset.Sort
import DbConnection.Connectors
import DbConnection.Lib.NamedEntries
import DbConnection.Lib.Sessions

/-!
# Building registries

The calls that build a registry: `register_kind` and `register_type` of `registry/base.py`, which
may raise, its `copy`, and `_merge_registry` of `fastapi/builder.py`. A specification is here the
object of `domain/specs.py` with all its fields, `supported_drivers` among them, as `__post_init__`
leaves it.

`registries_closed` is about every sequence of such calls on any number of registries: each of them
is `Closed`, so copying and merging, which replay registrations in the order of a listing, never
raise. A closed registry is a `ConnectionRegistry` (`RegistryDicts.toRegistry`), and the one that
`build_default_registry` builds is the `defaultRegistry` of the services (`toRegistry_defaultDicts`).
-/

namespace DbConnection

open PyData Pydantic NamedEntries Sessions

/-! ## Specifications -/

/-- A `KindSpec`. -/
structure KindSpecObject where
  name : String
  description : String
  capabilities : Finset String
  deriving DecidableEq

/-- The fields of a `TypeSpec`, as they are given or as `__post_init__` leaves them. -/
structure TypeSpecObject where
  name : String
  kind : String
  propertiesModel : ModelClass
  secretsModel : Option ModelClass
  publicModel : Option ModelClass
  connectorFactory : Option String
  defaultDriver : Option String
  driverSpecs : List DriverSpec
  supportedDrivers : Finset String
  capabilities : Finset String
  tags : Finset String

namespace TypeSpecObject

/-- The names of the driver specifications. -/
def driverNames (driverSpecs : List DriverSpec) : Finset String :=
  (driverSpecs.map DriverSpec.name).toFinset

/-- `legacy_drivers`. -/
def legacyDrivers (spec : TypeSpecObject) : Finset String :=
  match spec.defaultDriver with
  | none => spec.supportedDrivers
  | some driver => insert driver spec.supportedDrivers

/-- The driver specifications, made of the names of drivers where none are given. -/
def declaredDrivers (spec : TypeSpecObject) : List DriverSpec :=
  if spec.driverSpecs.isEmpty then spec.legacyDrivers.sort.map plainDriver else spec.driverSpecs

/-- `__post_init__`. -/
def postInit (spec : TypeSpecObject) : Except PyError TypeSpecObject :=
  let driverSpecs := spec.declaredDrivers
  let supportedDrivers := driverNames driverSpecs
  let spec := { spec with driverSpecs := driverSpecs, supportedDrivers := supportedDrivers }
  match spec.defaultDriver with
  | none => .ok spec
  | some driver =>
    if driver ∈ supportedDrivers then .ok spec
    else .error (.other "ValueError"
      s!"Default driver '{driver}' is not declared for type '{spec.name}'.")

/-- The supported drivers are the declared ones, and the default driver is one of them. -/
structure Declared (spec : TypeSpecObject) : Prop where
  supported : spec.supportedDrivers = driverNames spec.driverSpecs
  default_supported : ∀ driver, spec.defaultDriver = some driver → driver ∈ spec.supportedDrivers

variable {spec spec' : TypeSpecObject}

/-- What `__post_init__` leaves. -/
theorem postInit_eq_ok_iff : spec.postInit = .ok spec' ↔
    spec' = { spec with
      driverSpecs := spec.declaredDrivers
      supportedDrivers := driverNames spec.declaredDrivers } ∧
    ∀ driver, spec.defaultDriver = some driver → driver ∈ driverNames spec.declaredDrivers := by
  unfold postInit
  dsimp only
  cases hdefault : spec.defaultDriver with
  | none =>
    rw [Except.ok.injEq, eq_comm]
    exact (and_iff_left fun _ h => absurd h (by simp)).symm
  | some driver =>
    dsimp only
    by_cases hsupported : driver ∈ driverNames spec.declaredDrivers
    · rw [if_pos hsupported, Except.ok.injEq, eq_comm]
      refine (and_iff_left fun other h => ?_).symm
      rw [← Option.some.inj h]
      exact hsupported
    · rw [if_neg hsupported]
      exact iff_of_false (by simp) fun h => hsupported (h.2 driver rfl)

/-- A specification that was made declares its drivers. -/
theorem declared_of_postInit (h : spec.postInit = .ok spec') : spec'.Declared := by
  obtain ⟨rfl, hdefault⟩ := postInit_eq_ok_iff.mp h
  exact ⟨rfl, hdefault⟩

/-- `dataclasses.replace(spec)`, which makes the specification again of its own fields, gives the
same. -/
theorem Declared.postInit (h : spec.Declared) : spec.postInit = .ok spec := by
  have hdrivers : spec.declaredDrivers = spec.driverSpecs := by
    unfold declaredDrivers
    split
    · rename_i hempty
      have hnil : spec.driverSpecs = [] := List.isEmpty_iff.mp hempty
      have hnone : spec.supportedDrivers = ∅ := by
        rw [h.supported, hnil]
        rfl
      have hdefault : spec.defaultDriver = none := by
        cases hdriver : spec.defaultDriver with
        | none => rfl
        | some driver =>
          have hmem := h.default_supported driver hdriver
          rw [hnone] at hmem
          exact absurd hmem (Finset.notMem_empty driver)
      have hlegacy : spec.legacyDrivers = ∅ := by
        unfold legacyDrivers
        rw [hdefault]
        exact hnone
      rw [hnil, hlegacy, Finset.sort_empty, List.map_nil]
    · rfl
  refine postInit_eq_ok_iff.mpr ⟨?_, ?_⟩
  · rw [hdrivers, ← h.supported]
  · rw [hdrivers, ← h.supported]
    exact h.default_supported

end TypeSpecObject

/-- `sorted(names)`. -/
def sortedNames (names : Finset String) : List String := names.sort

/-! ## The calls -/

/-- The dictionaries of a `ConnectionRegistry`. -/
structure RegistryDicts where
  kinds : Dict KindSpecObject
  types : Dict TypeSpecObject

/-- A call on a registry, which may raise. -/
abbrev RegistryCall := ExceptT PyError (StateM RegistryDicts) Unit

/-- `register_kind`. -/
def registerKind (spec : KindSpecObject) (overwrite : Bool) : RegistryCall := do
  let self ← get
  if self.kinds.contains spec.name && !overwrite then
    throw (.validationFailed s!"Kind '{spec.name}' is already registered." [])
  else set { self with kinds := store KindSpecObject.name self.kinds spec }

/-- `register_type`. -/
def registerType (spec : TypeSpecObject) (overwrite : Bool) : RegistryCall := do
  let self ← get
  if !self.kinds.contains spec.kind then
    throw (.validationFailed s!"Unknown kind '{spec.kind}' for type '{spec.name}'." [])
  else if self.types.contains spec.name && !overwrite then
    throw (.validationFailed s!"Type '{spec.name}' is already registered." [])
  else set { self with types := store TypeSpecObject.name self.types spec }

/-- `register_type` of a specification that is made of the given fields. -/
def registerMade (given : TypeSpecObject) (overwrite : Bool) : RegistryCall := do
  let spec ← MonadExcept.ofExcept given.postInit
  registerType spec overwrite

namespace RegistryDicts

/-- `ConnectionRegistry()`. -/
def empty : RegistryDicts := ⟨[], []⟩

/-- `get_kind`. -/
def getKind (self : RegistryDicts) (name : String) : Except PyError KindSpecObject :=
  match self.kinds.lookup name with
  | some spec => .ok spec
  | none => .error (.validationFailed s!"Unknown kind '{name}'." [])

/-- `get_type`. -/
def getType (self : RegistryDicts) (name : String) : Except PyError TypeSpecObject :=
  match self.types.lookup name with
  | some spec => .ok spec
  | none => .error (.connectionTypeNotSupported name)

/-- `list_kinds`. -/
def listKinds (self : RegistryDicts) : List KindSpecObject :=
  listing KindSpecObject.name self.kinds

/-- `list_types`. -/
def listTypes (self : RegistryDicts) (kind : Option String) : List TypeSpecObject :=
  listing TypeSpecObject.name
    (self.types.filter fun item => kind.all fun kind => item.2.kind == kind)

/-- A new registry on which calls were made, if none of them raised. -/
def building (call : RegistryCall) : Except PyError RegistryDicts :=
  let outcome := call.run.run empty
  outcome.1.map fun _ => outcome.2

/-- `copy`. `replace` makes each specification again. -/
def copy (self : RegistryDicts) : Except PyError RegistryDicts :=
  building do
    self.listKinds.forM fun kindSpec => registerKind kindSpec false
    (self.listTypes none).forM fun typeSpec => registerMade typeSpec false

end RegistryDicts

/-- The fields of a built-in type without drivers. -/
def builtinFields (name kind : String) (propertiesModel secretsModel : ModelClass)
    (connector : String) (capabilities : Finset String) : TypeSpecObject where
  name := name
  kind := kind
  propertiesModel := propertiesModel
  secretsModel := some secretsModel
  publicModel := some propertiesModel
  connectorFactory := some connector
  defaultDriver := none
  driverSpecs := []
  supportedDrivers := ∅
  capabilities := capabilities
  tags := ∅

/-- The fields of a built-in SQL type with drivers. -/
def builtinSqlFields (name : String) (propertiesModel : ModelClass) (defaultDriver : String)
    (driverSpecs : List DriverSpec) : TypeSpecObject :=
  { builtinFields name "sql" propertiesModel sqlSecrets "SQLConnector" {"check", "client"} with
    defaultDriver := some defaultDriver
    driverSpecs := driverSpecs }

/-- The kinds of `build_default_registry`. -/
def defaultKinds : List KindSpecObject :=
  [⟨"sql", "", {"check", "client", "query"}⟩, ⟨"queue", "", {"check", "client", "publish"}⟩,
    ⟨"file", "", {"check", "client", "list_objects"}⟩]

/-- The fields of the types of `build_default_registry`. -/
def defaultFields (host : Host) : List TypeSpecObject :=
  [builtinSqlFields "postgres" sqlProperties "psycopg"
      [plainDriver "psycopg", plainDriver "psycopg2", plainDriver "asyncpg"],
    builtinSqlFields "mysql" sqlProperties "pymysql"
      [plainDriver "pymysql", plainDriver "aiomysql"],
    builtinSqlFields "clickhouse" sqlProperties "native" [plainDriver "native", plainDriver "http"],
    builtinSqlFields "mssql" mssqlProperties "pyodbc"
      [.ofOptions "pyodbc" odbcDriverOptions, .ofOptions "aioodbc" odbcDriverOptions],
    builtinSqlFields "oracle" sqlProperties "oracledb" [plainDriver "oracledb"],
    builtinFields "mongodb" "sql" sqlProperties sqlSecrets "SQLConnector" {"check", "client"},
    builtinFields "kafka" "queue" kafkaProperties kafkaSecrets "AsyncKafkaConnector"
      {"check", "client", "publish"},
    builtinFields "s3" "file" (s3Properties host) s3Secrets "S3Connector"
      {"check", "client", "list_objects"},
    builtinFields "ftp" "file" ftpProperties ftpSecrets "FTPConnector" {"check", "client"},
    builtinFields "sftp" "file" (sftpProperties host) sftpSecrets "SFTPConnector"
      {"check", "client"}]

/-- `build_default_registry`. -/
def buildDefaultRegistry (host : Host) : Except PyError RegistryDicts :=
  RegistryDicts.building do
    defaultKinds.forM fun kind => registerKind kind false
    (defaultFields host).forM fun given => registerMade given false

/-- `_merge_registry`, on the target. -/
def mergeRegistry (source : RegistryDicts) : RegistryCall := do
  source.listKinds.forM fun kind => registerKind kind true
  (source.listTypes none).forM fun connectionType => registerType connectionType true

/-! ## What the calls do -/

section Calls

variable {self : RegistryDicts} {kind : KindSpecObject} {spec : TypeSpecObject} {overwrite : Bool}

/-- `register_kind` raises, and leaves the registry, exactly when the name is taken and is not to be
overwritten. -/
theorem run_registerKind (self : RegistryDicts) (kind : KindSpecObject) (overwrite : Bool) :
    (registerKind kind overwrite).run.run self =
      if self.kinds.contains kind.name && !overwrite then
        (.error (.validationFailed s!"Kind '{kind.name}' is already registered." []), self)
      else (.ok (), { self with kinds := store KindSpecObject.name self.kinds kind }) := by
  show (if self.kinds.contains kind.name && !overwrite then throw _ else set _ :
    RegistryCall).run.run self = _
  cases self.kinds.contains kind.name && !overwrite <;> rfl

/-- `register_type` raises, and leaves the registry, exactly when the kind is not registered, or the
name is taken and is not to be overwritten. -/
theorem run_registerType (self : RegistryDicts) (spec : TypeSpecObject) (overwrite : Bool) :
    (registerType spec overwrite).run.run self =
      if !self.kinds.contains spec.kind then
        (.error (.validationFailed s!"Unknown kind '{spec.kind}' for type '{spec.name}'." []), self)
      else if self.types.contains spec.name && !overwrite then
        (.error (.validationFailed s!"Type '{spec.name}' is already registered." []), self)
      else (.ok (), { self with types := store TypeSpecObject.name self.types spec }) := by
  show (if !self.kinds.contains spec.kind then throw _
    else if self.types.contains spec.name && !overwrite then throw _ else set _ :
      RegistryCall).run.run self = _
  cases self.kinds.contains spec.kind
  · rfl
  · cases self.types.contains spec.name && !overwrite <;> rfl

/-- Registering a specification that can be made registers it. -/
theorem run_registerMade {given : TypeSpecObject} (h : given.postInit = .ok spec) :
    (registerMade given overwrite).run.run self = (registerType spec overwrite).run.run self := by
  unfold registerMade
  rw [h]
  rfl

/-- Registering a specification that cannot be made raises, and leaves the registry. -/
theorem run_registerMade_error {given : TypeSpecObject} {e : PyError}
    (h : given.postInit = .error e) :
    (registerMade given overwrite).run.run self = (.error e, self) := by
  unfold registerMade
  rw [h]
  rfl

end Calls

/-! ## Closed registries -/

/-- A registry whose entries stand under their own names, whose types are of registered kinds, and
whose types declare their drivers. -/
structure RegistryDicts.Closed (registry : RegistryDicts) : Prop where
  kinds_named : Named KindSpecObject.name registry.kinds
  types_named : Named TypeSpecObject.name registry.types
  kind_known : ∀ item ∈ registry.types, registry.kinds.contains item.2.kind = true
  declared : ∀ item ∈ registry.types, item.2.Declared

namespace RegistryDicts

variable {self source : RegistryDicts} {kind : KindSpecObject} {spec : TypeSpecObject}

/-- The empty registry is closed. -/
theorem closed_empty : empty.Closed :=
  ⟨named_nil, named_nil, fun _ h => absurd h List.not_mem_nil, fun _ h => absurd h List.not_mem_nil⟩

/-- A registry is closed when what it finds under a name is. -/
theorem closed_of_lookup (hkinds : Named KindSpecObject.name self.kinds)
    (htypes : Named TypeSpecObject.name self.types)
    (h : ∀ name spec, self.types.lookup name = some spec →
      self.kinds.contains spec.kind = true ∧ spec.Declared) : self.Closed where
  kinds_named := hkinds
  types_named := htypes
  kind_known item hitem := (h item.1 item.2 (htypes.mem_iff_lookup.mp hitem)).1
  declared item hitem := (h item.1 item.2 (htypes.mem_iff_lookup.mp hitem)).2

/-- A type that is found is of a registered kind and declares its drivers. -/
theorem Closed.of_lookup (h : self.Closed) {name : String}
    (hspec : self.types.lookup name = some spec) :
    self.kinds.contains spec.kind = true ∧ spec.Declared :=
  ⟨h.kind_known _ (Dict.mem_of_lookup hspec), h.declared _ (Dict.mem_of_lookup hspec)⟩

/-- Registering a kind, or overwriting one, leaves the registry closed. -/
theorem closed_registerKind (h : self.Closed) (kind : KindSpecObject) (overwrite : Bool) :
    ((registerKind kind overwrite).run.run self).2.Closed := by
  rw [run_registerKind]
  split
  · exact h
  · refine closed_of_lookup (h.kinds_named.store kind) h.types_named fun name spec hspec => ?_
    refine ⟨?_, (h.of_lookup hspec).2⟩
    show (store KindSpecObject.name self.kinds kind).contains spec.kind = true
    rw [contains_store, (h.of_lookup hspec).1, Bool.or_true]

/-- Registering a type that declares its drivers, or moving one to another kind, leaves the registry
closed. -/
theorem closed_registerType (h : self.Closed) (hspec : spec.Declared) (overwrite : Bool) :
    ((registerType spec overwrite).run.run self).2.Closed := by
  rw [run_registerType]
  split
  · exact h
  rename_i hkind
  rw [Bool.not_eq_true', Bool.not_eq_false] at hkind
  split
  · exact h
  · refine closed_of_lookup h.kinds_named (h.types_named.store spec) fun name found hfound => ?_
    have hfound : (store TypeSpecObject.name self.types spec).lookup name = some found := hfound
    rw [lookup_store] at hfound
    split at hfound
    · rw [← Option.some.inj hfound]
      exact ⟨hkind, hspec⟩
    · exact h.of_lookup hfound

/-- Registering a type that is made of given fields leaves the registry closed, and one that cannot
be made leaves it alone. -/
theorem closed_registerMade (h : self.Closed) (given : TypeSpecObject) (overwrite : Bool) :
    ((registerMade given overwrite).run.run self).2.Closed := by
  cases hmade : given.postInit with
  | ok spec =>
    rw [run_registerMade hmade]
    exact closed_registerType h (TypeSpecObject.declared_of_postInit hmade) overwrite
  | error e =>
    rw [run_registerMade_error hmade]
    exact h

/-- All the types are listed when no kind is asked for. -/
theorem listTypes_none (self : RegistryDicts) :
    self.listTypes none = listing TypeSpecObject.name self.types := by
  unfold listTypes
  simp only [Option.all_none, List.filter_true]

/-- A listed type is of a registered kind and declares its drivers. -/
theorem Closed.of_mem_listTypes (h : self.Closed) (hspec : spec ∈ self.listTypes none) :
    self.kinds.contains spec.kind = true ∧ spec.Declared := by
  rw [listTypes_none, h.types_named.mem_listing] at hspec
  exact h.of_lookup hspec

/-! ## Replayed registrations -/

/-- The kinds with those of a list stored. -/
def withKinds (self : RegistryDicts) (kinds : List KindSpecObject) : RegistryDicts :=
  { self with kinds := storeAll KindSpecObject.name self.kinds kinds }

/-- The types with those of a list stored. -/
def withTypes (self : RegistryDicts) (types : List TypeSpecObject) : RegistryDicts :=
  { self with types := storeAll TypeSpecObject.name self.types types }

/-- Registering kinds of distinct names, which are new or overwritten, one after the other. -/
theorem run_registerKinds {kinds : List KindSpecObject} {overwrite : Bool}
    (hnames : (kinds.map KindSpecObject.name).Nodup)
    (hnew : overwrite = true ∨ ∀ kind ∈ kinds, self.kinds.contains kind.name = false) :
    (kinds.forM fun kind => registerKind kind overwrite).run.run self =
      (.ok (), self.withKinds kinds) := by
  have hfold : ∀ kinds : List KindSpecObject,
      kinds.foldl (fun r kind => r.withKinds [kind]) self = self.withKinds kinds := by
    intro kinds
    generalize self = r
    induction kinds generalizing r with
    | nil => rfl
    | cons kind kinds ih => exact ih (r.withKinds [kind])
  rw [← hfold]
  refine run_forM_ok fun before kind after hkinds => ?_
  rw [run_registerKind, hfold, if_neg]
  · rfl
  rcases hnew with hoverwrite | hnew
  · simp [hoverwrite]
  · have hfree : self.kinds.contains kind.name = false := hnew kind (by simp [hkinds])
    have hbefore : (self.withKinds before).kinds.contains kind.name = false :=
      contains_storeAll_before (hkinds ▸ hnames) hfree
    rw [hbefore, Bool.false_and]
    exact Bool.false_ne_true

/-- Registering types of known kinds and distinct names, which are new or overwritten, one after the
other, by calls that each register one. -/
theorem run_registerTypes {α : Type} {call : α → RegistryCall} {made : α → TypeSpecObject}
    {items : List α} {overwrite : Bool}
    (hcall : ∀ item ∈ items, ∀ r : RegistryDicts,
      (call item).run.run r = (registerType (made item) overwrite).run.run r)
    (hkinds : ∀ item ∈ items, self.kinds.contains (made item).kind = true)
    (hnames : ((items.map made).map TypeSpecObject.name).Nodup)
    (hnew : overwrite = true ∨ ∀ item ∈ items, self.types.contains (made item).name = false) :
    (items.forM call).run.run self = (.ok (), self.withTypes (items.map made)) := by
  have hfold : ∀ items : List α,
      items.foldl (fun r item => r.withTypes [made item]) self =
        self.withTypes (items.map made) := by
    intro items
    generalize self = r
    induction items generalizing r with
    | nil => rfl
    | cons item items ih => exact ih (r.withTypes [made item])
  rw [← hfold]
  refine run_forM_ok fun before item after hitems => ?_
  have hitem : item ∈ items := by simp [hitems]
  have hkind : (self.withTypes (before.map made)).kinds.contains (made item).kind = true :=
    hkinds item hitem
  rw [hcall item hitem, run_registerType, hfold, hkind, if_neg (by simp), if_neg]
  · rfl
  rcases hnew with hoverwrite | hnew
  · simp [hoverwrite]
  · rw [hitems, List.map_append, List.map_cons] at hnames
    have hbefore : (self.withTypes (before.map made)).types.contains (made item).name = false :=
      contains_storeAll_before hnames (hnew item hitem)
    rw [hbefore, Bool.false_and]
    exact Bool.false_ne_true

/-- What replaying the registrations of a source leaves of a target. -/
def replayed (self source : RegistryDicts) : RegistryDicts :=
  (self.withKinds source.listKinds).withTypes (source.listTypes none)

/-- A kind of a replayed registry is the source's, or else the target's. -/
theorem lookup_kinds_replayed (hsource : source.Closed) (name : String) :
    (self.replayed source).kinds.lookup name =
      (source.kinds.lookup name).or (self.kinds.lookup name) :=
  lookup_storeAll_listing hsource.kinds_named

/-- A type of a replayed registry is the source's, or else the target's. -/
theorem lookup_types_replayed (hsource : source.Closed) (name : String) :
    (self.replayed source).types.lookup name =
      (source.types.lookup name).or (self.types.lookup name) := by
  unfold replayed
  rw [listTypes_none]
  exact lookup_storeAll_listing hsource.types_named

/-- Replaying a closed registry on another leaves that one closed. -/
theorem Closed.replayed (h : self.Closed) (hsource : source.Closed) :
    (self.replayed source).Closed := by
  have hkinds : ∀ name, source.kinds.contains name = true ∨ self.kinds.contains name = true →
      (self.replayed source).kinds.contains name = true := by
    intro name
    unfold Dict.contains
    rw [lookup_kinds_replayed hsource, Option.isSome_or, Bool.or_eq_true]
    exact id
  refine closed_of_lookup (h.kinds_named.storeAll _) (h.types_named.storeAll _)
    fun name spec hspec => ?_
  rw [lookup_types_replayed hsource, Option.or_eq_some_iff] at hspec
  rcases hspec with hspec | ⟨-, hspec⟩
  · exact ⟨hkinds _ (Or.inl (hsource.of_lookup hspec).1), (hsource.of_lookup hspec).2⟩
  · exact ⟨hkinds _ (Or.inr (h.of_lookup hspec).1), (h.of_lookup hspec).2⟩

/-- The registrations of a closed registry can be replayed, on any registry when they overwrite, and
on an empty one. -/
theorem run_replay (hsource : source.Closed) {overwrite : Bool}
    (htarget : overwrite = true ∨ self = empty) {call : TypeSpecObject → RegistryCall}
    (hcall : ∀ spec, spec.Declared → ∀ r : RegistryDicts,
      (call spec).run.run r = (registerType spec overwrite).run.run r) :
    (do
      source.listKinds.forM fun kind => registerKind kind overwrite
      (source.listTypes none).forM call : RegistryCall).run.run self =
        (.ok (), self.replayed source) := by
  have hkinds : (source.listKinds.forM fun kind => registerKind kind overwrite).run.run self =
      (.ok (), self.withKinds source.listKinds) := by
    refine run_registerKinds hsource.kinds_named.nodup_names (htarget.imp_right ?_)
    rintro rfl kind -
    rfl
  rw [run_bind_ok hkinds]
  have hnames : ((source.listTypes none).map TypeSpecObject.name).Nodup := by
    rw [listTypes_none]
    exact hsource.types_named.nodup_names
  have htypes : ((source.listTypes none).forM call).run.run (self.withKinds source.listKinds) =
      (.ok (), (self.withKinds source.listKinds).withTypes ((source.listTypes none).map id)) := by
    refine run_registerTypes (fun spec hspec r => ?_) (fun spec hspec => ?_) ?_
      (htarget.imp_right ?_)
    · exact hcall spec (hsource.of_mem_listTypes hspec).2 r
    · -- The kind of a type of the source is one of the source's, and so was registered.
      have hknown := (hsource.of_mem_listTypes hspec).1
      show (storeAll KindSpecObject.name self.kinds source.listKinds).contains spec.kind = true
      unfold Dict.contains at hknown ⊢
      unfold listKinds
      rw [lookup_storeAll_listing hsource.kinds_named, Option.isSome_or, hknown, Bool.true_or]
    · rw [List.map_id]
      exact hnames
    · rintro rfl spec -
      rfl
  rw [htypes, List.map_id]
  rfl

/-! ## Copying and merging -/

/-- Two registries find the same under every name, and list the same. -/
structure Agree (registry other : RegistryDicts) : Prop where
  getKind : ∀ name, registry.getKind name = other.getKind name
  getType : ∀ name, registry.getType name = other.getType name
  listKinds : registry.listKinds = other.listKinds
  listTypes : ∀ kind, registry.listTypes kind = other.listTypes kind

/-- Closed registries with the same lookups agree. -/
theorem Closed.agree (h : self.Closed) (hsource : source.Closed)
    (hkinds : ∀ name, self.kinds.lookup name = source.kinds.lookup name)
    (htypes : ∀ name, self.types.lookup name = source.types.lookup name) : self.Agree source where
  getKind name := by
    unfold RegistryDicts.getKind
    rw [hkinds]
  getType name := by
    unfold RegistryDicts.getType
    rw [htypes]
  listKinds := listing_congr h.kinds_named hsource.kinds_named hkinds
  listTypes kind := by
    let p := fun spec : TypeSpecObject => kind.all fun kind => spec.kind == kind
    refine listing_congr (h.types_named.filter p) (hsource.types_named.filter p) fun name => ?_
    rw [h.types_named.lookup_filter p, hsource.types_named.lookup_filter p, htypes]

/-- Copying a closed registry does not raise, and gives one that agrees with it. -/
theorem Closed.copy (h : self.Closed) :
    ∃ copied, self.copy = .ok copied ∧ copied.Closed ∧ self.Agree copied := by
  have hcall : ∀ spec : TypeSpecObject, spec.Declared → ∀ r : RegistryDicts,
      (registerMade spec false).run.run r = (registerType spec false).run.run r :=
    fun spec hspec r => run_registerMade hspec.postInit
  have hrun := run_replay h (Or.inr rfl) hcall
  have hclosed : (empty.replayed self).Closed := closed_empty.replayed h
  refine ⟨empty.replayed self, ?_, hclosed, h.agree hclosed (fun name => ?_) fun name => ?_⟩
  · unfold RegistryDicts.copy building
    rw [hrun]
    rfl
  · rw [lookup_kinds_replayed h]
    exact Option.or_none.symm
  · rw [lookup_types_replayed h]
    exact Option.or_none.symm

/-- Merging a closed registry into another does not raise. -/
theorem run_mergeRegistry (hsource : source.Closed) (target : RegistryDicts) :
    (mergeRegistry source).run.run target = (.ok (), target.replayed source) :=
  run_replay hsource (Or.inl rfl) fun _ _ _ => rfl

/-! ## The default registry -/

/-- What the fields of a built-in type are made. -/
def madeDefault (given : TypeSpecObject) : TypeSpecObject :=
  { given with supportedDrivers := TypeSpecObject.driverNames given.driverSpecs }

/-- A built-in type without drivers is made as it is given. -/
theorem postInit_builtinFields (name kind : String) (propertiesModel secretsModel : ModelClass)
    (connector : String) (capabilities : Finset String) :
    (builtinFields name kind propertiesModel secretsModel connector capabilities).postInit = .ok
      (madeDefault
        (builtinFields name kind propertiesModel secretsModel connector capabilities)) :=
  TypeSpecObject.Declared.postInit ⟨rfl, fun _ h => by cases h⟩

/-- The built-in types can be made. -/
theorem postInit_defaultFields {host : Host} :
    ∀ given ∈ defaultFields host, given.postInit = .ok (madeDefault given) := by
  simp only [defaultFields, List.forall_mem_cons]
  exact ⟨rfl, rfl, rfl, rfl, rfl, postInit_builtinFields .., postInit_builtinFields ..,
    postInit_builtinFields .., postInit_builtinFields .., postInit_builtinFields ..,
    fun _ h => absurd h List.not_mem_nil⟩

/-- The dictionaries of the default registry. -/
def defaultDicts (host : Host) : RegistryDicts :=
  (empty.withKinds defaultKinds).withTypes ((defaultFields host).map madeDefault)

/-- `build_default_registry` does not raise. -/
theorem buildDefaultRegistry_eq (host : Host) :
    buildDefaultRegistry host = .ok (defaultDicts host) := by
  have hkinds : (defaultKinds.forM fun kind => registerKind kind false).run.run empty =
      (.ok (), empty.withKinds defaultKinds) := by
    exact run_registerKinds (by decide) (Or.inr fun kind _ => rfl)
  have htypes : ((defaultFields host).forM fun given => registerMade given false).run.run
      (empty.withKinds defaultKinds) = (.ok (), defaultDicts host) := by
    refine run_registerTypes
      (fun given hgiven r => run_registerMade (postInit_defaultFields given hgiven))
      ?_ ?_ (Or.inr fun given _ => rfl)
    · simp only [defaultFields, List.forall_mem_cons]
      exact ⟨rfl, rfl, rfl, rfl, rfl, rfl, rfl, rfl, rfl, rfl,
        fun _ h => absurd h List.not_mem_nil⟩
    · show ["postgres", "mysql", "clickhouse", "mssql", "oracle", "mongodb", "kafka", "s3", "ftp",
        "sftp"].Nodup
      decide
  unfold buildDefaultRegistry building
  rw [run_bind_ok hkinds, htypes]
  rfl

/-- A registry on which the calls keep registries closed is built closed. -/
theorem closed_of_building {call : RegistryCall} {registry : RegistryDicts}
    (hcall : (call.run.run empty).2.Closed) (h : building call = .ok registry) :
    registry.Closed := by
  unfold building at h
  dsimp only at h
  cases houtcome : (call.run.run empty).1 with
  | ok _ =>
    rw [houtcome] at h
    exact Except.ok.inj h ▸ hcall
  | error e =>
    rw [houtcome] at h
    cases h

/-- The default registry is closed. -/
theorem closed_defaultDicts (host : Host) : (defaultDicts host).Closed := by
  refine closed_of_building ?_ (buildDefaultRegistry_eq host)
  refine run_bind_keeps (run_forM_keeps (fun kind _ r hr => ?_) closed_empty) fun _ r hr => ?_
  · exact closed_registerKind hr kind false
  · exact run_forM_keeps (fun given _ r hr => closed_registerMade hr given false) hr

end RegistryDicts

/-! ## The registry of the services -/

/-- What the services read of a specification. -/
def TypeSpecObject.toTypeSpec (spec : TypeSpecObject) (h : spec.Declared) : TypeSpec where
  name := spec.name
  kind := spec.kind
  propertiesModel := spec.propertiesModel
  secretsModel := spec.secretsModel
  publicModel := spec.publicModel
  connectorFactory := spec.connectorFactory
  defaultDriver := spec.defaultDriver
  driverSpecs := spec.driverSpecs
  default_supported driver hdriver := by
    have hsupported := h.default_supported driver hdriver
    rw [h.supported] at hsupported
    exact List.mem_toFinset.mp hsupported

namespace RegistryDicts

variable {self : RegistryDicts}

/-- The types as the services read them. -/
def readTypes (self : RegistryDicts) (h : self.Closed) : Dict TypeSpec :=
  self.types.attach.map fun item => (item.1.1, item.1.2.toTypeSpec (h.declared item.1 item.2))

/-- The names of the types are the same. -/
theorem keys_readTypes (h : self.Closed) :
    (self.readTypes h).map Prod.fst = self.types.map Prod.fst := by
  unfold readTypes
  rw [List.map_map]
  show self.types.attach.map (fun item => item.1.1) = _
  exact List.attach_map_val (f := Prod.fst)

/-- A type that the services read is a registered one. -/
theorem mem_readTypes (h : self.Closed) {name : String} {read : TypeSpec} :
    (name, read) ∈ self.readTypes h ↔
      ∃ spec hspec, (name, spec) ∈ self.types ∧ read = spec.toTypeSpec hspec := by
  unfold readTypes
  rw [List.mem_map]
  constructor
  · rintro ⟨⟨⟨key, spec⟩, hmem⟩, -, heq⟩
    obtain ⟨rfl, rfl⟩ := Prod.mk.inj heq
    exact ⟨spec, h.declared _ hmem, hmem, rfl⟩
  · rintro ⟨spec, hspec, hmem, rfl⟩
    exact ⟨⟨(name, spec), hmem⟩, List.mem_attach _ _, rfl⟩

/-- A closed registry, as the services read it. -/
def toRegistry (self : RegistryDicts) (h : self.Closed) : ConnectionRegistry where
  kinds := self.kinds.map fun item => (item.1, ⟨item.2.name⟩)
  types := self.readTypes h
  kinds_name item hitem := by
    obtain ⟨kind, hkind, rfl⟩ := List.mem_map.mp hitem
    exact h.kinds_named.own kind hkind
  types_name item hitem := by
    obtain ⟨spec, _, hmem, heq⟩ := (mem_readTypes h).mp (hitem : (item.1, item.2) ∈ _)
    rw [heq]
    exact h.types_named.own _ hmem
  types_nodup := by
    rw [keys_readTypes]
    exact h.types_named.nodup
  kinds_known item hitem := by
    obtain ⟨spec, _, hmem, heq⟩ := (mem_readTypes h).mp (hitem : (item.1, item.2) ∈ _)
    rw [heq, Dict.contains_iff_mem, List.map_map]
    exact Dict.contains_iff_mem.mp (h.kind_known _ hmem)

/-- The services find a type in a closed registry exactly when it is registered. -/
theorem getType_toRegistry (h : self.Closed) {name : String} {read : TypeSpec} :
    (self.toRegistry h).getType name = .ok read ↔
      ∃ spec hspec, self.getType name = .ok spec ∧ read = spec.toTypeSpec hspec := by
  have hnodup : ((self.readTypes h).map Prod.fst).Nodup := (self.toRegistry h).types_nodup
  have hfound : ∀ {spec : TypeSpecObject},
      self.getType name = .ok spec ↔ self.types.lookup name = some spec := by
    intro spec
    unfold getType
    cases self.types.lookup name <;> simp
  have hread : (self.toRegistry h).getType name = .ok read ↔ (name, read) ∈ self.readTypes h := by
    refine ⟨ConnectionRegistry.mem_of_getType, fun hmem => ?_⟩
    have hlookup : (self.toRegistry h).types.lookup name = some read :=
      Dict.lookup_of_mem hnodup hmem
    unfold ConnectionRegistry.getType
    rw [hlookup]
  rw [hread, mem_readTypes]
  simp only [hfound, h.types_named.mem_iff_lookup]

/-- `build_default_registry` builds the registry that the services have by default. -/
theorem toRegistry_defaultDicts (host : Host) :
    (defaultDicts host).toRegistry (closed_defaultDicts host) = defaultRegistry host := rfl

end RegistryDicts

/-! ## Sequences of calls -/

/-- A call that makes a registry or changes one of those that were made, which have numbers. -/
inductive RegistryStep where
  | construct
  | buildDefault
  | registerKind (registry : Nat) (spec : KindSpecObject) (overwrite : Bool)
  | registerType (registry : Nat) (given : TypeSpecObject) (overwrite : Bool)
  | copy (registry : Nat)
  | merge (target source : Nat)

/-- The registries with one more, where it was made. -/
def adding (made : Except PyError RegistryDicts) (registries : List RegistryDicts) :
    Except PyError Unit × List RegistryDicts :=
  match made with
  | .ok registry => (.ok (), registries ++ [registry])
  | .error e => (.error e, registries)

/-- A call on one of the registries. -/
def calling (call : RegistryCall) (registry : Nat) (registries : List RegistryDicts) :
    Except PyError Unit × List RegistryDicts :=
  match registries[registry]? with
  | none => (.ok (), registries)
  | some self => ((call.run.run self).1, registries.set registry (call.run.run self).2)

namespace RegistryStep

/-- What a step raises, and the registries after it. There is no call on a registry that was not
made. -/
def take (host : Host) (step : RegistryStep) (registries : List RegistryDicts) :
    Except PyError Unit × List RegistryDicts :=
  match step with
  | construct => adding (.ok .empty) registries
  | buildDefault => adding (buildDefaultRegistry host) registries
  | registerKind registry spec overwrite =>
    calling (DbConnection.registerKind spec overwrite) registry registries
  | registerType registry given overwrite =>
    calling (registerMade given overwrite) registry registries
  | copy registry =>
    match registries[registry]? with
    | none => (.ok (), registries)
    | some self => adding self.copy registries
  | merge target source =>
    match registries[source]? with
    | none => (.ok (), registries)
    | some source => calling (mergeRegistry source) target registries

end RegistryStep

/-- The registries after a sequence of steps, whatever they raised. -/
def registriesAfter (host : Host) (steps : List RegistryStep) : List RegistryDicts :=
  steps.foldl (fun registries step => (step.take host registries).2) []

section Steps

open RegistryDicts

variable {registries : List RegistryDicts}

/-- One more closed registry. -/
theorem closed_adding (h : ∀ registry ∈ registries, registry.Closed)
    {made : Except PyError RegistryDicts}
    (hmade : ∀ registry, made = .ok registry → registry.Closed) :
    ∀ registry ∈ (adding made registries).2, registry.Closed := by
  cases made with
  | error e => exact h
  | ok new =>
    intro registry hregistry
    rcases List.mem_append.mp hregistry with hold | hnew
    · exact h registry hold
    · rw [List.mem_singleton.mp hnew]
      exact hmade new rfl

/-- A call that keeps registries closed keeps each of them closed. -/
theorem closed_calling (h : ∀ registry ∈ registries, registry.Closed) {call : RegistryCall}
    (hcall : ∀ self : RegistryDicts, self.Closed → (call.run.run self).2.Closed) (i : Nat) :
    ∀ registry ∈ (calling call i registries).2, registry.Closed := by
  unfold calling
  cases hself : registries[i]? with
  | none => exact h
  | some self =>
    intro registry hregistry
    rcases List.mem_or_eq_of_mem_set hregistry with hold | rfl
    · exact h registry hold
    · exact hcall self (h self (List.mem_of_getElem? hself))

/-- A step from closed registries leaves closed registries. -/
theorem RegistryStep.closed_take (h : ∀ registry ∈ registries, registry.Closed) (host : Host)
    (step : RegistryStep) : ∀ registry ∈ (step.take host registries).2, registry.Closed := by
  cases step with
  | construct =>
    refine closed_adding h fun registry hregistry => ?_
    rw [← Except.ok.inj hregistry]
    exact closed_empty
  | buildDefault =>
    refine closed_adding h fun registry hregistry => ?_
    rw [buildDefaultRegistry_eq] at hregistry
    rw [← Except.ok.inj hregistry]
    exact closed_defaultDicts host
  | registerKind i spec overwrite =>
    exact closed_calling h (fun self hself => closed_registerKind hself spec overwrite) i
  | registerType i given overwrite =>
    exact closed_calling h (fun self hself => closed_registerMade hself given overwrite) i
  | copy i =>
    unfold take
    dsimp only
    cases hself : registries[i]? with
    | none => exact h
    | some self =>
      obtain ⟨copied, hcopied, hclosed, -⟩ := (h self (List.mem_of_getElem? hself)).copy
      refine closed_adding h fun registry hregistry => ?_
      rw [hcopied] at hregistry
      rw [← Except.ok.inj hregistry]
      exact hclosed
  | merge target source =>
    unfold take
    dsimp only
    cases hsource : registries[source]? with
    | none => exact h
    | some source =>
      have hclosed : source.Closed := h source (List.mem_of_getElem? hsource)
      refine closed_calling h (fun self hself => ?_) target
      rw [run_mergeRegistry hclosed]
      exact hself.replayed hclosed

/-- Every registry of every run is closed. -/
theorem closed_registriesAfter (host : Host) (steps : List RegistryStep) :
    ∀ registry ∈ registriesAfter host steps, registry.Closed :=
  List.foldlRecOn (motive := fun registries : List RegistryDicts =>
    ∀ registry ∈ registries, registry.Closed) steps _
    (fun _ h => absurd h List.not_mem_nil) fun _ h step _ => step.closed_take h host

/-! ## Calls that raise -/

/-- A registry that is not made is not added. -/
theorem adding_error {made : Except PyError RegistryDicts} {e : PyError}
    (h : (adding made registries).1 = .error e) : (adding made registries).2 = registries := by
  cases made with
  | ok registry => cases h
  | error e => rfl

/-- A call that leaves its registry when it raises leaves all of them then. -/
theorem calling_error {call : RegistryCall} {i : Nat} {e : PyError}
    (hcall : ∀ self ∈ registries, (call.run.run self).1 = .error e → (call.run.run self).2 = self)
    (h : (calling call i registries).1 = .error e) :
    (calling call i registries).2 = registries := by
  unfold calling at h ⊢
  cases hself : registries[i]? with
  | none => rfl
  | some self =>
    rw [hself] at h
    dsimp only at h ⊢
    obtain ⟨hi, rfl⟩ := List.getElem?_eq_some_iff.mp hself
    rw [hcall _ (List.getElem_mem hi) h]
    exact List.set_getElem_self hi

/-- `register_kind` leaves the registry when it raises. -/
theorem registerKind_error {self : RegistryDicts} {kind : KindSpecObject} {overwrite : Bool}
    {e : PyError} (h : ((registerKind kind overwrite).run.run self).1 = .error e) :
    ((registerKind kind overwrite).run.run self).2 = self := by
  rw [run_registerKind] at h ⊢
  split
  · rfl
  · rename_i hnew
    rw [if_neg hnew] at h
    cases h

/-- `register_type` leaves the registry when it raises. -/
theorem registerType_error {self : RegistryDicts} {spec : TypeSpecObject} {overwrite : Bool}
    {e : PyError} (h : ((registerType spec overwrite).run.run self).1 = .error e) :
    ((registerType spec overwrite).run.run self).2 = self := by
  rw [run_registerType] at h ⊢
  split
  · rfl
  · rename_i hkind
    split
    · rfl
    · rename_i hnew
      rw [if_neg hkind, if_neg hnew] at h
      cases h

/-- Registering a type that is made of given fields leaves the registry when it raises, be it on
making the type or on registering it. -/
theorem registerMade_error {self : RegistryDicts} {given : TypeSpecObject} {overwrite : Bool}
    {e : PyError} (h : ((registerMade given overwrite).run.run self).1 = .error e) :
    ((registerMade given overwrite).run.run self).2 = self := by
  cases hmade : given.postInit with
  | ok spec =>
    rw [run_registerMade hmade] at h ⊢
    exact registerType_error h
  | error e => rw [run_registerMade_error hmade]

/-- A step from closed registries that raises leaves them all. -/
theorem RegistryStep.take_error (hclosed : ∀ registry ∈ registries, registry.Closed) {host : Host}
    {step : RegistryStep} {e : PyError} (h : (step.take host registries).1 = .error e) :
    (step.take host registries).2 = registries := by
  cases step with
  | construct => exact adding_error h
  | buildDefault => exact adding_error h
  | registerKind i spec overwrite => exact calling_error (fun _ _ => registerKind_error) h
  | registerType i given overwrite => exact calling_error (fun _ _ => registerMade_error) h
  | copy i =>
    unfold take at h ⊢
    dsimp only at h ⊢
    cases hself : registries[i]? with
    | none => rfl
    | some self =>
      rw [hself] at h
      exact adding_error h
  | merge target source =>
    unfold take at h ⊢
    dsimp only at h ⊢
    cases hsource : registries[source]? with
    | none => rfl
    | some source =>
      rw [hsource] at h
      refine calling_error (fun self _ herror => ?_) h
      rw [run_mergeRegistry (hclosed source (List.mem_of_getElem? hsource))] at herror
      cases herror

end Steps

/-- **Registries stay closed**, whatever calls build them: a call that raises leaves all of them;
copying does not raise, and gives a registry with the same lookups and listings; merging does not
raise, and what is found afterwards is the source's entry where it has one and else the target's. -/
theorem registries_closed (host : Host) (steps : List RegistryStep) :
    (∀ registry ∈ registriesAfter host steps, registry.Closed) ∧
    (∀ (step : RegistryStep) (e : PyError),
      (step.take host (registriesAfter host steps)).1 = .error e →
      (step.take host (registriesAfter host steps)).2 = registriesAfter host steps) ∧
    (∀ registry ∈ registriesAfter host steps, ∃ copied,
      registry.copy = .ok copied ∧ registry.Agree copied) ∧
    (∀ target ∈ registriesAfter host steps, ∀ source ∈ registriesAfter host steps, ∃ merged,
      (mergeRegistry source).run.run target = (.ok (), merged) ∧
      ∀ name,
        merged.kinds.lookup name = (source.kinds.lookup name).or (target.kinds.lookup name) ∧
        merged.types.lookup name = (source.types.lookup name).or (target.types.lookup name)) := by
  have hclosed := closed_registriesAfter host steps
  refine ⟨hclosed, fun step e h => step.take_error hclosed h, fun registry hregistry => ?_,
    fun target _ source hsource => ?_⟩
  · obtain ⟨copied, hcopied, -, hagree⟩ := (hclosed registry hregistry).copy
    exact ⟨copied, hcopied, hagree⟩
  · have hsource : source.Closed := hclosed source hsource
    exact ⟨_, RegistryDicts.run_mergeRegistry hsource target, fun name =>
      ⟨RegistryDicts.lookup_kinds_replayed hsource name,
        RegistryDicts.lookup_types_replayed hsource name⟩⟩

end DbConnection
