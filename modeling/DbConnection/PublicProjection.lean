import DbConnection.RecordMapper

/-!
# Public views of a record

`application/public_projection.py`. `build` raises on the first part of a record that it cannot
show, while `buildAny` collects what is wrong as issues and shows a broken view if there are any.
What a model raises that is no `ValidationError` passes through both (`ReadsQuietly`).
`buildAny_eq_view` gives the conditions under which `buildAny` shows a public view.
-/

namespace DbConnection

open PyData Pydantic

/-- `PublicConnectionView`. -/
structure PublicConnectionView where
  id : String
  name : String
  kind : String
  type : String
  driver : Option String
  driverOptions : Option Instance
  properties : Instance
  labels : Dict String
  metadata : Dict Json
  createdAt : Nat
  updatedAt : Nat
  deletedAt : Option Nat
  extra : Dict Json
  deriving DecidableEq, Repr

/-- `BrokenPublicConnectionView`. -/
structure BrokenPublicConnectionView where
  id : String
  name : String
  kind : String
  type : String
  driver : Option String
  labels : Dict String
  metadata : Dict Json
  createdAt : Nat
  updatedAt : Nat
  deletedAt : Option Nat
  extra : Dict Json
  issues : List StoredConnectionIssue
  rawProperties : Json
  rawDriverOptions : Json
  rawSecrets : Json
  state : String
  deriving DecidableEq, Repr

/-- What `build_any` returns. -/
inductive ReadView where
  | view (v : PublicConnectionView)
  | broken (v : BrokenPublicConnectionView)
  deriving DecidableEq, Repr

/-- Stored properties, read by the properties model and then by the public model. -/
def publicProperties (spec : TypeSpec) (stored : Dict Json) : Except ModelError Instance := do
  let properties ← spec.propertiesModel.validate (.obj stored)
  spec.publicOrPropertiesModel.validate (.obj properties.dump)

/-- The public driver options of a record. -/
def publicDriverOptions (spec : TypeSpec) (record : ConnectionRecord) :
    Except PyError (Option Instance) :=
  buildPublicDriverOptions spec record.type (effectiveDriver spec record.driver)
    (.ofOption record.driverOptions)

/-- The view of a record with the given public parts. -/
def publicView (record : ConnectionRecord) (properties : Instance)
    (driverOptions : Option Instance) : PublicConnectionView where
  id := record.id
  name := record.name
  kind := record.kind
  type := record.type
  driver := record.driver
  driverOptions := driverOptions
  properties := properties
  labels := record.labels
  metadata := record.metadata
  createdAt := record.createdAt
  updatedAt := record.updatedAt
  deletedAt := record.deletedAt
  extra := record.extra

/-- `ConnectionPublicProjector.build`. -/
def build (registry : ConnectionRegistry) (record : ConnectionRecord) :
    Except PyError PublicConnectionView := do
  let spec ← registry.getType record.type
  let properties ← wrapValidationError "Stored connection payload is invalid."
    (publicProperties spec record.properties)
  let driverOptions ← publicDriverOptions spec record
  return publicView record properties driverOptions

/-- `_get_raw_properties`. -/
def getRawProperties (record : ConnectionRecord) : Json :=
  if record.rawProperties = .null then .obj record.properties else record.rawProperties

/-- `_get_raw_driver_options`. -/
def getRawDriverOptions (record : ConnectionRecord) : Json :=
  if record.rawDriverOptions = .null then
    (record.driverOptions.map fun v => Json.obj v.dump).getD .null
  else record.rawDriverOptions

/-- `_build_broken_view`. -/
def buildBrokenView (record : ConnectionRecord) (issues : List StoredConnectionIssue)
    (rawSecrets : Json) : BrokenPublicConnectionView where
  id := record.id
  name := record.name
  kind := record.kind
  type := record.type
  driver := record.driver
  labels := record.labels
  metadata := record.metadata
  createdAt := record.createdAt
  updatedAt := record.updatedAt
  deletedAt := record.deletedAt
  extra := record.extra
  issues := issues
  rawProperties := getRawProperties record
  rawDriverOptions := getRawDriverOptions record
  rawSecrets := rawSecrets
  state := "invalid"

/-- The issue of a record of another kind than its type's. -/
def kindIssue (spec : TypeSpec) (record : ConnectionRecord) : Option StoredConnectionIssue :=
  if record.kind ≠ spec.kind then some
    { field := "kind", code := "kind_mismatch",
      message := "Stored connection kind does not match the registered type.",
      details := [("stored_kind", .str record.kind), ("expected_kind", .str spec.kind)] }
  else none

/-- The public properties, or the issue that the models found. Neither if the mapper could not
read the properties. -/
def propertiesPart (spec : TypeSpec) (record : ConnectionRecord) :
    Except PyError (Option Instance × Option StoredConnectionIssue) :=
  if record.hasReadIssue "invalid_properties" "properties" then .ok (none, none)
  else
    match publicProperties spec record.properties with
    | .ok properties => .ok (some properties, none)
    | .error (.validation e) => .ok (none, some
        { field := "properties", code := "invalid_properties",
          message := "Stored connection properties payload is invalid.",
          details := [("errors", .arr e.errors)] })
    | .error (.raised exc) => .error (.other exc.cls exc.message)

/-- The public driver options, or the issue that the models found. Neither if the mapper could
not read the driver options. -/
def driverOptionsPart (spec : TypeSpec) (record : ConnectionRecord) :
    Except PyError (Option Instance × Option StoredConnectionIssue) :=
  if record.hasReadIssue "invalid_driver_options" "driver_options" then .ok (none, none)
  else
    match publicDriverOptions spec record with
    | .ok driverOptions => .ok (driverOptions, none)
    | .error (.validationFailed _ details) => .ok (none, some
        { field := "driver_options", code := "invalid_driver_options",
          message := "Stored connection driver options payload is invalid.",
          details := details })
    | .error e => .error e

/-- The issue that the secrets model found, if the mapper could read the secrets. -/
def secretsIssue (spec : TypeSpec) (record : ConnectionRecord) :
    Except PyError (Option StoredConnectionIssue) :=
  match spec.secretsModel with
  | none => .ok none
  | some secretsModel =>
    if record.hasReadIssue "unreadable_secrets" "secrets" ||
        record.hasReadIssue "invalid_secrets" "secrets" then .ok none
    else
      match secretsModel.validate (.obj record.secrets) with
      | .ok _ => .ok none
      | .error (.validation e) => .ok (some
          { field := "secrets", code := "invalid_secrets",
            message := "Stored connection secrets payload is invalid.",
            details := [("errors", .arr e.errors)] })
      | .error (.raised exc) => .error (.other exc.cls exc.message)

/-- `ConnectionPublicProjector.build_any`. -/
def buildAny (registry : ConnectionRegistry) (record : ConnectionRecord) :
    Except PyError ReadView :=
  match registry.getType record.type with
  | .error _ => .ok (.broken (buildBrokenView record (record.readIssues ++
      [{ field := "type", code := "unknown_type",
         message := "Stored connection type is not registered.",
         details := [("type", .str record.type)] }]) record.rawSecrets))
  | .ok spec => do
    let properties ← propertiesPart spec record
    let driverOptions ← driverOptionsPart spec record
    let secrets ← secretsIssue spec record
    -- The parts are read independently, so one broken part does not hide another.
    let issues := record.readIssues ++
      [kindIssue spec record, properties.2, driverOptions.2, secrets].filterMap id
    -- Secrets that only the model refused were readable, and are shown as they are.
    let rawSecrets := if secrets.isSome then .obj record.secrets else record.rawSecrets
    -- Without issues the properties are there: the assertion does not fail.
    if issues ≠ [] then .ok (.broken (buildBrokenView record issues rawSecrets))
    else
      match properties.1 with
      | none => .error .assertionError
      | some publicProperties => .ok (.view (publicView record publicProperties driverOptions.1))

/-- The models by which the record is read raise nothing but `ValidationError`. -/
structure ReadsQuietly (spec : TypeSpec) (record : ConnectionRecord) : Prop where
  properties : ∀ exc, publicProperties spec record.properties ≠ .error (.raised exc)
  driverOptions : ∀ cls message, publicDriverOptions spec record ≠ .error (.other cls message)
  secrets : ∀ m, spec.secretsModel = some m → ∀ exc,
    m.validate (.obj record.secrets) ≠ .error (.raised exc)

/-- A quiet type reads every record quietly. -/
theorem TypeSpec.Quiet.readsQuietly {spec : TypeSpec} (h : spec.Quiet)
    (record : ConnectionRecord) : ReadsQuietly spec record where
  properties exc he := by
    unfold DbConnection.publicProperties at he
    cases hp : spec.propertiesModel.validate (.obj record.properties) with
    | error e =>
      rw [hp] at he
      cases he
      exact h.properties.validate_ne_raised _ exc hp
    | ok p =>
      rw [hp] at he
      exact h.publicProperties.validate_ne_raised _ exc he
  driverOptions := buildPublicDriverOptions_ne_other h
  secrets m hm := (h.secrets m hm).validate_ne_raised _

/-- What the checks of a record found. -/
structure Checked (spec : TypeSpec) (record : ConnectionRecord)
    (properties driverOptions : Option Instance × Option StoredConnectionIssue)
    (secrets : Option StoredConnectionIssue) : Prop where
  properties : propertiesPart spec record = .ok properties
  driverOptions : driverOptionsPart spec record = .ok driverOptions
  secrets : secretsIssue spec record = .ok secrets

/-- The checks of a record that is read quietly all find something. -/
theorem ReadsQuietly.exists_checked {spec : TypeSpec} {record : ConnectionRecord}
    (h : ReadsQuietly spec record) :
    ∃ properties driverOptions secrets, Checked spec record properties driverOptions secrets := by
  have hproperties : ∃ part, propertiesPart spec record = .ok part := by
    unfold propertiesPart
    split
    · exact ⟨_, rfl⟩
    · split
      · exact ⟨_, rfl⟩
      · exact ⟨_, rfl⟩
      · rename_i exc he
        exact absurd he (h.properties exc)
  have hoptions : ∃ part, driverOptionsPart spec record = .ok part := by
    unfold driverOptionsPart
    split
    · exact ⟨_, rfl⟩
    · split
      · exact ⟨_, rfl⟩
      · exact ⟨_, rfl⟩
      · rename_i e hne he
        rcases buildPublicDriverOptions_error he with ⟨message, details, rfl⟩ | ⟨cls, message, rfl⟩
        · exact absurd rfl (hne message details)
        · exact absurd he (h.driverOptions cls message)
  have hsecrets : ∃ issue, secretsIssue spec record = .ok issue := by
    unfold secretsIssue
    split
    · exact ⟨_, rfl⟩
    · rename_i m hm
      split
      · exact ⟨_, rfl⟩
      · split
        · exact ⟨_, rfl⟩
        · exact ⟨_, rfl⟩
        · rename_i exc he
          exact absurd he (h.secrets m hm exc)
  obtain ⟨p, hp⟩ := hproperties
  obtain ⟨o, ho⟩ := hoptions
  obtain ⟨s, hs⟩ := hsecrets
  exact ⟨p, o, s, hp, ho, hs⟩

/-- `build_any` of a record of a known type, from what its checks found. -/
theorem Checked.buildAny_eq {registry : ConnectionRegistry} {record : ConnectionRecord}
    {spec : TypeSpec} (htype : registry.getType record.type = .ok spec)
    {properties driverOptions : Option Instance × Option StoredConnectionIssue}
    {secrets : Option StoredConnectionIssue}
    (h : Checked spec record properties driverOptions secrets) :
    buildAny registry record =
      if record.readIssues ++
          [kindIssue spec record, properties.2, driverOptions.2, secrets].filterMap id ≠ [] then
        .ok (.broken (buildBrokenView record (record.readIssues ++
          [kindIssue spec record, properties.2, driverOptions.2, secrets].filterMap id)
            (if secrets.isSome then .obj record.secrets else record.rawSecrets)))
      else properties.1.elim (.error .assertionError) fun p =>
        .ok (.view (publicView record p driverOptions.1)) := by
  unfold buildAny
  rw [htype]
  dsimp only
  rw [h.properties, h.driverOptions, h.secrets]
  simp only [ok_bind]
  split
  · rfl
  · cases properties.1 <;> rfl

/-- Where `build_any` returns a view of a record of a known type, its checks found something. -/
theorem exists_checked_of_buildAny {registry : ConnectionRegistry} {record : ConnectionRecord}
    {spec : TypeSpec} (htype : registry.getType record.type = .ok spec) {view : ReadView}
    (h : buildAny registry record = .ok view) :
    ∃ properties driverOptions secrets, Checked spec record properties driverOptions secrets := by
  unfold buildAny at h
  rw [htype] at h
  simp only [bind_eq_ok_iff] at h
  obtain ⟨p, hp, o, ho, s, hs, -⟩ := h
  exact ⟨p, o, s, hp, ho, hs⟩

/-- The parts of a record that `build` shows. -/
theorem build_eq_ok_iff {registry : ConnectionRegistry} {record : ConnectionRecord}
    {view : PublicConnectionView} :
    build registry record = .ok view ↔
      ∃ spec properties driverOptions, registry.getType record.type = .ok spec ∧
        publicProperties spec record.properties = .ok properties ∧
        publicDriverOptions spec record = .ok driverOptions ∧
        view = publicView record properties driverOptions := by
  unfold build
  simp only [bind_eq_ok_iff, wrapValidationError_eq_ok_iff, pure, Except.pure, Except.ok.injEq]
  constructor
  · rintro ⟨spec, hs, p, hp, o, ho, rfl⟩
    exact ⟨spec, p, o, hs, hp, ho, rfl⟩
  · rintro ⟨spec, p, o, hs, hp, ho, rfl⟩
    exact ⟨spec, hs, p, hp, o, ho, rfl⟩

/-- What `build_any` returns shows the record's own fields. -/
theorem buildAny_cases {registry : ConnectionRegistry} {record : ConnectionRecord}
    {view : ReadView} (h : buildAny registry record = .ok view) :
    (∃ issues rawSecrets, view = .broken (buildBrokenView record issues rawSecrets)) ∨
      ∃ properties driverOptions, view = .view (publicView record properties driverOptions) := by
  cases htype : registry.getType record.type with
  | error e =>
    unfold buildAny at h
    rw [htype] at h
    exact .inl ⟨_, _, (Except.ok.inj h).symm⟩
  | ok spec =>
    obtain ⟨p, o, s, hchecked⟩ := exists_checked_of_buildAny htype h
    rw [hchecked.buildAny_eq htype] at h
    split at h
    · exact .inl ⟨_, _, (Except.ok.inj h).symm⟩
    · cases hp : p.1 with
      | none => simp [hp] at h
      | some properties =>
        rw [hp] at h
        exact .inr ⟨_, _, (Except.ok.inj h).symm⟩

/-- A record that reads without an issue, of its type's kind, whose parts all have a public form
and whose secrets the type accepts is shown by a public view. -/
theorem buildAny_eq_view {registry : ConnectionRegistry} {record : ConnectionRecord}
    {spec : TypeSpec} {properties : Instance} {driverOptions : Option Instance}
    (htype : registry.getType record.type = .ok spec) (hkind : record.kind = spec.kind)
    (hissues : record.readIssues = [])
    (hproperties : publicProperties spec record.properties = .ok properties)
    (hoptions : publicDriverOptions spec record = .ok driverOptions)
    (hsecrets : ∀ m, spec.secretsModel = some m → ∃ v, m.validate (.obj record.secrets) = .ok v) :
    buildAny registry record = .ok (.view (publicView record properties driverOptions)) := by
  have hread : ∀ code field, record.hasReadIssue code field = false := by
    intro code field
    simp [ConnectionRecord.hasReadIssue, hissues]
  have hk : kindIssue spec record = none := by
    simp [kindIssue, hkind]
  have hp : propertiesPart spec record = .ok (some properties, none) := by
    simp [propertiesPart, hread, hproperties]
  have ho : driverOptionsPart spec record = .ok (driverOptions, none) := by
    simp [driverOptionsPart, hread, hoptions]
  have hs : secretsIssue spec record = .ok none := by
    unfold secretsIssue
    cases hm : spec.secretsModel with
    | none => rfl
    | some m =>
      obtain ⟨v, hv⟩ := hsecrets m hm
      simp [hread, hv]
  rw [Checked.buildAny_eq htype ⟨hp, ho, hs⟩]
  simp [hk, hissues]

end DbConnection
