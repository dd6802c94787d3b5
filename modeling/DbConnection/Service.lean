import DbConnection.Repository

/-!
# The connection service

`application/service.py`, with the hooks of `application/policies.py` and
`application/ownership.py` as arbitrary functions that may raise. A method is a transaction: its
hooks, its merge and its validation are computed between the statements of the repository. With
its own unit of work a mutating method commits at its end (`owned`); with one it is given it
leaves the commit to the caller (`createIn`, `updateIn` and `deleteIn`).

A check ends in a call of the connector with a validated connection. What the connector answers is
not the service's, so the result of a check is that call.
-/

namespace DbConnection

open PyData Pydantic ReadCommitted

/-- A value of a policy's payload. -/
inductive PayloadValue where
  | json (value : Json)
  | model (v : Instance)
  deriving DecidableEq, Repr, Inhabited

/-- `AccessContext`. -/
structure AccessContext where
  actor : Json
  operation : String
  connectionId : Option String
  payload : Option (Dict PayloadValue)
  deriving DecidableEq, Repr

/-- `AccessPolicy`. A `can_create` with one parameter is one that ignores the draft. -/
structure AccessPolicy where
  scopeList : AccessContext → ConnectionListQuery → Except PyError ConnectionListQuery
  canCreate : AccessContext → ConnectionDraft → Except PyError Unit
  canGetOne : AccessContext → ConnectionRecord → Except PyError Unit
  canUpdate : AccessContext → ConnectionRecord → ConnectionPatch → Except PyError Unit
  canDelete : AccessContext → ConnectionRecord → Except PyError Unit

/-- `AllowAllAccessPolicy`. -/
def allowAllAccessPolicy : AccessPolicy where
  scopeList _ query := .ok query
  canCreate _ _ := .ok ()
  canGetOne _ _ := .ok ()
  canUpdate _ _ _ := .ok ()
  canDelete _ _ := .ok ()

/-- `ConnectionOwnershipResolver`. -/
structure OwnershipResolver where
  resolveCreate : AccessContext → ConnectionDraft → Except PyError ConnectionDraft
  resolvePatch : AccessContext → ConnectionRecord → ConnectionPatch → Except PyError ConnectionPatch

/-- `NoOpConnectionOwnershipResolver`. -/
def noOpOwnershipResolver : OwnershipResolver where
  resolveCreate _ draft := .ok draft
  resolvePatch _ _ patch := .ok patch

/-- `ConnectionService`, with the settings' `max_connections` and what its units of work store
through. -/
structure ConnectionService (C : Type) where
  maxConnections : Option Int
  registry : ConnectionRegistry
  storage : Storage C
  accessPolicy : AccessPolicy
  ownershipResolver : OwnershipResolver

/-- The call of a connector's `check`. -/
structure ConnectorCall where
  /-- The connector class. -/
  connector : String
  connection : ValidatedConnection
  deriving DecidableEq, Repr

/-- The driver options of a draft or patch as a payload value. -/
def DriverOptions.toPayload : DriverOptions → PayloadValue
  | .none => .json .null
  | .raw items => .json (.obj items)
  | .model v => .model v

/-- The labels of a draft or patch as a value. -/
def labelsJson (labels : Option (Dict String)) : Json := (labels.map Json.ofStrDict).getD .null

/-- `asdict(draft)`. -/
def ConnectionDraft.asdict (draft : ConnectionDraft) : Dict PayloadValue :=
  [("name", .json (Json.ofStr? draft.name)), ("kind", .json (.str draft.kind)),
    ("type", .json (.str draft.type)), ("driver", .json (Json.ofStr? draft.driver)),
    ("driver_options", draft.driverOptions.toPayload),
    ("properties", .json (Json.ofObj? draft.properties)),
    ("secrets", .json (Json.ofObj? draft.secrets)), ("labels", .json (labelsJson draft.labels)),
    ("metadata", .json (Json.ofObj? draft.metadata)), ("extra", .json (Json.ofObj? draft.extra))]

/-- A patch field's item in `patch_to_dict`. -/
def PatchValue.item {α : Type} (name : String) (toPayload : α → PayloadValue) :
    PatchValue α → Dict PayloadValue
  | .unset => []
  | .set value => [(name, toPayload value)]

/-- The item of a patch field has the field's name, exactly when the field is set. -/
theorem PatchValue.mem_item {α : Type} (name : String) (toPayload : α → PayloadValue)
    (v : PatchValue α) (field : String) :
    field ∈ (v.item name toPayload).map Prod.fst ↔ field = name ∧ v.isSet = true := by
  cases v with
  | unset => simp [PatchValue.item, PatchValue.isSet]
  | set value => simp [PatchValue.item, PatchValue.isSet]

/-- `patch_to_dict(patch)`. -/
def ConnectionPatch.toDict (patch : ConnectionPatch) : Dict PayloadValue :=
  patch.name.item "name" (fun v => .json (Json.ofStr? v)) ++
    patch.driver.item "driver" (fun v => .json (Json.ofStr? v)) ++
    patch.driverOptions.item "driver_options" DriverOptions.toPayload ++
    patch.properties.item "properties" (fun v => .json (Json.ofObj? v)) ++
    patch.secrets.item "secrets" (fun v => .json (Json.ofObj? v)) ++
    patch.labels.item "labels" (fun v => .json (labelsJson v)) ++
    patch.metadata.item "metadata" (fun v => .json (Json.ofObj? v)) ++
    patch.extra.item "extra" PayloadValue.json

/-- `patch_fields_set(patch)`. -/
def ConnectionPatch.fieldsSet (patch : ConnectionPatch) : List String := patch.toDict.map Prod.fst

/-- `_payload_with_extra`. -/
def payloadWithExtra (payload : Dict PayloadValue) : Dict PayloadValue :=
  match payload.lookup "extra" with
  | some (.json (.obj extra)) =>
    -- The extension fields stand over fields of the draft of the same name.
    (payload.pop "extra").update (extra.map fun item => (item.1, .json item.2))
  -- `None` becomes `{}`, and a value that is no dictionary is dropped.
  | _ => payload.pop "extra"

/-- `_raise_repair_required_error`. -/
def repairRequiredError : PyError :=
  .validationFailed ("Stored connection secrets cannot be read. " ++
      "Provide a replacement 'secrets' payload to repair the connection.")
    [("repair_required", .arr [.str "secrets"])]

/-- `_ensure_readable_secrets`. -/
def ensureReadableSecrets (record : ConnectionRecord) : Except PyError Unit :=
  if record.hasReadIssue "unreadable_secrets" "secrets" then .error repairRequiredError else .ok ()

/-- `_ensure_patch_can_replace_unreadable_secrets`. -/
def ensurePatchCanReplaceUnreadableSecrets (record : ConnectionRecord) (patch : ConnectionPatch) :
    Except PyError Unit :=
  if record.hasReadIssue "unreadable_secrets" "secrets" && !patch.secrets.isSet then
    .error repairRequiredError
  else .ok ()

/-- `_merge`. A `ConnectionPatch` has no kind or type, so its refusal of them does not arise. -/
def merge (existing : ConnectionRecord) (patch : ConnectionPatch) : ConnectionDraft where
  -- A field that the patch sets replaces the record's as a whole, dictionaries included.
  name := patch.name.getD (some existing.name)
  kind := existing.kind
  type := existing.type
  driver := patch.driver.getD existing.driver
  driverOptions := patch.driverOptions.getD (.ofOption existing.driverOptions)
  properties := patch.properties.getD (some existing.properties)
  secrets := patch.secrets.getD (some existing.secrets)
  labels := patch.labels.getD (some existing.labels)
  metadata := patch.metadata.getD (some existing.metadata)
  -- Nothing reads the patch's extra before validation takes `dict(extra)`.
  extra := patch.extraDict.getD (some existing.extra)

/-- `_to_persisted_draft`. Validation has seen that the labels, the metadata and the extra are
there. -/
def toPersistedDraft (source : ConnectionDraft) (validated : ValidatedConnection) :
    ConnectionDraft where
  name := source.name
  kind := source.kind
  type := source.type
  -- The driver is stored as the source has it, not the effective one of the validation.
  driver := source.driver
  driverOptions := .ofOption validated.driverOptions
  properties := some validated.properties.dumpJson
  secrets := some ((validated.secrets.map Instance.dumpJson).getD [])
  labels := source.labels
  metadata := source.metadata
  extra := source.extra

namespace ConnectionService

variable {C : Type} (svc : ConnectionService C) (env : CallEnv) (actor : Json)

/-- `_use_uow` without a unit of work given: the method commits at its end. -/
def owned {α : Type} (body : Txn C α) : Txn C α := do
  let result ← body
  Prog.commit (.pure ())
  return result

/-- The part of `create` before its transaction: the resolved draft and its validation. -/
def prepareCreate (payload : ConnectionDraft) :
    Except PyError (ConnectionDraft × ValidatedConnection) := do
  let resolved ← svc.ownershipResolver.resolveCreate
    ⟨actor, "create", none, some (payloadWithExtra payload.asdict)⟩ payload
  -- The policy sees the draft after the resolver.
  svc.accessPolicy.canCreate ⟨actor, "create", none, some (payloadWithExtra resolved.asdict)⟩
    resolved
  let validated ← validate svc.registry resolved
  return (resolved, validated)

/-- The limit check of `create`. -/
def checkLimit : Txn C Unit :=
  match svc.maxConnections with
  | none => .pure ()
  | some limit => do
    -- The rows are counted unlocked, by a SELECT of all active ones.
    let active ← Repository.list svc.storage ConnectionListQuery.all
    if limit ≤ active.length then .throw (.connectionLimitExceeded limit) else .pure ()

/-- `create` in a unit of work it is given. -/
def createIn (payload : ConnectionDraft) : Txn C ConnectionRecord := do
  let (resolved, validated) ← Prog.ofExcept (svc.prepareCreate actor payload)
  svc.checkLimit
  Repository.create svc.storage env (toPersistedDraft resolved validated)

/-- `create`. -/
def create (payload : ConnectionDraft) : Txn C ConnectionRecord :=
  owned (svc.createIn env actor payload)

/-- `list`. -/
def list (query : ConnectionListQuery) : Txn C (List ConnectionRecord) := do
  let scopedQuery ← Prog.ofExcept (svc.accessPolicy.scopeList ⟨actor, "list", none, none⟩ query)
  Repository.list svc.storage scopedQuery

/-- The part of `get` after its SELECT. -/
def admitGet (connectionId : String) (record : Option ConnectionRecord) :
    Except PyError ConnectionRecord :=
  match record with
  | none => .error (.connectionNotFound connectionId)
  | some record =>
    if record.deletedAt.isSome then .error (.connectionNotFound connectionId)
    else do
      svc.accessPolicy.canGetOne ⟨actor, "get", some connectionId, none⟩ record
      return record

/-- `get`. -/
def get (connectionId : String) : Txn C ConnectionRecord := do
  let record ← Repository.get svc.storage connectionId
  Prog.ofExcept (svc.admitGet actor connectionId record)

/-- The part of `update` between its `get` and its `replace`: the merged draft and its
validation. -/
def prepareUpdate (connectionId : String) (patch : ConnectionPatch) (existing : ConnectionRecord) :
    Except PyError (ConnectionDraft × ValidatedConnection) := do
  let resolved ← svc.ownershipResolver.resolvePatch
    ⟨actor, "update", some connectionId, some (payloadWithExtra patch.toDict)⟩ existing patch
  svc.accessPolicy.canUpdate
    ⟨actor, "update", some connectionId, some (payloadWithExtra resolved.toDict)⟩ existing resolved
  ensurePatchCanReplaceUnreadableSecrets existing resolved
  let merged := merge existing resolved
  let validated ← validate svc.registry merged
  return (merged, validated)

/-- `update` in a unit of work it is given. -/
def updateIn (connectionId : String) (patch : ConnectionPatch) : Txn C ConnectionRecord := do
  -- `get` runs in the unit of work of the update, so its SELECT is the first of the transaction.
  let existing ← svc.get actor connectionId
  let (merged, validated) ← Prog.ofExcept (svc.prepareUpdate actor connectionId patch existing)
  match ← Repository.replace svc.storage env connectionId (toPersistedDraft merged validated) with
  | none => .throw (.connectionNotFound connectionId)
  | some updated => return updated

/-- `update`. -/
def update (connectionId : String) (patch : ConnectionPatch) : Txn C ConnectionRecord :=
  owned (svc.updateIn env actor connectionId patch)

/-- The check of `delete` on the record it got. -/
def admitDelete (connectionId : String) (existing : ConnectionRecord) : Except PyError Unit :=
  svc.accessPolicy.canDelete ⟨actor, "delete", some connectionId, none⟩ existing

/-- `delete` in a unit of work it is given. -/
def deleteIn (connectionId : String) : Txn C ConnectionRecord := do
  let existing ← svc.get actor connectionId
  Prog.ofExcept (svc.admitDelete actor connectionId existing)
  match ← Repository.delete svc.storage env connectionId with
  | none => .throw (.connectionNotFound connectionId)
  | some deleted => return deleted

/-- `delete`. -/
def delete (connectionId : String) : Txn C ConnectionRecord :=
  owned (svc.deleteIn env actor connectionId)

/-- `_get_connector(type).check(validated)`. -/
def checkValidated (validated : ValidatedConnection) : Except PyError ConnectorCall := do
  let spec ← svc.registry.getType validated.type
  match spec.connectorFactory with
  | none => .error (.validationFailed
      s!"Connector is not configured for '{validated.type}'." [])
  | some connector => return ⟨connector, validated⟩

/-- `check_payload`. -/
def checkPayload (payload : ConnectionDraft) : Except PyError ConnectorCall := do
  let resolved ← svc.ownershipResolver.resolveCreate
    ⟨actor, "check_payload", none, some (payloadWithExtra payload.asdict)⟩ payload
  -- Neither the policy nor the limit is asked.
  let validated ← validate svc.registry resolved
  svc.checkValidated validated

/-- The part of `check_stored` after its `get`. -/
def checkRecord (connectionId : String) (patch : Option ConnectionPatch)
    (record : ConnectionRecord) : Except PyError ConnectorCall := do
  match patch with
  | none =>
    -- The stored connection as it is: its secrets must be readable.
    ensureReadableSecrets record
    let validated ← validate svc.registry record.toDraft
    svc.checkValidated validated
  | some patch =>
    let resolved ← svc.ownershipResolver.resolvePatch
      ⟨actor, "check_stored", some connectionId, some (payloadWithExtra patch.toDict)⟩ record patch
    -- With a patch they need only be replaced.
    ensurePatchCanReplaceUnreadableSecrets record resolved
    let validated ← validate svc.registry (merge record resolved)
    svc.checkValidated validated

/-- `check_stored`. -/
def checkStored (connectionId : String) (patch : Option ConnectionPatch) :
    Txn C ConnectorCall := do
  let record ← svc.get actor connectionId
  Prog.ofExcept (svc.checkRecord actor connectionId patch record)

end ConnectionService
end DbConnection
