import DbConnection.ConcurrentRows
import DbConnection.Lib.RowRefinement
import DbConnection.SecretIndependence

/-!
# The encrypted store as a store of secrets

Of a ciphertext the service sees what it decrypts to, and no more. So a service over a store of
ciphertexts refines the service over a store that holds the decrypted secrets themselves, or the
text of the exception that decrypting raised (`ConnectionService.clear`): whatever any calls do in
any order of their statements, they do there too, with the same answers (`encryption_transparent`).
What is proved of the one holds of the other, whichever provider encrypts.
-/

namespace DbConnection

open PyData Pydantic ReadCommitted

/-- The provider whose ciphertext is what decrypting gives. -/
def clearEncryption : EncryptionProvider (Except String Json) where
  encrypt _ payload := .ok payload
  decrypt := id

/-- The service over a store of decrypted secrets. -/
def ConnectionService.clear {C : Type} (svc : ConnectionService C) :
    ConnectionService (Except String Json) where
  maxConnections := svc.maxConnections
  registry := svc.registry
  storage := ⟨clearEncryption, svc.storage.importer, svc.storage.foldCase⟩
  accessPolicy := svc.accessPolicy
  ownershipResolver := svc.ownershipResolver

/-- The row with its secrets decrypted. -/
def Row.clear {C : Type} (encryption : EncryptionProvider C) (row : Row C) :
    Row (Except String Json) where
  id := row.id
  name := row.name
  kind := row.kind
  type := row.type
  driver := row.driver
  driverOptionsJson := row.driverOptionsJson
  propertiesJson := row.propertiesJson
  secretsCiphertext := encryption.decrypt row.secretsCiphertext
  labelsJson := row.labelsJson
  metadataJson := row.metadataJson
  extraJson := row.extraJson
  createdAt := row.createdAt
  updatedAt := row.updatedAt
  deletedAt := row.deletedAt

instance {C : Type} (encryption : EncryptionProvider C) :
    KeepsKeys (K := String) (Row.clear encryption) := ⟨fun _ => rfl⟩

section Refinement

variable {C : Type} (svc : ConnectionService C)

/-- The columns of a draft are the same, with the secrets themselves for their ciphertext. -/
theorem bindColumns_clear (henc : DecryptsOwn svc) (env : CallEnv) (draft : ConnectionDraft) :
    (∀ e, Repository.bindColumns svc.storage env draft = .error e →
      Repository.bindColumns svc.clear.storage env draft = .error e) ∧
    ∀ columns, Repository.bindColumns svc.storage env draft = .ok columns → ∃ columns',
      Repository.bindColumns svc.clear.storage env draft = .ok columns' ∧
      (Repository.newRow env columns).clear svc.storage.encryption =
        Repository.newRow env columns' ∧
      ∀ row, (Repository.replacedRow env columns row).clear svc.storage.encryption =
        Repository.replacedRow env columns' (row.clear svc.storage.encryption) := by
  unfold Repository.bindColumns
  cases hp : processBindParam draft.driverOptions with
  | error e => simp
  | ok options =>
    cases hn : draft.name with
    | none => simp
    | some name =>
      refine ⟨by simp, fun columns h => ?_⟩
      simp only [Except.ok.injEq] at h
      subst h
      have hsecrets := henc env.nonce (Json.ofObj? draft.secrets)
      refine ⟨_, rfl, ?_, fun row => ?_⟩
      · simp [Row.clear, Repository.newRow, hsecrets, ConnectionService.clear, clearEncryption]
      · simp [Row.clear, Repository.replacedRow, hsecrets, ConnectionService.clear, clearEncryption]

variable (env : CallEnv) (actor : Json)

/-- The hooks of `get` see the same record. -/
theorem admitGet_clear (connectionId : String) (row : Option (Row C)) :
    svc.clear.admitGet actor connectionId
        ((row.map (Row.clear svc.storage.encryption)).map (toRecord svc.clear.storage)) =
      svc.admitGet actor connectionId (row.map (toRecord svc.storage)) := by
  rw [Option.map_map]
  rfl

/-- `get` over the decrypted rows. -/
theorem refines_get (connectionId : String) :
    (svc.get actor connectionId).Refines (Row.clear svc.storage.encryption)
      (svc.clear.get actor connectionId) := by
  refine ⟨fun _ => rfl, fun rows => ?_⟩
  simp only [Prog.bind, pure, List.head?_map, admitGet_clear]
  exact Prog.refines_ofExcept _

/-- `list` over the decrypted rows. -/
theorem refines_list (query : ConnectionListQuery) :
    (svc.list actor query).Refines (Row.clear svc.storage.encryption)
      (svc.clear.list actor query) := by
  refine Prog.Refines.bind (Prog.refines_ofExcept _) fun q => ⟨fun _ => rfl, fun rows => ?_⟩
  have hrecords : (rows.map (Row.clear svc.storage.encryption)).map (toRecord svc.clear.storage) =
      rows.map (toRecord svc.storage) := by
    rw [List.map_map]
    rfl
  dsimp only
  rw [hrecords]
  rfl

/-- The UPDATE of `replace` over the decrypted rows. -/
theorem replaceUpdate_clear (henc : DecryptsOwn svc) (draft : ConnectionDraft) (row : Row C) :
    ((Repository.replaceUpdate svc.storage env draft).apply row).map
        (Row.clear svc.storage.encryption) =
      (Repository.replaceUpdate svc.clear.storage env draft).apply
        (row.clear svc.storage.encryption) := by
  obtain ⟨herror, hok⟩ := bindColumns_clear svc henc env draft
  simp only [Repository.replaceUpdate]
  cases hb : Repository.bindColumns svc.storage env draft with
  | error e => simp [herror e hb, Except.map]
  | ok columns =>
    obtain ⟨columns', hb', -, hreplaced⟩ := hok columns hb
    simp [hb', Except.map, hreplaced row]

/-- `update` over the decrypted rows. -/
theorem refines_update (henc : DecryptsOwn svc) (connectionId : String) (patch : ConnectionPatch) :
    (svc.update env actor connectionId patch).Refines (Row.clear svc.storage.encryption)
      (svc.clear.update env actor connectionId patch) := by
  rw [svc.update_eq_rmw, svc.clear.update_eq_rmw]
  refine Rmw.Refines.prog ⟨rfl, fun row => ?_, rfl, rfl, fun _ => rfl⟩
  simp only [ConnectionService.updateRmw, admitGet_clear]
  -- The hooks, the merge and the validation are the same; what differs is the UPDATE.
  exact Decides.bind fun existing => Decides.bind fun prepared =>
    replaceUpdate_clear svc env henc (toPersistedDraft prepared.1 prepared.2)

/-- `delete` over the decrypted rows. -/
theorem refines_delete (connectionId : String) :
    (svc.delete env actor connectionId).Refines (Row.clear svc.storage.encryption)
      (svc.clear.delete env actor connectionId) := by
  rw [svc.delete_eq_rmw, svc.clear.delete_eq_rmw]
  refine Rmw.Refines.prog ⟨rfl, fun row => ?_, rfl, rfl, fun _ => rfl⟩
  simp only [ConnectionService.deleteRmw, admitGet_clear]
  exact Decides.bind fun existing => Decides.bind fun _ _ => rfl

/-- `create` of the repository over the decrypted rows. -/
theorem refines_repository_create (henc : DecryptsOwn svc) (draft : ConnectionDraft) :
    (Repository.create svc.storage env draft).Refines (Row.clear svc.storage.encryption)
      (Repository.create svc.clear.storage env draft) := by
  obtain ⟨herror, hok⟩ := bindColumns_clear svc henc env draft
  unfold Repository.create
  cases hb : Repository.bindColumns svc.storage env draft with
  | error e =>
    rw [herror e hb]
    rfl
  | ok columns =>
    obtain ⟨columns', hb', hnew, -⟩ := hok columns hb
    rw [hb']
    refine ⟨hnew, rfl, fun _ => rfl, fun rows => ?_⟩
    simp only [List.head?_map]
    cases rows.head? with
    | none => rfl
    | some row => rfl

/-- `create` over the decrypted rows. -/
theorem refines_create (henc : DecryptsOwn svc) (payload : ConnectionDraft) :
    (svc.create env actor payload).Refines (Row.clear svc.storage.encryption)
      (svc.clear.create env actor payload) := by
  have hlimit : svc.checkLimit.Refines (Row.clear svc.storage.encryption)
      svc.clear.checkLimit := by
    unfold ConnectionService.checkLimit
    have hmax : svc.clear.maxConnections = svc.maxConnections := rfl
    rw [hmax]
    cases svc.maxConnections with
    | none => rfl
    | some limit =>
      refine ⟨fun _ => rfl, fun rows => ?_⟩
      have hrecords : (rows.map (Row.clear svc.storage.encryption)).map
          (toRecord svc.clear.storage) = rows.map (toRecord svc.storage) := by
        rw [List.map_map]
        rfl
      simp only [Prog.bind, hrecords]
      split <;> rfl
  refine Prog.Refines.bind (Prog.Refines.bind (Prog.refines_ofExcept _) fun prepared => ?_)
    fun _ => rfl
  exact hlimit.bind fun _ => refines_repository_create svc env henc _

/-- `check_stored` over the decrypted rows. -/
theorem refines_checkStored (connectionId : String) (patch : Option ConnectionPatch) :
    (svc.checkStored actor connectionId patch).Refines (Row.clear svc.storage.encryption)
      (svc.clear.checkStored actor connectionId patch) :=
  (refines_get svc actor connectionId).bind fun _ => Prog.refines_ofExcept _

/-- A call over the decrypted rows. -/
theorem refines_call (henc : DecryptsOwn svc) (inv : Invocation) :
    (inv.prog svc).Refines (Row.clear svc.storage.encryption) (inv.prog svc.clear) := by
  obtain ⟨call, actor, env⟩ := inv
  unfold Invocation.prog
  cases call with
  | create payload => exact (refines_create svc env actor henc payload).bind fun _ => rfl
  | list query => exact (refines_list svc actor query).bind fun _ => rfl
  | get connectionId => exact (refines_get svc actor connectionId).bind fun _ => rfl
  | update connectionId patch =>
    exact (refines_update svc env actor henc connectionId patch).bind fun _ => rfl
  | delete connectionId => exact (refines_delete svc env actor connectionId).bind fun _ => rfl
  | checkPayload payload => exact (Prog.refines_ofExcept _).bind fun _ => rfl
  | checkStored connectionId patch =>
    exact (refines_checkStored svc actor connectionId patch).bind fun _ => rfl

end Refinement

/-- Whatever any calls do over a store of ciphertexts, in any order of their statements, they do
over the store of the decrypted secrets: the committed rows are the decrypted ones, the commits come
in the same order, and each call that ended answered the same. -/
theorem encryption_transparent {C ι : Type} [DecidableEq ι] (svc : ConnectionService C)
    (henc : DecryptsOwn svc) (calls : ι → Invocation) (store : List (Row C))
    (σ : Sys ι (Row C) PyError ServiceResult)
    (hr : Reaches (fun _ _ => True) (Sys.start store fun i => (calls i).prog svc) σ) :
    ∃ τ : Sys ι (Row (Except String Json)) PyError ServiceResult,
      Reaches (fun _ _ => True)
        (Sys.start (store.map (Row.clear svc.storage.encryption))
          fun i => (calls i).prog svc.clear) τ ∧
      τ.committed = σ.committed.map (Row.clear svc.storage.encryption) ∧ τ.log = σ.log ∧
      ∀ i, (τ.tx i).prog.outcome = (σ.tx i).prog.outcome := by
  obtain ⟨τ, hτ, hrefines⟩ := refines_of_reaches (fun i => refines_call svc henc (calls i)) hr
  exact ⟨τ, hτ, hrefines.committed, hrefines.log, fun i => (hrefines.prog i).outcome_eq⟩

/-- The default service with a provider whose ciphertext is the payload beside a nonce. -/
def noncedService : ConnectionService (Nat × Json) where
  maxConnections := none
  registry := defaultRegistry emptyHost
  storage := ⟨⟨Prod.mk, fun ciphertext => .ok ciphertext.2⟩, packageImporter, id⟩
  accessPolicy := allowAllAccessPolicy
  ownershipResolver := noOpOwnershipResolver

/-- Two creates whose statements alternate store the same secrets under a nonce and in clear. -/
theorem encryption_transparent_twoCreates :
    ∃ (σ : Sys Bool (Row (Nat × Json)) PyError ServiceResult)
      (τ : Sys Bool (Row (Except String Json)) PyError ServiceResult),
      activeCount σ.committed = 2 ∧
      τ.committed = σ.committed.map (Row.clear noncedService.storage.encryption) ∧
      ∀ i, (τ.tx i).prog.outcome = (σ.tx i).prog.outcome := by
  have hrun : ((runScheduleIf (fun _ _ => true)
        (Sys.start [] fun i => (twoCreates i).prog noncedService)
        [true, false, true, false, true, false]).map fun σ => activeCount σ.committed) = some 2 := by
    decide +kernel
  obtain ⟨σ, hr, hσ⟩ := exists_reaches_of_runScheduleIf (fun _ _ => True)
    (fun _ _ _ => trivial) hrun
  obtain ⟨τ, -, hcommitted, -, houtcome⟩ := encryption_transparent noncedService
    (fun _ _ => rfl) twoCreates [] σ hr
  exact ⟨σ, τ, hσ, hcommitted, houtcome⟩

end DbConnection
