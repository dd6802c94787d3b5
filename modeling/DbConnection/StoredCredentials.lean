import DbConnection.Classification
import DbConnection.Lifecycle

/-!
# The credentials a connector runs with

`check_stored` without new secrets and `get_client` hand a connector what the mapper read of a row.
The mapper reads secrets that do not decrypt, and secrets that decrypt to something else than a
dictionary, as the empty dictionary, each with an issue of its own code. The guards of the service
ask for the first code only. So a row of the second kind reaches its connector, without its secrets,
wherever the rest of the draft is accepted with none: `usesStored_iff` says that these are the only
calls in which a connector runs with other credentials than the stored ones.
-/

namespace DbConnection

open PyData Pydantic ReadCommitted

/-- `get_client` on a record, as the call of the connector's `get_client`. -/
def ConnectionService.getClient {C : Type} (svc : ConnectionService C)
    (record : ConnectionRecord) : Except PyError ConnectorCall := do
  ensureReadableSecrets record
  let validated ← validate svc.registry record.toDraft
  svc.checkValidated validated

section Credentials

variable {C : Type}

/-- If a connector is called, then with the secrets that the row's ciphertext decrypts to, as the
type's secrets model reads them. -/
def UsesStored (svc : ConnectionService C) (row : Row C) (result : Except PyError ConnectorCall) :
    Prop :=
  ∀ call, result = .ok call → ∃ spec items, svc.registry.getType row.type = .ok spec ∧
    svc.storage.encryption.decrypt row.secretsCiphertext = .ok (.obj items) ∧
    SecretsRead spec (.obj items) call.connection.secrets

/-- The row's ciphertext decrypts to a value that is not a dictionary. -/
def DecryptsToOther (storage : Storage C) (row : Row C) : Prop :=
  ∃ value, storage.encryption.decrypt row.secretsCiphertext = .ok value ∧ value.obj? = none

/-- The draft with empty secrets is valid, and its type has a connector. -/
def AcceptsWithoutSecrets (svc : ConnectionService C) (draft : ConnectionDraft) : Prop :=
  ∃ v call, validate svc.registry { draft with secrets := some [] } = .ok v ∧
    svc.checkValidated v = .ok call

variable {svc : ConnectionService C} {actor : Json} {connectionId : String}
  {store : List (Row C)} {row : Row C}

/-- A row has a read issue of a code in its secrets exactly if the decoder found that issue. -/
theorem hasReadIssue_secrets (storage : Storage C) (row : Row C) (code : String) :
    (toRecord storage row).hasReadIssue code "secrets" = true ↔
      ∃ issue, (decodeSecrets storage.encryption row.secretsCiphertext).issue = some issue ∧
        issue.code = code := by
  unfold ConnectionRecord.hasReadIssue
  simp only [List.any_eq_true, Bool.and_eq_true, beq_iff_eq]
  constructor
  · rintro ⟨issue, hmem, hcode, hfield⟩
    refine ⟨issue, issue_of_mem_readIssues storage row hmem ?_, hcode⟩
    rw [hfield]
    simp [columnIssues]
  · rintro ⟨issue, hissue, hcode⟩
    refine ⟨issue, ?_, hcode, decodeSecrets_issue_field hissue⟩
    rw [readIssues_eq]
    exact List.mem_filterMap.mpr ⟨("secrets", some issue), by simp [columnIssues, hissue], rfl⟩

/-- How the secrets of a row are read: not at all, as the dictionary they are, or as empty. -/
theorem secrets_cases (storage : Storage C) (row : Row C) :
    (∃ text, storage.encryption.decrypt row.secretsCiphertext = .error text ∧
        (toRecord storage row).hasReadIssue "unreadable_secrets" "secrets" = true) ∨
      (∃ items, storage.encryption.decrypt row.secretsCiphertext = .ok (.obj items) ∧
        (toRecord storage row).secrets = items) ∨
      DecryptsToOther storage row ∧ (toRecord storage row).secrets = [] ∧
        (toRecord storage row).hasReadIssue "unreadable_secrets" "secrets" = false := by
  have hsecrets : (toRecord storage row).secrets =
      (decodeSecrets storage.encryption row.secretsCiphertext).value := rfl
  rw [hsecrets, ← Bool.not_eq_true, hasReadIssue_secrets]
  unfold DecryptsToOther decodeSecrets
  cases hd : storage.encryption.decrypt row.secretsCiphertext with
  | error text => exact .inl ⟨text, rfl, _, rfl, rfl⟩
  | ok value =>
    right
    cases value with
    | obj items => exact .inl ⟨items, rfl, rfl⟩
    | _ => exact .inr ⟨⟨_, rfl, rfl⟩, rfl, by simp⟩

/-- What reaches the connector of a record that the guard let pass: the secrets that were read. -/
theorem secretsRead_of_reaches {draft : ConnectionDraft} {call : ConnectorCall}
    (h : (validate svc.registry draft >>= svc.checkValidated) = .ok call) :
    ∃ spec, svc.registry.getType draft.type = .ok spec ∧
      SecretsRead spec (Json.ofObj? draft.secrets) call.connection.secrets := by
  obtain ⟨v, hv, hcall⟩ := bind_eq_ok_iff.mp h
  obtain ⟨spec, hvalid⟩ := validate_eq_ok_iff.mp hv
  unfold ConnectionService.checkValidated at hcall
  obtain ⟨spec', -, hcall⟩ := bind_eq_ok_iff.mp hcall
  cases hc : spec'.connectorFactory with
  | none => simp [hc] at hcall
  | some connector =>
    simp only [hc, pure, Except.pure, Except.ok.injEq] at hcall
    subst hcall
    exact ⟨spec, hvalid.type, hvalid.secrets⟩

/-- A draft with the row's type and the secrets read of the row is handed to the connector with the
stored secrets unless these are of another form and the draft is accepted without any. -/
theorem usesStored_draft_iff {draft : ConnectionDraft} (htype : draft.type = row.type)
    (hsecrets : draft.secrets = some (toRecord svc.storage row).secrets)
    (hread : (toRecord svc.storage row).hasReadIssue "unreadable_secrets" "secrets" = false) :
    UsesStored svc row (validate svc.registry draft >>= svc.checkValidated) ↔
      (DecryptsToOther svc.storage row → ¬ AcceptsWithoutSecrets svc draft) := by
  rcases secrets_cases svc.storage row with ⟨text, -, h⟩ | ⟨items, hd, hs⟩ | ⟨hother, hs, -⟩
  · rw [hread] at h
    cases h
  · -- The ciphertext holds a dictionary, which is what the models read.
    have hnot : ¬ DecryptsToOther svc.storage row := by
      rintro ⟨value, hvalue, hobj⟩
      rw [hd] at hvalue
      cases hvalue
      cases hobj
    refine ⟨fun _ h => absurd h hnot, fun _ call hcall => ?_⟩
    obtain ⟨spec, hspec, hsecretsRead⟩ := secretsRead_of_reaches hcall
    rw [htype] at hspec
    rw [hsecrets, hs] at hsecretsRead
    exact ⟨spec, items, hspec, hd, hsecretsRead⟩
  · -- It holds something else, so no call that reaches the connector has the stored secrets.
    have hdraft : { draft with secrets := some [] } = draft := by
      rw [← hs, ← hsecrets]
    constructor
    · rintro h - ⟨v, call, hv, hcall⟩
      rw [hdraft] at hv
      obtain ⟨spec, items, -, hd, -⟩ := h call (bind_eq_ok_iff.mpr ⟨v, hv, hcall⟩)
      obtain ⟨value, hvalue, hobj⟩ := hother
      rw [hd] at hvalue
      cases hvalue
      cases hobj
    · intro h call hcall
      obtain ⟨v, hv, hcall⟩ := bind_eq_ok_iff.mp hcall
      exact absurd ⟨v, call, by rw [hdraft]; exact hv, hcall⟩ (h hother)

/-- What the guards of the three paths do to a draft that has the row's secrets. -/
def guarded (svc : ConnectionService C) (record : ConnectionRecord) (draft : ConnectionDraft) :
    Except PyError ConnectorCall :=
  ensureReadableSecrets record >>= fun _ => validate svc.registry draft >>= svc.checkValidated

/-- Behind the guard a draft that has the row's secrets is handed to the connector with the stored
ones unless these are of another form and the draft is accepted without any. -/
theorem usesStored_guarded_iff {draft : ConnectionDraft} (htype : draft.type = row.type)
    (hsecrets : draft.secrets = some (toRecord svc.storage row).secrets) :
    UsesStored svc row (guarded svc (toRecord svc.storage row) draft) ↔
      (DecryptsToOther svc.storage row → ¬ AcceptsWithoutSecrets svc draft) := by
  unfold guarded ensureReadableSecrets
  cases hread : (toRecord svc.storage row).hasReadIssue "unreadable_secrets" "secrets" with
  | true =>
    -- The guard refuses the row, whose ciphertext does not decrypt.
    refine ⟨fun _ ⟨value, hvalue, hobj⟩ => ?_, fun _ call hcall => by cases hcall⟩
    rcases secrets_cases svc.storage row with ⟨text, hd, -⟩ | ⟨items, hd, -⟩ | ⟨-, -, h⟩
    · rw [hd] at hvalue
      cases hvalue
    · rw [hd] at hvalue
      cases hvalue
      cases hobj
    · rw [hread] at h
      cases h
  | false => exact usesStored_draft_iff htype hsecrets hread

/-- The guard refuses a row whose ciphertext does not decrypt. -/
theorem guarded_of_decrypt_error {text : String} (draft : ConnectionDraft)
    (hd : svc.storage.encryption.decrypt row.secretsCiphertext = .error text) :
    guarded svc (toRecord svc.storage row) draft = .error repairRequiredError := by
  have hread : (toRecord svc.storage row).hasReadIssue "unreadable_secrets" "secrets" = true := by
    rw [hasReadIssue_secrets]
    unfold decodeSecrets
    rw [hd]
    exact ⟨_, rfl, rfl⟩
  unfold guarded ensureReadableSecrets
  rw [hread]
  rfl

/-- `check_stored` without a patch guards the record itself. -/
theorem checkRecord_none (record : ConnectionRecord) :
    svc.checkRecord actor connectionId none record = guarded svc record record.toDraft := rfl

/-- `check_stored` with a patch that leaves the secrets out guards the merge. -/
theorem checkRecord_some {patch resolved : ConnectionPatch} {record : ConnectionRecord}
    (hr : svc.ownershipResolver.resolvePatch
      ⟨actor, "check_stored", some connectionId, some (payloadWithExtra patch.toDict)⟩ record patch =
        .ok resolved)
    (hunset : resolved.secrets = .unset) :
    svc.checkRecord actor connectionId (some patch) record =
      guarded svc record (merge record resolved) := by
  unfold ConnectionService.checkRecord guarded ensureReadableSecrets
    ensurePatchCanReplaceUnreadableSecrets
  simp only [hr, ok_bind, hunset, PatchValue.isSet, Bool.not_false, Bool.and_true]

/-- A call that follows another has the stored secrets if it has them after every result of the
other. -/
theorem usesStored_bind_iff {α : Type} {x : Except PyError α} {f : α → Except PyError ConnectorCall} :
    UsesStored svc row (x >>= f) ↔ ∀ a, x = .ok a → UsesStored svc row (f a) := by
  constructor
  · rintro h a rfl
    exact h
  · intro h call hcall
    obtain ⟨a, hx, hf⟩ := bind_eq_ok_iff.mp hcall
    exact h a hx call hf

/-- `check_stored` with a patch that leaves the secrets out has the stored secrets if the guarded
merges have them. -/
theorem usesStored_checkRecord_some_iff {patch : ConnectionPatch} {record : ConnectionRecord}
    (hunset : ∀ resolved, svc.ownershipResolver.resolvePatch
      ⟨actor, "check_stored", some connectionId, some (payloadWithExtra patch.toDict)⟩ record patch =
        .ok resolved → resolved.secrets = .unset) :
    UsesStored svc row (svc.checkRecord actor connectionId (some patch) record) ↔
      ∀ resolved, svc.ownershipResolver.resolvePatch
        ⟨actor, "check_stored", some connectionId, some (payloadWithExtra patch.toDict)⟩ record
          patch = .ok resolved → UsesStored svc row (guarded svc record (merge record resolved)) := by
  have hbind : svc.checkRecord actor connectionId (some patch) record =
      svc.ownershipResolver.resolvePatch
        ⟨actor, "check_stored", some connectionId, some (payloadWithExtra patch.toDict)⟩ record
          patch >>= fun resolved => guarded svc record (merge record resolved) := by
    cases hr : svc.ownershipResolver.resolvePatch
        ⟨actor, "check_stored", some connectionId, some (payloadWithExtra patch.toDict)⟩ record
          patch with
    | error e =>
      simp only [ConnectionService.checkRecord, hr]
      rfl
    | ok resolved => exact checkRecord_some hr (hunset resolved hr)
  rw [hbind, usesStored_bind_iff]

end Credentials

/-- The connector that `check_stored` without a patch, `check_stored` with a patch that leaves the
secrets out, or `get_client` reaches runs with the stored secrets, exactly unless the row's
ciphertext decrypts to something else than a dictionary and everything but the secrets is accepted.
A row whose ciphertext does not decrypt is refused as in need of repair. -/
theorem usesStored_iff {C : Type} (svc : ConnectionService C) (actor : Json)
    (connectionId : String) (store : List (Row C)) (row : Row C)
    (hf : find connectionId store = some row) :
    (UsesStored svc row ((svc.checkStored actor connectionId none).run store).1 ↔
      (DecryptsToOther svc.storage row → ∀ record,
        svc.admitGet actor connectionId (some (toRecord svc.storage row)) = .ok record →
          ¬ AcceptsWithoutSecrets svc record.toDraft)) ∧
      (∀ patch, (∀ record resolved, svc.ownershipResolver.resolvePatch
          ⟨actor, "check_stored", some connectionId, some (payloadWithExtra patch.toDict)⟩ record
            patch = .ok resolved → resolved.secrets = .unset) →
        (UsesStored svc row ((svc.checkStored actor connectionId (some patch)).run store).1 ↔
          (DecryptsToOther svc.storage row → ∀ record resolved,
            svc.admitGet actor connectionId (some (toRecord svc.storage row)) = .ok record →
            svc.ownershipResolver.resolvePatch
              ⟨actor, "check_stored", some connectionId, some (payloadWithExtra patch.toDict)⟩
              record patch = .ok resolved →
                ¬ AcceptsWithoutSecrets svc (merge record resolved)))) ∧
      (UsesStored svc row (svc.getClient (toRecord svc.storage row)) ↔
        (DecryptsToOther svc.storage row →
          ¬ AcceptsWithoutSecrets svc (toRecord svc.storage row).toDraft)) ∧
      ∀ text, svc.storage.encryption.decrypt row.secretsCiphertext = .error text →
        svc.getClient (toRecord svc.storage row) = .error repairRequiredError ∧
        (svc.admitGet actor connectionId (some (toRecord svc.storage row)) =
            .ok (toRecord svc.storage row) →
          (svc.checkStored actor connectionId none).run store =
            (.error repairRequiredError, store)) := by
  have hrun : ∀ patch, (svc.checkStored actor connectionId patch).run store =
      (svc.admitGet actor connectionId (some (toRecord svc.storage row)) >>=
        svc.checkRecord actor connectionId patch, store) := by
    intro patch
    rw [run_checkStored, hf]
  refine ⟨?_, fun patch hpatch => ?_, usesStored_guarded_iff rfl rfl, fun text hd => ?_⟩
  · rw [hrun, usesStored_bind_iff]
    constructor
    · intro h hother record hget
      obtain ⟨-, -, rfl⟩ := admitGet_eq_ok_iff.mp hget
      exact (usesStored_guarded_iff rfl rfl).mp (h _ hget) hother
    · intro h record hget
      obtain ⟨-, -, rfl⟩ := admitGet_eq_ok_iff.mp hget
      exact (usesStored_guarded_iff rfl rfl).mpr fun hother => h hother _ hget
  · -- The merge has the row's type and its secrets.
    have hguarded : ∀ resolved : ConnectionPatch, resolved.secrets = .unset →
        (UsesStored svc row (guarded svc (toRecord svc.storage row)
            (merge (toRecord svc.storage row) resolved)) ↔
          (DecryptsToOther svc.storage row →
            ¬ AcceptsWithoutSecrets svc (merge (toRecord svc.storage row) resolved))) :=
      fun resolved hunset => usesStored_guarded_iff rfl (by simp [merge, hunset])
    rw [hrun, usesStored_bind_iff]
    constructor
    · intro h hother record resolved hget hr
      obtain ⟨-, -, rfl⟩ := admitGet_eq_ok_iff.mp hget
      have hresolved := (usesStored_checkRecord_some_iff (hpatch _)).mp (h _ hget) resolved hr
      exact (hguarded resolved (hpatch _ _ hr)).mp hresolved hother
    · intro h record hget
      obtain ⟨-, -, rfl⟩ := admitGet_eq_ok_iff.mp hget
      refine (usesStored_checkRecord_some_iff (hpatch _)).mpr fun resolved hr => ?_
      exact (hguarded resolved (hpatch _ _ hr)).mpr fun hother => h hother _ resolved hget hr
  · refine ⟨guarded_of_decrypt_error _ hd, fun hget => ?_⟩
    rw [hrun, hget, ok_bind, checkRecord_none, guarded_of_decrypt_error _ hd]

/-- A stored connection whose ciphertext holds a list. -/
def listSecretsRow : Row Json :=
  { bucketRow "a" with
    kind := "sql"
    type := "odbc"
    driverOptionsJson := (processBindParam (.ofOption ((odbcDriverOptions.validate
      (.obj [("driver_name", .str "ODBC Driver 18")])).toOption))).toOption.getD .null
    propertiesJson := Json.ofObj? (odbcDraft "main").properties
    secretsCiphertext := .arr [.str "secret"] }

/-- The same connection with a dictionary of secrets. -/
def objectSecretsRow : Row Json :=
  { listSecretsRow with secretsCiphertext := .obj [("password", .str "secret")] }

/-- The stored connection with its secrets is checked with them, also with other labels. -/
theorem usesStored_iff_odbc :
    UsesStored odbcService objectSecretsRow
        ((odbcService.checkStored .null "a" none).run [objectSecretsRow]).1 ∧
      UsesStored odbcService objectSecretsRow
        ((odbcService.checkStored .null "a" (some { ConnectionPatch.empty with
          labels := .set (some []) })).run [objectSecretsRow]).1 ∧
      ((odbcService.checkStored .null "a" none).run [objectSecretsRow]).1.isOk = true := by
  obtain ⟨hnone, hpatch, -, -⟩ := usesStored_iff odbcService .null "a" [objectSecretsRow]
    objectSecretsRow rfl
  have hobject : ¬ DecryptsToOther odbcService.storage objectSecretsRow := by
    rintro ⟨value, hvalue, hobj⟩
    cases hvalue
    cases hobj
  refine ⟨hnone.mpr fun h => absurd h hobject, ?_, by decide +kernel⟩
  refine (hpatch _ fun record resolved hr => ?_).mpr fun h => absurd h hobject
  cases hr
  rfl

/-- A stored connection whose ciphertext holds a list is checked without a password. -/
theorem check_runs_without_stored_secrets :
    ¬ UsesStored odbcService listSecretsRow
        ((odbcService.checkStored .null "a" none).run [listSecretsRow]).1 ∧
      ¬ UsesStored odbcService listSecretsRow
        (odbcService.getClient (toRecord odbcService.storage listSecretsRow)) := by
  have hsecrets : odbcService.storage.encryption.decrypt listSecretsRow.secretsCiphertext =
      .ok (.arr [.str "secret"]) := rfl
  -- Both calls reach the connector, whatever the secrets they reach it with.
  obtain ⟨call, hcall⟩ := exists_of_isOk (show ((odbcService.checkStored .null "a" none).run
    [listSecretsRow]).1.isOk = true by decide +kernel)
  obtain ⟨call', hcall'⟩ := exists_of_isOk (show (odbcService.getClient
    (toRecord odbcService.storage listSecretsRow)).isOk = true by decide +kernel)
  refine ⟨fun h => ?_, fun h => ?_⟩
  · obtain ⟨spec, items, -, hd, -⟩ := h call hcall
    rw [hsecrets] at hd
    cases hd
  · obtain ⟨spec, items, -, hd, -⟩ := h call' hcall'
    rw [hsecrets] at hd
    cases hd

end DbConnection
