import DbConnection.Lib.TwoRuns
import DbConnection.StoredCredentials
import DbConnection.UpdateFrame

/-!
# What stored secrets show

Two stores that are equal except for secrets that decrypt to dictionaries which the types accept
(`SameButSecrets`), and the same call on each. The record that a hook or the projector sees then
differs in its secrets only, and they ask these nothing but whether the type accepts them. An update
writes the dump of the secrets that the type read, so it leaves stores of this kind only where the
type accepts these dumps again, or where they are the same (`Rereads`). `secrets_not_shown` says
that the two runs then give the same answer, for one call and for runs of calls.
-/

namespace DbConnection

open PyData Pydantic ReadCommitted TwoRuns

/-- The secrets model of the type, if the type is registered and has one, accepts the secrets. -/
def TakesSecrets (registry : ConnectionRegistry) (type : String) (secrets : Dict Json) : Prop :=
  ∀ spec m, registry.getType type = .ok spec → spec.secretsModel = some m →
    ∃ v, m.validate (.obj secrets) = .ok v

/-- The ciphertext holds a dictionary that the type accepts as secrets. -/
def ReadableSecrets {C : Type} (svc : ConnectionService C) (type : String) (ciphertext : C) : Prop :=
  ∃ secrets, svc.storage.encryption.decrypt ciphertext = .ok (.obj secrets) ∧
    TakesSecrets svc.registry type secrets

/-- What two ciphertexts of secrets of the type hold: the same, or dictionaries that the type
accepts. -/
def SameSecrets {C : Type} (svc : ConnectionService C) (type : String) (ciphertext ciphertext' : C) :
    Prop :=
  svc.storage.encryption.decrypt ciphertext' = svc.storage.encryption.decrypt ciphertext ∨
    (ReadableSecrets svc type ciphertext ∧ ReadableSecrets svc type ciphertext')

/-- Two rows are equal except for the ciphertext of secrets that their type accepts. -/
inductive SameButSecrets {C : Type} (svc : ConnectionService C) (row : Row C) : Row C → Prop where
  | intro (ciphertext : C) (h : SameSecrets svc row.type row.secretsCiphertext ciphertext) :
      SameButSecrets svc row { row with secretsCiphertext := ciphertext }

/-- Two records are equal except for secrets that their type accepts. -/
inductive SameRecord (registry : ConnectionRegistry) (record : ConnectionRecord) :
    ConnectionRecord → Prop where
  | same : SameRecord registry record record
  | readable (secrets : Dict Json) (h : TakesSecrets registry record.type record.secrets)
      (h' : TakesSecrets registry record.type secrets) :
      SameRecord registry record { record with secrets := secrets }

/-- Two drafts are equal except for secrets that their type accepts. -/
inductive SameDraft (registry : ConnectionRegistry) (draft : ConnectionDraft) :
    ConnectionDraft → Prop where
  | same : SameDraft registry draft draft
  | readable {secrets : Dict Json} (secrets' : Dict Json) (hs : draft.secrets = some secrets)
      (h : TakesSecrets registry draft.type secrets)
      (h' : TakesSecrets registry draft.type secrets') :
      SameDraft registry draft { draft with secrets := some secrets' }

/-- The hooks do not read the secrets of a record. -/
structure IgnoresSecrets {C : Type} (svc : ConnectionService C) : Prop where
  canGetOne : ∀ context record secrets,
    svc.accessPolicy.canGetOne context { record with secrets := secrets } =
      svc.accessPolicy.canGetOne context record
  canUpdate : ∀ context record secrets patch,
    svc.accessPolicy.canUpdate context { record with secrets := secrets } patch =
      svc.accessPolicy.canUpdate context record patch
  canDelete : ∀ context record secrets,
    svc.accessPolicy.canDelete context { record with secrets := secrets } =
      svc.accessPolicy.canDelete context record
  resolvePatch : ∀ context record secrets patch,
    svc.ownershipResolver.resolvePatch context { record with secrets := secrets } patch =
      svc.ownershipResolver.resolvePatch context record patch

/-- What the type reads the two secrets as has the same dump, or dumps that the type accepts. -/
def Rereads (registry : ConnectionRegistry) (type : String) (secrets secrets' : Dict Json) : Prop :=
  ∀ spec m v v', registry.getType type = .ok spec → spec.secretsModel = some m →
    m.validate (.obj secrets) = .ok v → m.validate (.obj secrets') = .ok v' →
      v'.dumpJson = v.dumpJson ∨
        ((∃ w, m.validate (.obj v.dumpJson) = .ok w) ∧ ∃ w, m.validate (.obj v'.dumpJson) = .ok w)

section Rows

variable {C : Type} {svc : ConnectionService C} {row row' : Row C}
  {record record' : ConnectionRecord}

theorem SameButSecrets.refl (row : Row C) : SameButSecrets svc row row :=
  .intro row.secretsCiphertext (.inl rfl)

/-- Rows that are equal except for their secrets have the same id. -/
theorem SameButSecrets.key_eq (a b : Row C) (h : SameButSecrets svc a b) : key a = key b := by
  cases h
  rfl

/-- Their records are equal except for the secrets. -/
theorem SameButSecrets.toRecord (h : SameButSecrets svc row row') :
    SameRecord svc.registry (toRecord svc.storage row) (toRecord svc.storage row') := by
  obtain ⟨ciphertext, hsame | ⟨⟨secrets, hd, ha⟩, secrets', hd', ha'⟩⟩ := h
  · -- The same is decrypted, so the records are the same.
    have hrecord : DbConnection.toRecord svc.storage { row with secretsCiphertext := ciphertext } =
        DbConnection.toRecord svc.storage row := by
      unfold DbConnection.toRecord decodeSecrets
      rw [hsame]
    rw [hrecord]
    exact .same
  · have hread := decodeSecrets_of_decrypt hd
    have hread' := decodeSecrets_of_decrypt hd'
    have hsecrets : (DbConnection.toRecord svc.storage row).secrets = secrets := by
      unfold DbConnection.toRecord
      rw [hread]
    have hrecord : DbConnection.toRecord svc.storage { row with secretsCiphertext := ciphertext } =
        { DbConnection.toRecord svc.storage row with secrets := secrets' } := by
      unfold DbConnection.toRecord
      rw [hread, hread']
    rw [hrecord]
    exact .readable secrets' (by rw [hsecrets]; exact ha) ha'

/-- Secrets that the type accepts raise no issue. -/
theorem secretsIssue_of_takes {registry : ConnectionRegistry} {spec : TypeSpec}
    (hspec : registry.getType record.type = .ok spec)
    (h : TakesSecrets registry record.type record.secrets) :
    secretsIssue spec record = .ok none := by
  unfold secretsIssue
  cases hm : spec.secretsModel with
  | none => rfl
  | some m =>
    obtain ⟨v, hv⟩ := h spec m hspec hm
    dsimp only
    rw [hv]
    split <;> rfl

/-- Records that are equal except for their secrets have the same view. -/
theorem SameRecord.buildAny_eq {registry : ConnectionRegistry}
    (h : SameRecord registry record record') :
    buildAny registry record = buildAny registry record' := by
  cases h with
  | same => rfl
  | readable secrets h h' =>
    unfold buildAny
    cases hspec : registry.getType record.type with
    | error e => rfl
    | ok spec =>
      have hnone := secretsIssue_of_takes hspec h
      have hnone' : secretsIssue spec { record with secrets := secrets } = .ok none := by
        refine secretsIssue_of_takes ?_ h'
        exact hspec
      dsimp only
      rw [hnone, hnone']
      rfl

end Rows

/-! ## Parts of a call -/

section Parts

variable {C : Type} {svc : ConnectionService C} {record record' : ConnectionRecord}

/-- `get` lets both records through or refuses both with the same error. -/
theorem admitGet_rel (hhooks : IgnoresSecrets svc) (actor : Json) (connectionId : String)
    (h : SameRecord svc.registry record record') :
    ResultRel (fun a b => a = record ∧ b = record')
      (svc.admitGet actor connectionId (some record))
      (svc.admitGet actor connectionId (some record')) := by
  have hgot : ∀ r, ResultRel (fun a b => a = r ∧ b = r)
      (svc.admitGet actor connectionId (some r)) (svc.admitGet actor connectionId (some r)) :=
    fun r => .refl _ fun a ha => by
      have ha' := (admitGet_eq_ok_iff.mp ha).2.2
      exact ⟨ha', ha'⟩
  cases h with
  | same => exact hgot record
  | readable secrets h h' =>
    unfold ConnectionService.admitGet
    dsimp only
    by_cases hd : record.deletedAt.isSome = true
    · rw [if_pos hd, if_pos hd]
      exact .error _
    · rw [if_neg hd, if_neg hd, hhooks.canGetOne _ record secrets]
      exact .bind_same _ fun _ _ => .ok ⟨rfl, rfl⟩

/-- The payload of drafts that are equal except for secrets that the type accepts: the properties
are the same, and the secrets are written as the same or as dictionaries that the type accepts. -/
def SamePayload (registry : ConnectionRegistry) (type : String)
    (payload payload' : Instance × Option Instance) : Prop :=
  payload'.1 = payload.1 ∧
    ((payload'.2.map Instance.dumpJson).getD [] = (payload.2.map Instance.dumpJson).getD [] ∨
      (TakesSecrets registry type ((payload.2.map Instance.dumpJson).getD []) ∧
        TakesSecrets registry type ((payload'.2.map Instance.dumpJson).getD [])))

/-- Secrets that the type accepts do not decide whether the payload of a draft is accepted. -/
theorem validatePayload_rel {spec : TypeSpec} {draft : ConnectionDraft} {secrets secrets' : Dict Json}
    (hspec : svc.registry.getType draft.type = .ok spec) (hs : draft.secrets = some secrets)
    (h : TakesSecrets svc.registry draft.type secrets)
    (h' : TakesSecrets svc.registry draft.type secrets')
    (hdumps : Rereads svc.registry draft.type secrets secrets') :
    ResultRel (SamePayload svc.registry draft.type) (validatePayload spec draft)
      (validatePayload spec { draft with secrets := some secrets' }) := by
  -- Secrets that the model of the type accepts are secrets that the type takes.
  have htakes : ∀ m secrets, spec.secretsModel = some m → (∃ w, m.validate (.obj secrets) = .ok w) →
      TakesSecrets svc.registry draft.type secrets := by
    intro m secrets hm hw other m' hother hm'
    rw [hspec] at hother
    cases hother
    rw [hm] at hm'
    cases hm'
    exact hw
  unfold validatePayload
  refine .bind_same (spec.propertiesModel.validate (Json.ofObj? draft.properties)) fun p _ => ?_
  cases hm : spec.secretsModel with
  | none => exact .ok ⟨rfl, .inl rfl⟩
  | some m =>
    obtain ⟨v, hv⟩ := h spec m hspec hm
    obtain ⟨v', hv'⟩ := h' spec m hspec hm
    have hvalue : m.validate (Json.ofObj? draft.secrets) = .ok v := by
      rw [hs]
      exact hv
    have hvalue' : m.validate (Json.ofObj? (some secrets')) = .ok v' := hv'
    dsimp only
    rw [hvalue, hvalue', ok_bind, ok_bind]
    refine .ok ⟨rfl, (hdumps spec m v v' hspec hm hv hv').imp id ?_⟩
    rintro ⟨hw, hw'⟩
    exact ⟨htakes m _ hm hw, htakes m _ hm hw'⟩

/-- Wrapping the errors of related results leaves them related. -/
theorem wrapValidationError_rel {α β : Type} {Rel : α → β → Prop} {message : String}
    {x : Except ModelError α} {y : Except ModelError β} (h : ResultRel Rel x y) :
    ResultRel Rel (wrapValidationError message x) (wrapValidationError message y) := by
  cases h with
  | error e => exact .error _
  | ok hab => exact .ok hab

/-- Secrets that the type accepts do not decide whether a draft is accepted. -/
theorem validate_rel {draft : ConnectionDraft} {secrets secrets' : Dict Json}
    (hs : draft.secrets = some secrets) (h : TakesSecrets svc.registry draft.type secrets)
    (h' : TakesSecrets svc.registry draft.type secrets')
    (hdumps : Rereads svc.registry draft.type secrets secrets') :
    ResultRel (fun v v' => SameDraft svc.registry (toPersistedDraft draft v)
        (toPersistedDraft { draft with secrets := some secrets' } v'))
      (validate svc.registry draft)
      (validate svc.registry { draft with secrets := some secrets' }) := by
  unfold validate
  refine .bind_same (svc.registry.getType draft.type) fun spec hspec => ?_
  refine .bind_same (checkKind spec draft) fun _ _ => ?_
  refine .bind_same (checkDriver spec draft) fun _ _ => ?_
  have hpayload := validatePayload_rel hspec hs h h' hdumps
  refine (wrapValidationError_rel hpayload).bind fun payload payload' _ _ hp => ?_
  refine .bind_same (validateDriverOptions spec draft.type (effectiveDriver spec draft.driver)
    draft.driverOptions) fun options _ => ?_
  refine .bind_same (dictOf draft.labels) fun labels _ => ?_
  refine .bind_same (dictOf draft.metadata) fun metadata _ => ?_
  refine .bind_same (dictOf draft.extra) fun extra _ => .ok ?_
  obtain ⟨p, s⟩ := payload
  obtain ⟨p', s'⟩ := payload'
  obtain ⟨rfl, hdump | ⟨ha, ha'⟩⟩ := hp
  · have hdraft : toPersistedDraft { draft with secrets := some secrets' }
        { name := draft.name, kind := draft.kind, type := draft.type,
          driver := effectiveDriver spec draft.driver, driverOptions := options,
          properties := p', secrets := s', labels := labels, metadata := metadata,
          extra := extra } =
        toPersistedDraft draft
        { name := draft.name, kind := draft.kind, type := draft.type,
          driver := effectiveDriver spec draft.driver, driverOptions := options,
          properties := p', secrets := s, labels := labels, metadata := metadata,
          extra := extra } := by
      unfold toPersistedDraft
      dsimp only at hdump ⊢
      rw [hdump]
    dsimp only
    rw [hdraft]
    exact .same
  · exact .readable _ rfl ha ha'

/-- An update prepares drafts that are equal except for the secrets, or fails with the same error. -/
theorem prepareUpdate_rel (hhooks : IgnoresSecrets svc) (actor : Json) (connectionId : String)
    (patch : ConnectionPatch) (h : SameRecord svc.registry record record')
    (hdumps : Rereads svc.registry record.type record.secrets record'.secrets) :
    ResultRel (fun a b => SameDraft svc.registry (toPersistedDraft a.1 a.2)
        (toPersistedDraft b.1 b.2))
      (svc.prepareUpdate actor connectionId patch record)
      (svc.prepareUpdate actor connectionId patch record') := by
  cases h with
  | same => exact .refl _ fun _ _ => .same
  | readable secrets h h' =>
    unfold ConnectionService.prepareUpdate
    rw [hhooks.resolvePatch _ record secrets patch]
    refine .bind_same _ fun resolved _ => ?_
    rw [hhooks.canUpdate _ record secrets resolved]
    refine .bind_same _ fun _ _ => ?_
    refine .bind_same (ensurePatchCanReplaceUnreadableSecrets record resolved) fun _ _ => ?_
    cases hset : resolved.secrets with
    | set value =>
      -- The patch replaces the secrets, so the merged drafts are the same.
      have hmerge : merge { record with secrets := secrets } resolved = merge record resolved := by
        unfold merge
        rw [hset]
        rfl
      dsimp only
      rw [hmerge]
      exact .bind_same _ fun _ _ => .ok .same
    | unset =>
      have hmerge : merge { record with secrets := secrets } resolved =
          { merge record resolved with secrets := some secrets } := by
        unfold merge
        rw [hset]
        rfl
      have hsecrets : (merge record resolved).secrets = some record.secrets := by
        unfold merge
        rw [hset]
        rfl
      dsimp only
      rw [hmerge]
      refine (validate_rel hsecrets h h' hdumps).bind fun v v' _ _ hv => .ok hv

/-- The same environment with another randomness of the encryption. -/
def CallEnv.withNonce (env : CallEnv) (nonce : Nat) : CallEnv := { env with nonce := nonce }

/-- The encryption reads what it wrote. -/
def DecryptsOwn (svc : ConnectionService C) : Prop :=
  ∀ nonce value,
    svc.storage.encryption.decrypt (svc.storage.encryption.encrypt nonce value) = .ok value

/-- Columns that are equal except for the ciphertext of secrets that their type accepts. -/
inductive SameColumns (svc : ConnectionService C) (columns : Columns C) : Columns C → Prop where
  | intro (ciphertext : C)
      (h : SameSecrets svc columns.type columns.secretsCiphertext ciphertext) :
      SameColumns svc columns { columns with secretsCiphertext := ciphertext }

/-- Drafts that are equal except for their secrets are bound to columns that are. -/
theorem bindColumns_rel (henc : DecryptsOwn svc) (env : CallEnv) (nonce : Nat)
    {draft draft' : ConnectionDraft} (h : SameDraft svc.registry draft draft') :
    ResultRel (SameColumns svc) (Repository.bindColumns svc.storage env draft)
      (Repository.bindColumns svc.storage (env.withNonce nonce) draft') := by
  -- What is encrypted is decrypted again, whatever the randomness was.
  have hsecrets : SameSecrets svc draft.type
      (svc.storage.encryption.encrypt env.nonce (Json.ofObj? draft.secrets))
      (svc.storage.encryption.encrypt nonce (Json.ofObj? draft'.secrets)) := by
    cases h with
    | same => exact .inl (by rw [henc, henc])
    | readable secrets' hs h h' =>
      refine .inr ⟨⟨_, ?_, h⟩, secrets', henc _ _, h'⟩
      rw [henc, hs]
      rfl
  have hother : draft' = { draft with secrets := draft'.secrets } := by
    cases h <;> rfl
  rw [hother]
  unfold Repository.bindColumns
  dsimp only
  cases processBindParam draft.driverOptions with
  | error e => exact .error e
  | ok options =>
    cases draft.name with
    | none => exact .error _
    | some name => exact .ok (.intro _ hsecrets)

/-- Related columns give new rows that are equal except for their secrets. -/
theorem SameColumns.newRow {columns columns' : Columns C} (h : SameColumns svc columns columns')
    (env : CallEnv) (nonce : Nat) :
    SameButSecrets svc (Repository.newRow env columns)
      (Repository.newRow (env.withNonce nonce) columns') := by
  obtain ⟨ciphertext, h⟩ := h
  exact .intro ciphertext h

/-- Related columns written over related rows give rows that are equal except for their secrets. -/
theorem SameColumns.replacedRow {columns columns' : Columns C} {row row' : Row C}
    (h : SameColumns svc columns columns') (hrow : SameButSecrets svc row row') (env : CallEnv)
    (nonce : Nat) :
    SameButSecrets svc (Repository.replacedRow env columns row)
      (Repository.replacedRow (env.withNonce nonce) columns' row') := by
  obtain ⟨ciphertext, h⟩ := h
  obtain ⟨_, _⟩ := hrow
  exact .intro ciphertext h

/-- What `update` writes over rows that are equal except for their secrets. -/
theorem updatedRow_rel (hhooks : IgnoresSecrets svc) (henc : DecryptsOwn svc) (env : CallEnv)
    (nonce : Nat) (actor : Json) (connectionId : String) (patch : ConnectionPatch) {row row' : Row C}
    (h : SameButSecrets svc row row')
    (hdumps : Rereads svc.registry row.type (toRecord svc.storage row).secrets
      (toRecord svc.storage row').secrets) :
    ResultRel (SameButSecrets svc) (svc.updatedRow env actor connectionId patch row)
      (svc.updatedRow (env.withNonce nonce) actor connectionId patch row') := by
  have hrecord := h.toRecord
  unfold ConnectionService.updatedRow
  refine (admitGet_rel hhooks actor connectionId hrecord).bind fun a b _ _ hab => ?_
  obtain ⟨rfl, rfl⟩ := hab
  have hprepared := prepareUpdate_rel hhooks actor connectionId patch hrecord hdumps
  refine hprepared.bind fun p p' _ _ hp => ?_
  refine (bindColumns_rel henc env nonce hp).bind fun c c' _ _ hc => ?_
  exact .ok (hc.replacedRow h env nonce)

/-- What `delete` writes over rows that are equal except for their secrets. -/
theorem deletedRow_rel (hhooks : IgnoresSecrets svc) (env : CallEnv) (nonce : Nat) (actor : Json)
    (connectionId : String) {row row' : Row C} (h : SameButSecrets svc row row') :
    ResultRel (SameButSecrets svc) (svc.deletedRow env actor connectionId row)
      (svc.deletedRow (env.withNonce nonce) actor connectionId row') := by
  have hrecord := h.toRecord
  unfold ConnectionService.deletedRow
  refine (admitGet_rel hhooks actor connectionId hrecord).bind fun a b _ _ hab => ?_
  obtain ⟨rfl, rfl⟩ := hab
  have hcan : svc.admitDelete actor connectionId (toRecord svc.storage row') =
      svc.admitDelete actor connectionId (toRecord svc.storage row) := by
    unfold ConnectionService.admitDelete
    generalize toRecord svc.storage row' = record' at hrecord
    cases hrecord with
    | same => rfl
    | readable secrets => exact hhooks.canDelete _ _ secrets
  rw [hcan]
  refine .bind_same _ fun _ _ => .ok ?_
  obtain ⟨ciphertext, h⟩ := h
  exact .intro ciphertext h

end Parts

/-! ## Calls -/

section Calls

variable {C : Type} {svc : ConnectionService C} {store store' : List (Row C)}

/-- What a client is shown of what a call returns: the views of its records. -/
def ServiceResult.shown (registry : ConnectionRegistry) :
    ServiceResult → List (Except PyError ReadView)
  | .record r => [buildAny registry r]
  | .records rs => rs.map (buildAny registry)
  | .checked _ => []

/-- Two runs of a call show the same, and leave stores that are equal except for secrets. -/
structure SameRun (svc : ConnectionService C)
    (run run' : Except PyError ServiceResult × List (Row C)) : Prop where
  shown : run.1.map (ServiceResult.shown svc.registry) =
    run'.1.map (ServiceResult.shown svc.registry)
  stores : List.Forall₂ (SameButSecrets svc) run.2 run'.2

/-- The call with another randomness of the encryption. -/
def Invocation.withNonce (inv : Invocation) (nonce : Nat) : Invocation :=
  { inv with env := inv.env.withNonce nonce }

/-- A call that answers with a record and writes rows that are equal except for their secrets. -/
theorem sameRun_answer (connectionId : String) {written written' : Row C → Except PyError (Row C)}
    (hstores : List.Forall₂ (SameButSecrets svc) store store')
    (hwritten : ∀ row row', find connectionId store = some row →
      find connectionId store' = some row' → SameButSecrets svc row row' →
        ResultRel (SameButSecrets svc) (written row) (written' row')) :
    SameRun svc
      (((svc.answer connectionId store written).1.map ServiceResult.record,
        (svc.answer connectionId store written).2))
      (((svc.answer connectionId store' written').1.map ServiceResult.record,
        (svc.answer connectionId store' written').2)) := by
  have hfound := find_rel SameButSecrets.key_eq hstores connectionId
  unfold ConnectionService.answer
  cases hf : find connectionId store with
  | none =>
    rw [hf] at hfound
    cases hf' : find connectionId store' with
    | none => exact ⟨rfl, hstores⟩
    | some row' =>
      rw [hf'] at hfound
      cases hfound
  | some row =>
    rw [hf] at hfound
    cases hf' : find connectionId store' with
    | none =>
      rw [hf'] at hfound
      cases hfound
    | some row' =>
      rw [hf'] at hfound
      obtain ⟨hrow⟩ := hfound
      have hw := hwritten row row' hf hf' hrow
      dsimp only
      generalize written row = x at hw
      generalize written' row' = y at hw
      cases hw with
      | error e => exact ⟨rfl, hstores⟩
      | ok hnew =>
        refine ⟨?_, put_rel SameButSecrets.key_eq hstores hnew⟩
        have hview := hnew.toRecord.buildAny_eq
        show Except.ok [buildAny _ _] = Except.ok [buildAny _ _]
        rw [hview]

/-- The limit is reached in both stores or in neither. -/
theorem limitReached_eq (hstores : List.Forall₂ (SameButSecrets svc) store store') :
    svc.limitReached store' = svc.limitReached store := by
  have hactive : ∀ a b, SameButSecrets svc a b → Row.isActive a = Row.isActive b := by
    rintro a _ ⟨_, _⟩
    rfl
  unfold ConnectionService.limitReached activeCount
  rw [(filter_rel hactive hstores).length_eq]

/-- What `create` inserts into stores that are equal except for secrets. -/
theorem createdRow_rel (henc : DecryptsOwn svc) (env : CallEnv) (nonce : Nat) (actor : Json)
    (payload : ConnectionDraft) (hstores : List.Forall₂ (SameButSecrets svc) store store') :
    ResultRel (SameButSecrets svc) (svc.createdRow env actor store payload)
      (svc.createdRow (env.withNonce nonce) actor store' payload) := by
  have hfound : Option.Rel (SameButSecrets svc) (find env.uuid store)
      (find (env.withNonce nonce).uuid store') := find_rel SameButSecrets.key_eq hstores env.uuid
  unfold ConnectionService.createdRow
  refine .bind_same (svc.prepareCreate actor payload) fun prepared _ => ?_
  rw [limitReached_eq hstores]
  dsimp only
  cases svc.limitReached store with
  | some limit => exact .error _
  | none =>
    dsimp only
    rw [ok_bind, ok_bind]
    refine (bindColumns_rel henc env nonce .same).bind fun c c' _ _ hc => ?_
    generalize find env.uuid store = x at hfound
    generalize find (env.withNonce nonce).uuid store' = y at hfound
    cases hfound with
    | some _ => exact .error _
    | none => exact .ok (hc.newRow env nonce)

/-- `create` on stores that are equal except for secrets. -/
theorem sameRun_create (henc : DecryptsOwn svc) (env : CallEnv) (nonce : Nat) (actor : Json)
    (payload : ConnectionDraft) (hstores : List.Forall₂ (SameButSecrets svc) store store') :
    SameRun svc (((Invocation.mk (.create payload) actor env).prog svc).run store)
      (((Invocation.mk (.create payload) actor (env.withNonce nonce)).prog svc).run store') := by
  have hcreated := createdRow_rel henc env nonce actor payload hstores
  unfold Invocation.prog
  dsimp only
  rw [run_map, run_map, svc.run_create, svc.run_create]
  generalize svc.createdRow env actor store payload = x at hcreated
  generalize svc.createdRow (env.withNonce nonce) actor store' payload = y at hcreated
  cases hcreated with
  | error e => exact ⟨rfl, hstores⟩
  | ok hnew =>
    have hview := hnew.toRecord.buildAny_eq
    refine ⟨?_, put_rel SameButSecrets.key_eq hstores hnew⟩
    show Except.ok [buildAny _ _] = Except.ok [buildAny _ _]
    rw [hview]

/-- The records listed of stores that are equal except for secrets. -/
theorem listed_rel (query : ConnectionListQuery)
    (hstores : List.Forall₂ (SameButSecrets svc) store store') :
    List.Forall₂ (SameRecord svc.registry) (listed svc.storage query store)
      (listed svc.storage query store') := by
  have hstatement : ∀ a b, SameButSecrets svc a b →
      Repository.matchesStatement svc.storage query a =
        Repository.matchesStatement svc.storage query b := by
    rintro a _ ⟨_, _⟩
    rfl
  -- The filters read the labels, the metadata and the extra.
  have hfilters : ∀ a b, SameRecord svc.registry a b →
      Repository.matchesFilters a query = Repository.matchesFilters b query := by
    intro a b hab
    cases hab <;> rfl
  unfold listed
  refine filter_rel hfilters ?_
  rw [List.forall₂_map_left_iff, List.forall₂_map_right_iff]
  exact (filter_rel hstatement hstores).imp fun _ _ h => h.toRecord

/-- `list` on stores that are equal except for secrets. -/
theorem sameRun_list (env env' : CallEnv) (actor : Json) (query : ConnectionListQuery)
    (hstores : List.Forall₂ (SameButSecrets svc) store store') :
    SameRun svc (((Invocation.mk (.list query) actor env).prog svc).run store)
      (((Invocation.mk (.list query) actor env').prog svc).run store') := by
  unfold Invocation.prog
  dsimp only
  rw [run_map, run_map, run_list, run_list]
  cases svc.accessPolicy.scopeList ⟨actor, "list", none, none⟩ query with
  | error e => exact ⟨rfl, hstores⟩
  | ok scopedQuery =>
    refine ⟨?_, hstores⟩
    have hviews : (listed svc.storage scopedQuery store).map (buildAny svc.registry) =
        (listed svc.storage scopedQuery store').map (buildAny svc.registry) :=
      map_eq_map (listed_rel scopedQuery hstores) fun _ _ h => h.buildAny_eq
    show Except.ok (List.map _ _) = Except.ok (List.map _ _)
    rw [hviews]

/-- `get` on stores that are equal except for secrets. -/
theorem sameRun_get (hhooks : IgnoresSecrets svc) (env env' : CallEnv) (actor : Json)
    (connectionId : String) (hstores : List.Forall₂ (SameButSecrets svc) store store') :
    SameRun svc (((Invocation.mk (.get connectionId) actor env).prog svc).run store)
      (((Invocation.mk (.get connectionId) actor env').prog svc).run store') := by
  have hfound := find_rel SameButSecrets.key_eq hstores connectionId
  unfold Invocation.prog
  dsimp only
  rw [run_map, run_map, run_get, run_get]
  refine ⟨?_, hstores⟩
  generalize find connectionId store = x at hfound
  generalize find connectionId store' = y at hfound
  cases hfound with
  | none => rfl
  | @some row row' hrow =>
    have hget := admitGet_rel hhooks actor connectionId hrow.toRecord
    simp only [Option.map_some]
    generalize svc.admitGet actor connectionId (some (toRecord svc.storage row)) = r at hget ⊢
    generalize svc.admitGet actor connectionId (some (toRecord svc.storage row')) = r' at hget ⊢
    have hanswer : ResultRel (fun a b : ServiceResult => a.shown svc.registry = b.shown svc.registry)
        (r.map .record) (r'.map .record) := by
      refine hget.map ?_
      rintro _ _ ⟨rfl, rfl⟩
      show [buildAny _ _] = [buildAny _ _]
      rw [hrow.toRecord.buildAny_eq]
    exact hanswer.map_eq fun _ _ h => h

/-- The call checks a connection. -/
def ServiceCall.isCheck : ServiceCall → Bool
  | .checkPayload _ => true
  | .checkStored _ _ => true
  | _ => false

/-- If the call updates a connection, its type reads the secrets of its two rows as instances that
have the same dump, or dumps that the type accepts. -/
def UpdateRereads (svc : ConnectionService C) (call : ServiceCall) (store store' : List (Row C)) :
    Prop :=
  ∀ connectionId patch, call = .update connectionId patch →
    ∀ row row', find connectionId store = some row → find connectionId store' = some row' →
      Rereads svc.registry row.type (toRecord svc.storage row).secrets
        (toRecord svc.storage row').secrets

/-- A call on stores that are equal except for secrets shows the same, and leaves such stores. -/
theorem sameRun_step (hhooks : IgnoresSecrets svc) (henc : DecryptsOwn svc) (inv : Invocation)
    (nonce : Nat) (hcheck : inv.call.isCheck = false)
    (hstores : List.Forall₂ (SameButSecrets svc) store store')
    (hdumps : UpdateRereads svc inv.call store store') :
    SameRun svc ((inv.prog svc).run store) (((inv.withNonce nonce).prog svc).run store') := by
  obtain ⟨call, actor, env⟩ := inv
  cases call with
  | create payload => exact sameRun_create henc env nonce actor payload hstores
  | list query => exact sameRun_list env _ actor query hstores
  | get connectionId => exact sameRun_get hhooks env _ actor connectionId hstores
  | update connectionId patch =>
    unfold Invocation.prog Invocation.withNonce
    dsimp only
    rw [run_map, run_map, svc.run_update, svc.run_update]
    exact sameRun_answer connectionId hstores fun row row' hf hf' hrow =>
      updatedRow_rel hhooks henc env nonce actor connectionId patch hrow
        (hdumps connectionId patch rfl row row' hf hf')
  | delete connectionId =>
    unfold Invocation.prog Invocation.withNonce
    dsimp only
    rw [run_map, run_map, svc.run_delete, svc.run_delete]
    exact sameRun_answer connectionId hstores fun row row' _ _ hrow =>
      deletedRow_rel hhooks env nonce actor connectionId hrow
  | checkPayload payload => cases hcheck
  | checkStored connectionId patch => cases hcheck

/-- What a client is shown of calls run one after another. -/
def shownOf (svc : ConnectionService C) :
    List Invocation → List (Row C) → List (Except PyError (List (Except PyError ReadView)))
  | [], _ => []
  | inv :: calls, store =>
    ((inv.prog svc).run store).1.map (ServiceResult.shown svc.registry) ::
      shownOf svc calls ((inv.prog svc).run store).2

/-- The secrets models accept the dumps of what they read. -/
def AcceptsDumps (registry : ConnectionRegistry) : Prop :=
  ∀ type spec m payload v, registry.getType type = .ok spec → spec.secretsModel = some m →
    m.validate payload = .ok v → ∃ w, m.validate (.obj v.dumpJson) = .ok w

/-- Runs of calls on stores that are equal except for secrets show the same. -/
theorem shownOf_eq (hhooks : IgnoresSecrets svc) (henc : DecryptsOwn svc)
    (hmodels : AcceptsDumps svc.registry) {calls calls' : List Invocation}
    (hcalls : List.Forall₂ (fun inv inv' => inv.call.isCheck = false ∧
      ∃ nonce, inv' = inv.withNonce nonce) calls calls')
    (hstores : List.Forall₂ (SameButSecrets svc) store store') :
    shownOf svc calls store = shownOf svc calls' store' := by
  induction hcalls generalizing store store' with
  | nil => rfl
  | cons hinv _ ih =>
    obtain ⟨hcheck, nonce, rfl⟩ := hinv
    have hstep := sameRun_step hhooks henc _ nonce hcheck hstores
      fun _ _ _ row _ _ _ spec m v v' hspec hm hv hv' =>
        .inr ⟨hmodels row.type spec m _ v hspec hm hv, hmodels row.type spec m _ v' hspec hm hv'⟩
    unfold shownOf
    rw [hstep.shown, ih hstep.stores]

/-- Models that read their dumps back accept them. -/
theorem acceptsDumps_of_readsBack (hback : ReadsBack svc) : AcceptsDumps svc.registry := by
  intro type spec m payload v hspec hm hv
  exact ⟨v, hback.secrets spec (ConnectionRegistry.mem_types_of_getType hspec) m hm payload v hv⟩

end Calls

/-- Stored secrets that their types accept do not show. On two stores that are equal except for
them, a call that is no check answers with the same error or the same views, if an update finds
secrets whose dumps are the same or accepted; and so do runs of calls, if the secrets models accept
the dumps of what they read. -/
theorem secrets_not_shown {C : Type} (svc : ConnectionService C) (hhooks : IgnoresSecrets svc)
    (henc : DecryptsOwn svc) :
    (∀ (inv : Invocation) (nonce : Nat) (store store' : List (Row C)),
      inv.call.isCheck = false → List.Forall₂ (SameButSecrets svc) store store' →
        UpdateRereads svc inv.call store store' →
          ((inv.prog svc).run store).1.map (ServiceResult.shown svc.registry) =
            (((inv.withNonce nonce).prog svc).run store').1.map
              (ServiceResult.shown svc.registry)) ∧
    (AcceptsDumps svc.registry → ∀ (calls calls' : List Invocation) (store store' : List (Row C)),
      List.Forall₂ (fun inv inv' => inv.call.isCheck = false ∧
        ∃ nonce, inv' = inv.withNonce nonce) calls calls' →
      List.Forall₂ (SameButSecrets svc) store store' →
        shownOf svc calls store = shownOf svc calls' store') :=
  ⟨fun inv nonce _ _ hcheck hstores hdumps =>
    (sameRun_step hhooks henc inv nonce hcheck hstores hdumps).shown,
    fun hmodels _ _ _ _ hcalls hstores => shownOf_eq hhooks henc hmodels hcalls hstores⟩

/-- A call that renames a connection. -/
def renameCall : Invocation := ⟨.update "a" (nameOnly "archive"), .null, ⟨1, "", 0⟩⟩

/-- The stored ODBC connection with another password. -/
def passwordRow (password : String) : Row Json :=
  { objectSecretsRow with secretsCiphertext := .obj [("password", .str password)] }

/-- A password that the model of ODBC connections accepts is readable. -/
theorem readableSecrets_password (password : String)
    (h : (sqlSecrets.validate (.obj [("password", .str password)])).isOk = true) :
    ReadableSecrets odbcService (passwordRow password).type
      (passwordRow password).secretsCiphertext := by
  refine ⟨_, rfl, fun spec m hspec hm => ?_⟩
  rw [eq_of_mem_odbcRegistry (ConnectionRegistry.mem_types_of_getType hspec)] at hm
  cases hm
  exact exists_of_isOk h

/-- Renaming a connection shows the same whatever its password is. -/
theorem secrets_not_shown_passwords :
    ((renameCall.prog odbcService).run [passwordRow "one"]).1.map
        (ServiceResult.shown odbcService.registry) =
      ((renameCall.prog odbcService).run [passwordRow "two"]).1.map
        (ServiceResult.shown odbcService.registry) := by
  have hmodels := acceptsDumps_of_readsBack readsBack_odbcService
  refine (secrets_not_shown odbcService ⟨fun _ _ _ => rfl, fun _ _ _ _ => rfl, fun _ _ _ => rfl,
    fun _ _ _ _ => rfl⟩ (fun _ _ => rfl)).1 renameCall 0 _ _ rfl
    (.cons (.intro (passwordRow "two").secretsCiphertext
      (.inr ⟨readableSecrets_password "one" (by decide +kernel),
        readableSecrets_password "two" (by decide +kernel)⟩)) .nil) ?_
  intro _ _ _ row _ _ _ spec m v v' hspec hm hv hv'
  exact .inr ⟨hmodels _ spec m _ v hspec hm hv, hmodels _ spec m _ v' hspec hm hv'⟩

/-- A secrets model of a `SecretStr` of at most eight characters, which dumps as a mask. -/
def pinSecrets : ModelDecl :=
  .ofFields [⟨"app.models", "PinSecrets"⟩, baseModelRef]
    [{ Field.required "pin" .str with
        after := fun _ value =>
          match value.str? with
          | none => .ok value
          | some "" => .ok (.str "")
          | some pin =>
            if pin.length ≤ 8 then .ok (.str "**********")
            else .error (.valueError "Value should have at most 8 characters") }] .ignore

/-- The view is a broken one. -/
def ReadView.isBroken : ReadView → Bool
  | .view _ => false
  | .broken _ => true

/-- Which of the views that a client is shown of a renaming are broken. -/
def brokenViews (svc : ConnectionService Json) (row : Row Json) :
    Except PyError (List (Except PyError Bool)) :=
  (((renameCall.prog svc).run [row]).1.map (ServiceResult.shown svc.registry)).map
    (List.map (Except.map ReadView.isBroken))

/-- A type with these secrets. -/
def pinType : TypeSpec :=
  builtinType "pin" "vault" (.ofDecl (.ofFields [⟨"app.models", "PinProperties"⟩] [] .ignore))
    (.ofDecl pinSecrets) "PinConnector"

/-- A service with this type only. -/
def pinService : ConnectionService Json :=
  { defaultService none with
    registry :=
      { kinds := [("vault", ⟨"vault"⟩)]
        types := [("pin", pinType)]
        kinds_name := List.forall_mem_singleton.mpr rfl
        types_name := List.forall_mem_singleton.mpr rfl
        types_nodup := List.nodup_singleton _
        kinds_known := List.forall_mem_singleton.mpr rfl } }

/-- A stored connection with a PIN. -/
def pinRow (pin : String) : Row Json :=
  { bucketRow "a" with
    kind := "vault"
    type := "pin"
    secretsCiphertext := .obj [("pin", .str pin)] }

/-- Renaming a connection without a PIN shows a public view, and renaming it with one a broken view,
as the model accepts both but not the mask that it dumps. -/
theorem update_shows_pin :
    IgnoresSecrets pinService ∧ DecryptsOwn pinService ∧
      List.Forall₂ (SameButSecrets pinService) [pinRow ""] [pinRow "1234"] ∧
      ((renameCall.prog pinService).run [pinRow ""]).1.map
          (ServiceResult.shown pinService.registry) ≠
        ((renameCall.prog pinService).run [pinRow "1234"]).1.map
          (ServiceResult.shown pinService.registry) ∧
      brokenViews pinService (pinRow "") = .ok [.ok false] ∧
      brokenViews pinService (pinRow "1234") = .ok [.ok true] := by
  have hreadable : ∀ pin : String, ((ModelClass.ofDecl pinSecrets).validate
      (.obj [("pin", .str pin)])).isOk = true →
        ReadableSecrets pinService "pin" (.obj [("pin", .str pin)]) := by
    intro pin hpin
    refine ⟨_, rfl, fun spec m hspec hm => ?_⟩
    cases hspec
    cases hm
    exact exists_of_isOk hpin
  refine ⟨⟨fun _ _ _ => rfl, fun _ _ _ _ => rfl, fun _ _ _ => rfl, fun _ _ _ _ => rfl⟩,
    fun _ _ => rfl, .cons (.intro (pinRow "1234").secretsCiphertext
      (.inr ⟨hreadable "" (by decide +kernel), hreadable "1234" (by decide +kernel)⟩)) .nil, ?_⟩
  have hpublic : brokenViews pinService (pinRow "") = .ok [.ok false] := by decide +kernel
  have hbroken : brokenViews pinService (pinRow "1234") = .ok [.ok true] := by decide +kernel
  refine ⟨fun h => ?_, hpublic, hbroken⟩
  unfold brokenViews at hpublic hbroken
  rw [h, hbroken] at hpublic
  cases hpublic

end DbConnection
