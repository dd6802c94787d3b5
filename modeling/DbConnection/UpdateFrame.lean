import DbConnection.Connectors
import DbConnection.Sequential

/-!
# What an update leaves alone

An update reads the row into a record, merges the patch into it, and writes every column of the
merged and validated draft. A column that the mapper could not read entered the record as an empty
value, so an update that does not set it writes that empty value over what was stored; so does an
update of the secrets of a type without a secrets model. `update_keepsUnset_iff` says that these
are the only losses: an update keeps all columns its patch does not set (`KeepsUnset`) exactly when
its patch sets every column that has a read issue, and the secrets where the type has no model for
them (`AsksForAll`). The service itself only insists on this for secrets that do not decrypt.
-/

namespace DbConnection

open PyData Pydantic ReadCommitted

/-- The columns that the patch does not set hold in `row'` what they hold in `row`, up to
re-validation by the models of the type. -/
structure KeepsUnset {C : Type} (storage : Storage C) (spec : TypeSpec) (patch : ConnectionPatch)
    (row row' : Row C) : Prop where
  driver : "driver" ∉ patch.fieldsSet → row'.driver = row.driver
  /-- The same value, or the validated options of the value. -/
  driverOptions : "driver_options" ∉ patch.fieldsSet →
    row'.driverOptionsJson = row.driverOptionsJson ∨
      ∃ options validated,
        decodeDriverOptions storage.importer row.driverOptionsJson = ⟨options, .null, none⟩ ∧
        validateDriverOptions spec row.type (effectiveDriver spec row'.driver)
          (.ofOption options) = .ok validated ∧
        processBindParam (.ofOption validated) = .ok row'.driverOptionsJson
  /-- The same value, or the dump of what the properties model made of it. -/
  properties : "properties" ∉ patch.fieldsSet →
    row'.propertiesJson = row.propertiesJson ∨
      ∃ items v, row.propertiesJson = .obj items ∧
        spec.propertiesModel.validate (.obj items) = .ok v ∧
        row'.propertiesJson = .obj v.dumpJson
  /-- A ciphertext of the same value, or of the dump of what the secrets model made of it. -/
  secrets : "secrets" ∉ patch.fieldsSet →
    storage.encryption.decrypt row'.secretsCiphertext =
        storage.encryption.decrypt row.secretsCiphertext ∨
      ∃ m items v, spec.secretsModel = some m ∧
        storage.encryption.decrypt row.secretsCiphertext = .ok (.obj items) ∧
        m.validate (.obj items) = .ok v ∧
        storage.encryption.decrypt row'.secretsCiphertext = .ok (.obj v.dumpJson)
  labels : "labels" ∉ patch.fieldsSet → row'.labelsJson = row.labelsJson
  metadata : "metadata" ∉ patch.fieldsSet → row'.metadataJson = row.metadataJson
  extra : "extra" ∉ patch.fieldsSet → row'.extraJson = row.extraJson

/-- The patch sets every field with a read issue, and the secrets where the type has no model for
them and they are not empty. -/
def AsksForAll {C : Type} (storage : Storage C) (spec : TypeSpec) (patch : ConnectionPatch)
    (row : Row C) : Prop :=
  (∀ issue ∈ (toRecord storage row).readIssues, issue.field ∈ patch.fieldsSet) ∧
    (spec.secretsModel = none → "secrets" ∉ patch.fieldsSet →
      storage.encryption.decrypt row.secretsCiphertext = .ok (.obj []))

section Fields

variable {patch : ConnectionPatch}

/-- A field of a patch is among its set fields when it is set. -/
theorem mem_fieldsSet (patch : ConnectionPatch) :
    ("driver" ∈ patch.fieldsSet ↔ patch.driver.isSet = true) ∧
      ("driver_options" ∈ patch.fieldsSet ↔ patch.driverOptions.isSet = true) ∧
      ("properties" ∈ patch.fieldsSet ↔ patch.properties.isSet = true) ∧
      ("secrets" ∈ patch.fieldsSet ↔ patch.secrets.isSet = true) ∧
      ("labels" ∈ patch.fieldsSet ↔ patch.labels.isSet = true) ∧
      ("metadata" ∈ patch.fieldsSet ↔ patch.metadata.isSet = true) ∧
      ("extra" ∈ patch.fieldsSet ↔ patch.extra.isSet = true) := by
  simp only [ConnectionPatch.fieldsSet, ConnectionPatch.toDict, List.map_append, List.mem_append,
    PatchValue.mem_item]
  simp

/-- An unset field leaves the existing value. -/
theorem PatchValue.getD_of_not_isSet {α : Type} {v : PatchValue α} (h : ¬ v.isSet = true) (a : α) :
    v.getD a = a := by
  cases v with
  | unset => rfl
  | set value => simp [PatchValue.isSet] at h

end Fields

section Frame

variable {C : Type} {svc : ConnectionService C} {env : CallEnv} {actor : Json}
  {connectionId : String} {patch : ConnectionPatch} {row row' : Row C} {spec : TypeSpec}
  {validated : ValidatedConnection}

/-- An update keeps the labels column it does not set exactly when the column has no issue. -/
theorem Updates.labels_iff (h : Updates svc env actor connectionId patch row row' patch spec validated)
    (hu : "labels" ∉ patch.fieldsSet) :
    row'.labelsJson = row.labelsJson ↔ (readLabels row.labelsJson).issue = none := by
  have hset : ¬ patch.labels.isSet = true := by rwa [← (mem_fieldsSet patch).2.2.2.2.1]
  have hl : row'.labelsJson = Json.ofStrDict (readLabels row.labelsJson).value := by
    rw [h.stored.labels]
    simp only [merge, PatchValue.getD_of_not_isSet hset]
    rfl
  rw [hl, ofStrDict_readLabels_iff]

/-- An update keeps the metadata column it does not set exactly when the column has no issue. -/
theorem Updates.metadata_iff
    (h : Updates svc env actor connectionId patch row row' patch spec validated)
    (hu : "metadata" ∉ patch.fieldsSet) :
    row'.metadataJson = row.metadataJson ↔ (readMetadata row.metadataJson).issue = none := by
  have hset : ¬ patch.metadata.isSet = true := by rwa [← (mem_fieldsSet patch).2.2.2.2.2.1]
  have hm : row'.metadataJson = .obj (readMetadata row.metadataJson).value := by
    rw [h.stored.metadata]
    simp only [merge, PatchValue.getD_of_not_isSet hset]
    rfl
  rw [hm]
  exact obj_coerceMapping_iff

/-- An update keeps the extra column it does not set exactly when the column has no issue. -/
theorem Updates.extra_iff (h : Updates svc env actor connectionId patch row row' patch spec validated)
    (hu : "extra" ∉ patch.fieldsSet) :
    row'.extraJson = row.extraJson ↔ (readExtra row.extraJson).issue = none := by
  have hset : ¬ patch.extra.isSet = true := by rwa [← (mem_fieldsSet patch).2.2.2.2.2.2]
  have he : row'.extraJson = .obj (readExtra row.extraJson).value := by
    rw [h.stored.extra]
    have hextra : ¬ patch.extraDict.isSet = true := by rwa [ConnectionPatch.extraDict,
      PatchValue.isSet_map]
    simp only [merge, PatchValue.getD_of_not_isSet hextra]
    rfl
  rw [he]
  exact obj_coerceMapping_iff

/-- An update keeps the properties column it does not set, up to re-validation, exactly when the
column has no issue. -/
theorem Updates.properties_iff
    (h : Updates svc env actor connectionId patch row row' patch spec validated)
    (hu : "properties" ∉ patch.fieldsSet) :
    (row'.propertiesJson = row.propertiesJson ∨
      ∃ items v, row.propertiesJson = .obj items ∧
        spec.propertiesModel.validate (.obj items) = .ok v ∧
        row'.propertiesJson = .obj v.dumpJson) ↔
      (readProperties row.propertiesJson).issue = none := by
  have hset : ¬ patch.properties.isSet = true := by rwa [← (mem_fieldsSet patch).2.2.1]
  have hv : spec.propertiesModel.validate (.obj (readProperties row.propertiesJson).value) =
      .ok validated.properties := by
    have hp := h.validates.properties
    simp only [merge, PatchValue.getD_of_not_isSet hset] at hp
    exact hp
  constructor
  · -- The new column is a dictionary, so the old one was.
    rintro (heq | ⟨items, v, hobj, -, -⟩)
    · rw [h.stored.properties] at heq
      rw [← heq]
      rfl
    · rw [hobj]
      rfl
  · intro hi
    exact .inr ⟨_, _, (obj_coerceMapping_iff.mpr hi).symm, hv, h.stored.properties⟩

/-- An update keeps the secrets it does not set, up to re-validation, exactly when they read
without an issue and are empty where the type has no secrets model. -/
theorem Updates.secrets_iff
    (henc : ∀ nonce value, svc.storage.encryption.decrypt
      (svc.storage.encryption.encrypt nonce value) = .ok value)
    (h : Updates svc env actor connectionId patch row row' patch spec validated)
    (hu : "secrets" ∉ patch.fieldsSet) :
    (svc.storage.encryption.decrypt row'.secretsCiphertext =
        svc.storage.encryption.decrypt row.secretsCiphertext ∨
      ∃ m items v, spec.secretsModel = some m ∧
        svc.storage.encryption.decrypt row.secretsCiphertext = .ok (.obj items) ∧
        m.validate (.obj items) = .ok v ∧
        svc.storage.encryption.decrypt row'.secretsCiphertext = .ok (.obj v.dumpJson)) ↔
      (decodeSecrets svc.storage.encryption row.secretsCiphertext).issue = none ∧
        (spec.secretsModel = none →
          svc.storage.encryption.decrypt row.secretsCiphertext = .ok (.obj [])) := by
  have hset : ¬ patch.secrets.isSet = true := by rwa [← (mem_fieldsSet patch).2.2.2.1]
  have hnew : svc.storage.encryption.decrypt row'.secretsCiphertext =
      .ok (.obj ((validated.secrets.map Instance.dumpJson).getD [])) := by
    rw [h.stored.secrets, henc]
  have hread : SecretsRead spec
      (.obj (decodeSecrets svc.storage.encryption row.secretsCiphertext).value)
      validated.secrets := by
    have hs := h.validates.secrets
    simp only [merge, PatchValue.getD_of_not_isSet hset] at hs
    exact hs
  unfold SecretsRead at hread
  constructor
  -- What is decrypted afterwards is a dictionary, so it was one before.
  · rintro (heq | ⟨m, items, v, hm, hd, -, -⟩)
    · rw [hnew] at heq
      refine ⟨?_, fun hnone => ?_⟩
      · rw [decodeSecrets_of_decrypt heq.symm]
      · rw [hnone] at hread
        rw [← heq, hread]
        rfl
    · refine ⟨?_, fun hnone => ?_⟩
      · rw [decodeSecrets_of_decrypt hd]
      · rw [hm] at hnone
        cases hnone
  · rintro ⟨hi, hempty⟩
    have hd := decrypt_eq_ok_decodeSecrets hi
    -- Without a model the secrets are not validated, and `{}` is stored for them.
    cases hm : spec.secretsModel with
    | none =>
      rw [hm] at hread
      refine .inl ?_
      rw [hnew, hread, hempty hm]
      rfl
    | some m =>
      rw [hm] at hread
      obtain ⟨v, hv, hsome⟩ := hread
      refine .inr ⟨m, _, v, rfl, hd, hv, ?_⟩
      rw [hnew, hsome]
      rfl

/-- The options a draft without options is validated as, where no options model of the type
accepts `None`. -/
theorem validateDriverOptions_none {connectionType : String} {driver : Option String}
    {options : Option Instance}
    (hnull : ∀ driverSpec ∈ spec.driverSpecs, ∀ v, driverSpec.optionsModel.validate .null ≠ .ok v)
    (h : validateDriverOptions spec connectionType driver .none = .ok options) :
    options = none := by
  unfold validateDriverOptions at h
  split at h
  · simpa [isEmptyDriverOptions] using h.symm
  · split at h
    · cases h
    · rename_i driverSpec hr
      split at h
      · simpa [isEmptyDriverOptions] using h.symm
      · split at h
        · rename_i v hv
          exact absurd hv (hnull driverSpec (List.mem_of_find?_eq_some hr) v)
        · cases h

/-- An update keeps the driver options it does not set, up to re-validation, if the column has no
issue, and only then where no options model of the type accepts `None`. -/
theorem Updates.driverOptions_iff
    (h : Updates svc env actor connectionId patch row row' patch spec validated)
    (hu : "driver_options" ∉ patch.fieldsSet) :
    ((decodeDriverOptions svc.storage.importer row.driverOptionsJson).issue = none →
      ∃ options validated,
        decodeDriverOptions svc.storage.importer row.driverOptionsJson = ⟨options, .null, none⟩ ∧
        validateDriverOptions spec row.type (effectiveDriver spec row'.driver)
          (.ofOption options) = .ok validated ∧
        processBindParam (.ofOption validated) = .ok row'.driverOptionsJson) ∧
      ((∀ driverSpec ∈ spec.driverSpecs, ∀ v,
          driverSpec.optionsModel.validate .null ≠ .ok v) →
        row'.driverOptionsJson = row.driverOptionsJson →
          (decodeDriverOptions svc.storage.importer row.driverOptionsJson).issue = none) := by
  have hset : ¬ patch.driverOptions.isSet = true := by rwa [← (mem_fieldsSet patch).2.1]
  have hv : validateDriverOptions spec row.type (effectiveDriver spec row'.driver)
      (.ofOption (decodeDriverOptions svc.storage.importer row.driverOptionsJson).value) =
        .ok validated.driverOptions := by
    have ho := h.validates.driverOptions
    rw [← h.stored.driver] at ho
    simp only [merge, PatchValue.getD_of_not_isSet hset] at ho
    exact ho
  have hb := h.stored.driverOptions
  constructor
  · intro hi
    refine ⟨_, _, ?_, hv, hb⟩
    -- A column without an issue keeps no raw value.
    rcases decodeDriverOptions_cases svc.storage.importer row.driverOptionsJson with
      ⟨-, hd⟩ | ⟨v, -, hd⟩ | ⟨issue, hd, -⟩
    · rw [hd]
    · rw [hd]
    · rw [hd] at hi
      cases hi
  · intro hnull heq
    cases hi : (decodeDriverOptions svc.storage.importer row.driverOptionsJson).issue with
    | none => rfl
    | some issue =>
      -- The options read as `None` and are stored as `None`, which reads without an issue.
      have hnone : (decodeDriverOptions svc.storage.importer row.driverOptionsJson).value =
          none := by
        rcases decodeDriverOptions_cases svc.storage.importer row.driverOptionsJson with
          ⟨-, hd⟩ | ⟨v, -, hd⟩ | ⟨issue, hd, -⟩
        · rw [hd]
        · rw [hd] at hi
          cases hi
        · rw [hd]
      rw [hnone] at hv
      rw [validateDriverOptions_none hnull hv] at hb
      have hjson : row'.driverOptionsJson = .null := (Except.ok.inj hb).symm
      rw [← heq, hjson] at hi
      cases hi

/-- An update that asks for every column it cannot keep keeps what it does not set. -/
theorem Updates.keepsUnset
    (henc : ∀ nonce value, svc.storage.encryption.decrypt
      (svc.storage.encryption.encrypt nonce value) = .ok value)
    (h : Updates svc env actor connectionId patch row row' patch spec validated)
    (hasks : AsksForAll svc.storage spec patch row) :
    KeepsUnset svc.storage spec patch row row' := by
  obtain ⟨hissues, hsecrets⟩ := hasks
  obtain ⟨ho, hp, hs, hl, hm, he⟩ := forall_readIssues_iff.mp hissues
  refine ⟨fun hu => ?_, fun hu => ?_, fun hu => ?_, fun hu => ?_, fun hu => ?_, fun hu => ?_,
    fun hu => ?_⟩
  -- A driver column cannot be unreadable.
  · have hset : ¬ patch.driver.isSet = true := by rwa [← (mem_fieldsSet patch).1]
    rw [h.stored.driver]
    simp only [merge, PatchValue.getD_of_not_isSet hset]
    rfl
  · exact .inr ((h.driverOptions_iff hu).1 (by_contra fun hi => hu (ho hi)))
  · exact (h.properties_iff hu).mpr (by_contra fun hi => hu (hp hi))
  · exact (h.secrets_iff henc hu).mpr ⟨by_contra fun hi => hu (hs hi), fun hn => hsecrets hn hu⟩
  · exact (h.labels_iff hu).mpr (by_contra fun hi => hu (hl hi))
  · exact (h.metadata_iff hu).mpr (by_contra fun hi => hu (hm hi))
  · exact (h.extra_iff hu).mpr (by_contra fun hi => hu (he hi))

/-- An update that keeps what it does not set asks for every column it cannot keep. -/
theorem Updates.asksForAll
    (henc : ∀ nonce value, svc.storage.encryption.decrypt
      (svc.storage.encryption.encrypt nonce value) = .ok value)
    (h : Updates svc env actor connectionId patch row row' patch spec validated)
    (hnull : ∀ driverSpec ∈ spec.driverSpecs, ∀ v, driverSpec.optionsModel.validate .null ≠ .ok v)
    (hkeeps : KeepsUnset svc.storage spec patch row row') :
    AsksForAll svc.storage spec patch row := by
  refine ⟨forall_readIssues_iff.mpr ⟨fun hi => ?_, fun hi => ?_, fun hi => ?_, fun hi => ?_,
    fun hi => ?_, fun hi => ?_⟩, fun hn hu => ?_⟩
  · by_contra hu
    rcases hkeeps.driverOptions hu with heq | ⟨options, _, hd, -, -⟩
    · exact hi ((h.driverOptions_iff hu).2 hnull heq)
    · exact hi (by rw [hd])
  · by_contra hu
    exact hi ((h.properties_iff hu).mp (hkeeps.properties hu))
  · by_contra hu
    exact hi ((h.secrets_iff henc hu).mp (hkeeps.secrets hu)).1
  · by_contra hu
    exact hi ((h.labels_iff hu).mp (hkeeps.labels hu))
  · by_contra hu
    exact hi ((h.metadata_iff hu).mp (hkeeps.metadata hu))
  · by_contra hu
    exact hi ((h.extra_iff hu).mp (hkeeps.extra hu))
  · exact ((h.secrets_iff henc hu).mp (hkeeps.secrets hu)).2 hn

end Frame

/-- A successful update, with the no-op resolver and any policy, over any store: it keeps the
columns its patch does not set if its patch asks for all that it cannot keep, and, where no options
model of the type accepts `None`, only then. -/
theorem update_keepsUnset_iff {C : Type} (svc : ConnectionService C)
    (hresolver : svc.ownershipResolver = noOpOwnershipResolver)
    (henc : ∀ nonce value, svc.storage.encryption.decrypt
      (svc.storage.encryption.encrypt nonce value) = .ok value)
    (env : CallEnv) (actor : Json) (connectionId : String) (patch : ConnectionPatch)
    (store store' : List (Row C)) (record : ConnectionRecord)
    (hrun : (svc.update env actor connectionId patch).run store = (.ok record, store')) :
    ∃ row row' spec, find connectionId store = some row ∧ find connectionId store' = some row' ∧
      svc.registry.getType row.type = .ok spec ∧
      (AsksForAll svc.storage spec patch row → KeepsUnset svc.storage spec patch row row') ∧
      ((∀ driverSpec ∈ spec.driverSpecs, ∀ v, driverSpec.optionsModel.validate .null ≠ .ok v) →
        KeepsUnset svc.storage spec patch row row' → AsksForAll svc.storage spec patch row) := by
  obtain ⟨row, row', resolved, spec, validated, hf, h, -, rfl⟩ := run_update_eq_ok hrun
  -- The resolver hands the patch on as it is.
  have hpatch : resolved = patch := by
    have hr := h.resolve
    rw [hresolver] at hr
    exact (Except.ok.inj hr).symm
  subst hpatch
  have hid : key row' = connectionId := by
    have hk : row.id = connectionId := (find_eq_some hf).2
    rw [← hk]
    exact h.id
  exact ⟨row, row', spec, hf, hid ▸ find_put_self store row', h.validates.type,
    h.keepsUnset henc, h.asksForAll henc⟩

/-- A patch that only sets the name. -/
def nameOnly (name : String) : ConnectionPatch :=
  { ConnectionPatch.empty with name := .set (some name) }

/-- A stored S3 connection whose labels column holds a list. -/
def listLabelsRow (id : String) : Row Json :=
  { bucketRow id with labelsJson := .arr [.str "team"] }

/-- A transaction that succeeds when it runs alone gives a result and a store. -/
theorem exists_run_eq_of_isSome {C α : Type} (txn : Txn C α) (store : List (Row C))
    (h : (txn.run store).1.toOption.isSome = true) :
    ∃ result store', txn.run store = (.ok result, store') := by
  cases hr : txn.run store with
  | mk result store' =>
    cases result with
    | ok result => exact ⟨result, store', rfl⟩
    | error e => simp [hr, Except.toOption] at h

/-- Renaming a connection whose columns can all be read keeps all of them. -/
theorem update_keepsUnset_iff_nameOnly :
    ∃ row' spec store', find "a" store' = some row' ∧
      AsksForAll (defaultService none).storage spec (nameOnly "archive") (bucketRow "a") ∧
      KeepsUnset (defaultService none).storage spec (nameOnly "archive") (bucketRow "a") row' := by
  obtain ⟨record, store', hrun⟩ := exists_run_eq_of_isSome
    ((defaultService none).update ⟨1, "", 0⟩ .null "a" (nameOnly "archive")) [bucketRow "a"]
    (by decide +kernel)
  obtain ⟨row, row', spec, hf, hf', ht, hkeeps, -⟩ := update_keepsUnset_iff (defaultService none)
    rfl (fun _ _ => rfl) ⟨1, "", 0⟩ .null "a" (nameOnly "archive") [bucketRow "a"] store' record
    hrun
  have hrow : bucketRow "a" = row := Option.some.inj hf
  subst hrow
  have hasks : AsksForAll (defaultService none).storage spec (nameOnly "archive")
      (bucketRow "a") := by
    have hissues : (toRecord (defaultService none).storage (bucketRow "a")).readIssues = [] := by
      decide +kernel
    refine ⟨by simp [hissues], fun hn => ?_⟩
    cases ht
    cases hn
  exact ⟨row', spec, store', hf', hasks, hkeeps hasks⟩

/-- Renaming a connection whose labels column holds a list succeeds and leaves an empty
dictionary in that column. -/
theorem nameOnly_empties_list_labels :
    ∃ record store', ((defaultService none).update ⟨1, "", 0⟩ .null "a" (nameOnly "archive")).run
        [listLabelsRow "a"] = (.ok record, store') ∧
      "labels" ∉ (nameOnly "archive").fieldsSet ∧ store'.map Row.labelsJson = [.obj []] ∧
      ∀ spec, ∀ row' ∈ store', ¬ KeepsUnset (defaultService none).storage spec
        (nameOnly "archive") (listLabelsRow "a") row' := by
  obtain ⟨record, store', hrun⟩ := exists_run_eq_of_isSome
    ((defaultService none).update ⟨1, "", 0⟩ .null "a" (nameOnly "archive")) [listLabelsRow "a"]
    (by decide +kernel)
  have hset : "labels" ∉ (nameOnly "archive").fieldsSet := by decide
  have hlabels : store'.map Row.labelsJson = [.obj []] := by
    have h : (((defaultService none).update ⟨1, "", 0⟩ .null "a" (nameOnly "archive")).run
        [listLabelsRow "a"]).2.map Row.labelsJson = [.obj []] := by decide +kernel
    rwa [hrun] at h
  refine ⟨record, store', hrun, hset, hlabels, fun spec row' hmem hkeeps => ?_⟩
  have hl : row'.labelsJson = .obj [] := by
    have hm := List.mem_map_of_mem (f := Row.labelsJson) hmem
    rw [hlabels] at hm
    exact List.mem_singleton.mp hm
  have heq := hkeeps.labels hset
  rw [hl] at heq
  cases heq

end DbConnection
