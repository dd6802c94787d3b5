import DbConnection.Classification
import DbConnection.Lifecycle
import DbConnection.UpdateFrame

/-!
# Repairing a broken row

A broken view names the fields that are wrong with its row. `repair_succeeds` says that these are
all of them: a patch that sets at least the fields named, each to a value that the type accepts, is
accepted by the guard, the merge and the validation of an update whatever else was broken beside
it, and the row that the update writes has a public view. What makes this work is that a field
without an issue, which the patch may leave out, was read and accepted by the same models that the
update asks (`public_of_unreported`).
-/

namespace DbConnection

open PyData Pydantic ReadCommitted

/-- Each field that the patch sets, it sets to a value that the row's type accepts. -/
structure PatchAccepted {C : Type} (storage : Storage C) (spec : TypeSpec)
    (record : ConnectionRecord) (patch : ConnectionPatch) : Prop where
  name : patch.name ≠ .set none
  properties : ∀ items, patch.properties = .set items → ∃ v p,
    spec.propertiesModel.validate (Json.ofObj? items) = .ok v ∧
      spec.publicOrPropertiesModel.validate (.obj v.dump) = .ok p
  /-- The options and the driver that the connection then has go together. -/
  driverOptions : (patch.driver.isSet = true ∨ patch.driverOptions.isSet = true) →
    ∃ o, buildPublicDriverOptions spec record.type
      (effectiveDriver spec (merge record patch).driver) (merge record patch).driverOptions = .ok o
  /-- Options given as an instance are of a class that is found and reads them back. -/
  wellTyped : ∀ options, patch.driverOptions = .set options → options.ReadBack storage.importer
  secrets : ∀ items m, patch.secrets = .set items → spec.secretsModel = some m →
    ∃ s, m.validate (Json.ofObj? items) = .ok s
  labels : patch.labels ≠ .set none
  metadata : patch.metadata ≠ .set none
  extra : patch.extraDict ≠ .set none

/-- A record carries the values of the patch as the models of the type read them. -/
structure CarriesPatch (spec : TypeSpec) (patch : ConnectionPatch) (record : ConnectionRecord) :
    Prop where
  properties : ∀ items, patch.properties = .set items → ∃ v,
    spec.propertiesModel.validate (Json.ofObj? items) = .ok v ∧ record.properties = v.dumpJson
  driverOptions : ∀ options, patch.driverOptions = .set options →
    validateDriverOptions spec record.type (effectiveDriver spec record.driver) options =
      .ok record.driverOptions
  /-- A type without a secrets model reads none. -/
  secrets : ∀ items, patch.secrets = .set items → ∃ v, SecretsRead spec (Json.ofObj? items) v ∧
    record.secrets = (v.map Instance.dumpJson).getD []
  labels : ∀ labels, patch.labels = .set (some labels) → record.labels = labels
  metadata : ∀ metadata, patch.metadata = .set (some metadata) → record.metadata = metadata
  extra : ∀ extra, patch.extraDict = .set (some extra) → record.extra = extra

section Unreported

variable {C : Type} {storage : Storage C} {row : Row C} {registry : ConnectionRegistry}
  {spec : TypeSpec} {b : BrokenPublicConnectionView}

/-- The issues of a broken view of a record of a known type. -/
theorem issues_of_buildAny {record : ConnectionRecord}
    (htype : registry.getType record.type = .ok spec)
    (hb : buildAny registry record = .ok (.broken b)) :
    ∃ properties driverOptions secrets, Checked spec record properties driverOptions secrets ∧
      b.issues = record.readIssues ++
        foundIssues (checkIssues spec record properties.2 driverOptions.2 secrets) := by
  obtain ⟨properties, driverOptions, secrets, hchecked⟩ := exists_checked_of_buildAny htype hb
  refine ⟨properties, driverOptions, secrets, hchecked, ?_⟩
  rw [buildAny_of_type htype hchecked] at hb
  split at hb
  · cases hb
    rfl
  · cases hp : properties.1 with
    | none => simp [hp] at hb
    | some p => simp [hp] at hb

/-- A column that no issue names reads without one. -/
theorem reports_of_unreported {record : ConnectionRecord} {field : String}
    {further : List StoredConnectionIssue}
    (h : ∀ issue ∈ record.readIssues ++ further, issue.field ≠ field) :
    record.reports field = false := by
  unfold ConnectionRecord.reports
  rw [List.any_eq_false]
  exact fun i hi hf => h i (List.mem_append_left _ hi) (by simpa using hf)

/-- What the models of the type accept of a record is all that the issues do not name. -/
theorem public_of_unreported (htype : registry.getType (toRecord storage row).type = .ok spec)
    (hb : buildAny registry (toRecord storage row) = .ok (.broken b)) :
    ((∀ issue ∈ b.issues, issue.field ≠ "properties") →
        ∃ p, publicProperties spec (toRecord storage row).properties = .ok p) ∧
      ((∀ issue ∈ b.issues, issue.field ≠ "driver_options") →
        ∃ o, publicDriverOptions spec (toRecord storage row) = .ok o) ∧
      ((∀ issue ∈ b.issues, issue.field ≠ "secrets") → ∀ m, spec.secretsModel = some m →
        ∃ s, m.validate (.obj (toRecord storage row).secrets) = .ok s) := by
  obtain ⟨properties, driverOptions, secrets, hchecked, hissues⟩ := issues_of_buildAny htype hb
  have htags := tags_checkIssues htype hchecked
  -- A field that no issue names is the field of no failing check.
  have hpassed : ∀ field code, (∀ issue ∈ b.issues, issue.field ≠ field) →
      (field, code) ∉ failingChecks registry (toRecord storage row) := by
    intro field code h hmem
    rw [← htags] at hmem
    obtain ⟨i, hi, he⟩ := List.mem_map.mp hmem
    rw [hissues] at h
    exact h i (List.mem_append_right _ hi) (Prod.mk.inj he).1
  unfold failingChecks at hpassed
  rw [htype] at hpassed
  simp only [List.mem_map, List.mem_filter, List.mem_cons, List.not_mem_nil, or_false,
    not_exists, not_and] at hpassed
  rw [hissues] at hpassed ⊢
  refine ⟨fun h => ?_, fun h => ?_, fun h m hm => ?_⟩
  · have hreports := reports_of_unreported h
    cases hp : publicProperties spec (toRecord storage row).properties with
    | ok p => exact ⟨p, rfl⟩
    | error e =>
      refine (hpassed "properties" "invalid_properties" h
        (("properties", "invalid_properties"), false) ?_ rfl).elim
      simp [hreports, hp, Except.isOk, Except.toBool]
  · have hreports := reports_of_unreported h
    cases ho : publicDriverOptions spec (toRecord storage row) with
    | ok o => exact ⟨o, rfl⟩
    | error e =>
      refine (hpassed "driver_options" "invalid_driver_options" h
        (("driver_options", "invalid_driver_options"), false) ?_ rfl).elim
      simp [hreports, ho, Except.isOk, Except.toBool]
  · have hreports := reports_of_unreported h
    cases hs : m.validate (.obj (toRecord storage row).secrets) with
    | ok s => exact ⟨s, rfl⟩
    | error e =>
      refine (hpassed "secrets" "invalid_secrets" h
        (("secrets", "invalid_secrets"), false) ?_ rfl).elim
      simp [hreports, acceptsSecrets, hm, hs, Except.isOk, Except.toBool]

end Unreported

section Repair

variable {C : Type} {svc : ConnectionService C} {env : CallEnv} {actor : Json}
  {connectionId : String} {store : List (Row C)} {row : Row C} {spec : TypeSpec}
  {patch : ConnectionPatch}

/-- Options that have a public form are accepted, for a driver that is supported. -/
theorem checkDriver_of_public {draft : ConnectionDraft} {o : Option Instance}
    (h : buildPublicDriverOptions spec draft.type (effectiveDriver spec draft.driver)
      draft.driverOptions = .ok o) :
    checkDriver spec draft = .ok () ∧
      ∃ options, validateDriverOptions spec draft.type (effectiveDriver spec draft.driver)
        draft.driverOptions = .ok options := by
  obtain ⟨options, hoptions⟩ : ∃ options, validateDriverOptions spec draft.type
      (effectiveDriver spec draft.driver) draft.driverOptions = .ok options := by
    cases hv : validateDriverOptions spec draft.type (effectiveDriver spec draft.driver)
        draft.driverOptions with
    | error e => simp [buildPublicDriverOptions, hv] at h
    | ok options => exact ⟨options, rfl⟩
  refine ⟨?_, options, hoptions⟩
  unfold checkDriver
  cases he : effectiveDriver spec draft.driver with
  | none => rfl
  | some driver =>
    -- The driver was found among the type's.
    have hmem : driver ∈ spec.supportedDrivers := by
      rw [he] at hoptions
      unfold validateDriverOptions at hoptions
      cases hr : resolveDriverSpec spec driver with
      | none => simp [hr] at hoptions
      | some driverSpec =>
        have hname : driverSpec.name = driver := by
          have hfound := List.find?_some hr
          simpa using hfound
        exact List.mem_map.mpr ⟨driverSpec, mem_of_resolveDriverSpec hr, hname⟩
    simp [hmem]

/-- Accepted options are accepted again, and have the same public form. -/
theorem buildPublicDriverOptions_ofOption {connectionType : String} {driver : Option String}
    {raw : DriverOptions} {options : Option Instance}
    (h : validateDriverOptions spec connectionType driver raw = .ok options) :
    buildPublicDriverOptions spec connectionType driver (.ofOption options) =
      buildPublicDriverOptions spec connectionType driver raw := by
  unfold buildPublicDriverOptions
  rw [validateDriverOptions_ofOption h, h]

/-- The parts of the merge of a record and a patch that sets every field with an issue are accepted
by the models of the type. -/
theorem merged_accepted {b : BrokenPublicConnectionView}
    (htype : svc.registry.getType row.type = .ok spec)
    (hb : buildAny svc.registry (toRecord svc.storage row) = .ok (.broken b))
    (hsets : ∀ issue ∈ b.issues, issue.field ∈ patch.fieldsSet)
    (haccepted : PatchAccepted svc.storage spec (toRecord svc.storage row) patch) :
    (∃ v p, spec.propertiesModel.validate
        (Json.ofObj? (merge (toRecord svc.storage row) patch).properties) = .ok v ∧
        spec.publicOrPropertiesModel.validate (.obj v.dump) = .ok p) ∧
      (∃ o, buildPublicDriverOptions spec row.type
        (effectiveDriver spec (merge (toRecord svc.storage row) patch).driver)
        (merge (toRecord svc.storage row) patch).driverOptions = .ok o) ∧
      ∃ s, SecretsRead spec (Json.ofObj? (merge (toRecord svc.storage row) patch).secrets) s := by
  have htype' : svc.registry.getType (toRecord svc.storage row).type = .ok spec := htype
  obtain ⟨hproperties, hoptions, hsecrets⟩ := public_of_unreported htype' hb
  obtain ⟨-, hset_options, hset_properties, hset_secrets, -⟩ := mem_fieldsSet patch
  -- A field that the patch leaves out is one that no issue names.
  have hunset : ∀ field, field ∉ patch.fieldsSet → ∀ issue ∈ b.issues, issue.field ≠ field :=
    fun field hf issue hi he => hf (he ▸ hsets issue hi)
  refine ⟨?_, ?_, ?_⟩
  · cases hp : patch.properties with
    | set items =>
      simp only [merge, hp, PatchValue.getD_set]
      exact haccepted.properties items hp
    | unset =>
      simp only [merge, hp, PatchValue.getD_unset]
      obtain ⟨p, hpublic⟩ := hproperties (hunset _ (by simp [hset_properties, hp,
        PatchValue.isSet]))
      obtain ⟨v, hv, hp⟩ := bind_eq_ok_iff.mp hpublic
      exact ⟨v, p, hv, hp⟩
  · by_cases hd : patch.driver.isSet = true ∨ patch.driverOptions.isSet = true
    · exact haccepted.driverOptions hd
    · -- Neither is set, so the record's own driver and options stay.
      rw [not_or] at hd
      have hdriver := PatchValue.getD_of_not_isSet hd.1 (toRecord svc.storage row).driver
      have hopts := PatchValue.getD_of_not_isSet hd.2
        (DriverOptions.ofOption (toRecord svc.storage row).driverOptions)
      simp only [merge, hdriver, hopts]
      exact hoptions (hunset _ (by rw [hset_options]; exact hd.2))
  · unfold SecretsRead
    cases hm : spec.secretsModel with
    | none => exact ⟨none, rfl⟩
    | some m =>
      cases hs : patch.secrets with
      | set items =>
        simp only [merge, hs, PatchValue.getD_set]
        obtain ⟨s, hread⟩ := haccepted.secrets items m hs hm
        exact ⟨some s, s, hread, rfl⟩
      | unset =>
        simp only [merge, hs, PatchValue.getD_unset]
        obtain ⟨s, hread⟩ := hsecrets (hunset _ (by simp [hset_secrets, hs, PatchValue.isSet]))
          m hm
        exact ⟨some s, s, hread, rfl⟩

/-- A dictionary that the patch does not set to `None` is there in the merge. -/
theorem exists_getD {α : Type} {v : PatchValue (Option α)} (h : v ≠ .set none) (a : α) :
    ∃ value, v.getD (some a) = some value ∧ ∀ new, v = .set (some new) → value = new := by
  cases v with
  | unset => exact ⟨a, rfl, fun new hn => by cases hn⟩
  | set value =>
    cases value with
    | none => exact absurd rfl h
    | some value => exact ⟨value, rfl, fun new hn => by cases hn; rfl⟩

/-- The merge is validated, and what it is validated as has a public form. -/
theorem exists_validates_merged {b : BrokenPublicConnectionView}
    (htype : svc.registry.getType row.type = .ok spec) (hkind : row.kind = spec.kind)
    (hb : buildAny svc.registry (toRecord svc.storage row) = .ok (.broken b))
    (hsets : ∀ issue ∈ b.issues, issue.field ∈ patch.fieldsSet)
    (haccepted : PatchAccepted svc.storage spec (toRecord svc.storage row) patch) :
    ∃ v, Validates svc.registry (merge (toRecord svc.storage row) patch) spec v ∧
      (∃ p, spec.publicOrPropertiesModel.validate (.obj v.properties.dump) = .ok p) ∧
      ∃ o, buildPublicDriverOptions spec row.type
        (effectiveDriver spec (merge (toRecord svc.storage row) patch).driver)
        (.ofOption v.driverOptions) = .ok o := by
  obtain ⟨⟨p, q, hp, hq⟩, ⟨o, ho⟩, ⟨s, hs⟩⟩ := merged_accepted htype hb hsets haccepted
  have ho' : buildPublicDriverOptions spec (merge (toRecord svc.storage row) patch).type
      (effectiveDriver spec (merge (toRecord svc.storage row) patch).driver)
      (merge (toRecord svc.storage row) patch).driverOptions = .ok o := ho
  obtain ⟨hdriver, options, hoptions⟩ := checkDriver_of_public ho'
  obtain ⟨labels, hlabels, -⟩ := exists_getD haccepted.labels (toRecord svc.storage row).labels
  obtain ⟨metadata, hmetadata, -⟩ :=
    exists_getD haccepted.metadata (toRecord svc.storage row).metadata
  obtain ⟨extra, hextra, -⟩ := exists_getD haccepted.extra (toRecord svc.storage row).extra
  refine ⟨
    { name := (merge (toRecord svc.storage row) patch).name
      kind := row.kind
      type := row.type
      driver := effectiveDriver spec (merge (toRecord svc.storage row) patch).driver
      driverOptions := options
      properties := p
      secrets := s
      labels := labels
      metadata := metadata
      extra := extra },
    ⟨htype, hkind, hdriver, hp, hs, hoptions, hlabels, hmetadata, hextra, rfl, rfl, rfl, rfl⟩,
    ⟨q, hq⟩, o, (buildPublicDriverOptions_ofOption hoptions).trans ho⟩

/-- The guard of an update lets a patch through that sets every field with an issue. -/
theorem guard_of_sets {record : ConnectionRecord}
    (hsets : ∀ issue ∈ record.readIssues, issue.field ∈ patch.fieldsSet) :
    ensurePatchCanReplaceUnreadableSecrets record patch = .ok () := by
  unfold ensurePatchCanReplaceUnreadableSecrets
  cases hread : record.hasReadIssue "unreadable_secrets" "secrets" with
  | false => rfl
  | true =>
    obtain ⟨issue, hmem, hi⟩ := List.any_eq_true.mp hread
    have hfield : issue.field = "secrets" := by
      simp only [Bool.and_eq_true, beq_iff_eq] at hi
      exact hi.2
    have hset : patch.secrets.isSet = true := by
      rw [← (mem_fieldsSet patch).2.2.2.1, ← hfield]
      exact hsets issue hmem
    simp [hset]

/-- The assumptions of a service that allows all and resolves nothing. -/
theorem checkAssumptions_of_noOp (hback : ReadsBack svc)
    (himported : ∀ modelRef m, resolveModelRef svc.storage.importer modelRef = .ok m →
      driverOptionsBaseRef ∈ m.mro → ∀ payload v, m.validate payload = .ok v →
        OptionsReadBack svc.storage.importer v)
    (hpolicy : svc.accessPolicy = allowAllAccessPolicy)
    (hresolver : svc.ownershipResolver = noOpOwnershipResolver) : CheckAssumptions svc where
  readsBack := hback
  imported := himported
  allowAll := hpolicy
  ignoresOperation := by
    rw [hresolver]
    exact ⟨fun _ _ _ => rfl, fun _ _ _ _ => rfl⟩
  keepsWellTyped := by
    refine ⟨fun ctx draft resolved h hr => ?_, fun ctx record patch resolved _ h hr => ?_⟩
    · rw [hresolver] at hr
      cases hr
      exact h
    · rw [hresolver] at hr
      cases hr
      exact h
  keepsNames := by
    rw [hresolver]
    exact ⟨fun _ _ _ h hr => by cases hr; exact h, fun _ _ _ _ h hr => by cases hr; exact h⟩

/-- The row that the update of an accepted merge writes has a public view and carries the patch. -/
theorem view_of_repaired (hback : ReadsBack svc) {v : ValidatedConnection} {row' : Row C}
    (hvalid : Validates svc.registry (merge (toRecord svc.storage row) patch) spec v)
    (hraw : (merge (toRecord svc.storage row) patch).driverOptions.ReadBack svc.storage.importer)
    (hpublic : ∃ p, spec.publicOrPropertiesModel.validate (.obj v.properties.dump) = .ok p)
    (hoptions : ∃ o, buildPublicDriverOptions spec row.type
      (effectiveDriver spec (merge (toRecord svc.storage row) patch).driver)
      (.ofOption v.driverOptions) = .ok o)
    (hs : StoredAs svc.storage env (merge (toRecord svc.storage row) patch) v row') :
    (∃ view, buildAny svc.registry (toRecord svc.storage row') = .ok (.view view)) ∧
      CarriesPatch spec patch (toRecord svc.storage row') := by
  obtain ⟨hissues, hdraft, hopts⟩ := toRecord_of_storedAs hback hraw hvalid hs
  have hmem := ConnectionRegistry.mem_types_of_getType hvalid.type
  have hdumped := hvalid.dumped hback
  rw [← hdraft] at hdumped
  have hproperties : (toRecord svc.storage row').properties = v.properties.dumpJson :=
    Option.some.inj (congrArg ConnectionDraft.properties hdraft)
  have hsecrets : (toRecord svc.storage row').secrets =
      (v.secrets.map Instance.dumpJson).getD [] :=
    Option.some.inj (congrArg ConnectionDraft.secrets hdraft)
  have hdriver : (toRecord svc.storage row').driver =
      (merge (toRecord svc.storage row) patch).driver := congrArg ConnectionDraft.driver hdraft
  have htype : (toRecord svc.storage row').type = row.type := congrArg ConnectionDraft.type hdraft
  obtain ⟨p, hp⟩ := hpublic
  obtain ⟨o, ho⟩ := hoptions
  constructor
  · have hpublicProperties : publicProperties spec (toRecord svc.storage row').properties = .ok p :=
      bind_eq_ok_iff.mpr ⟨v.properties, hdumped.properties, hp⟩
    have hpublicOptions : publicDriverOptions spec (toRecord svc.storage row') = .ok o := by
      unfold publicDriverOptions
      rw [htype, hdriver, hopts, ho]
    refine ⟨_, buildAny_eq_view hdumped.type hdumped.kind hissues hpublicProperties
      hpublicOptions fun m hm => ?_⟩
    have hread := hdumped.secrets
    unfold SecretsRead at hread
    rw [hm] at hread
    obtain ⟨s, hread, -⟩ := hread
    exact ⟨s, hread⟩
  · constructor
    · intro items hi
      have hread := hvalid.properties
      simp only [merge, hi, PatchValue.getD_set] at hread
      exact ⟨v.properties, hread, hproperties⟩
    · intro options hi
      have hread := hvalid.driverOptions
      rw [htype, hdriver, hopts]
      simp only [merge, hi, PatchValue.getD_set] at hread ⊢
      exact hread
    · intro items hi
      have hread := hvalid.secrets
      simp only [merge, hi, PatchValue.getD_set] at hread
      exact ⟨v.secrets, hread, hsecrets⟩
    · intro labels hi
      have hl := congrArg ConnectionDraft.labels hdraft
      simpa [merge, hi, ConnectionRecord.toDraft] using hl
    · intro metadata hi
      have hm := congrArg ConnectionDraft.metadata hdraft
      simpa [merge, hi, ConnectionRecord.toDraft] using hm
    · intro extra hi
      have he := congrArg ConnectionDraft.extra hdraft
      simpa [merge, hi, ConnectionRecord.toDraft] using he

end Repair

/-- An update that sets at least the fields that the issues of a broken row name, each to a value
that the type accepts, succeeds, and the row then reads as a public view that carries the patch. -/
theorem repair_succeeds {C : Type} (svc : ConnectionService C) (hback : ReadsBack svc)
    (himported : ∀ modelRef m, resolveModelRef svc.storage.importer modelRef = .ok m →
      driverOptionsBaseRef ∈ m.mro → ∀ payload v, m.validate payload = .ok v →
        OptionsReadBack svc.storage.importer v)
    (hpolicy : svc.accessPolicy = allowAllAccessPolicy)
    (hresolver : svc.ownershipResolver = noOpOwnershipResolver) (env : CallEnv) (actor : Json)
    (connectionId : String) (store : List (Row C)) (row : Row C) (spec : TypeSpec)
    (b : BrokenPublicConnectionView) (patch : ConnectionPatch)
    (hf : find connectionId store = some row) (hactive : row.deletedAt = none)
    (htype : svc.registry.getType row.type = .ok spec) (hkind : row.kind = spec.kind)
    (hb : buildAny svc.registry (toRecord svc.storage row) = .ok (.broken b))
    (hsets : ∀ issue ∈ b.issues, issue.field ∈ patch.fieldsSet)
    (haccepted : PatchAccepted svc.storage spec (toRecord svc.storage row) patch) :
    ∃ record store',
      (svc.update env actor connectionId patch).run store = (.ok record, store') ∧
      (svc.get actor connectionId).run store' = (.ok record, store') ∧
      (∃ view, buildAny svc.registry record = .ok (.view view)) ∧
      CarriesPatch spec patch record := by
  have hcheck := checkAssumptions_of_noOp hback himported hpolicy hresolver
  obtain ⟨v, hvalid, hpublic, hoptions⟩ :=
    exists_validates_merged htype hkind hb hsets haccepted
  -- The merge has a name, and options that read back.
  have hname : (merge (toRecord svc.storage row) patch).name ≠ none := by
    obtain ⟨name, hname, -⟩ := exists_getD haccepted.name (toRecord svc.storage row).name
    simp only [merge, hname]
    exact Option.some_ne_none name
  have hraw : (merge (toRecord svc.storage row) patch).driverOptions.ReadBack
      svc.storage.importer := by
    have hr : svc.ownershipResolver.resolvePatch ⟨actor, "update", some connectionId, none⟩
        (toRecord svc.storage row) patch = .ok patch := by
      rw [hresolver]
      rfl
    exact readBack_merge hcheck.keepsWellTyped (readBack_toRecord hcheck row)
      haccepted.wellTyped hr
  obtain ⟨columns, hcolumns⟩ := exists_bindColumns env hname (hvalid.optionsReadBack hback hraw)
  have hget : ∀ row' : Row C, row'.deletedAt = none →
      svc.admitGet actor connectionId (some (toRecord svc.storage row')) =
        .ok (toRecord svc.storage row') := by
    intro row' ha
    rw [admitGet_of_allowAll hpolicy, ha]
    rfl
  -- Every step of the update passes.
  have hprepare : svc.prepareUpdate actor connectionId patch (toRecord svc.storage row) =
      .ok (merge (toRecord svc.storage row) patch, v) := by
    obtain ⟨_, _, _, -, hissues⟩ := issues_of_buildAny htype hb
    have hread : ∀ issue ∈ (toRecord svc.storage row).readIssues,
        issue.field ∈ patch.fieldsSet := by
      intro issue hi
      exact hsets issue (by rw [hissues]; exact List.mem_append_left _ hi)
    have hguard := guard_of_sets hread
    unfold ConnectionService.prepareUpdate
    rw [hresolver, hpolicy]
    simp only [noOpOwnershipResolver, allowAllAccessPolicy, ok_bind, hguard,
      validate_eq_ok_iff.mpr ⟨spec, hvalid⟩]
    rfl
  have hupdated : svc.updatedRow env actor connectionId patch row =
      .ok (Repository.replacedRow env columns row) := by
    unfold ConnectionService.updatedRow
    rw [hget row hactive, ok_bind, hprepare, ok_bind]
    dsimp only
    rw [hcolumns, ok_bind]
    rfl
  obtain ⟨hview, hcarries⟩ := view_of_repaired hback hvalid hraw hpublic hoptions
    ((storedAs_of_bindColumns hcolumns).2 row)
  have hid : (Repository.replacedRow env columns row).id = connectionId := (find_eq_some hf).2
  refine ⟨toRecord svc.storage (Repository.replacedRow env columns row),
    put store (Repository.replacedRow env columns row), ?_, ?_, hview, hcarries⟩
  · rw [svc.run_update_of_find env actor connectionId hf, hupdated]
  · have hself : find connectionId (put store (Repository.replacedRow env columns row)) =
        some (Repository.replacedRow env columns row) := by
      rw [← hid]
      exact find_put_self store _
    rw [run_get, hself, Option.map_some, hget (Repository.replacedRow env columns row) hactive]

/-- A row with four unreadable columns. -/
def unreadableRow : Row Json :=
  { bucketRow "a" with
    kind := "sql"
    type := "odbc"
    driverOptionsJson := .str "?"
    propertiesJson := .null
    secretsCiphertext := .arr []
    labelsJson := .int 0 }

/-- A patch that sets the four fields. -/
def repairPatch : ConnectionPatch :=
  { ConnectionPatch.empty with
    driverOptions := (odbcDraft "main").driverOptions |> .set
    properties := (odbcDraft "main").properties |> .set
    secrets := (odbcDraft "main").secrets |> .set
    labels := (odbcDraft "main").labels |> .set }

/-- The type of the row accepts the values of the patch. -/
theorem patchAccepted_repairPatch {spec : TypeSpec}
    (hspec : odbcService.registry.getType "odbc" = .ok spec) :
    PatchAccepted odbcService.storage spec (toRecord odbcService.storage unreadableRow)
      repairPatch := by
  have hmem := ConnectionRegistry.mem_types_of_getType hspec
  have heq := eq_of_mem_odbcRegistry hmem
  refine ⟨by simp [repairPatch, ConnectionPatch.empty], fun items hi => ?_, fun _ => ?_,
    fun options ho => ?_, fun items m hi hm => ?_, by simp [repairPatch, odbcDraft],
    by simp [repairPatch, ConnectionPatch.empty],
    by simp [repairPatch, ConnectionPatch.empty, ConnectionPatch.extraDict]⟩
  · cases hi
    obtain ⟨v, hv⟩ : ∃ v, spec.propertiesModel.validate
        (Json.ofObj? (odbcDraft "main").properties) = .ok v := by
      rw [heq]
      exact exists_of_isOk (by decide +kernel)
    obtain ⟨p, hp⟩ := publicAccepts_odbcService.properties spec hmem _ v hv
    exact ⟨v, p, hv, hp⟩
  · rw [heq]
    exact exists_of_isOk (by decide +kernel)
  · cases ho
    trivial
  · cases hi
    rw [heq] at hm
    cases hm
    exact exists_of_isOk (by decide +kernel)

/-- The row is repaired. -/
theorem repair_succeeds_odbc :
    ∃ spec record store',
      (odbcService.update ⟨1, "", 0⟩ .null "a" repairPatch).run [unreadableRow] =
        (.ok record, store') ∧
      (odbcService.get .null "a").run store' = (.ok record, store') ∧
      (∃ view, buildAny odbcService.registry record = .ok (.view view)) ∧
      CarriesPatch spec repairPatch record := by
  obtain ⟨spec, hspec⟩ : ∃ spec, odbcService.registry.getType unreadableRow.type = .ok spec :=
    ⟨_, rfl⟩
  have hkind : unreadableRow.kind = spec.kind := by
    rw [eq_of_mem_odbcRegistry (ConnectionRegistry.mem_types_of_getType hspec)]
    rfl
  -- The four columns have issues, so the view is broken.
  obtain ⟨b, hb, hsets⟩ : ∃ b, buildAny odbcService.registry
      (toRecord odbcService.storage unreadableRow) = .ok (.broken b) ∧
        ∀ issue ∈ b.issues, issue.field ∈ repairPatch.fieldsSet := by
    have hissues : (match buildAny odbcService.registry
        (toRecord odbcService.storage unreadableRow) with
        | .ok (.broken b) => b.issues.all fun issue => repairPatch.fieldsSet.contains issue.field
        | .ok (.view _) => false
        | .error _ => false) = true := by
      decide +kernel
    split at hissues
    · rename_i b hb
      refine ⟨b, hb, fun issue hi => ?_⟩
      simpa using List.all_eq_true.mp hissues issue hi
    · cases hissues
    · cases hissues
  exact ⟨spec, repair_succeeds odbcService readsBack_odbcService
    checkAssumptions_odbcService.imported rfl rfl ⟨1, "", 0⟩ .null "a" [unreadableRow]
    unreadableRow spec b repairPatch rfl rfl hspec hkind hb hsets
    (patchAccepted_repairPatch hspec)⟩

end DbConnection
