import DbConnection.Connectors
import DbConnection.PublicProjection

/-!
# How a stored row is classified

The mapper replaces what it cannot read by empty values and the projector skips the checks of such
columns, so which checks fail is spread over two modules. `classified_exactly` puts it together:
where the models raise nothing but `ValidationError` (`ReadsQuietly`), every row has a read view; it
is a public view exactly if every column reads and every check passes (`Presentable`), and then the
one that `build` gives; and otherwise the issues are those of the columns and then one for each check
that fails of those that were made (`failingChecks`), with no field reported twice.
-/

namespace DbConnection

open PyData Pydantic

/-- A column of the field has a read issue. -/
def ConnectionRecord.reports (record : ConnectionRecord) (field : String) : Bool :=
  record.readIssues.any fun issue => issue.field == field

/-- The type's secrets model, if there is one, accepts the record's secrets. -/
def acceptsSecrets (spec : TypeSpec) (record : ConnectionRecord) : Bool :=
  spec.secretsModel.all fun m => (m.validate (.obj record.secrets)).isOk

/-- A record passes every check beyond the reading of its columns. -/
structure Presentable (registry : ConnectionRegistry) (record : ConnectionRecord)
    (spec : TypeSpec) : Prop where
  /-- The type is registered. -/
  type : registry.getType record.type = .ok spec
  /-- The stored kind is the type's. -/
  kind : record.kind = spec.kind
  /-- The properties model and the public model accept the properties. -/
  properties : ∃ p, publicProperties spec record.properties = .ok p
  /-- The driver and its options are accepted, and the public options model accepts these. -/
  driverOptions : ∃ o, publicDriverOptions spec record = .ok o
  /-- The secrets model, if there is one, accepts the secrets. -/
  secrets : ∀ m, spec.secretsModel = some m → ∃ v, m.validate (.obj record.secrets) = .ok v

/-- The checks that fail, by the field and the code of their issue: of a record of an unknown type
that one, and otherwise those of its fields that no column reports. -/
def failingChecks (registry : ConnectionRegistry) (record : ConnectionRecord) :
    List (String × String) :=
  match registry.getType record.type with
  | .error _ => [("type", "unknown_type")]
  | .ok spec =>
    (([(("kind", "kind_mismatch"), decide (record.kind = spec.kind)),
      (("properties", "invalid_properties"),
        record.reports "properties" || (publicProperties spec record.properties).isOk),
      (("driver_options", "invalid_driver_options"),
        record.reports "driver_options" || (publicDriverOptions spec record).isOk),
      (("secrets", "invalid_secrets"),
        record.reports "secrets" || acceptsSecrets spec record)].filter
          fun check => !check.2).map Prod.fst)

section Columns

variable {C : Type} (storage : Storage C) (row : Row C)

/-- A mapping column has one possible issue. -/
theorem coerceMapping_issue_code {α : Type} {read : Dict Json → Option (Dict α)}
    {fieldName code message : String} {rawValue : Json} {issue : StoredConnectionIssue}
    (h : (coerceMapping read fieldName code message rawValue).issue = some issue) :
    issue.code = code ∧ issue.field = fieldName := by
  unfold coerceMapping at h
  cases hr : rawValue.obj?.bind read with
  | some items => simp [hr] at h
  | none =>
    simp only [hr, Option.some.injEq] at h
    rw [← h]
    exact ⟨rfl, rfl⟩

/-- The driver options column has one possible issue. -/
theorem decodeDriverOptions_issue_code {importer : Importer} {rawValue : Json}
    {issue : StoredConnectionIssue}
    (h : (decodeDriverOptions importer rawValue).issue = some issue) :
    issue.code = "invalid_driver_options" ∧ issue.field = "driver_options" := by
  refine ⟨?_, decodeDriverOptions_issue_field h⟩
  unfold decodeDriverOptions at h
  split at h
  · cases h
  · split at h
    · cases h
    · cases h
      rfl

/-- The secrets column has one of two issues. -/
theorem decodeSecrets_issue_code {encryption : EncryptionProvider C} {ciphertext : C}
    {issue : StoredConnectionIssue} (h : (decodeSecrets encryption ciphertext).issue = some issue) :
    (issue.code = "unreadable_secrets" ∨ issue.code = "invalid_secrets") ∧
      issue.field = "secrets" := by
  refine ⟨?_, decodeSecrets_issue_field h⟩
  unfold decodeSecrets at h
  split at h
  · cases h
    exact .inl rfl
  · cases h
  · cases h
    exact .inr rfl

/-- The fields of the columns, each with its read issue if it has one. -/
def columnIssues : List (String × Option StoredConnectionIssue) :=
  [("driver_options", (decodeDriverOptions storage.importer row.driverOptionsJson).issue),
    ("properties", (readProperties row.propertiesJson).issue),
    ("secrets", (decodeSecrets storage.encryption row.secretsCiphertext).issue),
    ("labels", (readLabels row.labelsJson).issue),
    ("metadata", (readMetadata row.metadataJson).issue),
    ("extra", (readExtra row.extraJson).issue)]

/-- A list of fields with the issues they may have is in order if each issue is its field's. -/
def IssuesOf (columns : List (String × Option StoredConnectionIssue)) : Prop :=
  ∀ column ∈ columns, ∀ issue, column.2 = some issue → issue.field = column.1

/-- The issues found in a list of fields. -/
def foundIssues (columns : List (String × Option StoredConnectionIssue)) :
    List StoredConnectionIssue :=
  columns.filterMap Prod.snd

theorem issuesOf_columnIssues : IssuesOf (columnIssues storage row) := by
  intro column hc issue hi
  simp only [columnIssues, List.mem_cons, List.not_mem_nil, or_false] at hc
  rcases hc with rfl | rfl | rfl | rfl | rfl | rfl
  · exact decodeDriverOptions_issue_field hi
  · exact (coerceMapping_issue_code hi).2
  · exact decodeSecrets_issue_field hi
  · exact (coerceMapping_issue_code hi).2
  · exact (coerceMapping_issue_code hi).2
  · exact (coerceMapping_issue_code hi).2

theorem readIssues_eq : (toRecord storage row).readIssues = foundIssues (columnIssues storage row) := by
  simp only [toRecord, foundIssues, columnIssues, List.filterMap_cons, List.filterMap_nil, id_eq]

/-- The fields with an issue are fields of the list, in its order. -/
theorem foundIssues_sublist {columns : List (String × Option StoredConnectionIssue)}
    (h : IssuesOf columns) :
    List.Sublist ((foundIssues columns).map StoredConnectionIssue.field)
      (columns.map Prod.fst) := by
  induction columns with
  | nil => exact List.Sublist.slnil
  | cons column columns ih =>
    have ih := ih fun c hc => h c (List.mem_cons_of_mem _ hc)
    obtain ⟨field, issue⟩ := column
    cases issue with
    | none => exact ih.cons field
    | some issue =>
      have hfield : issue.field = field := h _ List.mem_cons_self issue rfl
      simpa [foundIssues, hfield] using ih.cons_cons field

/-- A field that is no field of a column is not reported. -/
theorem reports_of_not_mem {field : String}
    (h : field ∉ (columnIssues storage row).map Prod.fst) :
    (toRecord storage row).reports field = false := by
  unfold ConnectionRecord.reports
  rw [List.any_eq_false]
  intro i hi hf
  rw [readIssues_eq] at hi
  have hsub := (foundIssues_sublist (issuesOf_columnIssues storage row)).subset
    (List.mem_map_of_mem hi)
  have hfield : i.field = field := by simpa using hf
  rw [hfield] at hsub
  exact h hsub

/-- A read issue is the issue of its field's column. -/
theorem issue_of_mem_readIssues {i : StoredConnectionIssue}
    (hi : i ∈ (toRecord storage row).readIssues) {issue : Option StoredConnectionIssue}
    (hcolumn : (i.field, issue) ∈ columnIssues storage row) : issue = some i := by
  rw [readIssues_eq] at hi
  obtain ⟨column, hc, hs⟩ := List.mem_filterMap.mp hi
  have hname : column.1 = i.field := (issuesOf_columnIssues storage row column hc i hs).symm
  have hnodup : ((columnIssues storage row).map Prod.fst).Nodup := by simp [columnIssues]
  have heq : column = (i.field, issue) := List.inj_on_of_nodup_map hnodup hc hcolumn hname
  rw [heq] at hs
  exact hs

/-- The codes of the read issues of the columns that are checked further. -/
theorem readIssue_code {i : StoredConnectionIssue} (hi : i ∈ (toRecord storage row).readIssues) :
    (i.field = "properties" → i.code = "invalid_properties") ∧
      (i.field = "driver_options" → i.code = "invalid_driver_options") ∧
      (i.field = "secrets" → i.code = "unreadable_secrets" ∨ i.code = "invalid_secrets") := by
  have hissue : ∀ issue, (i.field, issue) ∈ columnIssues storage row → issue = some i :=
    fun issue => issue_of_mem_readIssues storage row hi
  refine ⟨fun hf => ?_, fun hf => ?_, fun hf => ?_⟩ <;> rw [hf] at hissue
  · have h := hissue (readProperties row.propertiesJson).issue (by simp [columnIssues])
    exact (coerceMapping_issue_code h).1
  · have h := hissue (decodeDriverOptions storage.importer row.driverOptionsJson).issue
      (by simp [columnIssues])
    exact (decodeDriverOptions_issue_code h).1
  · have h := hissue (decodeSecrets storage.encryption row.secretsCiphertext).issue
      (by simp [columnIssues])
    exact (decodeSecrets_issue_code h).1

/-- The projector skips a check exactly if the column is reported. -/
theorem hasReadIssue_toRecord :
    (toRecord storage row).hasReadIssue "invalid_properties" "properties" =
        (toRecord storage row).reports "properties" ∧
      (toRecord storage row).hasReadIssue "invalid_driver_options" "driver_options" =
        (toRecord storage row).reports "driver_options" ∧
      ((toRecord storage row).hasReadIssue "unreadable_secrets" "secrets" ||
          (toRecord storage row).hasReadIssue "invalid_secrets" "secrets") =
        (toRecord storage row).reports "secrets" := by
  have hcode := fun i (hi : i ∈ (toRecord storage row).readIssues) =>
    readIssue_code storage row hi
  unfold ConnectionRecord.hasReadIssue ConnectionRecord.reports
  refine ⟨?_, ?_, ?_⟩ <;> rw [Bool.eq_iff_iff] <;>
    simp only [Bool.or_eq_true, List.any_eq_true, Bool.and_eq_true, beq_iff_eq]
  · constructor
    · rintro ⟨i, hi, -, hf⟩
      exact ⟨i, hi, hf⟩
    · rintro ⟨i, hi, hf⟩
      exact ⟨i, hi, (hcode i hi).1 hf, hf⟩
  · constructor
    · rintro ⟨i, hi, -, hf⟩
      exact ⟨i, hi, hf⟩
    · rintro ⟨i, hi, hf⟩
      exact ⟨i, hi, (hcode i hi).2.1 hf, hf⟩
  · constructor
    · rintro (⟨i, hi, -, hf⟩ | ⟨i, hi, -, hf⟩)
      · exact ⟨i, hi, hf⟩
      · exact ⟨i, hi, hf⟩
    · rintro ⟨i, hi, hf⟩
      rcases (hcode i hi).2.2 hf with hc | hc
      · exact .inl ⟨i, hi, hc, hf⟩
      · exact .inr ⟨i, hi, hc, hf⟩

/-- A record that no column reports reads without an issue in it. -/
theorem reports_of_readIssues_eq_nil {record : ConnectionRecord} (h : record.readIssues = [])
    (field : String) : record.reports field = false := by
  simp [ConnectionRecord.reports, h]

end Columns

section Checks

variable {C : Type} {storage : Storage C} {row : Row C} {registry : ConnectionRegistry}
  {spec : TypeSpec} {properties driverOptions : Option Instance × Option StoredConnectionIssue}
  {secrets : Option StoredConnectionIssue}

/-- The checks of a record of a known type, each with the issue it found. -/
def checkIssues (spec : TypeSpec) (record : ConnectionRecord)
    (properties driverOptions secrets : Option StoredConnectionIssue) :
    List (String × Option StoredConnectionIssue) :=
  [("kind", kindIssue spec record), ("properties", properties),
    ("driver_options", driverOptions), ("secrets", secrets)]

/-- The check of the kind. -/
theorem kindIssue_spec (record : ConnectionRecord) :
    (kindIssue spec record).map (fun i => (i.field, i.code)) =
      if record.kind = spec.kind then none else some ("kind", "kind_mismatch") := by
  unfold kindIssue
  by_cases hk : record.kind = spec.kind <;> simp [hk]

/-- The check of the properties. -/
theorem propertiesPart_spec (h : propertiesPart spec (toRecord storage row) = .ok properties) :
    properties.2.map (fun i => (i.field, i.code)) =
      if (toRecord storage row).reports "properties" ||
        (publicProperties spec (toRecord storage row).properties).isOk then none
      else some ("properties", "invalid_properties") := by
  unfold propertiesPart at h
  rw [(hasReadIssue_toRecord storage row).1] at h
  cases hreports : (toRecord storage row).reports "properties" with
  | true =>
    rw [hreports] at h
    cases h
    simp
  | false =>
    rw [hreports] at h
    cases hp : publicProperties spec (toRecord storage row).properties with
    | ok p =>
      rw [hp] at h
      cases h
      simp [Except.isOk, Except.toBool]
    | error e =>
      rw [hp] at h
      cases e with
      | validation e =>
        cases h
        simp [Except.isOk, Except.toBool]
      | raised exc => cases h

/-- The check of the driver options. -/
theorem driverOptionsPart_spec
    (h : driverOptionsPart spec (toRecord storage row) = .ok driverOptions) :
    driverOptions.2.map (fun i => (i.field, i.code)) =
      if (toRecord storage row).reports "driver_options" ||
        (publicDriverOptions spec (toRecord storage row)).isOk then none
      else some ("driver_options", "invalid_driver_options") := by
  unfold driverOptionsPart at h
  rw [(hasReadIssue_toRecord storage row).2.1] at h
  cases hreports : (toRecord storage row).reports "driver_options" with
  | true =>
    rw [hreports] at h
    cases h
    simp
  | false =>
    rw [hreports] at h
    cases ho : publicDriverOptions spec (toRecord storage row) with
    | ok o =>
      rw [ho] at h
      cases h
      simp [Except.isOk, Except.toBool]
    | error e =>
      rw [ho] at h
      cases e with
      | validationFailed message details =>
        cases h
        simp [Except.isOk, Except.toBool]
      | _ => cases h

/-- The check of the secrets. -/
theorem secretsIssue_spec (h : secretsIssue spec (toRecord storage row) = .ok secrets) :
    secrets.map (fun i => (i.field, i.code)) =
      if (toRecord storage row).reports "secrets" ||
        acceptsSecrets spec (toRecord storage row) then none
      else some ("secrets", "invalid_secrets") := by
  unfold secretsIssue at h
  unfold acceptsSecrets
  cases hm : spec.secretsModel with
  | none =>
    rw [hm] at h
    cases h
    simp
  | some m =>
    rw [hm] at h
    dsimp only at h
    rw [(hasReadIssue_toRecord storage row).2.2] at h
    cases hreports : (toRecord storage row).reports "secrets" with
    | true =>
      rw [hreports] at h
      cases h
      simp
    | false =>
      rw [hreports] at h
      cases hv : m.validate (.obj (toRecord storage row).secrets) with
      | ok v =>
        rw [hv] at h
        cases h
        simp [Except.isOk, Except.toBool, hv]
      | error e =>
        rw [hv] at h
        cases e with
        | validation e =>
          cases h
          simp [Except.isOk, Except.toBool, hv]
        | raised exc => cases h

/-- The tags of the checks that are not passed. -/
theorem filterMap_ite_tag (checks : List ((String × String) × Bool)) :
    (checks.map fun check => if check.2 then none else some check.1).filterMap id =
      (checks.filter fun check => !check.2).map Prod.fst := by
  induction checks with
  | nil => rfl
  | cons check checks ih =>
    obtain ⟨tag, passed⟩ := check
    cases passed <;> simpa using ih

/-- What is read off the issues found is read off each that was found. -/
theorem map_foundIssues {τ : Type} (f : StoredConnectionIssue → τ)
    (columns : List (String × Option StoredConnectionIssue)) :
    (foundIssues columns).map f =
      (columns.map fun column => column.2.map f).filterMap id := by
  induction columns with
  | nil => rfl
  | cons column columns ih =>
    obtain ⟨field, issue⟩ := column
    cases issue <;> simpa [foundIssues] using ih

/-- The issues that the checks find, by field and code. -/
theorem tags_checkIssues (htype : registry.getType (toRecord storage row).type = .ok spec)
    (hchecked : Checked spec (toRecord storage row) properties driverOptions secrets) :
    (foundIssues (checkIssues spec (toRecord storage row) properties.2 driverOptions.2 secrets)).map
        (fun i => (i.field, i.code)) =
      failingChecks registry (toRecord storage row) := by
  rw [map_foundIssues]
  unfold failingChecks
  rw [htype]
  dsimp only
  rw [← filterMap_ite_tag]
  simp only [checkIssues, List.map_cons, List.map_nil, kindIssue_spec,
    propertiesPart_spec hchecked.properties, driverOptionsPart_spec hchecked.driverOptions,
    secretsIssue_spec hchecked.secrets, decide_eq_true_eq]

/-- The issue of a check is its field's. -/
theorem field_of_map_eq_ite {o : Option StoredConnectionIssue} {passed : Prop} [Decidable passed]
    {field code : String} (h : o.map (fun i => (i.field, i.code)) =
      if passed then none else some (field, code)) :
    ∀ i, o = some i → i.field = field ∧ ¬ passed := by
  intro i hi
  subst hi
  by_cases hp : passed
  · simp [hp] at h
  · simp only [hp, if_false, Option.map_some, Option.some.injEq, Prod.mk.injEq] at h
    exact ⟨h.1, hp⟩

/-- A check has an issue of its own field, and only if no column reports the field. -/
theorem checkIssues_spec
    (hchecked : Checked spec (toRecord storage row) properties driverOptions secrets) :
    ∀ check ∈ checkIssues spec (toRecord storage row) properties.2 driverOptions.2 secrets,
      ∀ i, check.2 = some i →
        i.field = check.1 ∧ (toRecord storage row).reports check.1 = false := by
  have hkind : (toRecord storage row).reports "kind" = false :=
    reports_of_not_mem storage row (by simp [columnIssues])
  have hor : ∀ {a b : Bool}, ¬ (a || b) = true → a = false := by
    intro a b h
    cases a <;> simp_all
  intro check hc i hi
  simp only [checkIssues, List.mem_cons, List.not_mem_nil, or_false] at hc
  rcases hc with rfl | rfl | rfl | rfl
  · exact ⟨(field_of_map_eq_ite (kindIssue_spec _) i hi).1, hkind⟩
  · obtain ⟨hf, hp⟩ := field_of_map_eq_ite (propertiesPart_spec hchecked.properties) i hi
    exact ⟨hf, hor hp⟩
  · obtain ⟨hf, hp⟩ := field_of_map_eq_ite
      (driverOptionsPart_spec hchecked.driverOptions) i hi
    exact ⟨hf, hor hp⟩
  · obtain ⟨hf, hp⟩ := field_of_map_eq_ite (secretsIssue_spec hchecked.secrets) i hi
    exact ⟨hf, hor hp⟩

/-- The fields of the issues of the columns and of further issues of other fields are distinct. -/
theorem nodup_fields {further : List StoredConnectionIssue}
    (hnodup : (further.map StoredConnectionIssue.field).Nodup)
    (hother : ∀ i ∈ further, (toRecord storage row).reports i.field = false) :
    (((toRecord storage row).readIssues ++ further).map StoredConnectionIssue.field).Nodup := by
  have hcolumns : ((toRecord storage row).readIssues.map StoredConnectionIssue.field).Nodup := by
    rw [readIssues_eq]
    refine (foundIssues_sublist (issuesOf_columnIssues storage row)).nodup ?_
    simp [columnIssues]
  rw [List.map_append, List.nodup_append]
  refine ⟨hcolumns, hnodup, fun field hf field' hf' he => ?_⟩
  obtain ⟨i, hi, rfl⟩ := List.mem_map.mp hf
  obtain ⟨j, hj, rfl⟩ := List.mem_map.mp hf'
  have hreports : (toRecord storage row).reports j.field = true :=
    List.any_eq_true.mpr ⟨i, hi, by simpa using he⟩
  rw [hother j hj] at hreports
  cases hreports

/-- No column has the field of the issue of an unknown type. -/
theorem reports_type : (toRecord storage row).reports "type" = false :=
  reports_of_not_mem storage row (by simp [columnIssues])

/-- `build_any` of a record of a known type. -/
theorem buildAny_of_type {record : ConnectionRecord}
    (htype : registry.getType record.type = .ok spec)
    (hchecked : Checked spec record properties driverOptions secrets) :
    buildAny registry record =
      if record.readIssues ++
          foundIssues (checkIssues spec record properties.2 driverOptions.2 secrets) ≠ [] then
        .ok (.broken (buildBrokenView record (record.readIssues ++
            foundIssues (checkIssues spec record properties.2 driverOptions.2 secrets))
          (if secrets.isSome then .obj record.secrets else record.rawSecrets)))
      else
        properties.1.elim (.error .assertionError) fun p =>
          .ok (.view (publicView record p driverOptions.1)) := by
  have hfound : [kindIssue spec record, properties.2, driverOptions.2, secrets].filterMap id =
      foundIssues (checkIssues spec record properties.2 driverOptions.2 secrets) := by
    simp only [foundIssues, checkIssues, List.filterMap_cons, List.filterMap_nil, id_eq]
  rw [hchecked.buildAny_eq htype, hfound]

/-- A record without an issue is presentable. -/
theorem presentable_of_no_issue (htype : registry.getType (toRecord storage row).type = .ok spec)
    (hchecked : Checked spec (toRecord storage row) properties driverOptions secrets)
    (hread : (toRecord storage row).readIssues = [])
    (hchecks : foundIssues (checkIssues spec (toRecord storage row) properties.2 driverOptions.2
      secrets) = []) :
    Presentable registry (toRecord storage row) spec := by
  have hreports := reports_of_readIssues_eq_nil hread
  have htags := tags_checkIssues htype hchecked
  rw [hchecks] at htags
  unfold failingChecks at htags
  rw [htype] at htags
  -- No check fails, and none was skipped.
  have hpassed := List.map_eq_nil_iff.mp htags.symm
  rw [List.filter_eq_nil_iff] at hpassed
  simp only [List.mem_cons, List.not_mem_nil, or_false, forall_eq_or_imp, forall_eq, hreports,
    Bool.false_or, Bool.not_eq_true', Bool.not_eq_false, decide_eq_true_eq] at hpassed
  obtain ⟨hkind, hproperties, hoptions, hsecrets⟩ := hpassed
  refine ⟨htype, hkind, exists_of_isOk hproperties, exists_of_isOk hoptions, fun m hm => ?_⟩
  unfold acceptsSecrets at hsecrets
  rw [hm] at hsecrets
  exact exists_of_isOk hsecrets

end Checks

/-- Every stored row that the models of its type read quietly has a read view: a public one exactly
if its columns read without an issue and it is presentable, which is then the one that `build` gives;
and otherwise a broken one, whose issues are those of the columns and then one for each failing
check, with no field reported twice. -/
theorem classified_exactly {C : Type} (registry : ConnectionRegistry) (storage : Storage C)
    (row : Row C)
    (hquiet : ∀ spec, registry.getType (toRecord storage row).type = .ok spec →
      ReadsQuietly spec (toRecord storage row)) :
    ∃ view, buildAny registry (toRecord storage row) = .ok view ∧
      ((∃ v, view = .view v) ↔ (toRecord storage row).readIssues = [] ∧
        ∃ spec, Presentable registry (toRecord storage row) spec) ∧
      (∀ v, view = .view v → build registry (toRecord storage row) = .ok v) ∧
      ∀ b, view = .broken b → ∃ further,
        b.issues = (toRecord storage row).readIssues ++ further ∧ b.issues ≠ [] ∧
        further.map (fun i => (i.field, i.code)) =
          failingChecks registry (toRecord storage row) ∧
        (b.issues.map StoredConnectionIssue.field).Nodup := by
  cases htype : registry.getType (toRecord storage row).type with
  | error e =>
    have hview : buildAny registry (toRecord storage row) = .ok (.broken (buildBrokenView
        (toRecord storage row) ((toRecord storage row).readIssues ++
          [{ field := "type", code := "unknown_type",
             message := "Stored connection type is not registered.",
             details := [("type", .str (toRecord storage row).type)] }])
        (toRecord storage row).rawSecrets)) := by
      unfold buildAny
      rw [htype]
    refine ⟨_, hview, ?_, fun v hv => (by cases hv), fun b hb => ?_⟩
    · constructor
      · rintro ⟨v, hv⟩
        cases hv
      · rintro ⟨-, spec, hspec⟩
        rw [hspec.type] at htype
        cases htype
    · cases hb
      refine ⟨_, rfl, by simp [buildBrokenView], by simp [failingChecks, htype], ?_⟩
      refine nodup_fields (by simp) fun i hi => ?_
      rw [List.mem_singleton.mp hi]
      exact reports_type
  | ok spec =>
    obtain ⟨properties, driverOptions, secrets, hchecked⟩ := (hquiet spec htype).exists_checked
    rw [buildAny_of_type htype hchecked]
    by_cases hissues : (toRecord storage row).readIssues ++ foundIssues (checkIssues spec
        (toRecord storage row) properties.2 driverOptions.2 secrets) = []
    · obtain ⟨hread, hchecks⟩ := List.append_eq_nil_iff.mp hissues
      have hpresent := presentable_of_no_issue htype hchecked hread hchecks
      obtain ⟨p, hp⟩ := hpresent.properties
      obtain ⟨o, ho⟩ := hpresent.driverOptions
      have hview := buildAny_eq_view htype hpresent.kind hread hp ho hpresent.secrets
      rw [buildAny_of_type htype hchecked] at hview
      refine ⟨_, hview, ⟨fun _ => ⟨hread, spec, hpresent⟩, fun _ => ⟨_, rfl⟩⟩, fun v hv => ?_,
        fun b hb => (by cases hb)⟩
      cases hv
      exact build_eq_ok_iff.mpr ⟨spec, p, o, htype, hp, ho, rfl⟩
    · rw [if_pos hissues]
      refine ⟨_, rfl, ⟨fun ⟨v, hv⟩ => (by cases hv), fun ⟨hread, spec', hspec⟩ => ?_⟩,
        fun v hv => (by cases hv), fun b hb => ?_⟩
      · -- A presentable record without read issues has a public view, and no issue.
        obtain ⟨p, hp⟩ := hspec.properties
        obtain ⟨o, ho⟩ := hspec.driverOptions
        have hview := buildAny_eq_view hspec.type hspec.kind hread hp ho hspec.secrets
        rw [buildAny_of_type htype hchecked, if_pos hissues] at hview
        cases hview
      · cases hb
        refine ⟨_, rfl, hissues, tags_checkIssues htype hchecked, ?_⟩
        have hchecks := checkIssues_spec hchecked
        refine nodup_fields ?_ fun i hi => ?_
        · refine (foundIssues_sublist fun check hc i hi => (hchecks check hc i hi).1).nodup ?_
          simp [checkIssues]
        · obtain ⟨check, hc, hs⟩ := List.mem_filterMap.mp hi
          obtain ⟨hf, hreports⟩ := hchecks check hc i hs
          rw [hf]
          exact hreports

/-- A row whose properties are no dictionary and whose kind is not its type's is shown as broken, with
no field reported twice. -/
theorem classified_exactly_twoIssues :
    ∃ b, buildAny odbcRegistry (toRecord odbcService.storage
        { bucketRow "a" with type := "odbc", propertiesJson := .arr [] }) = .ok (.broken b) ∧
      (b.issues.map StoredConnectionIssue.field).Nodup := by
  obtain ⟨view, hview, hpublic, -, hbroken⟩ := classified_exactly odbcRegistry odbcService.storage
    { bucketRow "a" with type := "odbc", propertiesJson := .arr [] }
    fun spec hspec => (odbcRegistry_quiet spec
      (ConnectionRegistry.mem_types_of_getType hspec)).readsQuietly _
  cases view with
  | view v =>
    have hissues := (hpublic.mp ⟨v, rfl⟩).1
    cases hissues
  | broken b =>
    obtain ⟨-, -, -, -, hnodup⟩ := hbroken b rfl
    exact ⟨b, hview, hnodup⟩

end DbConnection
