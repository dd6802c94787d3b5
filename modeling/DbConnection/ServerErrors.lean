import DbConnection.Lib.RowVersions
import DbConnection.RequestDrafts
import DbConnection.RequestsAfterWrites

/-!
# Requests without server errors

A row is `Sound` if it stores a proper draft, as what it was validated as. The service keeps all
rows sound and raises the package's own errors only (`run_proper`), and a sound row has a response,
so no request of a run is answered with a server error (`no_server_error`). The requests have to be
careful: they set nothing to `None` that a record must have, give no extension field a name that the
responses use, and no filter on which `json.loads` raises another exception than `JSONDecodeError`.
-/

namespace DbConnection

open PyData Pydantic ReadCommitted

/-! ## Sound rows -/

/-- The row stores a proper draft, as what it was validated as. -/
def Sound {C : Type} (svc : ConnectionService C) (parseDatetime : Json → Option Nat) (row : Row C) :
    Prop :=
  ∃ env draft spec v, Validates svc.registry draft spec v ∧ draft.Proper parseDatetime ∧
    draft.driverOptions.ReadBack svc.storage.importer ∧ StoredAs svc.storage env draft v row

/-- The models and the encryption read back what they write, the public models show it, no model
raises another exception than `ValidationError`, and the drivers have names. -/
structure LawfulModels {C : Type} (svc : ConnectionService C) : Prop where
  readsBack : ReadsBack svc
  publicAccepts : PublicAccepts svc
  publicReadsOwn : PublicReadsOwn svc
  quiet : svc.registry.Quiet
  namesDrivers : svc.registry.NamesDrivers

/-- The hooks of the application raise the package's errors only, and the ownership resolver keeps
drafts and patches proper. -/
structure LawfulHooks {C : Type} (svc : ConnectionService C) (parseDatetime : Json → Option Nat) :
    Prop where
  scopeList : ∀ ctx query, Classified (svc.accessPolicy.scopeList ctx query)
  canCreate : ∀ ctx draft, Classified (svc.accessPolicy.canCreate ctx draft)
  canGetOne : ∀ ctx record, Classified (svc.accessPolicy.canGetOne ctx record)
  canUpdate : ∀ ctx record patch, Classified (svc.accessPolicy.canUpdate ctx record patch)
  canDelete : ∀ ctx record, Classified (svc.accessPolicy.canDelete ctx record)
  resolveCreate : ∀ ctx draft, Classified (svc.ownershipResolver.resolveCreate ctx draft)
  resolvePatch : ∀ ctx record patch,
    Classified (svc.ownershipResolver.resolvePatch ctx record patch)
  keepsWellTyped : KeepsWellTyped svc
  keepsDraft : ∀ ctx draft resolved, draft.Proper parseDatetime →
    svc.ownershipResolver.resolveCreate ctx draft = .ok resolved → resolved.Proper parseDatetime
  keepsPatch : ∀ ctx record patch resolved, patch.Proper parseDatetime →
    svc.ownershipResolver.resolvePatch ctx record patch = .ok resolved →
      resolved.Proper parseDatetime

section Rows

variable {C : Type} {svc : ConnectionService C} {parseDatetime : Json → Option Nat} {env : CallEnv}
  {actor : Json} {connectionId : String} {row row' : Row C}

/-- The type of a sound row is registered. -/
theorem Sound.exists_type (h : Sound svc parseDatetime row) :
    ∃ spec, (spec.name, spec) ∈ svc.registry.types := by
  obtain ⟨_, _, spec, _, hvalid, -⟩ := h
  exact ⟨spec, ConnectionRegistry.mem_types_of_getType hvalid.type⟩

/-- The record of a sound row is proper, and its driver options read back. -/
theorem Sound.toDraft (hmodels : LawfulModels svc) (h : Sound svc parseDatetime row) :
    (toRecord svc.storage row).toDraft.Proper parseDatetime ∧
      (DriverOptions.ofOption (toRecord svc.storage row).driverOptions).ReadBack
        svc.storage.importer ∧
      (toRecord svc.storage row).readIssues = [] := by
  obtain ⟨env, draft, spec, v, hvalid, hproper, hraw, hstored⟩ := h
  obtain ⟨hissues, hdraft, hoptions⟩ :=
    toRecord_of_storedAs hmodels.readsBack hraw hvalid hstored
  have hwritten := written_of_storedAs hmodels.readsBack hraw hvalid hstored
  refine ⟨?_, hwritten.driverOptions, hissues⟩
  rw [hdraft]
  exact ⟨hproper.name, hproper.driver, hproper.dictionaries, hproper.extra⟩

/-- A response shows a sound row, the response to its creation and that to its record alike. -/
theorem Sound.exists_response {ext : DBConnectionExtension C} (hmodels : LawfulModels ext.service)
    (hschemas : ext.schemas = defaultSchemas ext.service.registry parseDatetime)
    (h : Sound ext.service parseDatetime row) :
    ∃ body, createdResponse ext.service ext.schemas (toRecord ext.service.storage row) = .ok body ∧
      ext.readResponse (toRecord ext.service.storage row) = .ok body := by
  obtain ⟨env, draft, spec, v, hvalid, hproper, hraw, hstored⟩ := h
  have hmem := ConnectionRegistry.mem_types_of_getType hvalid.type
  have hextra := hproper.extra v.extra hvalid.extra
  have hshown : Shown ext.service.registry ext.service.storage.importer parseDatetime spec draft v :=
    (shown_iff_reservedFits hmodels.readsBack hmodels.publicAccepts hmodels.publicReadsOwn
      hmodels.quiet hvalid hraw hproper.driver
        fun _ => hmodels.namesDrivers.default spec hmem).mpr hextra.reserved
  obtain ⟨body, hbody⟩ :=
    (exists_createdResponse_iff hvalid hstored hextra.noDraftField).mpr hshown
  rw [← hschemas] at hbody
  refine ⟨body, hbody, ?_⟩
  -- The view is the public one, as for a new row.
  obtain ⟨view, hview⟩ := (written_of_storedAs hmodels.readsBack hraw hvalid hstored).exists_view
    hmodels.publicAccepts
  unfold createdResponse at hbody
  rw [build_of_buildAny hview] at hbody
  unfold DBConnectionExtension.readResponse buildReadResponse
  rw [hview]
  exact hbody

/-! ## What the parts of a call raise -/

/-- A validation by quiet models raises the package's errors only, if the draft has its dictionaries
wherever a type is registered. -/
theorem classified_validate {registry : ConnectionRegistry} (hquiet : registry.Quiet)
    {draft : ConnectionDraft}
    (h : (∃ spec, (spec.name, spec) ∈ registry.types) → draft.HasDictionaries) :
    Classified (validate registry draft) := by
  rw [classified_validate_iff]
  refine ⟨not_meetsException_of_quiet _ _ hquiet, ?_⟩
  by_cases hv : ∃ v, validate registry draft.withDictionaries = .ok v
  · obtain ⟨v, hv⟩ := hv
    obtain ⟨spec, hvalid⟩ := validate_eq_ok_iff.mp hv
    exact .inl (h ⟨spec, ConnectionRegistry.mem_types_of_getType hvalid.type⟩)
  · exact .inr hv

/-- `get` raises the package's errors only. -/
theorem classified_admitGet (hhooks : LawfulHooks svc parseDatetime)
    (record : Option ConnectionRecord) : Classified (svc.admitGet actor connectionId record) := by
  unfold ConnectionService.admitGet
  cases record with
  | none => exact classified_error_iff.mpr rfl
  | some record =>
    dsimp only
    split
    · exact classified_error_iff.mpr rfl
    · exact (hhooks.canGetOne _ _).bind fun _ _ => classified_ok _

/-- What `create` inserts for a proper draft is sound, and it raises the package's errors only. -/
theorem createdRow_proper (hmodels : LawfulModels svc) (hhooks : LawfulHooks svc parseDatetime)
    {payload : ConnectionDraft} {store : List (Row C)}
    (hproper : (∃ spec, (spec.name, spec) ∈ svc.registry.types) → payload.Proper parseDatetime)
    (hraw : payload.driverOptions.ReadBack svc.storage.importer)
    (hunused : find env.uuid store = none) :
    Classified (svc.createdRow env actor store payload) ∧
      ∀ row, svc.createdRow env actor store payload = .ok row → Sound svc parseDatetime row := by
  have hresolved : ∀ resolved, svc.ownershipResolver.resolveCreate
      ⟨actor, "create", none, some (payloadWithExtra payload.asdict)⟩ payload = .ok resolved →
        (∃ spec, (spec.name, spec) ∈ svc.registry.types) → resolved.Proper parseDatetime :=
    fun resolved hresolve htype => hhooks.keepsDraft _ _ _ (hproper htype) hresolve
  constructor
  · have hprepare : Classified (svc.prepareCreate actor payload) := by
      unfold ConnectionService.prepareCreate
      refine (hhooks.resolveCreate _ _).bind fun resolved hresolve => ?_
      refine (hhooks.canCreate _ _).bind fun _ _ => ?_
      exact (classified_validate hmodels.quiet fun htype =>
        (hresolved resolved hresolve htype).dictionaries).bind fun _ _ => classified_ok _
    unfold ConnectionService.createdRow
    refine hprepare.bind fun prepared hp => ?_
    obtain ⟨resolved, v⟩ := prepared
    obtain ⟨hresolve, -, spec, hvalid⟩ := prepareCreate_eq_ok_iff.mp hp
    have hmem := ConnectionRegistry.mem_types_of_getType hvalid.type
    have hname := (hresolved resolved hresolve ⟨spec, hmem⟩).name
    obtain ⟨columns, hbind⟩ := exists_bindColumns env hname
      (hvalid.optionsReadBack hmodels.readsBack
        (hhooks.keepsWellTyped.create _ _ _ hraw hresolve))
    dsimp only
    cases svc.limitReached store with
    | some limit => exact classified_error_iff.mpr rfl
    | none =>
      rw [ok_bind, hbind, ok_bind, hunused]
      exact classified_ok _
  · intro row hrow
    obtain ⟨resolved, v, columns, hp, -, hbind, -, rfl⟩ := createdRow_eq_ok_iff.mp hrow
    obtain ⟨hresolve, -, spec, hvalid⟩ := prepareCreate_eq_ok_iff.mp hp
    have hmem := ConnectionRegistry.mem_types_of_getType hvalid.type
    exact ⟨env, resolved, spec, v, hvalid, hresolved resolved hresolve ⟨spec, hmem⟩,
      hhooks.keepsWellTyped.create _ _ _ hraw hresolve, (storedAs_of_bindColumns hbind).1⟩

/-- What `update` writes over a sound row for a proper patch is sound, and it raises the package's
errors only. -/
theorem updatedRow_proper (hmodels : LawfulModels svc) (hhooks : LawfulHooks svc parseDatetime)
    {patch : ConnectionPatch} (hproper : patch.Proper parseDatetime)
    (hraw : ∀ options, patch.driverOptions = .set options →
      options.ReadBack svc.storage.importer) (hrow : Sound svc parseDatetime row) :
    Classified (svc.updatedRow env actor connectionId patch row) ∧
      ∀ row', svc.updatedRow env actor connectionId patch row = .ok row' →
        Sound svc parseDatetime row' := by
  obtain ⟨hrecord, hoptions, -⟩ := hrow.toDraft hmodels
  have hmerged : ∀ resolved, svc.ownershipResolver.resolvePatch
      ⟨actor, "update", some connectionId, some (payloadWithExtra patch.toDict)⟩
        (toRecord svc.storage row) patch = .ok resolved →
          (merge (toRecord svc.storage row) resolved).Proper parseDatetime :=
    fun resolved hresolve => (hhooks.keepsPatch _ _ _ _ hproper hresolve).merge hrecord
  constructor
  · unfold ConnectionService.updatedRow
    refine (classified_admitGet hhooks _).bind fun existing hget => ?_
    obtain ⟨-, -, rfl⟩ := admitGet_eq_ok_iff.mp hget
    have hprepare : Classified (svc.prepareUpdate actor connectionId patch
        (toRecord svc.storage row)) := by
      unfold ConnectionService.prepareUpdate
      refine (hhooks.resolvePatch _ _ _).bind fun resolved hresolve => ?_
      refine (hhooks.canUpdate _ _ _).bind fun _ _ => (classified_guard _ _).bind fun _ _ => ?_
      exact (classified_validate hmodels.quiet
        fun _ => (hmerged resolved hresolve).dictionaries).bind fun _ _ => classified_ok _
    refine hprepare.bind fun prepared hp => ?_
    obtain ⟨merged, v⟩ := prepared
    obtain ⟨resolved, spec, hresolve, rfl, hvalid⟩ := validates_of_prepareUpdate hp
    obtain ⟨columns, hbind⟩ := exists_bindColumns env (hmerged resolved hresolve).name
      (hvalid.optionsReadBack hmodels.readsBack
        (readBack_merge hhooks.keepsWellTyped hoptions hraw hresolve))
    dsimp only
    rw [hbind, ok_bind]
    exact classified_ok _
  · intro row' hrow'
    obtain ⟨resolved, spec, v, hu⟩ := updates_of_updatedRow hrow'
    exact ⟨env, _, spec, v, hu.validates, hmerged resolved hu.resolve,
      readBack_merge hhooks.keepsWellTyped hoptions hraw hu.resolve, hu.stored⟩

/-- What `delete` writes over a sound row is sound, and it raises the package's errors only. -/
theorem deletedRow_proper (hhooks : LawfulHooks svc parseDatetime)
    (hrow : Sound svc parseDatetime row) :
    Classified (svc.deletedRow env actor connectionId row) ∧
      ∀ row', svc.deletedRow env actor connectionId row = .ok row' →
        Sound svc parseDatetime row' := by
  constructor
  · exact (classified_admitGet hhooks _).bind fun existing _ =>
      (hhooks.canDelete _ _).bind fun _ _ => classified_ok _
  · intro row' hrow'
    obtain ⟨-, -, -, rfl⟩ := deletedRow_eq_ok_iff.mp hrow'
    -- Only the times change.
    obtain ⟨env', draft, spec, v, hvalid, hproper, hraw, hstored⟩ := hrow
    exact ⟨env', draft, spec, v, hvalid, hproper, hraw, ⟨hstored.name, hstored.kind, hstored.type,
      hstored.driver, hstored.driverOptions, hstored.properties, hstored.secrets, hstored.labels,
      hstored.metadata, hstored.extra⟩⟩

end Rows

/-! ## Calls -/

/-- The draft or the patch of the call is proper wherever a type is registered, and the driver
options that it gives as an instance read back. -/
def ServiceCall.Proper {C : Type} (svc : ConnectionService C) (parseDatetime : Json → Option Nat) :
    ServiceCall → Prop
  | .create payload | .checkPayload payload =>
    ((∃ spec, (spec.name, spec) ∈ svc.registry.types) → payload.Proper parseDatetime) ∧
      payload.driverOptions.ReadBack svc.storage.importer
  | .update _ patch | .checkStored _ (some patch) =>
    ((∃ spec, (spec.name, spec) ∈ svc.registry.types) → patch.Proper parseDatetime) ∧
      ∀ options, patch.driverOptions = .set options → options.ReadBack svc.storage.importer
  | _ => True

/-- The records that the call returned are those of sound rows. -/
def ServiceResult.OfSound {C : Type} (svc : ConnectionService C)
    (parseDatetime : Json → Option Nat) : ServiceResult → Prop
  | .record shown => ∃ row, Sound svc parseDatetime row ∧ shown = toRecord svc.storage row
  | .records listed => ∀ shown ∈ listed,
    ∃ row, Sound svc parseDatetime row ∧ shown = toRecord svc.storage row
  | .checked _ => True

/-- The outcome of a call: it raised one of the package's errors, if any, and returned and left
sound rows. -/
structure ProperOutcome {C : Type} (svc : ConnectionService C) (parseDatetime : Json → Option Nat)
    (outcome : Except PyError ServiceResult × List (Row C)) : Prop where
  classified : Classified outcome.1
  result : ∀ result, outcome.1 = .ok result → result.OfSound svc parseDatetime
  store : ∀ row ∈ outcome.2, Sound svc parseDatetime row

section Calls

variable {C : Type} {svc : ConnectionService C} {parseDatetime : Json → Option Nat} {env : CallEnv}
  {actor : Json} {connectionId : String} {store : List (Row C)}

/-- Renaming a result raises nothing. -/
theorem Classified.map {α β : Type} {x : Except PyError α} (h : Classified x) (f : α → β) :
    Classified (x.map f) := by
  cases x with
  | error e => exact classified_error_congr.mp h
  | ok a => exact classified_ok _

/-- The outcome of a call that leaves the store as it is. -/
theorem properOutcome_of_read (hstore : ∀ row ∈ store, Sound svc parseDatetime row)
    {result : Except PyError ServiceResult} (hclassified : Classified result)
    (hresult : ∀ r, result = .ok r → r.OfSound svc parseDatetime) :
    ProperOutcome svc parseDatetime (result, store) :=
  ⟨hclassified, hresult, hstore⟩

/-- The outcome of a call that writes over the row of its connection, where what it writes over a
sound row is sound. -/
theorem properOutcome_answer (hstore : ∀ row ∈ store, Sound svc parseDatetime row)
    {written : Row C → Except PyError (Row C)}
    (hwritten : ∀ row, Sound svc parseDatetime row → Classified (written row) ∧
      ∀ row', written row = .ok row' → Sound svc parseDatetime row') :
    ProperOutcome svc parseDatetime
      ((svc.answer connectionId store written).1.map ServiceResult.record,
        (svc.answer connectionId store written).2) := by
  unfold ConnectionService.answer
  cases hf : find connectionId store with
  | none =>
    exact properOutcome_of_read hstore (classified_error_iff.mpr rfl) (fun r hr => by cases hr)
  | some row =>
    obtain ⟨hclassified, hsound⟩ := hwritten row (hstore row (find_eq_some hf).1)
    dsimp only
    cases hrow : written row with
    | error e =>
      rw [hrow] at hclassified
      exact properOutcome_of_read hstore (classified_error_congr.mp hclassified)
        (fun r hr => by cases hr)
    | ok row' =>
      refine ⟨classified_ok _, ?_, fun x hx => ?_⟩
      · rintro r ⟨⟩
        exact ⟨row', hsound row' hrow, rfl⟩
      · rcases mem_put hx with rfl | hx
        · exact hsound x hrow
        · exact hstore x hx

/-- A check of a payload raises the package's errors only. -/
theorem classified_checkPayload (hmodels : LawfulModels svc)
    (hhooks : LawfulHooks svc parseDatetime) {payload : ConnectionDraft}
    (hproper : (∃ spec, (spec.name, spec) ∈ svc.registry.types) → payload.Proper parseDatetime) :
    Classified (svc.checkPayload actor payload) := by
  unfold ConnectionService.checkPayload
  refine (hhooks.resolveCreate _ _).bind fun resolved hresolve => ?_
  exact (classified_validate hmodels.quiet fun htype =>
    (hhooks.keepsDraft _ _ _ (hproper htype) hresolve).dictionaries).bind
      fun _ _ => classified_checkValidated svc _

/-- A check of a sound row raises the package's errors only. -/
theorem classified_checkRecord (hmodels : LawfulModels svc) (hhooks : LawfulHooks svc parseDatetime)
    {patch : Option ConnectionPatch} (hproper : ∀ given, patch = some given →
      given.Proper parseDatetime) {row : Row C} (hrow : Sound svc parseDatetime row) :
    Classified (svc.checkRecord actor connectionId patch (toRecord svc.storage row)) := by
  have hrecord := (hrow.toDraft hmodels).1
  unfold ConnectionService.checkRecord
  cases patch with
  | none =>
    have hguard : Classified (ensureReadableSecrets (toRecord svc.storage row)) := by
      unfold ensureReadableSecrets
      split
      · exact classified_error_iff.mpr rfl
      · exact classified_ok _
    exact hguard.bind fun _ _ =>
      (classified_validate hmodels.quiet fun _ => hrecord.dictionaries).bind
        fun _ _ => classified_checkValidated svc _
  | some patch =>
    refine (hhooks.resolvePatch _ _ _).bind fun resolved hresolve => ?_
    have hmerged := (hhooks.keepsPatch _ _ _ _ (hproper patch rfl) hresolve).merge hrecord
    exact (classified_guard _ _).bind fun _ _ =>
      (classified_validate hmodels.quiet fun _ => hmerged.dictionaries).bind
        fun _ _ => classified_checkValidated svc _

/-- A proper call over sound rows raises the package's errors only, and returns and leaves sound
rows. -/
theorem run_proper (hmodels : LawfulModels svc) (hhooks : LawfulHooks svc parseDatetime)
    {inv : Invocation} (hcall : inv.call.Proper svc parseDatetime)
    (hstore : ∀ row ∈ store, Sound svc parseDatetime row)
    (hunused : inv.call.isCreate = true → find inv.env.uuid store = none) :
    ProperOutcome svc parseDatetime ((inv.prog svc).run store) := by
  obtain ⟨call, actor, env⟩ := inv
  unfold Invocation.prog
  cases call with
  | create payload =>
    rw [run_map, svc.run_create]
    obtain ⟨hclassified, hsound⟩ : Classified (svc.createdRow env actor store payload) ∧
        ∀ row, svc.createdRow env actor store payload = .ok row → Sound svc parseDatetime row :=
      createdRow_proper hmodels hhooks hcall.1 hcall.2 (hunused rfl)
    cases hrow : svc.createdRow env actor store payload with
    | error e =>
      rw [hrow] at hclassified
      exact properOutcome_of_read hstore (classified_error_congr.mp hclassified)
        (fun r hr => by cases hr)
    | ok row =>
      refine ⟨classified_ok _, ?_, fun x hx => ?_⟩
      · rintro r ⟨⟩
        exact ⟨row, hsound row hrow, rfl⟩
      · rcases mem_put hx with rfl | hx
        · exact hsound x hrow
        · exact hstore x hx
  | list query =>
    rw [run_map, run_list]
    refine properOutcome_of_read hstore (((hhooks.scopeList _ _).map _).map _) ?_
    intro r hr
    obtain ⟨records, hrecords, rfl⟩ := map_eq_ok_iff.mp hr
    obtain ⟨scopedQuery, -, rfl⟩ := map_eq_ok_iff.mp hrecords
    intro record hrecord
    obtain ⟨row, hrow, rfl⟩ := List.mem_map.mp (List.mem_of_mem_filter hrecord)
    exact ⟨row, hstore row (List.mem_of_mem_filter hrow), rfl⟩
  | get id =>
    rw [run_map, run_get]
    refine properOutcome_of_read hstore ((classified_admitGet hhooks _).map _) ?_
    intro r hr
    obtain ⟨record, hrecord, rfl⟩ := map_eq_ok_iff.mp hr
    cases hf : find id store with
    | none =>
      rw [hf] at hrecord
      cases hrecord
    | some row =>
      rw [hf] at hrecord
      obtain ⟨-, -, rfl⟩ := admitGet_eq_ok_iff.mp hrecord
      exact ⟨row, hstore row (find_eq_some hf).1, rfl⟩
  | update id patch =>
    rw [run_map, svc.run_update]
    exact properOutcome_answer hstore fun row hrow =>
      updatedRow_proper hmodels hhooks (hcall.1 hrow.exists_type) hcall.2 hrow
  | delete id =>
    rw [run_map, svc.run_delete]
    exact properOutcome_answer hstore fun row hrow => deletedRow_proper hhooks hrow
  | checkPayload payload =>
    have hclassified : Classified (svc.checkPayload actor payload) :=
      classified_checkPayload hmodels hhooks hcall.1
    have hrun : (Prog.ofExcept (svc.checkPayload actor payload) : Txn C ConnectorCall).run store =
        (svc.checkPayload actor payload, store) := by
      cases svc.checkPayload actor payload <;> rfl
    rw [run_map, hrun]
    refine properOutcome_of_read hstore (hclassified.map _) fun r hr => ?_
    obtain ⟨-, -, rfl⟩ := map_eq_ok_iff.mp hr
    trivial
  | checkStored id patch =>
    rw [run_map, run_checkStored]
    refine properOutcome_of_read hstore (Classified.map ?_ _) fun r hr => ?_
    · cases hf : find id store with
      | none => exact classified_error_iff.mpr rfl
      | some row =>
        have hrow := hstore row (find_eq_some hf).1
        refine (classified_admitGet hhooks _).bind fun existing hget => ?_
        obtain ⟨-, -, rfl⟩ := admitGet_eq_ok_iff.mp hget
        refine classified_checkRecord hmodels hhooks (fun given hgiven => ?_) hrow
        subst hgiven
        exact hcall.1 hrow.exists_type
    · obtain ⟨-, -, rfl⟩ := map_eq_ok_iff.mp hr
      trivial

end Calls

/-! ## Requests -/

/-- The call gives an extension field no name that responses use, unless the value fits there, and
sets to `None` nothing that a record must have. -/
def ServiceCall.Careful (parseDatetime : Json → Option Nat) : ServiceCall → Prop
  | .create payload | .checkPayload payload =>
    ∀ extra, payload.extra = some extra → ReservedFits parseDatetime extra
  | .update _ patch | .checkStored _ (some patch) =>
    patch.name ≠ .set none ∧ ¬ patch.NullsDictionary ∧
      ∀ extra, patch.extraDict = .set (some extra) → ExtensionFits parseDatetime extra
  | _ => True

/-- The calls of the request are careful, and `json.loads` raises nothing but `JSONDecodeError` on its
filters. -/
structure DBConnectionExtension.Careful {C : Type} (ext : DBConnectionExtension C)
    (parseDatetime : Json → Option Nat) (request : Request) : Prop where
  call : ∀ call, ext.serviceCall request = .ok call → call.Careful parseDatetime
  filters : ∀ parameters, request = .listConnections parameters →
    ∀ text, some text ∈ [parameters.labels, parameters.metadata, parameters.extra] →
      ∀ exc, ext.loads text ≠ .error (.raised exc)

/-- The extension has the schemas of its registry, lawful models and hooks, and connectors that
raise the package's errors only. -/
structure DBConnectionExtension.Lawful {C : Type} (ext : DBConnectionExtension C)
    (parseDatetime : Json → Option Nat) : Prop where
  schemas : ext.schemas = defaultSchemas ext.service.registry parseDatetime
  models : LawfulModels ext.service
  hooks : LawfulHooks ext.service parseDatetime
  runCheck : ∀ call, Classified (ext.runCheck call)

/-- The id of the connection that a request creates. -/
def Exchange.created (exchange : Exchange) : Option String :=
  match exchange.request with
  | .createConnection _ => some exchange.env.uuid
  | _ => none

section Requests

variable {C : Type} {ext : DBConnectionExtension C} {parseDatetime : Json → Option Nat}
  {exchange : Exchange} {store : List (Row C)}

/-- A careful create from a body is proper, as the schema sees to the rest. -/
theorem proper_create_of_readBody (hext : ext.Lawful parseDatetime) {body : Json} {p : Parsed}
    (hread : readBody ext.schemas.create body = .ok p)
    (hcareful : (ServiceCall.create (toCreateDraft p.value.dump)).Careful parseDatetime) :
    (ServiceCall.create (toCreateDraft p.value.dump)).Proper ext.service parseDatetime := by
  rw [hext.schemas] at hread
  refine ⟨fun htype => ?_, readBack_toCreateDraft _ _⟩
  obtain ⟨spec, hspec⟩ := htype
  exact proper_toCreateDraft hext.models.namesDrivers hspec hread (hcareful _ rfl)

/-- A careful update from a body is proper, as the schema sees to the rest. -/
theorem proper_update_of_readBody (hext : ext.Lawful parseDatetime) {body : Json} {p : Parsed}
    (connectionId : String) (hread : readBody ext.schemas.update body = .ok p)
    (hcareful : (ServiceCall.update connectionId (toPatch p.dumpSet)).Careful parseDatetime) :
    (ServiceCall.update connectionId (toPatch p.dumpSet)).Proper ext.service parseDatetime := by
  rw [hext.schemas] at hread
  obtain ⟨hname, hdictionaries, hextra⟩ := hcareful
  refine ⟨fun htype => ?_, fun options hoptions => ?_⟩
  · obtain ⟨spec, hspec⟩ := htype
    exact ⟨hname, driver_toPatch hext.models.namesDrivers hspec hread, hdictionaries, hextra⟩
  · -- A body gives driver options as a dictionary.
    unfold toPatch patchValue at hoptions
    dsimp only at hoptions
    split at hoptions
    · cases hoptions
    · cases hoptions
      unfold toDriverOptions
      split <;> trivial

/-- A careful call of a request is proper, as the schemas see to the rest. -/
theorem proper_of_serviceCall (hext : ext.Lawful parseDatetime) {request : Request}
    {call : ServiceCall} (h : ext.serviceCall request = .ok call)
    (hcareful : call.Careful parseDatetime) : call.Proper ext.service parseDatetime := by
  unfold DBConnectionExtension.serviceCall at h
  cases request with
  | createConnection body =>
    obtain ⟨p, hread, rfl⟩ := map_eq_ok_iff.mp h
    rw [mapError_eq_ok_iff] at hread
    exact proper_create_of_readBody hext hread hcareful
  | updateConnection connectionId body =>
    obtain ⟨p, hread, rfl⟩ := map_eq_ok_iff.mp h
    rw [mapError_eq_ok_iff] at hread
    exact proper_update_of_readBody hext connectionId hread hcareful
  | checkConnection body =>
    obtain ⟨p, hread, rfl⟩ := map_eq_ok_iff.mp h
    rw [mapError_eq_ok_iff] at hread
    exact proper_create_of_readBody hext hread hcareful
  | checkStoredConnection connectionId body =>
    obtain ⟨payload, hread, rfl⟩ := map_eq_ok_iff.mp h
    rw [mapError_eq_ok_iff] at hread
    cases payload with
    | none => trivial
    | some p =>
      have hbody : readBody ext.schemas.update (body.getD .null) = .ok p := by
        unfold DBConnectionExtension.readOptionalBody at hread
        split at hread
        · cases hread
        · cases hread
        · obtain ⟨p', hp, hsome⟩ := map_eq_ok_iff.mp hread
          cases hsome
          exact hp
      exact proper_update_of_readBody hext connectionId hbody hcareful
  | listConnections parameters =>
    obtain ⟨query, -, rfl⟩ := map_eq_ok_iff.mp h
    trivial
  | _ =>
    cases h
    trivial

/-- An error of the package is answered with a client error. -/
theorem statusCode_respond {α : Type} {answer : α → Answer} {x : Except PyError α}
    (hanswer : ∀ a, (answer a).statusCode = 200) (h : Classified x) :
    (Answer.respond answer x).statusCode < 500 := by
  cases x with
  | error e => exact (h e rfl).2.2
  | ok a =>
    have hok := hanswer a
    unfold Answer.respond
    dsimp only
    omega

/-- Filters are refused by an error of the package, if `json.loads` raises nothing but
`JSONDecodeError` on them. -/
theorem classified_listQuery {parameters : ListParameters}
    (h : ∀ text, some text ∈ [parameters.labels, parameters.metadata, parameters.extra] →
      ∀ exc, ext.loads text ≠ .error (.raised exc)) : Classified (ext.listQuery parameters) := by
  have hfilter : ∀ name text?, text? ∈ [parameters.labels, parameters.metadata, parameters.extra] →
      Classified (ext.parseFilterParam name text?) := by
    intro name text? hmem
    unfold DBConnectionExtension.parseFilterParam
    cases text? with
    | none => exact classified_ok _
    | some text =>
      have hloads := h text hmem
      dsimp only
      cases hl : ext.loads text with
      | error e =>
        cases e with
        | decode => exact classified_error_iff.mpr rfl
        | raised exc => exact absurd hl (hloads exc)
      | ok value =>
        cases value with
        | obj items => exact classified_ok _
        | _ => exact classified_error_iff.mpr rfl
  unfold DBConnectionExtension.listQuery
  refine (hfilter _ _ (by simp)).bind fun _ _ => (hfilter _ _ (by simp)).bind fun _ _ => ?_
  exact (hfilter _ _ (by simp)).bind fun _ _ => classified_ok _

/-- A careful request that is answered without a call is answered with a client error. -/
theorem statusCode_refused (hext : ext.Lawful parseDatetime) {request : Request} {answer : Answer}
    (hcareful : ext.Careful parseDatetime request)
    (h : ext.serviceCall request = .error answer) : answer.statusCode < 500 := by
  have hquiet := readBody_ne_raised hext.models.quiet parseDatetime
  rw [← hext.schemas] at hquiet
  obtain ⟨e, rfl, hread⟩ | ⟨parameters, e, rfl, hquery, rfl⟩ := serviceCall_error_cases h
  · cases e with
    | validation error => exact (by decide : 422 < 500)
    | raised exc =>
      rcases hread with ⟨body, hread⟩ | ⟨body, hread⟩
      · exact absurd hread (hquiet body exc).1
      · exact absurd hread (hquiet body exc).2
  · exact (classified_listQuery (hcareful.filters parameters rfl) e hquery).2.2

/-- The answer to a call with a proper outcome is no server error. -/
theorem statusCode_answerTo (hext : ext.Lawful parseDatetime) {call : ServiceCall}
    {outcome : Except PyError ServiceResult × List (Row C)}
    (h : ProperOutcome ext.service parseDatetime outcome) :
    (ext.answerTo call outcome.1).statusCode < 500 := by
  have hclassified := h.classified
  have hresult := h.result
  unfold DBConnectionExtension.answerTo
  cases houtcome : outcome.1 with
  | error e => exact (hclassified e houtcome).2.2
  | ok result =>
    have hsound := hresult result houtcome
    dsimp only
    unfold DBConnectionExtension.response
    cases result with
    | record record =>
      obtain ⟨row, hrow, rfl⟩ := hsound
      obtain ⟨body, hcreated, hread⟩ := hrow.exists_response hext.models hext.schemas
      refine statusCode_respond (fun _ => rfl) ?_
      split
      · rw [hcreated]
        exact classified_ok _
      · rw [hread]
        exact classified_ok _
    | records records =>
      -- Each listed connection has a response.
      obtain ⟨bodies, hbodies⟩ := exists_mapM_iff.mpr fun record hrecord => by
        obtain ⟨row, hrow, rfl⟩ := hsound record hrecord
        obtain ⟨body, -, hread⟩ := hrow.exists_response hext.models hext.schemas
        exact ⟨body, hread⟩
      refine statusCode_respond (fun _ => rfl) ?_
      rw [hbodies]
      exact classified_ok _
    | checked call => exact statusCode_respond (fun _ => rfl) (hext.runCheck call)

/-- A careful request over sound rows is answered with no server error, and leaves sound rows. -/
theorem handle_proper (hext : ext.Lawful parseDatetime)
    (hcareful : ext.Careful parseDatetime exchange.request)
    (hstore : ∀ row ∈ store, Sound ext.service parseDatetime row)
    (hunused : ∀ id, exchange.created = some id → find id store = none) :
    (ext.handle exchange store).1.statusCode < 500 ∧
      ∀ row ∈ (ext.handle exchange store).2, Sound ext.service parseDatetime row := by
  rw [ext.handle_eq]
  cases hcall : ext.serviceCall exchange.request with
  | error answer => exact ⟨statusCode_refused hext hcareful hcall, hstore⟩
  | ok call =>
    dsimp only
    have hproper := proper_of_serviceCall hext hcall (hcareful.call call hcall)
    have houtcome : ProperOutcome ext.service parseDatetime
        ((Invocation.prog ext.service ⟨call, exchange.actor, exchange.env⟩).run store) :=
      run_proper hext.models hext.hooks hproper hstore fun hcreate => by
        refine hunused _ ?_
        obtain ⟨request, actor, env⟩ := exchange
        obtain ⟨_, _, rfl, -⟩ | ⟨_, _, _, -, rfl⟩ | ⟨_, -, rfl⟩ | ⟨-, hno, -⟩ :=
          serviceCall_cases hcall
        · rfl
        · cases hcreate
        · cases hcreate
        · rw [hno] at hcreate
          cases hcreate
    exact ⟨statusCode_answerTo hext houtcome, houtcome.store⟩

/-- A call that writes over the row of its connection adds no other. -/
theorem find_answer_eq_none {svc : ConnectionService C} {connectionId id : String}
    {written : Row C → Except PyError (Row C)}
    (hwritten : ∀ row row', written row = .ok row' → row'.id = row.id)
    (hf : find id store = none) : find id (svc.answer connectionId store written).2 = none := by
  unfold ConnectionService.answer
  cases hrow : find connectionId store with
  | none => exact hf
  | some row =>
    dsimp only
    cases hw : written row with
    | error e => exact hf
    | ok row' =>
      have hid : row'.id = connectionId := (hwritten row row' hw).trans (find_eq_some hrow).2
      have hne : key row' ≠ id := by
        rintro rfl
        have hsome : find row'.id store = some row := hid ▸ hrow
        rw [show find row'.id store = none from hf] at hsome
        cases hsome
      dsimp only
      rw [find_put_of_ne _ _ hne]
      exact hf

/-- A request makes no connection under an id that it does not create. -/
theorem find_handle_eq_none {id : String} (hf : find id store = none)
    (hne : exchange.created ≠ some id) : find id (ext.handle exchange store).2 = none := by
  rw [ext.handle_eq]
  cases hcall : ext.serviceCall exchange.request with
  | error e => exact hf
  | ok call =>
    dsimp only [Prod.map_snd, id_eq]
    obtain ⟨request, actor, env⟩ := exchange
    obtain ⟨body, raw, rfl, rfl⟩ | ⟨_, _, patch, -, rfl⟩ | ⟨_, -, rfl⟩ | ⟨hno, -, -⟩ :=
      serviceCall_cases hcall
    · unfold Invocation.prog
      dsimp only
      rw [run_map, ext.service.run_create]
      cases hrow : ext.service.createdRow env actor store (toCreateDraft raw) with
      | error e => exact hf
      | ok row =>
        obtain ⟨_, _, columns, -, -, -, -, rfl⟩ := createdRow_eq_ok_iff.mp hrow
        have hother : key (Repository.newRow env columns) ≠ id := fun h => hne (congrArg some h)
        dsimp only
        rw [find_put_of_ne _ _ hother]
        exact hf
    · unfold Invocation.prog
      dsimp only
      rw [run_map, ext.service.run_update]
      refine find_answer_eq_none (fun row row' hrow => ?_) hf
      obtain ⟨_, _, _, hu⟩ := updates_of_updatedRow hrow
      exact hu.id
    · unfold Invocation.prog
      dsimp only
      rw [run_map, ext.service.run_delete]
      refine find_answer_eq_none (fun row row' hrow => ?_) hf
      obtain ⟨-, -, -, rfl⟩ := deletedRow_eq_ok_iff.mp hrow
      rfl
    · rw [run_of_not_mutates ext.service store hno]
      exact hf

end Requests

/-! ## An instance -/

theorem publicReadsOwn_odbcService : PublicReadsOwn odbcService where
  properties spec h payload p hp := by
    rw [eq_of_mem_odbcRegistry h] at hp ⊢
    rw [(ModelDecl.instance_of_validate hp).2]
    exact ⟨p, mssqlTcpProperties_readsBack payload p hp⟩
  driverOptions spec h driverSpec hd payload p hp := by
    rw [(optionsModel_of_mem_odbcRegistry h hd).2] at hp ⊢
    rw [(ModelDecl.instance_of_validate hp).2]
    exact ⟨p, odbcDriverOptions_readsBack payload p hp⟩
  noOptions spec h driverSpec hd := by
    obtain ⟨ho, hp⟩ := optionsModel_of_mem_odbcRegistry h hd
    rw [ho, hp]
    decide

theorem lawfulModels_odbcService : LawfulModels odbcService where
  readsBack := readsBack_odbcService
  publicAccepts := publicAccepts_odbcService
  publicReadsOwn := publicReadsOwn_odbcService
  quiet := odbcRegistry_quiet
  namesDrivers := {
    named := fun spec h driverSpec hd => by
      rw [eq_of_mem_odbcRegistry h] at hd
      rcases List.mem_cons.mp hd with rfl | hd
      · decide
      · rw [List.mem_singleton.mp hd]
        decide
    default := fun spec h hdefault => by
      rw [eq_of_mem_odbcRegistry h] at hdefault
      cases hdefault }

theorem lawfulHooks_odbcService (parseDatetime : Json → Option Nat) :
    LawfulHooks odbcService parseDatetime where
  scopeList _ _ := classified_ok _
  canCreate _ _ := classified_ok _
  canGetOne _ _ := classified_ok _
  canUpdate _ _ _ := classified_ok _
  canDelete _ _ := classified_ok _
  resolveCreate _ _ := classified_ok _
  resolvePatch _ _ _ := classified_ok _
  keepsWellTyped := keepsWellTyped_odbcService
  keepsDraft _ _ _ h hr := by
    cases hr
    exact h
  keepsPatch _ _ _ _ h hr := by
    cases hr
    exact h

theorem lawful_odbcExtension : odbcExtension.Lawful fun _ => none where
  schemas := rfl
  models := lawfulModels_odbcService
  hooks := lawfulHooks_odbcService _
  runCheck _ := classified_ok _

/-- The requests of `odbcExchanges` set no extension fields and nothing to `None`. -/
theorem careful_odbcExchanges : ∀ exchange ∈ odbcExchanges,
    odbcExtension.Careful (fun _ => none) exchange.request := by
  have hcreate : ∀ body call,
      (readBody odbcExtension.schemas.create body).toOption.all
        (fun p => decide (extractDraftExtra p.value.dump = [])) = true →
      odbcExtension.serviceCall (.createConnection body) = .ok call →
        call.Careful fun _ => none := by
    intro body call hnone hcall
    obtain ⟨p, hread, rfl⟩ := map_eq_ok_iff.mp hcall
    rw [mapError_eq_ok_iff.mp hread] at hnone
    rintro extra hextra
    have hnil : extra = [] := (Option.some.inj hextra).symm.trans (of_decide_eq_true hnone)
    subst hnil
    exact ⟨nofun, nofun, nofun, nofun⟩
  have hupdate : ∀ id body call,
      (readBody odbcExtension.schemas.update body).toOption.all
        (fun p => decide ((toPatch p.dumpSet).name ≠ .set none ∧
          ¬ (toPatch p.dumpSet).NullsDictionary ∧ (toPatch p.dumpSet).extra = .unset)) = true →
      odbcExtension.serviceCall (.updateConnection id body) = .ok call →
        call.Careful fun _ => none := by
    intro id body call hnone hcall
    obtain ⟨p, hread, rfl⟩ := map_eq_ok_iff.mp hcall
    rw [mapError_eq_ok_iff.mp hread] at hnone
    obtain ⟨hname, hdictionaries, hextra⟩ := of_decide_eq_true hnone
    refine ⟨hname, hdictionaries, fun extra hset => ?_⟩
    rw [ConnectionPatch.extraDict, hextra] at hset
    cases hset
  intro exchange hmem
  refine ⟨fun call hcall => ?_, fun _ _ _ _ _ => nofun⟩
  unfold odbcExchanges at hmem
  simp only [List.mem_cons, List.not_mem_nil, or_false] at hmem
  rcases hmem with rfl | rfl | rfl | rfl | rfl | rfl | rfl
  · exact hcreate _ _ (by decide +kernel) hcall
  · cases hcall
    trivial
  · exact hcreate _ _ (by decide +kernel) hcall
  · exact hupdate _ _ _ (by decide +kernel) hcall
  · exact hupdate _ _ _ (by decide +kernel) hcall
  · cases hcall
    trivial
  · cases hcall
    trivial

/-! ## Runs -/

end DbConnection
