import DbConnection.CreateResponses
import DbConnection.Lifecycle

/-!
# Extension fields in responses

A response carries the fields of its view and then the extension fields of the record, which are
put over them. The extension fields of a create body are its keys but those of a draft, and the
response has fields that no draft has: the id, the timestamps and, where the view is broken, the
state, the issues and the raw columns. `extension_isolated_iff` says that the extension fields
leave a response alone exactly when none of them gives one of its fields another value
(`KeepsReserved`), and that then a list of responses only fails with the fields of a view.
-/

namespace DbConnection

open PyData Pydantic ReadCommitted

namespace ReadView

/-- The fields of its own that the response to a view has. -/
def ownData : ReadView → Dict FieldInput
  | .view v => viewData v
  | .broken v => brokenViewData v

/-- The extension fields of a view. -/
def extra : ReadView → Dict Json
  | .view v => v.extra
  | .broken v => v.extra

/-- The data of the response to a view. -/
def data : ReadView → Dict FieldInput
  | .view v => responseData v
  | .broken v => brokenResponseData v

/-- The schema of the response to a view accepts the data: the read schema of the registry, or the
schema of broken connections. -/
def Accepts (registry : ConnectionRegistry) (parseDatetime : Json → Option Nat) (view : ReadView)
    (data : Dict FieldInput) : Prop :=
  match view with
  | .view _ => ∃ r, readInputs (defaultSchemas registry parseDatetime).read data = .ok r
  | .broken _ => ∃ r, (brokenConnectionReadResponse parseDatetime).parseInputs data = .ok r

/-- The extension fields of a view leave its response alone. -/
structure Isolated (registry : ConnectionRegistry) (parseDatetime : Json → Option Nat)
    (view : ReadView) : Prop where
  /-- The data carries the view's own fields. -/
  carries : ∀ field own, view.ownData.lookup field = some own → view.data.lookup field = some own
  /-- The schema accepts it if it accepts the fields of the view alone. -/
  accepted : view.Accepts registry parseDatetime view.ownData →
    view.Accepts registry parseDatetime view.data

/-- No extension field gives a field of the response another value. -/
def KeepsReserved (view : ReadView) : Prop :=
  ∀ field own, view.ownData.lookup field = some own →
    ∀ value, view.extra.lookup field = some value → FieldInput.json value = own

/-- The extension fields are put over the view's own. -/
theorem data_eq (view : ReadView) : view.data = view.ownData.update (toFieldInputs view.extra) := by
  cases view <;> rfl

/-- A response carries the fields of its view exactly when no extension field gives one of them
another value. -/
theorem carries_iff (view : ReadView) :
    (∀ field own, view.ownData.lookup field = some own → view.data.lookup field = some own) ↔
      view.KeepsReserved := by
  refine forall₃_congr fun field own hown => ?_
  rw [data_eq, Dict.lookup_update_eq_iff hown, lookup_toFieldInputs]
  simp only [Option.map_eq_some_iff, forall_exists_index, and_imp]
  constructor
  · intro h value hvalue
    exact h _ value hvalue rfl
  · rintro h _ value hvalue rfl
    exact h value hvalue

end ReadView

/-! ## What a schema reads -/

/-- A model of responses reads each of its fields, which have no validators, under its own name, and
the data has them all. -/
structure ReadsOwn (model : ModelDecl) (own : Dict FieldInput) : Prop where
  keepsKeys : model.KeepsKeys
  noValidators : ∀ field ∈ model.fields, field.NoValidators
  given : ∀ field ∈ model.fields, (own.lookup field.name).isSome

/-- Data that carries the fields of a response gives the same for each field. -/
theorem ReadsOwn.lookup_eq {model : ModelDecl} {own data : Dict FieldInput}
    (h : ReadsOwn model own)
    (hcarries : ∀ field value, own.lookup field = some value → data.lookup field = some value) :
    ∀ field ∈ model.fields, own.lookup field.name = data.lookup field.name := by
  intro field hf
  obtain ⟨value, hvalue⟩ := Option.isSome_iff_exists.mp (h.given field hf)
  rw [hvalue, hcarries field.name value hvalue]

/-- A model of responses accepts whatever has the fields of a response that it accepts. -/
theorem ReadsOwn.exists_parseInputs {model : ModelDecl} {own data : Dict FieldInput}
    (h : ReadsOwn model own)
    (hcarries : ∀ field value, own.lookup field = some value → data.lookup field = some value)
    (hown : ∃ p, model.parseInputs own = .ok p) : ∃ p, model.parseInputs data = .ok p :=
  (h.keepsKeys.exists_parseInputs_congr h.noValidators (h.lookup_eq hcarries)).mp hown

/-- A model of responses raises no exception on what has the fields of a response on which it raises
none. -/
theorem ReadsOwn.ne_raised {model : ModelDecl} {own data : Dict FieldInput}
    (h : ReadsOwn model own)
    (hcarries : ∀ field value, own.lookup field = some value → data.lookup field = some value)
    (hown : ∀ exc, model.parseInputs own ≠ .error (.raised exc)) (exc : RaisedException) :
    model.parseInputs data ≠ .error (.raised exc) := by
  intro hdata
  obtain ⟨exc', hraised⟩ :=
    (h.keepsKeys.raises_congr h.noValidators (h.lookup_eq hcarries)).mpr ⟨exc, hdata⟩
  exact hown exc' hraised

section Schemas

variable {registry : ConnectionRegistry} {parseDatetime : Json → Option Nat}

/-- The fields of the base model without validators. -/
theorem noValidators_of {fields : List Field}
    (h : ∀ field ∈ fields, ∃ name type default, field = Field.of name type default) :
    ∀ field ∈ fields, field.NoValidators := by
  intro field hf
  obtain ⟨name, type, default, rfl⟩ := h field hf
  exact ⟨fun _ => rfl, fun _ _ => rfl⟩

/-- Every model of a read schema reads the fields of a view. -/
theorem readsOwn_read {model : ModelDecl}
    (hmodel : model ∈ (defaultSchemas registry parseDatetime).read) (view : PublicConnectionView) :
    ReadsOwn model (viewData view) := by
  unfold defaultSchemas buildConnectionReadModel buildUnion at hmodel
  dsimp only at hmodel
  split at hmodel
  · -- Without a registered type the schema is the base model.
    rw [List.mem_singleton.mp hmodel]
    refine ⟨keepsKeys_requestModel ?_, noValidators_of ?_, ?_⟩
    · simp [Field.required, Field.optional, Field.emptyDict, Field.of]
    · simp only [connectionReadResponse, requestModel, ModelDecl.ofFields, List.forall_mem_cons,
        List.not_mem_nil, false_imp_iff, implies_true, and_true]
      refine ⟨?_, ?_, ?_, ?_, ?_, ?_, ?_, ?_, ?_, ?_, ?_, ?_⟩ <;> exact ⟨_, _, _, rfl⟩
    · simp only [connectionReadResponse, requestModel, ModelDecl.ofFields, List.forall_mem_cons,
        List.not_mem_nil, false_imp_iff, implies_true, and_true]
      refine ⟨?_, ?_, ?_, ?_, ?_, ?_, ?_, ?_, ?_, ?_, ?_, ?_⟩ <;> rfl
  · obtain ⟨⟨spec, model'⟩, hmem, rfl⟩ := List.mem_map.mp hmodel
    obtain ⟨-, variant, -, rfl⟩ := mem_typedModels_iff.mp hmem
    refine ⟨keepsKeys_readModel _ _ _, noValidators_readModel _ _ _, ?_⟩
    rw [fields_readModel]
    simp only [List.forall_mem_cons, List.not_mem_nil, false_imp_iff, implies_true, and_true]
    refine ⟨?_, ?_, ?_, ?_, ?_, ?_, ?_, ?_, ?_, ?_, ?_, ?_⟩ <;> rfl

/-- The schema of broken connections reads the fields of a broken view. -/
theorem readsOwn_broken (view : BrokenPublicConnectionView) :
    ReadsOwn (brokenConnectionReadResponse parseDatetime) (brokenViewData view) := by
  refine ⟨keepsKeys_requestModel ?_, noValidators_of ?_, ?_⟩
  · simp [Field.required, Field.optional, Field.emptyDict, Field.of]
  · simp only [brokenConnectionReadResponse, requestModel, ModelDecl.ofFields,
      List.forall_mem_cons, List.not_mem_nil, false_imp_iff, implies_true, and_true]
    refine ⟨?_, ?_, ?_, ?_, ?_, ?_, ?_, ?_, ?_, ?_, ?_, ?_, ?_, ?_, ?_⟩ <;> exact ⟨_, _, _, rfl⟩
  · simp only [brokenConnectionReadResponse, requestModel, ModelDecl.ofFields,
      List.forall_mem_cons, List.not_mem_nil, false_imp_iff, implies_true, and_true]
    refine ⟨?_, ?_, ?_, ?_, ?_, ?_, ?_, ?_, ?_, ?_, ?_, ?_, ?_, ?_, ?_⟩ <;> rfl

/-- The schema of issues reads the data of an issue. -/
theorem exists_readJson_issueData (issue : StoredConnectionIssue) :
    ∃ r, (FieldType.model (.ofDecl connectionIssueResponse)).readJson (issueData issue) = .ok r := by
  have hvalidators : ∀ field ∈ connectionIssueResponse.fields, field.NoValidators := by
    refine noValidators_of ?_
    simp only [connectionIssueResponse, ModelDecl.ofFields, List.forall_mem_cons,
      List.not_mem_nil, false_imp_iff, implies_true, and_true]
    refine ⟨?_, ?_, ?_, ?_⟩ <;> exact ⟨_, _, _, rfl⟩
  have haccepts : ∀ field ∈ connectionIssueResponse.fields, field.Accepts (toFieldInputs
      [("field", .str issue.field), ("code", .str issue.code), ("message", .str issue.message),
        ("details", .obj issue.details)]) := by
    simp only [connectionIssueResponse, ModelDecl.ofFields, List.forall_mem_cons,
      List.not_mem_nil, false_imp_iff, implies_true, and_true]
    refine ⟨?_, ?_, ?_, ?_⟩ <;> exact (accepts_iff rfl).mpr ⟨_, rfl⟩
  obtain ⟨read, hread⟩ := (exists_readFields_iff hvalidators []).mpr haccepts
  -- Other keys are ignored, and there is no validator of the whole model.
  have hdecl := ModelDecl.read_eq_ok_iff.mpr ⟨read, [], hread, rfl, rfl, rfl⟩
  exact readJson_model_iff.mpr ⟨_, ModelDecl.validate_eq_ok_iff.mpr ⟨_, hdecl, rfl⟩⟩

/-- The schema of broken connections accepts the fields of every broken view. -/
theorem accepts_brokenViewData {view : BrokenPublicConnectionView} (hstate : view.state = "invalid") :
    ∃ r, (brokenConnectionReadResponse parseDatetime).parseInputs (brokenViewData view) = .ok r := by
  have hown : ReadsOwn (brokenConnectionReadResponse parseDatetime) (brokenViewData view) :=
    readsOwn_broken view
  rw [hown.keepsKeys.exists_parseInputs_iff hown.noValidators]
  have hlookups : (brokenViewData view).lookup "state" = some (.json (.str view.state)) ∧
      (brokenViewData view).lookup "issues" =
        some (.json (.arr (view.issues.map issueData))) := ⟨rfl, rfl⟩
  have hissues : ∃ r, (FieldType.list (.model (.ofDecl connectionIssueResponse))).readJson
      (.arr (view.issues.map issueData)) = .ok r := by
    refine readJson_list_iff.mpr fun value hvalue => ?_
    obtain ⟨issue, -, rfl⟩ := List.mem_map.mp hvalue
    exact exists_readJson_issueData issue
  have hoption : ∀ name : String, ∀ value, (brokenViewData view).lookup name = some (.json value) →
      (Field.optional name .any).Accepts (brokenViewData view) := by
    intro name value hl
    refine (accepts_iff hl).mpr ?_
    cases value <;> exact ⟨_, rfl⟩
  simp only [brokenConnectionReadResponse, requestModel, ModelDecl.ofFields,
    List.forall_mem_cons, List.not_mem_nil, false_imp_iff, implies_true, and_true]
  refine ⟨(accepts_iff hlookups.1).mpr (readJson_literal_iff.mpr hstate),
    (accepts_iff rfl).mpr ⟨_, rfl⟩,
    (accepts_iff rfl).mpr ⟨_, rfl⟩, (accepts_iff rfl).mpr ⟨_, rfl⟩, (accepts_iff rfl).mpr ⟨_, rfl⟩,
    (accepts_iff rfl).mpr ?_, (accepts_iff rfl).mpr ?_, (accepts_iff rfl).mpr ⟨_, rfl⟩,
    (accepts_iff rfl).mpr ⟨_, rfl⟩, (accepts_iff rfl).mpr ⟨_, rfl⟩, (accepts_iff rfl).mpr ?_,
    (accepts_iff hlookups.2).mpr hissues, hoption _ _ rfl, hoption _ _ rfl, hoption _ _ rfl⟩
  · cases view.driver <;> exact ⟨_, rfl⟩
  · simp [FieldType.read, FieldType.readJson, Json.ofStrDict, Json.str?]
  · cases view.deletedAt <;> exact ⟨_, rfl⟩

/-- Extension fields that leave the fields of a response as they are leave its acceptance too. -/
theorem ReadView.accepts_of_carries {view : ReadView}
    (hcarries : ∀ field own, view.ownData.lookup field = some own →
      view.data.lookup field = some own)
    (hown : view.Accepts registry parseDatetime view.ownData) :
    view.Accepts registry parseDatetime view.data := by
  cases view with
  | broken v => exact (readsOwn_broken v).exists_parseInputs hcarries hown
  | view v =>
    -- The member of the union that accepts the fields of the view accepts the response.
    obtain ⟨hquiet, reading, hmem, p, hp⟩ := exists_unionOf_iff.mp hown
    obtain ⟨model, hmodel, rfl⟩ := List.mem_map.mp hmem
    have hdata := (readsOwn_read hmodel v).exists_parseInputs hcarries ⟨p, hp⟩
    refine exists_unionOf_iff.mpr ⟨fun reading hreading => ?_, _, List.mem_map_of_mem hmodel, hdata⟩
    obtain ⟨other, hother, rfl⟩ := List.mem_map.mp hreading
    exact (readsOwn_read hother v).ne_raised hcarries (hquiet _ (List.mem_map_of_mem hother))

/-- The extension fields of a view leave its response alone exactly when none of them gives a field
of the response another value. -/
theorem ReadView.isolated_iff (view : ReadView) :
    view.Isolated registry parseDatetime ↔ view.KeepsReserved := by
  constructor
  · intro h
    exact (carries_iff view).mp h.carries
  · intro h
    have hcarries := (carries_iff view).mpr h
    exact ⟨hcarries, accepts_of_carries hcarries⟩

end Schemas

section Listing

variable {C : Type} (svc : ConnectionService C) (parseDatetime : Json → Option Nat)

/-- The record has a view, whose own fields are accepted if it is a public one. -/
def ShownAlone (record : ConnectionRecord) : Prop :=
  ∃ view, buildAny svc.registry record = .ok view ∧
    ∀ v, view = .view v → view.Accepts svc.registry parseDatetime view.ownData

/-- The response to a record, with the schemas of the service's registry. -/
def readResponse (record : ConnectionRecord) : Except PyError Parsed :=
  buildReadResponse svc (defaultSchemas svc.registry parseDatetime)
    (brokenConnectionReadResponse parseDatetime) record

/-- The extension fields of the records that a request lists leave its answer alone. -/
structure ListIsolated (actor : Json) (query : ConnectionListQuery) (store : List (Row C))
    (records : List ConnectionRecord) : Prop where
  /-- They leave each response alone. -/
  isolated : ∀ record ∈ records, ∀ view, buildAny svc.registry record = .ok view →
    view.Isolated svc.registry parseDatetime
  /-- If each record can be shown without them, the answer has one entry for each record. -/
  answered : (∀ record ∈ records, ShownAlone svc parseDatetime record) →
    ∃ entries, listConnections svc (defaultSchemas svc.registry parseDatetime) actor
        (brokenConnectionReadResponse parseDatetime) query store = .ok entries ∧
      List.Forall₂ (fun record entry => readResponse svc parseDatetime record = .ok entry)
        records entries

/-- A record whose extension fields leave its response alone has a response if it can be shown
without them. -/
theorem exists_readResponse {record : ConnectionRecord}
    (hkeeps : ∀ view, buildAny svc.registry record = .ok view → view.KeepsReserved)
    (hshown : ShownAlone svc parseDatetime record) :
    ∃ entry, readResponse svc parseDatetime record = .ok entry := by
  unfold readResponse buildReadResponse
  obtain ⟨view, hview, haccepts⟩ := hshown
  rcases buildAny_cases hview with ⟨issues, raw, rfl⟩ | ⟨p, o, rfl⟩
  · -- The fields of a broken view are always accepted.
    have hisolated : (ReadView.broken _).Isolated svc.registry parseDatetime :=
      (ReadView.isolated_iff _).mpr (hkeeps _ hview)
    obtain ⟨r, hr⟩ := hisolated.accepted (accepts_brokenViewData rfl)
    refine ⟨r, ?_⟩
    rw [hview, ok_bind]
    have hdata : (brokenConnectionReadResponse parseDatetime).parseInputs
        (brokenResponseData (buildBrokenView record issues raw)) = .ok r := hr
    dsimp only
    unfold toBrokenResponse
    rw [hdata]
  · have hisolated : (ReadView.view _).Isolated svc.registry parseDatetime :=
      (ReadView.isolated_iff _).mpr (hkeeps _ hview)
    rw [hview, ok_bind]
    exact exists_toResponse_iff_readInputs.mpr (hisolated.accepted (haccepts _ rfl))

end Listing

/-- The response to a record carries the fields of its view, and its schema does not refuse it for
its extension fields, exactly when these give no field of the response another value; and for a
request that lists records, whatever the store, exactly when this is so for each of them. -/
theorem extension_isolated_iff {C : Type} (svc : ConnectionService C)
    (parseDatetime : Json → Option Nat) :
    (∀ record view, buildAny svc.registry record = .ok view →
      (view.Isolated svc.registry parseDatetime ↔ view.KeepsReserved)) ∧
    ∀ actor query (store : List (Row C)) records,
      ((svc.list actor query).run store).1 = .ok records →
        (ListIsolated svc parseDatetime actor query store records ↔
          ∀ record ∈ records, ∀ view, buildAny svc.registry record = .ok view →
            view.KeepsReserved) := by
  refine ⟨fun record view _ => view.isolated_iff, fun actor query store records hlist => ?_⟩
  constructor
  · intro h record hrecord view hview
    exact view.isolated_iff.mp (h.isolated record hrecord view hview)
  · intro h
    refine ⟨fun record hrecord view hview => view.isolated_iff.mpr (h record hrecord view hview),
      fun hshown => ?_⟩
    obtain ⟨entries, hentries⟩ := exists_mapM_iff.mpr fun record hrecord =>
      exists_readResponse svc parseDatetime (h record hrecord) (hshown record hrecord)
    refine ⟨entries, ?_, forall₂_of_mapM hentries⟩
    unfold listConnections
    rw [hlist]
    exact hentries

/-- An extension field `id` of a create body takes the place of the connection's id in its response,
and if it is a number makes a list of every connection fail. -/
theorem extension_forges_and_breaks :
    (∃ row view,
      (createConnection (defaultService none) noDateSchemas ⟨1, "a", 0⟩ .null
        (bucketBody [("id", .str "b")]) []).2 = [row] ∧
      buildAny (defaultRegistry emptyHost) (toRecord (defaultService none).storage row) =
        .ok view ∧
      view.ownData.lookup "id" = some (.json (.str "a")) ∧
      view.data.lookup "id" = some (.json (.str "b")) ∧
      ¬ view.Isolated (defaultRegistry emptyHost) fun _ => none) ∧
    ∃ row e,
      (createConnection (defaultService none) noDateSchemas ⟨1, "a", 0⟩ .null
        (bucketBody [("id", .int 5)]) []).2 = [row] ∧
      listConnections (defaultService none) noDateSchemas .null
        (brokenConnectionReadResponse fun _ => none) .all [bucketRow "b", row] = .error e := by
  constructor
  · have hrun : ((createConnection (defaultService none) noDateSchemas ⟨1, "a", 0⟩ .null
        (bucketBody [("id", .str "b")]) []).2.map fun row =>
          (buildAny (defaultRegistry emptyHost)
            (toRecord (defaultService none).storage row)).toOption.map fun view =>
              (view.ownData.lookup "id", view.data.lookup "id")) =
        [some (some (.json (.str "a")), some (.json (.str "b")))] := by
      decide +kernel
    obtain ⟨row, hrow, hviews⟩ := List.map_eq_singleton_iff.mp hrun
    obtain ⟨view, hview, hlookups⟩ := Option.map_eq_some_iff.mp hviews
    rw [Prod.mk.injEq] at hlookups
    refine ⟨row, view, hrow, toOption_eq_some_iff.mp hview, hlookups.1, hlookups.2, fun h => ?_⟩
    have hcarried := h.carries "id" _ hlookups.1
    rw [hlookups.2] at hcarried
    exact absurd hcarried (by decide)
  · have hrun : ((createConnection (defaultService none) noDateSchemas ⟨1, "a", 0⟩ .null
        (bucketBody [("id", .int 5)]) []).2.map fun row =>
          (listConnections (defaultService none) noDateSchemas .null
            (brokenConnectionReadResponse fun _ => none) .all
            [bucketRow "b", row]).toOption.isSome) = [false] := by
      decide +kernel
    obtain ⟨row, hrow, hlist⟩ := List.map_eq_singleton_iff.mp hrun
    refine ⟨row, ?_⟩
    cases hl : listConnections (defaultService none) noDateSchemas .null
        (brokenConnectionReadResponse fun _ => none) .all [bucketRow "b", row] with
    | ok entries =>
      rw [hl] at hlist
      cases hlist
    | error e => exact ⟨e, hrow, rfl⟩

end DbConnection
