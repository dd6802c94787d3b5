import DbConnection.Requests
import DbConnection.UnitsOfWork

/-!
# Refused requests

A request that is answered with a client error leaves no trace: a run of requests without the
refused ones has the same other answers and leaves the same store (`serve_accepted`). The models
are those of a registry that reads back what it writes; a create commits before it builds its
response, so it would fail with a client error after its commit if a public model refused what the
properties model accepted.
-/

namespace DbConnection

open PyData Pydantic ReadCommitted

section Errors

variable {C : Type} (svc : ConnectionService C)

/-- A call that raises leaves the store as it is. -/
theorem run_of_error {inv : Invocation} {store store' : List (Row C)} {e : PyError}
    (h : (inv.prog svc).run store = (.error e, store')) : store' = store := by
  by_cases hm : inv.call.mutates = true
  · obtain ⟨call, actor, env⟩ := inv
    unfold Invocation.prog at h
    have hanswer : ∀ {connectionId : String} {written : Row C → Except PyError (Row C)},
        ((svc.answer connectionId store written).1.map ServiceResult.record,
          (svc.answer connectionId store written).2) = (.error e, store') → store' = store := by
      intro connectionId written h
      unfold ConnectionService.answer at h
      cases hf : find connectionId store with
      | none => exact (by simpa [hf] using h : _ ∧ store = store').2.symm
      | some row =>
        cases hw : written row with
        | error e' => exact (by simpa [hf, hw] using h : _ ∧ store = store').2.symm
        | ok row' => simp [hf, hw, Except.map] at h
    cases call with
    | create payload =>
      rw [run_map, svc.run_create] at h
      cases hc : svc.createdRow env actor store payload with
      | error e' => exact (by simpa [hc] using h : _ ∧ store = store').2.symm
      | ok row => simp [hc, Except.map] at h
    | update connectionId patch =>
      rw [run_map, svc.run_update] at h
      exact hanswer h
    | delete connectionId =>
      rw [run_map, svc.run_delete] at h
      exact hanswer h
    | _ => cases hm
  · have hsame := run_of_not_mutates svc store (by simpa using hm : inv.call.mutates = false)
    rw [h] at hsame
    exact hsame

/-- A create that returned a record, as a call. -/
theorem run_create_of_prog {payload : ConnectionDraft} {actor : Json} {env : CallEnv}
    {store store' : List (Row C)} {record : ConnectionRecord}
    (h : ((⟨.create payload, actor, env⟩ : Invocation).prog svc).run store =
      (.ok (.record record), store')) :
    (svc.create env actor payload).run store = (.ok record, store') := by
  unfold Invocation.prog at h
  dsimp only at h
  rw [run_map] at h
  cases hr : (svc.create env actor payload).run store with
  | mk result store'' =>
    rw [hr] at h
    cases result with
    | error e => simp [Except.map] at h
    | ok record' => simpa [Except.map] using h

/-- A record that has a public view is shown as it. -/
theorem build_of_buildAny {registry : ConnectionRegistry} {record : ConnectionRecord}
    {view : PublicConnectionView} (h : buildAny registry record = .ok (.view view)) :
    build registry record = .ok view := by
  cases htype : registry.getType record.type with
  | error e => simp [buildAny, htype] at h
  | ok spec =>
    obtain ⟨properties, driverOptions, secrets, hchecked⟩ := exists_checked_of_buildAny htype h
    rw [buildAny_of_type htype hchecked] at h
    split at h
    · cases h
    · rename_i hissues
      simp only [ne_eq, Decidable.not_not, List.append_eq_nil_iff, foundIssues, checkIssues,
        List.filterMap_eq_nil_iff, List.mem_cons, List.not_mem_nil, or_false, forall_eq_or_imp,
        forall_eq] at hissues
      obtain ⟨hread, -, hproperties, hoptions, -⟩ := hissues
      have hno : ∀ code field, record.hasReadIssue code field = false := by
        intro code field
        simp [ConnectionRecord.hasReadIssue, hread]
      -- Each part was read, so `build` reads it too.
      have hp := hchecked.properties
      have ho := hchecked.driverOptions
      unfold propertiesPart at hp
      unfold driverOptionsPart at ho
      rw [hno, if_neg Bool.false_ne_true] at hp ho
      split at hp
      · rename_i p hpublic
        cases hp
        split at ho
        · rename_i o hshown
          cases ho
          cases h
          exact build_eq_ok_iff.mpr ⟨spec, p, o, htype, hpublic, hshown, rfl⟩
        · cases ho
          cases hoptions
        · cases ho
      · cases hp
        cases hproperties
      · cases hp

/-- What a response model raises is none of the package's errors. -/
theorem toResponse_eq_error {schema : List ModelDecl} {view : PublicConnectionView} {e : PyError}
    (h : toResponse schema view = .error e) : e.isDBConnectionError = false := by
  unfold toResponse at h
  cases hr : readInputs schema (responseData view) with
  | ok r => simp [hr] at h
  | error v =>
    rw [hr] at h
    cases h
    cases v <;> rfl

/-- Nor is what building a view raises. -/
theorem buildAny_eq_error {registry : ConnectionRegistry} {record : ConnectionRecord} {e : PyError}
    (h : buildAny registry record = .error e) : e.isDBConnectionError = false := by
  cases htype : registry.getType record.type with
  | error e' => simp [buildAny, htype] at h
  | ok spec =>
    unfold buildAny at h
    rw [htype] at h
    dsimp only at h
    cases hp : propertiesPart spec record with
    | error e' =>
      rw [hp] at h
      cases h
      unfold propertiesPart at hp
      split at hp
      · cases hp
      · split at hp <;> cases hp
        rfl
    | ok properties =>
      cases ho : driverOptionsPart spec record with
      | error e' =>
        rw [hp, ho] at h
        cases h
        unfold driverOptionsPart at ho
        split at ho
        · cases ho
        · split at ho
          · cases ho
          · cases ho
          · rename_i hne hshown
            cases ho
            rcases buildPublicDriverOptions_error hshown with ⟨m, d, rfl⟩ | ⟨c, m, rfl⟩
            · exact absurd rfl (hne m d)
            · rfl
      | ok driverOptions =>
        cases hs : secretsIssue spec record with
        | error e' =>
          rw [hp, ho, hs] at h
          cases h
          unfold secretsIssue at hs
          split at hs
          · cases hs
          · split at hs
            · cases hs
            · split at hs <;> cases hs
              rfl
        | ok secrets =>
          rw [hp, ho, hs] at h
          simp only [ok_bind] at h
          split at h
          · cases h
          · split at h <;> cases h
            rfl

/-- Nor is what the response to a record that was read raises. -/
theorem buildReadResponse_eq_error {schemas : APISchemaSet} {brokenRead : ModelDecl}
    {record : ConnectionRecord} {e : PyError}
    (h : buildReadResponse svc schemas brokenRead record = .error e) :
    e.isDBConnectionError = false := by
  unfold buildReadResponse at h
  cases hview : buildAny svc.registry record with
  | error e' =>
    rw [hview] at h
    cases h
    exact buildAny_eq_error hview
  | ok view =>
    rw [hview, ok_bind] at h
    cases view with
    | view v => exact toResponse_eq_error h
    | broken v =>
      dsimp only at h
      unfold toBrokenResponse at h
      split at h
      · cases h
      · rename_i error _
        cases h
        cases error <;> rfl

end Errors

section Created

variable {C : Type} {svc : ConnectionService C}

/-- A new connection of well-formed models has a public view. -/
theorem exists_view_of_create (hback : ReadsBack svc) (hpublic : PublicAccepts svc)
    (hresolver : KeepsWellTyped svc) {env : CallEnv} {actor : Json} {payload : ConnectionDraft}
    (htyped : payload.driverOptions.ReadBack svc.storage.importer) {store store' : List (Row C)}
    {record : ConnectionRecord}
    (hrun : (svc.create env actor payload).run store = (.ok record, store')) :
    ∃ view, buildAny svc.registry record = .ok (.view view) := by
  obtain ⟨resolved, v, row, hp, hs, -, rfl, -⟩ := run_create_eq_ok hrun
  obtain ⟨hresolve, -, spec, hv⟩ := prepareCreate_eq_ok_iff.mp hp
  have hraw := hresolver.create _ _ _ htyped hresolve
  exact (written_of_storedAs hback hraw hv hs).exists_view hpublic

end Created

section Refused

variable {C : Type} {ext : DBConnectionExtension C}

/-- What a schema reads gives no driver options as an instance. -/
theorem readBack_toCreateDraft (importer : Importer) (raw : Dict Json) :
    (toCreateDraft raw).driverOptions.ReadBack importer := by
  unfold toCreateDraft
  dsimp only
  cases (raw.lookup "driver_options").getD .null <;> trivial

/-- The response to a new connection of well-formed models raises none of the package's errors. -/
theorem createdResponse_eq_error (hback : ReadsBack ext.service)
    (hpublic : PublicAccepts ext.service) (hresolver : KeepsWellTyped ext.service)
    {env : CallEnv} {actor : Json} {raw : Dict Json} {store store' : List (Row C)}
    {record : ConnectionRecord} {e : PyError}
    (hrun : (ext.service.create env actor (toCreateDraft raw)).run store = (.ok record, store'))
    (h : createdResponse ext.service ext.schemas record = .error e) :
    e.isDBConnectionError = false := by
  obtain ⟨view, hview⟩ := exists_view_of_create hback hpublic hresolver
    (readBack_toCreateDraft _ raw) hrun
  unfold createdResponse at h
  rw [build_of_buildAny hview] at h
  exact toResponse_eq_error h

/-- An error that is none of the package's is no client error. -/
theorem not_isClientError_respond {x : Except PyError Parsed}
    (h : ∀ e, x = .error e → e.isDBConnectionError = false) :
    (Answer.respond .connection x).isClientError = false := by
  cases x with
  | ok r => rfl
  | error e =>
    have he := h e rfl
    cases e <;> first | rfl | cases he

/-- An answer with a body is the response. -/
theorem eq_ok_of_respond {x : Except PyError Parsed} {body : Parsed}
    (h : Answer.respond .connection x = .connection body) : x = .ok body := by
  cases x with
  | error e => cases h
  | ok r =>
    cases h
    rfl

/-- A request that is answered with a client error leaves the store as it is. -/
theorem handle_of_isClientError (hback : ReadsBack ext.service)
    (hpublic : PublicAccepts ext.service) (hresolver : KeepsWellTyped ext.service)
    {exchange : Exchange} {store : List (Row C)}
    (h : (ext.handle exchange store).1.isClientError = true) :
    (ext.handle exchange store).2 = store := by
  rw [ext.handle_eq] at h ⊢
  cases hcall : ext.serviceCall exchange.request with
  | error e => rfl
  | ok call =>
    rw [hcall] at h
    dsimp only [Prod.map_apply, id_eq] at h ⊢
    rcases hrun : ((⟨call, exchange.actor, exchange.env⟩ : Invocation).prog ext.service).run store
      with ⟨result, store'⟩
    rw [hrun] at h
    cases result with
    | error e => exact run_of_error ext.service hrun
    | ok result =>
      by_cases hm : call.mutates = true
      · -- The call wrote a row, so only its response can fail.
        exfalso
        obtain ⟨connectionId, hw⟩ :=
          @exists_written_of_mutates ⟨call, exchange.actor, exchange.env⟩ hm
        obtain ⟨row, rfl, -⟩ := record_of_run ext.service hw hrun
        have hresponse : (ext.response call.isCreate
            (.record (toRecord ext.service.storage row))).isClientError = false := by
          refine not_isClientError_respond fun e he => ?_
          split at he
          · rename_i hcreate
            obtain ⟨raw, rfl⟩ := exists_raw_of_isCreate hcall hcreate
            exact createdResponse_eq_error hback hpublic hresolver
              (run_create_of_prog ext.service hrun) he
          · exact buildReadResponse_eq_error ext.service he
        have hclient : (ext.response call.isCreate
            (.record (toRecord ext.service.storage row))).isClientError = true := h
        rw [hresponse] at hclient
        cases hclient
      · have hsame := run_of_not_mutates ext.service store
          (by simpa using hm : (⟨call, exchange.actor, exchange.env⟩ : Invocation).call.mutates =
            false)
        rw [hrun] at hsame
        exact hsame

end Refused

/-- The exchanges of a run that are not refused with a client error. -/
def DBConnectionExtension.accepted {C : Type} (ext : DBConnectionExtension C) :
    List Exchange → List (Row C) → List Exchange
  | [], _ => []
  | exchange :: exchanges, store =>
    let (answer, store') := ext.handle exchange store
    if answer.isClientError then accepted ext exchanges store'
    else exchange :: accepted ext exchanges store'

/-- Requests that are refused with a client error leave no trace: a run without them has the same
other answers and leaves the same store. -/
theorem serve_accepted {C : Type} (ext : DBConnectionExtension C) (hback : ReadsBack ext.service)
    (hpublic : PublicAccepts ext.service) (hresolver : KeepsWellTyped ext.service)
    (exchanges : List Exchange) (store : List (Row C)) :
    ext.serve (ext.accepted exchanges store) store =
      ((ext.serve exchanges store).1.filter fun answer => !answer.isClientError,
        (ext.serve exchanges store).2) := by
  induction exchanges generalizing store with
  | nil => rfl
  | cons exchange exchanges ih =>
    unfold DBConnectionExtension.accepted
    dsimp only
    by_cases hrefused : (ext.handle exchange store).1.isClientError = true
    · -- The refused request left the store as it was for the next one.
      have hstore := handle_of_isClientError hback hpublic hresolver hrefused
      rw [if_pos hrefused, hstore, ih]
      simp only [DBConnectionExtension.serve, List.filter_cons, hrefused, hstore, Bool.not_true,
        Bool.false_eq_true, if_false]
    · rw [if_neg hrefused]
      simp only [DBConnectionExtension.serve, ih, List.filter_cons, hrefused, Bool.not_false,
        if_true]

/-- An extension over the registry with ODBC options. -/
def odbcExtension : DBConnectionExtension Json where
  service := odbcService
  schemas := defaultSchemas odbcService.registry fun _ => none
  brokenRead := brokenConnectionReadResponse fun _ => none
  loads _ := .error .decode
  runCheck call := .ok (checkSuccess call.connection "Connection successful.")

/-- The body of a request to create a connection with ODBC options. -/
def odbcBody (name : String) : Json :=
  .obj [("name", .str name), ("kind", .str "sql"), ("type", .str "odbc"),
    ("driver_options", .obj [("driver_name", .str "ODBC Driver 18")]),
    ("properties", .obj [("host", .str "db"), ("port", .str "1433"), ("username", .str "sa"),
      ("database", .str "main")]),
    ("secrets", .obj [("password", .str "secret")])]

/-- Requests of which some are refused: a `GET` of no connection, bodies that the schema or the
service does not take, and a second delete. -/
def odbcExchanges : List Exchange :=
  [⟨.createConnection (odbcBody "first"), .null, ⟨1, "a", 0⟩⟩,
    ⟨.getConnection "b", .null, ⟨2, "", 0⟩⟩, ⟨.createConnection .null, .null, ⟨3, "c", 0⟩⟩,
    ⟨.updateConnection "a" (.obj [("name", .str "second")]), .null, ⟨4, "", 0⟩⟩,
    ⟨.updateConnection "a" (.obj [("driver", .str "x")]), .null, ⟨5, "", 0⟩⟩,
    ⟨.deleteConnection "a", .null, ⟨6, "", 0⟩⟩, ⟨.deleteConnection "a", .null, ⟨7, "", 0⟩⟩]

/-- The run without the four refused requests. -/
theorem serve_accepted_odbc :
    (odbcExtension.serve odbcExchanges []).1.map Answer.statusCode =
        [200, 404, 422, 200, 422, 200, 404] ∧
      odbcExtension.serve (odbcExtension.accepted odbcExchanges []) [] =
        ((odbcExtension.serve odbcExchanges []).1.filter fun answer => !answer.isClientError,
          (odbcExtension.serve odbcExchanges []).2) :=
  ⟨by decide +kernel, serve_accepted odbcExtension readsBack_odbcService publicAccepts_odbcService
    keepsWellTyped_odbcService odbcExchanges []⟩

end DbConnection
