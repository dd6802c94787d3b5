import Mathlib.Algebra.BigOperators.Group.List.Basic
import DbConnection.Lib.SharedTransaction
import DbConnection.Runs

/-!
# Updates in a row

Patches form a monoid: in `p * q` the fields that `q` sets stand over those of `p`. `update` lets it
act on the stored connection. Each update stores the validated form of what it merged, and the next
one reads and validates that again; by the stability of the validated forms (`ReadsBack`) nothing is
lost on the way, so updates one after another leave what one update with the product of their
patches leaves (`serialRun_updates_eq`). A patch that changes the driver must give the options too,
for the stored options are those of the driver before.
-/

namespace DbConnection

open PyData Pydantic ReadCommitted

/-! ## The monoid of patches -/

/-- One value over another. -/
def PatchValue.over {α : Type} : PatchValue α → PatchValue α → PatchValue α
  | p, .unset => p
  | _, .set value => .set value

section PatchValue

variable {α : Type} (p q r : PatchValue α)

@[simp] theorem PatchValue.over_unset : p.over .unset = p := rfl

@[simp] theorem PatchValue.unset_over : PatchValue.unset.over q = q := by
  cases q <;> rfl

theorem PatchValue.over_assoc : (p.over q).over r = p.over (q.over r) := by
  cases r <;> rfl

/-- A value is set over an existing one in two steps. -/
@[simp] theorem PatchValue.getD_over (a : α) : (p.over q).getD a = q.getD (p.getD a) := by
  cases q <;> rfl

@[simp] theorem PatchValue.isSet_over : (p.over q).isSet = (p.isSet || q.isSet) := by
  cases q <;> simp [PatchValue.over, PatchValue.isSet]

theorem PatchValue.map_over {β : Type} (f : α → β) : (p.over q).map f = (p.map f).over (q.map f) := by
  cases q <;> rfl

end PatchValue

/-- Fields of the second patch stand over those of the first. -/
instance : Mul ConnectionPatch where
  mul p q :=
    { name := p.name.over q.name
      driver := p.driver.over q.driver
      driverOptions := p.driverOptions.over q.driverOptions
      properties := p.properties.over q.properties
      secrets := p.secrets.over q.secrets
      labels := p.labels.over q.labels
      metadata := p.metadata.over q.metadata
      extra := p.extra.over q.extra }

instance : One ConnectionPatch where
  one := .empty

instance : Monoid ConnectionPatch where
  mul_assoc p q r := by
    simp only [HMul.hMul, Mul.mul, PatchValue.over_assoc]
  one_mul p := by
    simp only [HMul.hMul, Mul.mul, OfNat.ofNat, One.one, ConnectionPatch.empty,
      PatchValue.unset_over]
  mul_one p := by
    simp only [HMul.hMul, Mul.mul, OfNat.ofNat, One.one, ConnectionPatch.empty,
      PatchValue.over_unset]

/-- A draft with the fields that a patch sets. -/
def ConnectionDraft.amend (draft : ConnectionDraft) (patch : ConnectionPatch) : ConnectionDraft :=
  { draft with
    name := patch.name.getD draft.name
    driver := patch.driver.getD draft.driver
    driverOptions := patch.driverOptions.getD draft.driverOptions
    properties := patch.properties.getD draft.properties
    secrets := patch.secrets.getD draft.secrets
    labels := patch.labels.getD draft.labels
    metadata := patch.metadata.getD draft.metadata
    extra := patch.extraDict.getD draft.extra }

/-- `dict(extra)` of the product is that of the patch whose extra stands. -/
@[simp] theorem ConnectionPatch.extraDict_mul (p q : ConnectionPatch) :
    (p * q).extraDict = p.extraDict.over q.extraDict := PatchValue.map_over _ _ _

/-- The product of patches acts as one after the other. -/
theorem ConnectionDraft.amend_mul (draft : ConnectionDraft) (p q : ConnectionPatch) :
    draft.amend (p * q) = (draft.amend p).amend q := by
  simp only [amend, ConnectionPatch.extraDict_mul, PatchValue.getD_over]
  simp only [HMul.hMul, Mul.mul, PatchValue.getD_over]

/-- `_merge` amends the record. -/
theorem merge_eq_amend (record : ConnectionRecord) (patch : ConnectionPatch) :
    merge record patch = record.toDraft.amend patch := rfl

/-! ## Validation in between -/

/-- A draft as it reads back after it was stored as what it was validated as. -/
def ConnectionDraft.stored (draft : ConnectionDraft) (v : ValidatedConnection) : ConnectionDraft :=
  { draft with
    driverOptions := .ofOption v.driverOptions
    properties := some v.properties.dumpJson
    secrets := some ((v.secrets.map Instance.dumpJson).getD []) }

/-- A patch that sets the driver sets the driver options. -/
def ConnectionPatch.GivesOptions (patch : ConnectionPatch) : Prop :=
  patch.driver.isSet = true → patch.driverOptions.isSet = true

section Validates

variable {C : Type} {svc : ConnectionService C} {draft : ConnectionDraft} {spec spec' : TypeSpec}
  {v v' : ValidatedConnection} {patch : ConnectionPatch}

/-- The secrets model reads secrets in one way. -/
theorem SecretsRead.unique {secrets : Json} {s s' : Option Instance}
    (h : SecretsRead spec secrets s) (h' : SecretsRead spec secrets s') : s = s' := by
  unfold SecretsRead at h h'
  cases hm : spec.secretsModel with
  | none =>
    rw [hm] at h h'
    exact h.trans h'.symm
  | some m =>
    rw [hm] at h h'
    obtain ⟨x, hx, rfl⟩ := h
    obtain ⟨x', hx', rfl⟩ := h'
    exact congrArg some (Except.ok.inj (hx.symm.trans hx'))

/-- Validating the amended draft gives the same whether or not the draft was stored in between. -/
theorem Validates.amend (hback : ReadsBack svc) (h : Validates svc.registry draft spec v)
    (hpatch : patch.GivesOptions)
    (h' : Validates svc.registry ((draft.stored v).amend patch) spec' v') :
    Validates svc.registry (draft.amend patch) spec' v' := by
  obtain rfl : spec = spec' := Except.ok.inj (h.type.symm.trans h'.type)
  have hstored := h.dumped hback
  refine ⟨h'.type, h'.kind, h'.driver, ?_, ?_, ?_, h'.labels, h'.metadata, h'.extra, h'.name,
    h'.kind_eq, h'.type_eq, h'.driver_eq⟩
  -- A part that the patch leaves is read back as it was validated.
  · have hproperties := h'.properties
    unfold ConnectionDraft.amend at hproperties ⊢
    cases hp : patch.properties with
    | set properties =>
      rw [hp] at hproperties
      exact hproperties
    | unset =>
      simp only [hp, PatchValue.getD_unset] at hproperties ⊢
      have hsame : v'.properties = v.properties :=
        Except.ok.inj (hproperties.symm.trans hstored.properties)
      rw [hsame]
      exact h.properties
  · have hsecrets := h'.secrets
    unfold ConnectionDraft.amend at hsecrets ⊢
    cases hp : patch.secrets with
    | set secrets =>
      rw [hp] at hsecrets
      exact hsecrets
    | unset =>
      simp only [hp, PatchValue.getD_unset] at hsecrets ⊢
      rw [hsecrets.unique hstored.secrets]
      exact h.secrets
  · have hoptions := h'.driverOptions
    unfold ConnectionDraft.amend at hoptions ⊢
    cases hp : patch.driverOptions with
    | set options =>
      rw [hp] at hoptions
      exact hoptions
    | unset =>
      -- Then it leaves the driver too.
      have hdriver : patch.driver = .unset := by
        cases hd : patch.driver with
        | unset => rfl
        | set driver =>
          have hset := hpatch (by rw [hd]; rfl)
          rw [hp] at hset
          cases hset
      simp only [hp, hdriver, PatchValue.getD_unset] at hoptions ⊢
      have hsame : v'.driverOptions = v.driverOptions :=
        Except.ok.inj (hoptions.symm.trans hstored.driverOptions)
      rw [hsame]
      exact h.driverOptions

end Validates

/-! ## Updates -/

section Updates

variable {C : Type} {svc : ConnectionService C} {env env' : CallEnv} {actor : Json}
  {connectionId : String} {store store' : List (Row C)} {patch p q : ConnectionPatch}
  {row row' : Row C} {record record' : ConnectionRecord}

/-- An update that succeeds alone wrote over the row of its connection. -/
theorem run_update_eq_ok_iff :
    (svc.update env actor connectionId patch).run store = (.ok record, store') ↔
      ∃ row row', find connectionId store = some row ∧
        svc.updatedRow env actor connectionId patch row = .ok row' ∧
        record = toRecord svc.storage row' ∧ store' = put store row' := by
  rw [svc.run_update]
  unfold ConnectionService.answer
  constructor
  · intro h
    cases hf : find connectionId store with
    | none => simp [hf] at h
    | some row =>
      cases hu : svc.updatedRow env actor connectionId patch row with
      | error e => simp [hf, hu] at h
      | ok row' =>
        simp only [hf, hu, Prod.mk.injEq, Except.ok.injEq] at h
        exact ⟨row, row', rfl, hu, h.1.symm, h.2.symm⟩
  · rintro ⟨row, row', hf, hu, rfl, rfl⟩
    simp only [hf, hu]

/-- What an update goes through, with a resolver that leaves the patch as it is. -/
theorem updatedRow_eq_ok_iff (hresolver : svc.ownershipResolver = noOpOwnershipResolver) :
    svc.updatedRow env actor connectionId patch row = .ok row' ↔
      ∃ spec v columns, row.deletedAt = none ∧
        svc.accessPolicy.canGetOne ⟨actor, "get", some connectionId, none⟩
          (toRecord svc.storage row) = .ok () ∧
        svc.accessPolicy.canUpdate
          ⟨actor, "update", some connectionId, some (payloadWithExtra patch.toDict)⟩
          (toRecord svc.storage row) patch = .ok () ∧
        ensurePatchCanReplaceUnreadableSecrets (toRecord svc.storage row) patch = .ok () ∧
        Validates svc.registry (merge (toRecord svc.storage row) patch) spec v ∧
        Repository.bindColumns svc.storage env
          (toPersistedDraft (merge (toRecord svc.storage row) patch) v) = .ok columns ∧
        row' = Repository.replacedRow env columns row := by
  unfold ConnectionService.updatedRow ConnectionService.prepareUpdate
  simp only [bind_eq_ok_iff, hresolver, noOpOwnershipResolver, pure, Except.pure, Except.ok.injEq]
  constructor
  · rintro ⟨existing, hget, ⟨merged, v⟩, ⟨_, rfl, ⟨⟩, hcan, ⟨⟩, hguard, v', hv, he⟩, columns, hb,
      rfl⟩
    obtain ⟨hactive, hone, rfl⟩ := admitGet_eq_ok_iff.mp hget
    cases he
    obtain ⟨spec, hvalid⟩ := validate_eq_ok_iff.mp hv
    exact ⟨spec, v, columns, hactive, hone, hcan, hguard, hvalid, hb, rfl⟩
  · rintro ⟨spec, v, columns, hactive, hone, hcan, hguard, hvalid, hb, rfl⟩
    exact ⟨_, admitGet_eq_ok_iff.mpr ⟨hactive, hone, rfl⟩, _, ⟨_, rfl, (), hcan, (), hguard, v,
      validate_eq_ok_iff.mpr ⟨spec, hvalid⟩, rfl⟩, columns, hb, rfl⟩

/-- The secrets that are unreadable are set by one of the patches. -/
theorem guard_mul (hguard : ensurePatchCanReplaceUnreadableSecrets record p = .ok ()) :
    ensurePatchCanReplaceUnreadableSecrets record (p * q) = .ok () := by
  unfold ensurePatchCanReplaceUnreadableSecrets at hguard ⊢
  have hset : (p * q).secrets.isSet = (p.secrets.isSet || q.secrets.isSet) :=
    PatchValue.isSet_over _ _
  rw [hset]
  cases hp : p.secrets.isSet with
  | true => simp
  | false =>
    simp only [hp, Bool.not_false, Bool.and_true] at hguard
    cases hissue : record.hasReadIssue "unreadable_secrets" "secrets" with
    | true => simp [hissue] at hguard
    | false => simp

/-- Two updates in a row do what one update with the product of the patches does. -/
theorem run_update_mul (hback : ReadsBack svc)
    (hresolver : svc.ownershipResolver = noOpOwnershipResolver)
    (hpolicy : ∀ ctx existing patch, svc.accessPolicy.canUpdate ctx existing patch = .ok ())
    (hrow : ∀ row, find connectionId store = some row →
      (DriverOptions.ofOption (toRecord svc.storage row).driverOptions).ReadBack
        svc.storage.importer)
    (hp : ∀ options, p.driverOptions = .set options → options.ReadBack svc.storage.importer)
    (hq : q.GivesOptions) {store'' : List (Row C)}
    (h : (svc.update env actor connectionId p).run store = (.ok record, store'))
    (h' : (svc.update env' actor connectionId q).run store' = (.ok record', store'')) :
    (svc.update env' actor connectionId (p * q)).run store = (.ok record', store'') := by
  obtain ⟨row, row', hf, hu, -, rfl⟩ := run_update_eq_ok_iff.mp h
  obtain ⟨found, row'', hf', hu', rfl, rfl⟩ := run_update_eq_ok_iff.mp h'
  obtain ⟨spec, v, columns, hactive, hone, -, hguard, hvalid, hb, rfl⟩ :=
    (updatedRow_eq_ok_iff hresolver).mp hu
  -- The second update reads what the first one wrote.
  have hid : row.id = connectionId := (find_eq_some hf).2
  obtain rfl : Repository.replacedRow env columns row = found := by
    rw [← hid] at hf'
    exact Option.some.inj ((find_put_self _ _).symm.trans hf')
  obtain ⟨spec', v', columns', -, -, -, -, hvalid', hb', rfl⟩ :=
    (updatedRow_eq_ok_iff hresolver).mp hu'
  have hraw : (merge (toRecord svc.storage row) p).driverOptions.ReadBack svc.storage.importer := by
    rw [merge_eq_amend]
    unfold ConnectionDraft.amend
    cases ho : p.driverOptions with
    | unset => exact hrow row hf
    | set options => exact hp options ho
  have hread := (toRecord_of_storedAs hback hraw hvalid ((storedAs_of_bindColumns hb).2 row)).2.1
  rw [merge_eq_amend, hread] at hvalid' hb'
  have hmerge : merge (toRecord svc.storage row) (p * q) =
      (merge (toRecord svc.storage row) p).amend q :=
    ConnectionDraft.amend_mul (toRecord svc.storage row).toDraft p q
  refine run_update_eq_ok_iff.mpr ⟨row, _, hf, ?_, rfl, put_put_self _ rfl⟩
  refine (updatedRow_eq_ok_iff hresolver).mpr ⟨spec', v', columns', hactive, hone,
    hpolicy _ _ _, guard_mul hguard, ?_, ?_, rfl⟩
  · rw [hmerge]
    exact hvalid.amend hback hq hvalid'
  · rw [hmerge]
    exact hb'

end Updates

/-- The driver options of a product are those of one of its patches. -/
theorem exists_mem_of_prod_driverOptions {patches : List ConnectionPatch} {options : DriverOptions}
    (h : patches.prod.driverOptions = .set options) :
    ∃ patch ∈ patches, patch.driverOptions = .set options := by
  induction patches with
  | nil => cases h
  | cons patch patches ih =>
    have hprod : (patch :: patches).prod.driverOptions =
        patch.driverOptions.over patches.prod.driverOptions := by
      rw [List.prod_cons]
      rfl
    rw [hprod] at h
    cases ho : patches.prod.driverOptions with
    | unset =>
      rw [ho] at h
      exact ⟨patch, List.mem_cons_self, h⟩
    | set value =>
      rw [ho] at h
      obtain ⟨found, hmem, hfound⟩ := ih (ho.trans h)
      exact ⟨found, List.mem_cons_of_mem _ hmem, hfound⟩

/-- Updates of a connection that all succeed one after another return in the end, and leave, what
one update with the product of their patches does. -/
theorem serialRun_updates_eq {C : Type} (svc : ConnectionService C) (hback : ReadsBack svc)
    (hresolver : svc.ownershipResolver = noOpOwnershipResolver)
    (hpolicy : ∀ ctx existing patch, svc.accessPolicy.canUpdate ctx existing patch = .ok ())
    (actor : Json) (connectionId : String) (store : List (Row C))
    (hrow : ∀ row, find connectionId store = some row →
      (DriverOptions.ofOption (toRecord svc.storage row).driverOptions).ReadBack
        svc.storage.importer)
    (updates : List (CallEnv × ConnectionPatch)) (env : CallEnv) (patch : ConnectionPatch)
    (htyped : ∀ update ∈ updates, ∀ options, update.2.driverOptions = .set options →
      options.ReadBack svc.storage.importer)
    (hdriver : ∀ update ∈ (updates ++ [(env, patch)]).tail, update.2.GivesOptions)
    (records : List ConnectionRecord) (store' : List (Row C))
    (h : serialRun ((updates ++ [(env, patch)]).map fun update =>
      svc.update update.1 actor connectionId update.2) store = (records.map .ok, store')) :
    ∃ record, records.getLast? = some record ∧
      (svc.update env actor connectionId ((updates.map Prod.snd).prod * patch)).run store =
        (.ok record, store') := by
  induction updates using List.reverseRecOn generalizing env patch records store' with
  | nil =>
    simp only [List.nil_append, List.map_singleton, serialRun, Prod.mk.injEq] at h
    obtain ⟨hresult, hstore⟩ := h
    obtain ⟨record, rfl, hrecord⟩ := List.map_eq_singleton_iff.mp hresult.symm
    refine ⟨record, rfl, ?_⟩
    rw [List.map_nil, List.prod_nil, one_mul]
    exact Prod.ext hrecord.symm hstore
  | append_singleton updates last ih =>
    obtain ⟨env₀, patch₀⟩ := last
    rw [List.map_append, List.map_singleton, serialRun_append_singleton, Prod.mk.injEq] at h
    obtain ⟨hresults, hstore⟩ := h
    -- The updates before the last one succeeded too, and are one update.
    obtain ⟨before, after, rfl, hbefore, hafter⟩ := List.map_eq_append_iff.mp hresults.symm
    obtain ⟨record, rfl, hrecord⟩ := List.map_eq_singleton_iff.mp hafter
    have htail : (updates ++ [(env₀, patch₀)] ++ [(env, patch)]).tail =
        (updates ++ [(env₀, patch₀)]).tail ++ [(env, patch)] :=
      List.tail_append_of_ne_nil (by simp)
    rw [htail] at hdriver
    obtain ⟨record₀, -, hrun₀⟩ := ih env₀ patch₀
      (fun update hu => htyped update (List.mem_append_left _ hu))
      (fun update hu => hdriver update (List.mem_append_left _ hu)) before _
      (Prod.ext hbefore.symm rfl)
    refine ⟨record, by simp, ?_⟩
    have hprod : ((updates ++ [(env₀, patch₀)]).map Prod.snd).prod =
        (updates.map Prod.snd).prod * patch₀ := by
      simp
    rw [hprod]
    refine run_update_mul hback hresolver hpolicy hrow (fun options ho => ?_)
      (hdriver (env, patch) (by simp)) hrun₀ (Prod.ext hrecord.symm hstore)
    rw [← hprod] at ho
    obtain ⟨found, hmem, hfound⟩ := exists_mem_of_prod_driverOptions ho
    obtain ⟨update, hupdate, rfl⟩ := List.mem_map.mp hmem
    exact htyped update hupdate options hfound

/-- A row of the type with ODBC options, which has none. -/
def odbcRow : Row Json :=
  { bucketRow "a" with
    kind := "sql"
    type := "odbc"
    propertiesJson := .obj [("host", .str "db"), ("port", .int 1433), ("username", .str "sa"),
      ("database", .str "main")]
    secretsCiphertext := .obj [("password", .str "secret")] }

/-- An update of the driver options, and one of the name. -/
def optionsAndName : List (CallEnv × ConnectionPatch) :=
  [(⟨1, "", 0⟩, { ConnectionPatch.empty with
      driverOptions := .set (.raw [("driver_name", .str "ODBC Driver 18")]) }),
    (⟨2, "", 0⟩, { ConnectionPatch.empty with name := .set (some "archive") })]

/-- A patch of the labels. -/
def labelTeam : ConnectionPatch :=
  { ConnectionPatch.empty with labels := .set (some [("team", "data")]) }

/-- Results that show values are those of computations that succeeded. -/
theorem exists_ok_of_map {ε α β : Type} {g : α → β} {results : List (Except ε α)}
    {shown : List β} (h : results.map (fun result => result.toOption.map g) = shown.map some) :
    ∃ values : List α, results = values.map .ok ∧ values.map g = shown := by
  induction results generalizing shown with
  | nil =>
    cases shown with
    | nil => exact ⟨[], rfl, rfl⟩
    | cons b shown => cases h
  | cons result results ih =>
    cases shown with
    | nil => cases h
    | cons b shown =>
      obtain ⟨hresult, hrest⟩ := List.cons.inj h
      obtain ⟨values, rfl, rfl⟩ := ih hrest
      cases result with
      | error e => cases hresult
      | ok value => exact ⟨value :: values, rfl, congrArg (· :: _) (Option.some.inj hresult)⟩

/-- Three updates of a row, which one update does. -/
theorem serialRun_updates_eq_optionsAndName :
    ∃ record store', record.name = "archive" ∧ record.labels = [("team", "data")] ∧
      (odbcService.update ⟨3, "", 0⟩ .null "a" ((optionsAndName.map Prod.snd).prod * labelTeam)).run
        [odbcRow] = (.ok record, store') := by
  have hrun : ((serialRun ((optionsAndName ++ [((⟨3, "", 0⟩ : CallEnv), labelTeam)]).map
      fun update => odbcService.update update.1 .null "a" update.2) [odbcRow]).1.map
        fun result => result.toOption.map fun record => (record.name, record.labels)) =
      [("backups", []), ("archive", []), ("archive", [("team", "data")])].map some := by
    decide +kernel
  obtain ⟨records, hrecords, hshown⟩ := exists_ok_of_map hrun
  have hrow : ∀ row, find "a" [odbcRow] = some row →
      (DriverOptions.ofOption (toRecord odbcService.storage row).driverOptions).ReadBack
        odbcService.storage.importer := by
    intro row hf
    cases hf
    trivial
  have htyped : ∀ update ∈ optionsAndName, ∀ options, update.2.driverOptions = .set options →
      options.ReadBack odbcService.storage.importer := by
    simp [optionsAndName, ConnectionPatch.empty, DriverOptions.ReadBack]
  have hdriver : ∀ update ∈ (optionsAndName ++ [((⟨3, "", 0⟩ : CallEnv), labelTeam)]).tail,
      update.2.GivesOptions := by
    simp [optionsAndName, labelTeam, ConnectionPatch.empty, ConnectionPatch.GivesOptions,
      PatchValue.isSet]
  obtain ⟨record, hlast, hupdate⟩ := serialRun_updates_eq odbcService readsBack_odbcService rfl
    (fun _ _ _ => rfl) .null "a" [odbcRow] hrow optionsAndName ⟨3, "", 0⟩ labelTeam htyped hdriver
    records _ (Prod.ext hrecords rfl)
  have hfields := congrArg List.getLast? hshown
  rw [List.getLast?_map, hlast] at hfields
  simp only [Option.map_some, List.getLast?_cons_cons, List.getLast?_singleton, Option.some.injEq,
    Prod.mk.injEq] at hfields
  exact ⟨record, _, hfields.1, hfields.2, hupdate⟩

end DbConnection
