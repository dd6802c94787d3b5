import DbConnection.Lib.PydanticRecords
import DbConnection.Mapper

/-!
# Where the keys of a request body go

`to_create_draft` and `to_patch` sort the keys of a request body into the fields of a draft or patch
and the entries of its `extra`. `RequestArguments` are what they pass to the constructors, before
the values are typed, and `requests_routed_iff` says when each key that the client sent is in exactly
one place: the field of its name or an entry. The two reserve the same names, those of the draft
fields, so they agree on the entries; but a patch has fewer fields, and the key `extra` has no place
of its own in a creation.
-/

namespace DbConnection

open PyData Pydantic

/-! ## The arguments -/

/-- What a mapper passes as `extra`. -/
inductive ExtraArgument where
  | unset
  /-- The value of the body's key `extra`. -/
  | whole (value : Json)
  /-- The keys of the body that are no draft fields. -/
  | entries (items : Dict Json)
  deriving DecidableEq, Repr

/-- The arguments of the constructor call that ends `to_create_draft` or `to_patch`. -/
structure RequestArguments where
  fields : Dict Json
  extra : ExtraArgument
  deriving DecidableEq, Repr

/-- The arguments of `ConnectionDraft` in `to_create_draft`. -/
def createArguments (raw : Dict Json) : RequestArguments where
  fields :=
    [("name", (raw.lookup "name").getD .null), ("kind", (raw.lookup "kind").getD .null),
      ("type", (raw.lookup "type").getD .null), ("driver", (raw.lookup "driver").getD .null),
      ("driver_options", (raw.lookup "driver_options").getD .null),
      ("properties", (raw.lookup "properties").getD (.obj [])),
      ("secrets", (raw.lookup "secrets").getD (.obj [])),
      ("labels", (raw.lookup "labels").getD (.obj [])),
      ("metadata", (raw.lookup "metadata").getD (.obj []))]
  extra := .entries (extractDraftExtra raw)

/-- `build_connection_patch_fields()` without `extra`. -/
def patchFields : List String :=
  ["name", "driver", "driver_options", "properties", "secrets", "labels", "metadata"]

/-- The arguments of `ConnectionPatch` in `to_patch`. -/
def patchArguments (raw : Dict Json) : RequestArguments where
  fields := raw.pick patchFields
  extra :=
    -- The extension keys of the body stand over its key `extra`.
    if extractDraftExtra raw = [] then ((raw.lookup "extra").map ExtraArgument.whole).getD .unset
    else .entries (extractDraftExtra raw)

/-- The draft of the arguments. -/
def RequestArguments.draft (args : RequestArguments) : ConnectionDraft where
  name := (args.fields.lookup "name").bind toStr?
  kind := ((args.fields.lookup "kind").bind toStr?).getD ""
  type := ((args.fields.lookup "type").bind toStr?).getD ""
  driver := (args.fields.lookup "driver").bind toStr?
  driverOptions := toDriverOptions ((args.fields.lookup "driver_options").getD .null)
  properties := toDict? ((args.fields.lookup "properties").getD (.obj []))
  secrets := toDict? ((args.fields.lookup "secrets").getD (.obj []))
  labels := toLabels? ((args.fields.lookup "labels").getD (.obj []))
  metadata := toDict? ((args.fields.lookup "metadata").getD (.obj []))
  extra :=
    match args.extra with
    | .unset => some []
    | .whole value => value.dict?
    | .entries items => some items

/-- The patch of the arguments. -/
def RequestArguments.patch (args : RequestArguments) : ConnectionPatch where
  name := patchValue args.fields "name" toStr?
  driver := patchValue args.fields "driver" toStr?
  driverOptions := patchValue args.fields "driver_options" toDriverOptions
  properties := patchValue args.fields "properties" toDict?
  secrets := patchValue args.fields "secrets" toDict?
  labels := patchValue args.fields "labels" toLabels?
  metadata := patchValue args.fields "metadata" toDict?
  extra :=
    match args.extra with
    | .unset => .unset
    | .whole value => .set value
    | .entries items => .set (.obj items)

/-- `to_create_draft` makes the draft of its arguments. -/
theorem toCreateDraft_eq (raw : Dict Json) : toCreateDraft raw = (createArguments raw).draft := by
  -- A field that the payload has not is read like `None`.
  have hstr : ∀ value : Option Json, toStr? (value.getD .null) = value.bind toStr? := by
    intro value
    cases value <;> rfl
  simp [toCreateDraft, RequestArguments.draft, createArguments, List.lookup_cons, hstr]

/-- `to_patch` makes the patch of its arguments. -/
theorem toPatch_eq (raw : Dict Json) : toPatch raw = (patchArguments raw).patch := by
  have hfield : ∀ {α : Type} (name : String) (read : Json → α), name ∈ patchFields →
      patchValue (raw.pick patchFields) name read = patchValue raw name read := by
    intro α name read hname
    unfold patchValue
    rw [Dict.lookup_pick, if_pos hname]
  unfold toPatch RequestArguments.patch patchArguments
  simp only [ConnectionPatch.mk.injEq]
  refine ⟨(hfield _ _ (by decide)).symm, (hfield _ _ (by decide)).symm,
    (hfield _ _ (by decide)).symm, (hfield _ _ (by decide)).symm, (hfield _ _ (by decide)).symm,
    (hfield _ _ (by decide)).symm, (hfield _ _ (by decide)).symm, ?_⟩
  by_cases hnil : extractDraftExtra raw = []
  · rw [if_pos hnil, if_pos hnil]
    unfold patchValue
    cases raw.lookup "extra" <;> rfl
  · rw [if_neg hnil, if_neg hnil]

/-- `_merge` with its refusal of a kind and a type. -/
def mergeChecked (existing : ConnectionRecord) (patch : ConnectionPatch) :
    Except PyError ConnectionDraft :=
  if "kind" ∈ patch.fieldsSet ∨ "type" ∈ patch.fieldsSet then
    .error (.validationFailed "Changing connection kind or type is not supported." [])
  else .ok (merge existing patch)

/-- No patch sets a kind or a type, so `_merge` refuses none. -/
theorem mergeChecked_eq (existing : ConnectionRecord) (patch : ConnectionPatch) :
    mergeChecked existing patch = .ok (merge existing patch) := by
  have hfields : ∀ field ∈ patch.fieldsSet, field ∈ "extra" :: patchFields := by
    intro field hfield
    simp only [ConnectionPatch.fieldsSet, ConnectionPatch.toDict, List.map_append,
      List.mem_append] at hfield
    rcases hfield with ((((((h | h) | h) | h) | h) | h) | h) | h <;>
      rw [((PatchValue.mem_item _ _ _ _).mp h).1] <;> decide
  unfold mergeChecked
  rw [if_neg]
  rintro (h | h)
  · exact absurd (hfields _ h) (by decide)
  · exact absurd (hfields _ h) (by decide)

/-! ## Places -/

/-- A place for the value of a key. -/
inductive RequestPlace where
  | field (name : String)
  | entry (key : String)
  deriving DecidableEq, Repr

/-- What the arguments have at a place. -/
def RequestArguments.at (args : RequestArguments) : RequestPlace → Option Json
  | .field name =>
    match args.extra with
    | .whole value => if name = "extra" then some value else args.fields.lookup name
    | _ => args.fields.lookup name
  | .entry key =>
    match args.extra with
    | .entries items => items.lookup key
    | _ => none

/-- Each key of the body is with its value in exactly one place: the field of its name or an entry
of `extra`. -/
def Routed (body : Dict Json) (args : RequestArguments) : Prop :=
  ∀ key value, body.lookup key = some value →
    ∃! place, (place = .field key ∨ place = .entry key) ∧ args.at place = some value

/-- A key is in one of its two places only if it is in one and not in the other. -/
theorem existsUnique_place_iff {args : RequestArguments} {key : String} {value : Json} :
    (∃! place, (place = .field key ∨ place = .entry key) ∧ args.at place = some value) ↔
      (args.at (.field key) = some value ∧ args.at (.entry key) ≠ some value) ∨
        (args.at (.field key) ≠ some value ∧ args.at (.entry key) = some value) := by
  constructor
  · rintro ⟨place, ⟨rfl | rfl, hat⟩, hunique⟩
    · refine .inl ⟨hat, fun hentry => ?_⟩
      have he := hunique (.entry key) ⟨.inr rfl, hentry⟩
      cases he
    · refine .inr ⟨fun hfield => ?_, hat⟩
      have he := hunique (.field key) ⟨.inl rfl, hfield⟩
      cases he
  · rintro (⟨hat, hother⟩ | ⟨hother, hat⟩)
    · refine ⟨.field key, ⟨.inl rfl, hat⟩, ?_⟩
      rintro place ⟨rfl | rfl, hplace⟩
      · rfl
      · exact absurd hplace hother
    · refine ⟨.entry key, ⟨.inr rfl, hat⟩, ?_⟩
      rintro place ⟨rfl | rfl, hplace⟩
      · exact absurd hplace hother
      · rfl

/-- A draft field other than `extra` is the field of its name in a creation. -/
theorem createArguments_field {raw : Dict Json} {key : String} {value : Json}
    (hraw : raw.lookup key = some value) :
    (createArguments raw).at (.field key) = some value ↔ key ∈ draftFields ∧ key ≠ "extra" := by
  unfold createArguments RequestArguments.at
  dsimp only
  constructor
  · intro h
    have hmem : key ∈ ["name", "kind", "type", "driver", "driver_options", "properties", "secrets",
        "labels", "metadata"] := by
      have hcontains := Dict.contains_iff_mem.mp (Option.isSome_of_eq_some h)
      simpa using hcontains
    simp only [List.mem_cons, List.not_mem_nil, or_false] at hmem
    rcases hmem with rfl | rfl | rfl | rfl | rfl | rfl | rfl | rfl | rfl <;> decide
  · rintro ⟨hmem, hextra⟩
    simp only [draftFields, List.mem_cons, List.not_mem_nil, or_false, hextra] at hmem
    rcases hmem with rfl | rfl | rfl | rfl | rfl | rfl | rfl | rfl | rfl <;>
      simp [List.lookup_cons, hraw]

/-- The keys that are no draft fields are the entries of a creation. -/
theorem createArguments_entry (raw : Dict Json) (key : String) :
    (createArguments raw).at (.entry key) = if key ∈ draftFields then none else raw.lookup key :=
  lookup_extractDraftExtra raw key

/-- There are no extension keys exactly when every key is a draft field. -/
theorem extractDraftExtra_eq_nil_iff {raw : Dict Json} :
    extractDraftExtra raw = [] ↔ ∀ key, raw.contains key = true → key ∈ draftFields := by
  have hcontains : ∀ key, (extractDraftExtra raw).contains key = true ↔
      key ∉ draftFields ∧ raw.contains key = true := by
    intro key
    unfold Dict.contains
    rw [lookup_extractDraftExtra]
    by_cases hkey : key ∈ draftFields <;> simp [hkey]
  constructor
  · intro hnil key hkey
    by_contra hne
    have h := (hcontains key).mpr ⟨hne, hkey⟩
    rw [hnil] at h
    cases h
  · intro h
    rw [List.eq_nil_iff_forall_not_mem]
    rintro ⟨key, value⟩ hmem
    obtain ⟨hne, hkey⟩ :=
      (hcontains key).mp (Dict.contains_iff_mem.mpr (List.mem_map_of_mem hmem))
    exact hne (h key hkey)

/-- The keys that are no draft fields are the entries of an update too. -/
theorem patchArguments_entry (raw : Dict Json) (key : String) :
    (patchArguments raw).at (.entry key) = if key ∈ draftFields then none else raw.lookup key := by
  unfold patchArguments RequestArguments.at
  dsimp only
  by_cases hnil : extractDraftExtra raw = []
  · have hl := lookup_extractDraftExtra raw key
    rw [hnil, List.lookup_nil] at hl
    rw [if_pos hnil, ← hl]
    cases raw.lookup "extra" <;> rfl
  · rw [if_neg hnil]
    exact lookup_extractDraftExtra raw key

/-- A patch field is the field of its name in an update, and so is `extra` if there are no extension
keys. -/
theorem patchArguments_field {raw : Dict Json} {key : String} {value : Json}
    (hraw : raw.lookup key = some value) :
    (patchArguments raw).at (.field key) = some value ↔
      key ∈ patchFields ∨ (key = "extra" ∧ extractDraftExtra raw = []) := by
  have hpick : (raw.pick patchFields).lookup key = some value ↔ key ∈ patchFields := by
    rw [Dict.lookup_pick]
    by_cases hkey : key ∈ patchFields <;> simp [hkey, hraw]
  unfold patchArguments RequestArguments.at
  by_cases hnil : extractDraftExtra raw = []
  · cases hextra : raw.lookup "extra" with
    | none =>
      have hne : key ≠ "extra" := by
        rintro rfl
        rw [hraw] at hextra
        cases hextra
      simp [hnil, hpick, hne]
    | some whole =>
      by_cases hkey : key = "extra"
      · subst hkey
        rw [hraw] at hextra
        simp [hnil, Option.some.inj hextra]
      · simp [hnil, hpick, hkey]
  · simp [hnil, hpick]

/-- The creation of a body routes it exactly when it has no key `extra`. -/
theorem routed_createArguments_iff {body raw : Dict Json}
    (hraw : ∀ key value, body.lookup key = some value → raw.lookup key = some value) :
    Routed body (createArguments raw) ↔ body.contains "extra" = false := by
  constructor
  · intro h
    by_contra hextra
    obtain ⟨value, hvalue⟩ := Option.isSome_iff_exists.mp (Bool.not_eq_false _ ▸ hextra)
    rcases existsUnique_place_iff.mp (h "extra" value hvalue) with ⟨hfield, -⟩ | ⟨-, hentry⟩
    · exact ((createArguments_field (hraw _ _ hvalue)).mp hfield).2 rfl
    · rw [createArguments_entry, if_pos (by decide)] at hentry
      cases hentry
  · intro hextra key value hvalue
    have hne : key ≠ "extra" := by
      rintro rfl
      rw [Dict.contains, hvalue] at hextra
      cases hextra
    refine existsUnique_place_iff.mpr ?_
    rw [Ne, Ne, createArguments_field (hraw _ _ hvalue), createArguments_entry]
    by_cases hkey : key ∈ draftFields
    · simp [hkey, hne]
    · simp [hkey, hraw _ _ hvalue]

/-- The update of a body routes it exactly when it has no kind or type, and not the key `extra`
beside extension keys. -/
theorem routed_patchArguments_iff {body raw : Dict Json}
    (hraw : ∀ key, body.lookup key = raw.lookup key) :
    Routed body (patchArguments raw) ↔
      body.contains "kind" = false ∧ body.contains "type" = false ∧
        ¬ (body.contains "extra" = true ∧ ∃ key, body.contains key = true ∧ key ∉ draftFields) := by
  -- A draft field with a value is routed if it is a field of the patch.
  have hdraft : ∀ key value, body.lookup key = some value → key ∈ draftFields →
      ((∃! place, (place = .field key ∨ place = .entry key) ∧
        (patchArguments raw).at place = some value) ↔
          key ∈ patchFields ∨ (key = "extra" ∧ extractDraftExtra raw = [])) := by
    intro key value hvalue hkey
    rw [existsUnique_place_iff, patchArguments_entry, if_pos hkey,
      ← patchArguments_field ((hraw key).symm.trans hvalue)]
    simp
  have hextension : extractDraftExtra raw = [] ↔
      ¬ ∃ key, body.contains key = true ∧ key ∉ draftFields := by
    have hsame : ∀ key, body.contains key = raw.contains key :=
      fun key => congrArg Option.isSome (hraw key)
    rw [extractDraftExtra_eq_nil_iff]
    simp only [hsame, not_exists, not_and, not_not]
  constructor
  · intro h
    have hrefuse : ∀ key, key ∈ draftFields → key ∉ "extra" :: patchFields →
        body.contains key = false := by
      intro key hkey hne
      by_contra hsent
      obtain ⟨value, hvalue⟩ := Option.isSome_iff_exists.mp (Bool.not_eq_false _ ▸ hsent)
      rcases (hdraft key value hvalue hkey).mp (h key value hvalue) with hmem | ⟨rfl, -⟩
      · exact hne (List.mem_cons_of_mem _ hmem)
      · exact hne List.mem_cons_self
    refine ⟨hrefuse "kind" (by decide) (by decide), hrefuse "type" (by decide) (by decide), ?_⟩
    rintro ⟨hsent, hother⟩
    obtain ⟨value, hvalue⟩ := Option.isSome_iff_exists.mp hsent
    rcases (hdraft _ value hvalue (by decide)).mp (h _ value hvalue) with hmem | ⟨-, hnil⟩
    · exact absurd hmem (by decide)
    · exact hextension.mp hnil hother
  · rintro ⟨hkind, htype, hextra⟩ key value hvalue
    have hsent : body.contains key = true := Option.isSome_of_eq_some hvalue
    by_cases hkey : key ∈ draftFields
    · refine (hdraft key value hvalue hkey).mpr ?_
      by_cases hpatch : key ∈ patchFields
      · exact .inl hpatch
      · -- The draft fields that no patch has are `kind`, `type` and `extra`.
        have hcases : ∀ key ∈ draftFields,
            key ∈ patchFields ∨ key = "kind" ∨ key = "type" ∨ key = "extra" := by decide
        rcases hcases key hkey with hmem | rfl | rfl | rfl
        · exact absurd hmem hpatch
        · rw [hkind] at hsent
          cases hsent
        · rw [htype] at hsent
          cases hsent
        · exact .inr ⟨rfl, hextension.mpr fun hother => hextra ⟨hsent, hother⟩⟩
    · refine existsUnique_place_iff.mpr (.inr ⟨?_, ?_⟩)
      · have hsub : ∀ key ∈ "extra" :: patchFields, key ∈ draftFields := by decide
        rw [Ne, patchArguments_field ((hraw key).symm.trans hvalue)]
        rintro (hmem | ⟨rfl, -⟩)
        · exact hkey (hsub key (List.mem_cons_of_mem _ hmem))
        · exact hkey (hsub _ List.mem_cons_self)
      · rw [patchArguments_entry, if_neg hkey, ← hraw, hvalue]

/-! ## Requests -/

/-- A request model keeps its payloads if its fields have distinct names and types that keep their
values. -/
theorem keepsPayload_requestModel {qualname : String} {fields : List Field}
    (halias : ∀ field ∈ fields, field.validationAlias = none)
    (hnames : (fields.map Field.name).Nodup) (hvalidators : ∀ field ∈ fields, field.NoValidators)
    (hverbatim : ∀ field ∈ fields, field.type.isVerbatim = true) :
    (requestModel qualname fields).KeepsPayload :=
  ⟨keepsKeys_requestModel halias, hnames, hvalidators, hverbatim⟩

theorem keepsPayload_connectionCreateRequest : connectionCreateRequest.KeepsPayload := by
  refine keepsPayload_requestModel ?_ (by decide) ?_ ?_
  · simp [Field.required, Field.optional, Field.emptyDict, Field.of]
  · simp [Field.required, Field.optional, Field.emptyDict, Field.noValidators]
  · simp [Field.required, Field.optional, Field.emptyDict, Field.of, FieldType.isVerbatim]

theorem keepsPayload_connectionUpdateRequest : connectionUpdateRequest.KeepsPayload := by
  refine keepsPayload_requestModel ?_ (by decide) ?_ ?_
  · simp [Field.optional, Field.of]
  · simp [Field.optional, Field.noValidators]
  · simp [Field.optional, Field.of, FieldType.isVerbatim]

/-- Which bodies of the generic schemas reach the service whole. A creation routes every key exactly
when the body has no key `extra`. An update routes every key, or `_merge` refuses it, exactly when the
body has neither `kind` nor `type`, and not the key `extra` beside keys that are no draft fields. A
key that a creation and an update send with one value is an entry of the one's `extra` exactly when it
is an entry of the other's. -/
theorem requests_routed_iff (body : Dict Json) (existing : ConnectionRecord) :
    (∀ payload, connectionCreateRequest.parse (.obj body) = .ok payload →
      (Routed body (createArguments payload.value.dump) ↔ body.contains "extra" = false)) ∧
    (∀ payload, connectionUpdateRequest.parse (.obj body) = .ok payload →
      ((Routed body (patchArguments payload.dumpSet) ∨
          ∃ e, mergeChecked existing (toPatch payload.dumpSet) = .error e) ↔
        body.contains "kind" = false ∧ body.contains "type" = false ∧
          ¬ (body.contains "extra" = true ∧
            ∃ key, body.contains key = true ∧ key ∉ draftFields))) ∧
    (∀ createPayload updated updatePayload,
      connectionCreateRequest.parse (.obj body) = .ok createPayload →
      connectionUpdateRequest.parse (.obj updated) = .ok updatePayload →
      ∀ key value, body.lookup key = some value → List.lookup key updated = some value →
        ((createArguments createPayload.value.dump).at (.entry key) = some value ↔
          (patchArguments updatePayload.dumpSet).at (.entry key) = some value)) := by
  have hcreated : ∀ (body : Dict Json) payload,
      connectionCreateRequest.parse (.obj body) = .ok payload → ∀ key value,
        body.lookup key = some value → payload.value.dump.lookup key = some value :=
    fun body payload h key value hvalue =>
      (keepsPayload_connectionCreateRequest.lookup_dump h hvalue).1
  have hupdated : ∀ (body : Dict Json) payload,
      connectionUpdateRequest.parse (.obj body) = .ok payload → ∀ key,
        payload.dumpSet.lookup key = body.lookup key :=
    fun body payload h => keepsPayload_connectionUpdateRequest.lookup_dumpSet_eq h
  refine ⟨?_, ?_, ?_⟩
  · intro payload h
    exact routed_createArguments_iff (hcreated body payload h)
  · intro payload h
    rw [← routed_patchArguments_iff fun key => (hupdated body payload h key).symm]
    refine or_iff_left ?_
    rintro ⟨e, he⟩
    rw [mergeChecked_eq] at he
    cases he
  · intro createPayload updated updatePayload hc hu key value hcv huv
    rw [createArguments_entry, patchArguments_entry, hcreated _ _ hc key value hcv,
      hupdated _ _ hu key, huv]

/-- An update with an extension key. -/
theorem requests_routed_iff_extension :
    ∃ payload, connectionUpdateRequest.parse (.obj [("name", .str "a"), ("team", .str "b")]) =
        .ok payload ∧
      Routed [("name", .str "a"), ("team", .str "b")] (patchArguments payload.dumpSet) := by
  refine ⟨_, rfl, ?_⟩
  have hiff := (requests_routed_iff [("name", .str "a"), ("team", .str "b")] default).2.1 _ rfl
  refine (hiff.mpr ⟨rfl, rfl, fun h => absurd h.1 (by decide)⟩).resolve_right ?_
  rintro ⟨e, he⟩
  rw [mergeChecked_eq] at he
  cases he

/-- An update with a kind, accepted: the key is in no place, and `_merge` does not refuse it. -/
theorem update_drops_kind :
    ∃ payload, connectionUpdateRequest.parse (.obj [("kind", .str "queue")]) = .ok payload ∧
      (∀ place, (place = .field "kind" ∨ place = .entry "kind") →
        (patchArguments payload.dumpSet).at place = none) ∧
      ∀ existing, mergeChecked existing (toPatch payload.dumpSet) =
        .ok (merge existing ConnectionPatch.empty) := by
  refine ⟨_, rfl, ?_, fun existing => mergeChecked_eq _ _⟩
  rintro place (rfl | rfl) <;> rfl

end DbConnection
