import DbConnection.Mapper

/-!
# What the access policy is shown

The policy decides on `AccessContext.payload`: the fields of the resolved draft or patch with the
entries of its `extra` written over them. `policy_shown_request_iff` says when that payload shows the
request that the operation goes on to validate and write. An entry of `extra` under the name of a
field hides what the field has, so the policy can be shown another name, kind or secret than the one
that is stored.
-/

namespace DbConnection

open PyData Pydantic

/-- The context in which the policy is asked about a creation. -/
def createContext (actor : Json) (resolved : ConnectionDraft) : AccessContext :=
  ⟨actor, "create", none, some (payloadWithExtra resolved.asdict)⟩

/-- The context in which the policy is asked about an update. -/
def updateContext (actor : Json) (connectionId : String) (resolved : ConnectionPatch) :
    AccessContext :=
  ⟨actor, "update", some connectionId, some (payloadWithExtra resolved.toDict)⟩

namespace ConnectionService

variable {C : Type} (svc : ConnectionService C) (actor : Json) (connectionId : String)

/-- `create` asks the policy in this context, validates the resolved draft and goes on with it. -/
theorem prepareCreate_eq (payload : ConnectionDraft) :
    svc.prepareCreate actor payload = (do
      let resolved ← svc.ownershipResolver.resolveCreate (createContext actor payload) payload
      svc.accessPolicy.canCreate (createContext actor resolved) resolved
      let validated ← validate svc.registry resolved
      return (resolved, validated)) := rfl

/-- `update` asks the policy in this context, validates the merged draft and goes on with it. -/
theorem prepareUpdate_eq (patch : ConnectionPatch) (existing : ConnectionRecord) :
    svc.prepareUpdate actor connectionId patch existing = (do
      let resolved ← svc.ownershipResolver.resolvePatch
        (updateContext actor connectionId patch) existing patch
      svc.accessPolicy.canUpdate (updateContext actor connectionId resolved) existing resolved
      ensurePatchCanReplaceUnreadableSecrets existing resolved
      let validated ← validate svc.registry (merge existing resolved)
      return (merge existing resolved, validated)) := rfl

end ConnectionService

/-- The fields that no entry of `extra` may make the policy see otherwise. -/
def guardedFields : List String :=
  ["name", "driver", "properties", "secrets", "labels", "metadata", "kind", "type"]

/-- What the policy should be shown, of the fields that are present in the request, of its extra, and
of the draft that is validated and written. -/
structure ShowsRequest (payload : Option (Dict PayloadValue)) (present : Dict PayloadValue)
    (extra : Dict Json) (written : Dict PayloadValue) : Prop where
  /-- A field that is present is shown with its value. -/
  fields : ∀ key value, key ≠ "extra" → present.lookup key = some value →
    payload.bind (List.lookup key) = some value
  /-- Any other key of the extra is shown with the extra's value. -/
  others : ∀ key value, extra.lookup key = some value →
    (key = "extra" ∨ present.lookup key = none) →
      payload.bind (List.lookup key) = some (.json value)
  /-- No guarded field is shown otherwise than it is written. -/
  guarded : ∀ key ∈ guardedFields, ∀ value, payload.bind (List.lookup key) = some value →
    written.lookup key = some value

/-- The extra in the fields of a draft or a patch. -/
def extraIn (present : Dict PayloadValue) : Dict Json :=
  match present.lookup "extra" with
  | some (.json (.obj extra)) => extra
  | _ => []

/-- A key of the payload: the extra's value, or else the field's. -/
theorem lookup_payloadWithExtra (present : Dict PayloadValue) (key : String) :
    (payloadWithExtra present).lookup key =
      (((extraIn present).lookup key).map PayloadValue.json).or
        (if key = "extra" then none else present.lookup key) := by
  have hpop : (present.pop "extra").lookup key =
      if key = "extra" then none else present.lookup key := by
    unfold Dict.pop
    rw [Dict.lookup_filter_key fun k => k != "extra"]
    by_cases hkey : key = "extra"
    · rw [if_pos hkey, hkey]
      rfl
    · rw [if_neg hkey, if_pos (bne_iff_ne.mpr hkey)]
  unfold payloadWithExtra extraIn
  -- Only a dictionary is an extra.
  cases hextra : present.lookup "extra" with
  | none => exact hpop
  | some value =>
    cases value with
    | model v => exact hpop
    | json json =>
      cases json with
      | obj extra =>
        dsimp only
        rw [Dict.lookup_update, Dict.lookup_map_values PayloadValue.json, hpop]
      | _ => exact hpop

/-- The payload shows the request exactly when each entry of the extra under the name of a field
repeats the value that the field has, or, for a guarded field, will have. -/
theorem showsRequest_iff {present written : Dict PayloadValue}
    (hwritten : ∀ key value, key ≠ "extra" → present.lookup key = some value →
      written.lookup key = some value) :
    ShowsRequest (some (payloadWithExtra present)) present (extraIn present) written ↔
      ∀ key value, key ≠ "extra" → (extraIn present).lookup key = some value →
        (∀ own, present.lookup key = some own → own = .json value) ∧
          (key ∈ guardedFields → written.lookup key = some (.json value)) := by
  have hshown : ∀ key value, (extraIn present).lookup key = some value →
      (payloadWithExtra present).lookup key = some (.json value) := by
    intro key value h
    rw [lookup_payloadWithExtra, h]
    rfl
  constructor
  · intro hshows key value hkey hextra
    constructor
    · intro own hown
      have hfield : (payloadWithExtra present).lookup key = some own :=
        hshows.fields key own hkey hown
      rw [hshown key value hextra] at hfield
      exact (Option.some.inj hfield).symm
    · intro hguarded
      exact hshows.guarded key hguarded _ (hshown key value hextra)
  · intro hextra
    refine ⟨?_, ?_, ?_⟩
    · intro key value hkey hpresent
      show (payloadWithExtra present).lookup key = some value
      rw [lookup_payloadWithExtra, if_neg hkey, hpresent]
      cases hlookup : (extraIn present).lookup key with
      | none => rfl
      | some own => exact congrArg some ((hextra key own hkey hlookup).1 value hpresent).symm
    · exact fun key value hlookup _ => hshown key value hlookup
    · intro key hguarded value hvalue
      have hkey : key ≠ "extra" := by
        rintro rfl
        exact absurd hguarded (by decide)
      have hvalue : (payloadWithExtra present).lookup key = some value := hvalue
      rw [lookup_payloadWithExtra, if_neg hkey] at hvalue
      cases hlookup : (extraIn present).lookup key with
      | none =>
        rw [hlookup] at hvalue
        exact hwritten key value hkey hvalue
      | some own =>
        rw [hlookup] at hvalue
        rw [← Option.some.inj hvalue]
        exact (hextra key own hkey hlookup).2 hguarded

/-- The extra of a draft is the one in its fields. -/
theorem extraIn_asdict (draft : ConnectionDraft) : extraIn draft.asdict = draft.extra.getD [] := by
  have hlookup : draft.asdict.lookup "extra" = some (.json (Json.ofObj? draft.extra)) := rfl
  unfold extraIn
  rw [hlookup]
  cases draft.extra <;> rfl

/-- The value of a patch field that is set. -/
def PatchValue.toOption {α : Type} : PatchValue α → Option α
  | .unset => none
  | .set value => some value

/-- A key of the item of a patch field. -/
theorem lookup_item {α : Type} (name : String) (toPayload : α → PayloadValue) (v : PatchValue α)
    (key : String) :
    (v.item name toPayload).lookup key =
      if key = name then v.toOption.map toPayload else none := by
  cases v with
  | unset => simp [PatchValue.item, PatchValue.toOption]
  | set value =>
    by_cases hkey : key = name
    · simp [PatchValue.item, PatchValue.toOption, hkey]
    · have hne : (key == name) = false := beq_eq_false_iff_ne.mpr hkey
      simp [PatchValue.item, List.lookup_cons, hkey, hne]

/-- The extra of a patch, where it is set. -/
theorem extraIn_toDict (patch : ConnectionPatch) :
    extraIn patch.toDict = (patch.extra.toOption.bind Json.obj?).getD [] := by
  have hlookup : patch.toDict.lookup "extra" = patch.extra.toOption.map PayloadValue.json := by
    unfold ConnectionPatch.toDict
    simp only [List.lookup_append, lookup_item]
    simp
  unfold extraIn
  rw [hlookup]
  cases patch.extra with
  | unset => rfl
  | set value => cases value <;> rfl

/-- An entry of a patch field's item: the name of the field, and the value that it is set to. -/
theorem lookup_item_eq_some {α : Type} {name : String} {toPayload : α → PayloadValue}
    {v : PatchValue α} {key : String} {value : PayloadValue}
    (h : (v.item name toPayload).lookup key = some value) :
    key = name ∧ ∃ a, v = .set a ∧ toPayload a = value := by
  rw [lookup_item] at h
  by_cases hkey : key = name
  · rw [if_pos hkey] at h
    cases v with
    | unset => cases h
    | set a => exact ⟨hkey, a, rfl, Option.some.inj h⟩
  · rw [if_neg hkey] at h
    cases h

/-- A field other than the extra that a patch sets is the merged draft's. -/
theorem lookup_asdict_merge {existing : ConnectionRecord} {patch : ConnectionPatch} {key : String}
    {value : PayloadValue} (hkey : key ≠ "extra") (h : patch.toDict.lookup key = some value) :
    (merge existing patch).asdict.lookup key = some value := by
  unfold ConnectionPatch.toDict at h
  simp only [List.lookup_append, Option.or_eq_some_iff] at h
  rcases h with h | ⟨-, h⟩
  · rcases h with ((((((h | ⟨-, h⟩) | ⟨-, h⟩) | ⟨-, h⟩) | ⟨-, h⟩) | ⟨-, h⟩) | ⟨-, h⟩) <;>
      · obtain ⟨rfl, a, hset, rfl⟩ := lookup_item_eq_some h
        simp [ConnectionDraft.asdict, merge, hset, List.lookup_cons]
  · exact absurd (lookup_item_eq_some h).1 hkey

/-- A draft has all the guarded fields. -/
theorem exists_lookup_asdict (draft : ConnectionDraft) {key : String} (h : key ∈ guardedFields) :
    ∃ own, draft.asdict.lookup key = some own := by
  simp only [guardedFields, List.mem_cons, List.not_mem_nil, or_false] at h
  rcases h with rfl | rfl | rfl | rfl | rfl | rfl | rfl | rfl <;> exact ⟨_, rfl⟩

/-- The policy is shown the request that is validated and written exactly when each entry of the
extra under the name of another field repeats that field: of the resolved draft of a creation; and
of an update, the value that the patch sets, or, if it sets none, the one that is kept. -/
theorem policy_shown_request_iff (actor : Json) (draft : ConnectionDraft) (connectionId : String)
    (existing : ConnectionRecord) (patch : ConnectionPatch) :
    (ShowsRequest (createContext actor draft).payload draft.asdict (draft.extra.getD [])
        draft.asdict ↔
      ∀ key value, key ≠ "extra" → (draft.extra.getD []).lookup key = some value →
        ∀ own, draft.asdict.lookup key = some own → own = .json value) ∧
    (ShowsRequest (updateContext actor connectionId patch).payload patch.toDict
        ((patch.extra.toOption.bind Json.obj?).getD []) (merge existing patch).asdict ↔
      ∀ key value, key ≠ "extra" →
        ((patch.extra.toOption.bind Json.obj?).getD []).lookup key = some value →
          (∀ own, patch.toDict.lookup key = some own → own = .json value) ∧
            (key ∈ guardedFields →
              (merge existing patch).asdict.lookup key = some (.json value))) := by
  constructor
  · rw [← extraIn_asdict]
    refine (showsRequest_iff fun _ _ _ h => h).trans ?_
    refine forall₂_congr fun key value => imp_congr_right fun hkey => imp_congr_right fun hextra => ?_
    refine and_iff_left_of_imp ?_
    intro hown hguarded
    obtain ⟨own, hlookup⟩ := exists_lookup_asdict draft hguarded
    rw [hlookup, hown own hlookup]
  · rw [← extraIn_toDict]
    exact showsRequest_iff fun _ _ hkey h => lookup_asdict_merge hkey h

/-- A stored connection that is renamed in the examples. -/
def renamedRecord : ConnectionRecord :=
  toRecord ⟨noOpEncryptionProvider, packageImporter, id⟩ (bucketRow "1")

/-- The body `{"name": "prod", "extra": {"name": "scratch", "kind": "queue"}}` renames a connection
to `prod` and shows the policy the name `scratch` and another kind. -/
theorem policy_shown_forged_name :
    let resolved := toPatch
      [("name", .str "prod"), ("extra", .obj [("name", .str "scratch"), ("kind", .str "queue")])]
    (merge renamedRecord resolved).name = some "prod" ∧
      (merge renamedRecord resolved).kind = "file" ∧
      (payloadWithExtra resolved.toDict).lookup "name" = some (.json (.str "scratch")) ∧
      (payloadWithExtra resolved.toDict).lookup "kind" = some (.json (.str "queue")) ∧
      ¬ ShowsRequest (updateContext .null "1" resolved).payload resolved.toDict
        ((resolved.extra.toOption.bind Json.obj?).getD []) (merge renamedRecord resolved).asdict := by
  intro resolved
  refine ⟨by decide, by decide, by decide, by decide, ?_⟩
  intro hshows
  have hname := hshows.fields "name" (.json (.str "prod")) (by decide) (by decide)
  exact absurd hname (by decide)

end DbConnection
