import DbConnection.Mapper

/-!
# Extension fields of a PATCH

The keys of an update body that are no draft fields are its extension fields. `to_patch` collects
them into a dictionary that the update writes over the whole `extra` of the record, so an extension
field that the body leaves out is lost: `patch_extensionKept_iff` says that a PATCH with extension
fields keeps the others exactly when there are no others.
-/

namespace DbConnection

open PyData Pydantic ReadCommitted

/-- The extra `old` became `new` by a PATCH with the keys of `body`, read as `set`: what the body
does not mention is as it was, and its extension fields are as it says. -/
structure ExtensionKept (body set old new : Dict Json) : Prop where
  untouched : ∀ key value, old.lookup key = some value → body.contains key = false →
    new.lookup key = some value
  written : ∀ key value, key ∉ draftFields → set.lookup key = some value →
    new.lookup key = some value

/-- A body with an extension field is read with one. -/
theorem extractDraftExtra_ne_nil {raw : Dict Json} {key : String} (hkey : raw.contains key = true)
    (hdraft : key ∉ draftFields) : extractDraftExtra raw ≠ [] := by
  intro hnil
  have hl := lookup_extractDraftExtra raw key
  rw [hnil, if_neg hdraft] at hl
  unfold Dict.contains at hkey
  rw [← hl] at hkey
  cases hkey

/-- Where the extension fields of a body become the whole extra, the body keeps the other ones
exactly when it has all keys of the old extra. -/
theorem extensionKept_extractDraftExtra_iff {body set old : Dict Json}
    (hkeys : ∀ key, set.contains key = body.contains key) :
    ExtensionKept body set old (extractDraftExtra set) ↔
      ∀ key, old.contains key = true → body.contains key = true := by
  constructor
  · intro h key hold
    by_contra hbody
    obtain ⟨value, hvalue⟩ := Option.isSome_iff_exists.mp hold
    have hnew := h.untouched key value hvalue (by simpa using hbody)
    -- The new extra has keys of the body only.
    rw [lookup_extractDraftExtra] at hnew
    split at hnew
    · cases hnew
    · rw [← hkeys] at hbody
      exact hbody (by rw [Dict.contains, hnew]; rfl)
  · intro h
    refine ⟨fun key value hvalue hbody => ?_, fun key value hdraft hset => ?_⟩
    · have hold : old.contains key = true := by rw [Dict.contains, hvalue]; rfl
      rw [h key hold] at hbody
      cases hbody
    · rw [lookup_extractDraftExtra, if_neg hdraft, hset]

/-- A successful PATCH with extension fields, over any store: it keeps the extension fields it does
not mention exactly when the record has no extension field that it does not mention. -/
theorem patch_extensionKept_iff {C : Type} (svc : ConnectionService C)
    (hresolver : svc.ownershipResolver = noOpOwnershipResolver) (schemas : APISchemaSet)
    (hschema : ∀ model ∈ schemas.update, model.KeepsKeys) (env : CallEnv) (actor : Json)
    (connectionId : String) (body : Dict Json)
    (hextension : ∃ key, body.contains key = true ∧ key ∉ draftFields) (store store' : List (Row C))
    (record : ConnectionRecord)
    (hpatch : patchConnection svc schemas env actor connectionId (.obj body) store =
      (.ok record, store')) :
    ∃ payload row row', readBody schemas.update (.obj body) = .ok payload ∧
      find connectionId store = some row ∧ find connectionId store' = some row' ∧
      (ExtensionKept body payload.dumpSet (toRecord svc.storage row).extra
          (toRecord svc.storage row').extra ↔
        ∀ key, (toRecord svc.storage row).extra.contains key = true → body.contains key = true) := by
  unfold patchConnection at hpatch
  cases hread : readBody schemas.update (.obj body) with
  | error e => simp [hread] at hpatch
  | ok payload =>
    simp only [hread] at hpatch
    obtain ⟨row, row', resolved, spec, validated, hf, hu, -, rfl⟩ := run_update_eq_ok hpatch
    obtain ⟨model, hmodel, hparse⟩ := exists_model_of_readBody hread
    have hkeys : ∀ key, payload.dumpSet.contains key = body.contains key := by
      intro key
      rw [(hschema model hmodel).contains_dumpSet hparse key]
      unfold Dict.contains
      rw [lookup_toFieldInputs, Option.isSome_map]
    -- The patch replaces the extra by the extension fields.
    have hpatch : resolved = toPatch payload.dumpSet := by
      have hr := hu.resolve
      rw [hresolver] at hr
      exact (Except.ok.inj hr).symm
    have hextra : (toRecord svc.storage row').extra = extractDraftExtra payload.dumpSet := by
      obtain ⟨key, hkey, hdraft⟩ := hextension
      have hne := extractDraftExtra_ne_nil ((hkeys key).trans hkey) hdraft
      have hset : resolved.extraDict = .set (some (extractDraftExtra payload.dumpSet)) := by
        rw [hpatch]
        exact congrArg (PatchValue.map Json.dict?) (if_neg hne)
      have hj := hu.stored.extra
      simp only [merge, hset, PatchValue.getD_set] at hj
      have hv : (toRecord svc.storage row').extra = (readExtra row'.extraJson).value := rfl
      rw [hv, hj]
      rfl
    have hid : key row' = connectionId := by
      have hk : row.id = connectionId := (find_eq_some hf).2
      rw [← hk]
      exact hu.id
    refine ⟨payload, row, row', rfl, hf, hid ▸ find_put_self store row', ?_⟩
    rw [hextra]
    exact extensionKept_extractDraftExtra_iff hkeys

/-- A stored S3 connection with extension fields. -/
def projectRow (extra : Dict Json) : Row Json := { bucketRow "a" with extraJson := .obj extra }

/-- A PATCH of the only extension field. -/
theorem patch_extensionKept_iff_onlyField :
    ∃ payload row', readBody noDateSchemas.update (.obj [("project_id", .int 2)]) = .ok payload ∧
      ExtensionKept [("project_id", .int 2)] payload.dumpSet [("project_id", .int 1)]
        (toRecord (defaultService none).storage row').extra := by
  have hschema : ∀ model ∈ noDateSchemas.update, model.KeepsKeys :=
    keepsKeys_buildConnectionUpdateModel (defaultRegistry emptyHost)
      keepsKeys_connectionUpdateRequest
  have hok : (patchConnection (defaultService none) noDateSchemas ⟨1, "", 0⟩ .null "a"
      (.obj [("project_id", .int 2)]) [projectRow [("project_id", .int 1)]]).1.toOption.isSome =
        true := by
    decide +kernel
  cases hpatch : patchConnection (defaultService none) noDateSchemas ⟨1, "", 0⟩ .null "a"
      (.obj [("project_id", .int 2)]) [projectRow [("project_id", .int 1)]] with
  | mk result store' =>
    cases result with
    | error e =>
      rw [hpatch] at hok
      cases hok
    | ok record =>
      obtain ⟨payload, row, row', hread, hf, -, hkept⟩ := patch_extensionKept_iff
        (defaultService none) rfl noDateSchemas hschema ⟨1, "", 0⟩ .null
        "a" [("project_id", .int 2)] ⟨"project_id", by decide, by decide⟩ _ store' record hpatch
      have hrow : projectRow [("project_id", .int 1)] = row := Option.some.inj hf
      subst hrow
      refine ⟨payload, row', hread, hkept.mpr fun key hkey => ?_⟩
      have hextra : (toRecord (defaultService none).storage
          (projectRow [("project_id", .int 1)])).extra = [("project_id", .int 1)] := rfl
      rw [hextra, Dict.contains_iff_mem] at hkey
      rw [Dict.contains_iff_mem]
      exact hkey

/-- A PATCH of one extension field of a connection with two succeeds and loses the other. -/
theorem patch_loses_extension :
    ∃ record store', patchConnection (defaultService none) noDateSchemas ⟨1, "", 0⟩ .null "a"
        (.obj [("project_id", .int 2)])
        [projectRow [("project_id", .int 1), ("environment", .str "dev")]] = (.ok record, store') ∧
      record.extra = [("project_id", .int 2)] ∧
      ∀ set, ¬ ExtensionKept [("project_id", .int 2)] set
        (toRecord (defaultService none).storage
          (projectRow [("project_id", .int 1), ("environment", .str "dev")])).extra
        record.extra := by
  have hextra : ((patchConnection (defaultService none) noDateSchemas ⟨1, "", 0⟩ .null "a"
        (.obj [("project_id", .int 2)])
        [projectRow [("project_id", .int 1), ("environment", .str "dev")]]).1.toOption.map
      ConnectionRecord.extra) = some [("project_id", .int 2)] := by
    decide +kernel
  cases hpatch : patchConnection (defaultService none) noDateSchemas ⟨1, "", 0⟩ .null "a"
      (.obj [("project_id", .int 2)])
      [projectRow [("project_id", .int 1), ("environment", .str "dev")]] with
  | mk result store' =>
    rw [hpatch] at hextra
    cases result with
    | error e => cases hextra
    | ok record =>
      have hnew : record.extra = [("project_id", .int 2)] := Option.some.inj hextra
      refine ⟨record, store', rfl, hnew, fun set h => ?_⟩
      have hkept := h.untouched "environment" (.str "dev") rfl rfl
      rw [hnew] at hkept
      exact absurd hkept (by decide)

end DbConnection
