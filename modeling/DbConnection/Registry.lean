import Mathlib.Data.List.Sort
import DbConnection.Domain

/-!
# The connection registry

`registry/base.py`. The dictionaries of kinds and types keep three facts that every way of filling
them keeps: an entry stands under its own name, a name stands once, and a type's kind is
registered. They are fields of the structure, so a registry is only built with them.
-/

namespace DbConnection

open PyData Pydantic

/-- `ConnectionRegistry`. -/
structure ConnectionRegistry where
  kinds : Dict KindSpec
  types : Dict TypeSpec
  /-- A kind is registered under its own name. -/
  kinds_name : ∀ item ∈ kinds, item.2.name = item.1
  /-- A type is registered under its own name. -/
  types_name : ∀ item ∈ types, item.2.name = item.1
  /-- A name is registered for one type. -/
  types_nodup : (types.map Prod.fst).Nodup
  /-- The kind of a type is registered. -/
  kinds_known : ∀ item ∈ types, (kinds.contains item.2.kind) = true

namespace ConnectionRegistry

/-- `get_type`. -/
def getType (registry : ConnectionRegistry) (name : String) : Except PyError TypeSpec :=
  match registry.types.lookup name with
  | some spec => .ok spec
  | none => .error (.connectionTypeNotSupported name)

/-- `list_types`, sorted by name. -/
def listTypes (registry : ConnectionRegistry) : List TypeSpec :=
  (registry.types.map Prod.snd).insertionSort fun a b => decide (a.name ≤ b.name) = true

/-- A type found by name is one of the registered types. -/
theorem mem_of_getType {registry : ConnectionRegistry} {name : String} {spec : TypeSpec}
    (h : registry.getType name = .ok spec) : (name, spec) ∈ registry.types := by
  unfold getType at h
  split at h
  · rename_i found hf
    cases h
    exact Dict.mem_of_lookup hf
  · cases h

/-- A type is found under its own name. -/
theorem getType_name {registry : ConnectionRegistry} {name : String} {spec : TypeSpec}
    (h : registry.getType name = .ok spec) : spec.name = name :=
  registry.types_name _ (mem_of_getType h)

/-- A type that is found is registered under its own name. -/
theorem mem_types_of_getType {registry : ConnectionRegistry} {name : String} {spec : TypeSpec}
    (h : registry.getType name = .ok spec) : (spec.name, spec) ∈ registry.types := by
  have hmem := mem_of_getType h
  rwa [← getType_name h] at hmem

/-- The listed types are the registered ones. -/
theorem mem_listTypes {registry : ConnectionRegistry} {spec : TypeSpec} :
    spec ∈ registry.listTypes ↔ (spec.name, spec) ∈ registry.types := by
  unfold listTypes
  rw [List.mem_insertionSort, List.mem_map]
  constructor
  · rintro ⟨⟨name, spec'⟩, hmem, rfl⟩
    have hn := registry.types_name _ hmem
    simp only at hn
    rwa [← hn] at hmem
  · intro hmem
    exact ⟨_, hmem, rfl⟩

/-- The models of the registered types raise no other exception than `ValidationError`. -/
def Quiet (registry : ConnectionRegistry) : Prop :=
  ∀ spec, (spec.name, spec) ∈ registry.types → spec.Quiet

/-- A listed type is the one found under its name. -/
theorem getType_of_mem {registry : ConnectionRegistry} {spec : TypeSpec}
    (h : (spec.name, spec) ∈ registry.types) : registry.getType spec.name = .ok spec := by
  have hl : registry.types.lookup spec.name = some spec :=
    Dict.lookup_of_mem registry.types_nodup h
  simp [getType, hl]

end ConnectionRegistry
end DbConnection
