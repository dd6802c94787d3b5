import DbConnection.Registration

/-!
# References of the configuration language

The configuration of `dsl/loader.py` names classes and callables by reference, as `module:attribute`
or `module.attribute`. A reference is split at its first colon or, without one, at its last dot, and
is resolved by an import and by `getattr` along the attribute (`resolveReference_eq_ok_iff`).
-/

namespace DbConnection

open PyData Pydantic NamedEntries Sessions

/-- The interpreter that references are resolved in, over its objects. -/
structure Interpreter (Obj : Type) where
  /-- `import_module`. -/
  importModule : String → Except PyError Obj
  getattr : Obj → String → Except PyError Obj
  /-- The object, if it is a class that derives from `BaseModel`. -/
  asModel : Obj → Option ModelClass
  /-- The object's name, if it can be called. -/
  asCallable : Obj → Option String

/-- An error about a reference. -/
def referenceError (message reference : String) : PyError :=
  .validationFailed message [("reference", .str reference)]

/-- `except classes as exc: raise error from exc`. -/
def raisingInstead {α : Type} (classes : List String) (error : PyError) :
    Except PyError α → Except PyError α
  | .ok a => .ok a
  | .error e => .error (if classes.contains e.cls then error else e)

/-- `_split_reference`. -/
def splitReference (reference : String) : Except PyError (String × String) :=
  let (moduleName, attributePath) :=
    if reference.toList.contains ':' then PyText.partition ':' reference
    else PyText.rpartition '.' reference
  if moduleName = "" ∨ attributePath = "" then
    .error (referenceError ("DSL reference must be formatted as 'module.path:attribute' " ++
      "or 'module.path.attribute'.") reference)
  else .ok (moduleName, attributePath)

/-- A reference is a module and an attribute path, parted by its first colon or, without one, by its
last dot. -/
structure Splits (reference moduleName attributePath : String) : Prop where
  moduleName_ne : moduleName ≠ ""
  attributePath_ne : attributePath ≠ ""
  parted :
    reference.toList = moduleName.toList ++ ':' :: attributePath.toList ∧
        ':' ∉ moduleName.toList ∨
      ':' ∉ reference.toList ∧
        reference.toList = moduleName.toList ++ '.' :: attributePath.toList ∧
        '.' ∉ attributePath.toList

/-- A reference is split in the one way it can be. -/
theorem splitReference_eq_ok_iff {reference moduleName attributePath : String} :
    splitReference reference = .ok (moduleName, attributePath) ↔
      Splits reference moduleName attributePath := by
  -- Whatever the parts are, both must be there.
  have hparts : ∀ {parts : String × String},
      (if parts.1 = "" ∨ parts.2 = "" then .error (referenceError
            ("DSL reference must be formatted as 'module.path:attribute' " ++
              "or 'module.path.attribute'.") reference)
          else .ok parts : Except PyError (String × String)) = .ok (moduleName, attributePath) ↔
        moduleName ≠ "" ∧ attributePath ≠ "" ∧ parts = (moduleName, attributePath) := by
    intro parts
    split
    · rename_i hempty
      refine iff_of_false (by simp) ?_
      rintro ⟨hm, ha, rfl⟩
      exact hempty.elim hm ha
    · rename_i hboth
      rw [Except.ok.injEq]
      refine ⟨fun h => ?_, fun h => h.2.2⟩
      subst h
      exact ⟨fun hm => hboth (.inl hm), fun ha => hboth (.inr ha), rfl⟩
  unfold splitReference
  by_cases hcolon : ':' ∈ reference.toList
  · rw [if_pos (by simpa using hcolon)]
    refine (@hparts (PyText.partition ':' reference)).trans ?_
    rw [PyText.partition_eq_iff hcolon]
    refine ⟨fun ⟨hm, ha, h⟩ => ⟨hm, ha, .inl h⟩, fun h => ⟨h.1, h.2, ?_⟩⟩
    exact h.parted.resolve_right fun hno => hno.1 hcolon
  · rw [if_neg (by simpa using hcolon)]
    refine (@hparts (PyText.rpartition '.' reference)).trans ?_
    have hdot : Splits reference moduleName attributePath → '.' ∈ reference.toList := by
      intro h
      rcases h.parted with h | h
      · exact absurd (by rw [h.1]; simp) hcolon
      · rw [h.2.1]
        simp
    by_cases hmem : '.' ∈ reference.toList
    · rw [PyText.rpartition_eq_iff hmem]
      refine ⟨fun ⟨hm, ha, h⟩ => ⟨hm, ha, .inr ⟨hcolon, h⟩⟩, fun h => ⟨h.1, h.2, ?_⟩⟩
      exact (h.parted.resolve_left fun hno => hcolon (by rw [hno.1]; simp)).2
    · rw [PyText.rpartition_of_not_mem hmem]
      refine iff_of_false (fun ⟨hm, _, h⟩ => hm ?_) fun h => hmem (hdot h)
      exact (Prod.mk.inj h).1.symm

section Resolve

variable {Obj : Type} (interpreter : Interpreter Obj)

/-- `_resolve_reference`. -/
def resolveReference (reference : String) : Except PyError Obj := do
  let (moduleName, attributePath) ← splitReference reference
  let module ← raisingInstead ["ImportError", "ModuleNotFoundError"]
    (referenceError "DSL reference module could not be imported." reference)
    (interpreter.importModule moduleName)
  raisingInstead ["AttributeError"]
    (referenceError "DSL reference attribute could not be resolved." reference)
    ((PyText.split '.' attributePath).foldlM interpreter.getattr module)

/-- A reference resolves to what `getattr` along its attribute path finds in its module. -/
theorem resolveReference_eq_ok_iff {reference : String} {resolved : Obj} :
    resolveReference interpreter reference = .ok resolved ↔
      ∃ moduleName attributePath, Splits reference moduleName attributePath ∧
        ∃ module, interpreter.importModule moduleName = .ok module ∧
          (PyText.split '.' attributePath).foldlM interpreter.getattr module = .ok resolved := by
  have hraising : ∀ {α : Type} {classes : List String} {error : PyError} {x : Except PyError α}
      {a : α}, raisingInstead classes error x = .ok a ↔ x = .ok a := by
    intro α classes error x a
    cases x <;> simp [raisingInstead]
  unfold resolveReference
  simp only [bind_eq_ok_iff, hraising, Prod.exists, splitReference_eq_ok_iff]

/-- `_resolve_model_class`. -/
def resolveModelClass (reference : String) : Except PyError ModelClass := do
  let resolved ← resolveReference interpreter reference
  match interpreter.asModel resolved with
  | some m => .ok m
  | none =>
    .error (referenceError "DSL reference must resolve to a Pydantic model class." reference)

/-- `_resolve_optional_model_class`. -/
def resolveOptionalModelClass : Option String → Except PyError (Option ModelClass)
  | none => .ok none
  | some reference => (resolveModelClass interpreter reference).map some

/-- `_resolve_optional_callable`, of which the registry keeps the name. -/
def resolveOptionalCallable : Option String → Except PyError (Option String)
  | none => .ok none
  | some reference => do
    let resolved ← resolveReference interpreter reference
    match interpreter.asCallable resolved with
    | some name => .ok (some name)
    | none => .error (referenceError "DSL reference must resolve to a callable." reference)

end Resolve

end DbConnection
