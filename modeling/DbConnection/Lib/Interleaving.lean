import Mathlib.Data.Fintype.Basic
import DbConnection.Lib.ReadCommitted

/-!
# Interleaved transactions

A system is the committed table and, for each index, one transaction with the versions it holds
uncommitted. A `Step` runs one statement of one transaction. `Reaches Good` is the runs whose
every step meets `Good`, and `step?` runs a step where the indices are finite, so that a schedule
can be evaluated.

In every reachable state the keys of the table are distinct and no two transactions hold versions
of one row (`WellFormed`). So a commit leaves the rows that other transactions hold
(`find_overlay_other`).
-/

namespace ReadCommitted

/-- A transaction on its way: the program left, the versions it holds uncommitted and, for the
record, what its SELECTs returned so far. -/
structure Tx (R E : Type) {K : Type} [Keyed R K] (α : Type) where
  prog : Prog R E α
  pend : List R
  reads : List (List R)

/-- A transaction about to run `prog`. -/
def Tx.start {R E K : Type} [Keyed R K] {α : Type} (prog : Prog R E α) : Tx R E α := ⟨prog, [], []⟩

/-- A system of transactions over one table. `log` records the commits in their order. -/
structure Sys (ι R E : Type) {K : Type} [Keyed R K] (α : Type) where
  committed : List R
  tx : ι → Tx R E α
  log : List ι

section System

variable {ι K R E α : Type} [Keyed R K]

/-- The system in which no transaction has run a statement. -/
def Sys.start (committed : List R) (progs : ι → Prog R E α) : Sys ι R E α :=
  ⟨committed, fun i => Tx.start (progs i), []⟩

/-- Another transaction holds an uncommitted version of the row of `k`. -/
def Sys.Locked (σ : Sys ι R E α) (i : ι) (k : K) : Prop :=
  ∃ j, j ≠ i ∧ k ∈ (σ.tx j).pend.map key

variable [DecidableEq ι] [DecidableEq K]

/-- The system with transaction `i` in another state. -/
def Sys.set (σ : Sys ι R E α) (i : ι) (t : Tx R E α) : Sys ι R E α :=
  { σ with tx := Function.update σ.tx i t }

/-- One statement of transaction `i`. -/
inductive Step (σ : Sys ι R E α) (i : ι) : Sys ι R E α → Prop where
  /-- A SELECT returns the rows the transaction sees. -/
  | select {q next} (hp : (σ.tx i).prog = .select q next) :
      Step σ i (σ.set i
        { prog := next ((overlay σ.committed (σ.tx i).pend).filter q), pend := (σ.tx i).pend,
          reads := (σ.tx i).reads ++ [(overlay σ.committed (σ.tx i).pend).filter q] })
  /-- An INSERT of a free key. -/
  | insert {row dup next} (hp : (σ.tx i).prog = .insert row dup next)
      (hl : ¬ σ.Locked i (key row))
      (hf : find (key row) (overlay σ.committed (σ.tx i).pend) = none) :
      Step σ i (σ.set i
        { prog := next, pend := put (σ.tx i).pend row, reads := (σ.tx i).reads })
  /-- An INSERT of a taken key. -/
  | insertDup {row dup next old} (hp : (σ.tx i).prog = .insert row dup next)
      (hl : ¬ σ.Locked i (key row))
      (hf : find (key row) (overlay σ.committed (σ.tx i).pend) = some old) :
      Step σ i (σ.set i
        { prog := .throw dup, pend := (σ.tx i).pend, reads := (σ.tx i).reads })
  /-- An UPDATE of a row. -/
  | update {k set next old new} (hp : (σ.tx i).prog = .update k set next)
      (hl : ¬ σ.Locked i k)
      (hf : find k (overlay σ.committed (σ.tx i).pend) = some old)
      (hs : set.apply old = .ok new) :
      Step σ i (σ.set i
        { prog := next, pend := put (σ.tx i).pend new, reads := (σ.tx i).reads })
  /-- An UPDATE that violates a constraint. -/
  | updateFails {k set next old e} (hp : (σ.tx i).prog = .update k set next)
      (hl : ¬ σ.Locked i k)
      (hf : find k (overlay σ.committed (σ.tx i).pend) = some old)
      (hs : set.apply old = .error e) :
      Step σ i (σ.set i { prog := .throw e, pend := (σ.tx i).pend, reads := (σ.tx i).reads })
  /-- An UPDATE of a key without a row. -/
  | updateNone {k set next} (hp : (σ.tx i).prog = .update k set next)
      (hl : ¬ σ.Locked i k)
      (hf : find k (overlay σ.committed (σ.tx i).pend) = none) :
      Step σ i (σ.set i { prog := next, pend := (σ.tx i).pend, reads := (σ.tx i).reads })
  /-- A COMMIT publishes the transaction's versions. -/
  | commit {next} (hp : (σ.tx i).prog = .commit next) :
      Step σ i
        { committed := overlay σ.committed (σ.tx i).pend
          tx := Function.update σ.tx i { prog := next, pend := [], reads := (σ.tx i).reads }
          log := σ.log ++ [i] }
  /-- A transaction that has ended gives up what it did not commit. -/
  | rollback {r} (hp : (σ.tx i).prog.outcome = some r) (hn : (σ.tx i).pend ≠ []) :
      Step σ i (σ.set i { prog := (σ.tx i).prog, pend := [], reads := (σ.tx i).reads })

/-- The states a run leads to whose every step, by transaction `i` in state `σ`, meets
`Good σ i`. -/
inductive Reaches (Good : Sys ι R E α → ι → Prop) (σ : Sys ι R E α) : Sys ι R E α → Prop where
  | refl : Reaches Good σ σ
  | step {σ' σ'' i} : Reaches Good σ σ' → Good σ' i → Step σ' i σ'' → Reaches Good σ σ''

/-- An invariant of the good steps holds along every run of them. -/
theorem Reaches.invariant {Good : Sys ι R E α → ι → Prop} {Inv : Sys ι R E α → Prop}
    (hstep : ∀ σ i σ', Inv σ → Good σ i → Step σ i σ' → Inv σ') {σ σ' : Sys ι R E α}
    (h : Reaches Good σ σ') (h0 : Inv σ) : Inv σ' := by
  induction h with
  | refl => exact h0
  | step _ hg hs ih => exact hstep _ _ _ ih hg hs

/-- One run after another is a run. -/
theorem Reaches.trans {Good : Sys ι R E α → ι → Prop} {σ σ' σ'' : Sys ι R E α}
    (h : Reaches Good σ σ') (h' : Reaches Good σ' σ'') : Reaches Good σ σ'' := by
  induction h' with
  | refl => exact h
  | step _ hg hs ih => exact .step ih hg hs

section Inversion

variable {σ σ' : Sys ι R E α} {i : ι}

/-- A transaction at a SELECT goes on with the rows it sees. -/
theorem Step.of_select (h : Step σ i σ') {q next} (hp : (σ.tx i).prog = .select q next) :
    σ' = σ.set i
      { prog := next ((overlay σ.committed (σ.tx i).pend).filter q), pend := (σ.tx i).pend,
        reads := (σ.tx i).reads ++ [(overlay σ.committed (σ.tx i).pend).filter q] } := by
  cases h <;> simp_all [Prog.outcome]

/-- A transaction at an INSERT writes the row, or fails because its key is taken. -/
theorem Step.of_insert (h : Step σ i σ') {row dup next}
    (hp : (σ.tx i).prog = .insert row dup next) :
    ¬ σ.Locked i (key row) ∧
      ((find (key row) (overlay σ.committed (σ.tx i).pend) = none ∧
        σ' = σ.set i ⟨next, put (σ.tx i).pend row, (σ.tx i).reads⟩) ∨
      σ' = σ.set i ⟨.throw dup, (σ.tx i).pend, (σ.tx i).reads⟩) := by
  cases h <;> simp_all [Prog.outcome]

/-- A transaction at an UPDATE writes the row of the key, fails on a constraint, or finds no
row. -/
theorem Step.of_update (h : Step σ i σ') {k set next}
    (hp : (σ.tx i).prog = .update k set next) :
    ¬ σ.Locked i k ∧
      ((∃ old new, find k (overlay σ.committed (σ.tx i).pend) = some old ∧
        set.apply old = .ok new ∧
        σ' = σ.set i ⟨next, put (σ.tx i).pend new, (σ.tx i).reads⟩) ∨
      (∃ e, σ' = σ.set i ⟨.throw e, (σ.tx i).pend, (σ.tx i).reads⟩) ∨
      (find k (overlay σ.committed (σ.tx i).pend) = none ∧
        σ' = σ.set i ⟨next, (σ.tx i).pend, (σ.tx i).reads⟩)) := by
  cases h with
  | update hp' hl hf hs =>
    rw [hp] at hp'
    cases hp'
    exact ⟨hl, .inl ⟨_, _, hf, hs, rfl⟩⟩
  | updateFails hp' hl hf hs =>
    rw [hp] at hp'
    cases hp'
    exact ⟨hl, .inr (.inl ⟨_, rfl⟩)⟩
  | updateNone hp' hl hf =>
    rw [hp] at hp'
    cases hp'
    exact ⟨hl, .inr (.inr ⟨hf, rfl⟩)⟩
  | rollback hp' hn => simp [hp, Prog.outcome] at hp'
  | _ hp' => simp [hp] at hp'

/-- A transaction at a COMMIT publishes its versions. -/
theorem Step.of_commit (h : Step σ i σ') {next} (hp : (σ.tx i).prog = .commit next) :
    σ' = ⟨overlay σ.committed (σ.tx i).pend,
      Function.update σ.tx i ⟨next, [], (σ.tx i).reads⟩, σ.log ++ [i]⟩ := by
  cases h <;> simp_all [Prog.outcome]

/-- A transaction that has ended can only give up what it did not commit. -/
theorem Step.of_outcome (h : Step σ i σ') {r} (hp : (σ.tx i).prog.outcome = some r) :
    (σ.tx i).pend ≠ [] ∧ σ' = σ.set i ⟨(σ.tx i).prog, [], (σ.tx i).reads⟩ := by
  cases h <;> simp_all [Prog.outcome]

end Inversion

section Schedule

variable [Fintype ι]

instance (σ : Sys ι R E α) (i : ι) (k : K) : Decidable (σ.Locked i k) :=
  inferInstanceAs (Decidable (∃ j, j ≠ i ∧ k ∈ (σ.tx j).pend.map key))

/-- The step of transaction `i`, where it has one. -/
def step? (σ : Sys ι R E α) (i : ι) : Option (Sys ι R E α) :=
  let t := σ.tx i
  let seen := overlay σ.committed t.pend
  match t.prog with
  -- A transaction that has ended gives up what it did not commit, if there is anything.
  | .pure _ | .throw _ => if t.pend.isEmpty then none else some (σ.set i { t with pend := [] })
  | .select q next =>
    some (σ.set i ⟨next (seen.filter q), t.pend, t.reads ++ [seen.filter q]⟩)
  | .insert row dup next =>
    -- Waiting is no step: the schedule stops here.
    if σ.Locked i (key row) then none
    else match find (key row) seen with
      | some _ => some (σ.set i ⟨.throw dup, t.pend, t.reads⟩)
      | none => some (σ.set i ⟨next, put t.pend row, t.reads⟩)
  | .update k set next =>
    if σ.Locked i k then none
    else match find k seen with
      | none => some (σ.set i ⟨next, t.pend, t.reads⟩)
      | some old => match set.apply old with
        | .error e => some (σ.set i ⟨.throw e, t.pend, t.reads⟩)
        | .ok new => some (σ.set i ⟨next, put t.pend new, t.reads⟩)
  | .commit next => some ⟨seen, Function.update σ.tx i ⟨next, [], t.reads⟩, σ.log ++ [i]⟩

/-- Runs the transactions in the order of a schedule, a statement each, as long as the steps pass
a test. -/
def runScheduleIf (good : Sys ι R E α → ι → Bool) (σ : Sys ι R E α) :
    List ι → Option (Sys ι R E α)
  | [] => some σ
  | i :: is => if good σ i then (step? σ i).bind fun σ' => runScheduleIf good σ' is else none

/-- What `step?` computes is a step. -/
theorem step_of_step? {σ σ' : Sys ι R E α} {i : ι} (h : step? σ i = some σ') : Step σ i σ' := by
  unfold step? at h
  cases hp : (σ.tx i).prog with
  | pure a =>
    simp only [hp] at h
    split at h
    · cases h
    · rename_i hn
      cases h
      have := Step.rollback (σ := σ) (i := i) (r := .ok a) (by rw [hp]; rfl) (by simpa using hn)
      rwa [hp] at this
  | throw e =>
    simp only [hp] at h
    split at h
    · cases h
    · rename_i hn
      cases h
      have := Step.rollback (σ := σ) (i := i) (r := .error e) (by rw [hp]; rfl) (by simpa using hn)
      rwa [hp] at this
  | select q next =>
    simp only [hp] at h
    cases h
    exact .select hp
  | insert row dup next =>
    simp only [hp] at h
    split at h
    · cases h
    · rename_i hl
      split at h
      · rename_i hf
        cases h
        exact .insertDup hp hl hf
      · rename_i hf
        cases h
        exact .insert hp hl hf
  | update k set next =>
    simp only [hp] at h
    split at h
    · cases h
    · rename_i hl
      split at h
      · rename_i hf
        cases h
        exact .updateNone hp hl hf
      · rename_i hf
        split at h
        · rename_i hs
          cases h
          exact .updateFails hp hl hf hs
        · rename_i hs
          cases h
          exact .update hp hl hf hs
  | commit next =>
    simp only [hp] at h
    cases h
    exact .commit hp

/-- A schedule that runs, with steps that pass a test for `Good`, leads to a state reachable by
good steps. -/
theorem reaches_of_runScheduleIf {Good : Sys ι R E α → ι → Prop} {good : Sys ι R E α → ι → Bool}
    (hgood : ∀ σ i, good σ i = true → Good σ i) {σ σ' : Sys ι R E α} {is : List ι}
    (h : runScheduleIf good σ is = some σ') : Reaches Good σ σ' := by
  suffices ∀ σ₀, Reaches Good σ₀ σ → Reaches Good σ₀ σ' from this σ .refl
  intro σ₀ h₀
  induction is generalizing σ with
  | nil =>
    cases h
    exact h₀
  | cons i is ih =>
    simp only [runScheduleIf] at h
    split at h
    · rename_i hi
      obtain ⟨σ₁, h₁, h⟩ := Option.bind_eq_some_iff.mp h
      exact ih h (.step h₀ (hgood σ i hi) (step_of_step? h₁))
    · cases h

/-- What a schedule leads to is seen of a reachable state. -/
theorem exists_reaches_of_runScheduleIf (Good : Sys ι R E α → ι → Prop)
    {good : Sys ι R E α → ι → Bool} (hgood : ∀ σ i, good σ i = true → Good σ i)
    {σ : Sys ι R E α} {is : List ι} {β : Type} {f : Sys ι R E α → β} {b : β}
    (h : (runScheduleIf good σ is).map f = some b) : ∃ σ', Reaches Good σ σ' ∧ f σ' = b := by
  obtain ⟨σ', hσ, hf⟩ := Option.map_eq_some_iff.mp h
  exact ⟨σ', reaches_of_runScheduleIf hgood hσ, hf⟩

end Schedule

/-- No two rows of one key are committed, and no two transactions hold versions of one row. -/
structure WellFormed (σ : Sys ι R E α) : Prop where
  /-- The committed rows have distinct keys. -/
  committed : (σ.committed.map key).Nodup
  /-- A transaction holds one version of a row. -/
  pend : ∀ i, ((σ.tx i).pend.map key).Nodup
  /-- A row is held by one transaction. -/
  apart : ∀ i j, i ≠ j → ∀ k, k ∈ (σ.tx i).pend.map key → k ∉ (σ.tx j).pend.map key

omit [DecidableEq ι] [DecidableEq K] in
/-- A table of distinct keys starts a well-formed system. -/
theorem wellFormed_start {committed : List R} (h : (committed.map key).Nodup)
    (progs : ι → Prog R E α) : WellFormed (Sys.start committed progs) where
  committed := h
  pend _ := List.nodup_nil
  apart _ _ _ _ hk := by simp [Sys.start, Tx.start] at hk

/-- What a step does to the table and the pending versions: it keeps, drops or extends the
versions of its transaction, the last with a row no other transaction holds, or it commits. -/
theorem Step.shape {σ σ' : Sys ι R E α} {i : ι} (h : Step σ i σ') :
    (∃ t, σ' = σ.set i t ∧ (t.pend = (σ.tx i).pend ∨ t.pend = [] ∨
      ∃ r, t.pend = put (σ.tx i).pend r ∧ ¬ σ.Locked i (key r))) ∨
    (∃ next, (σ.tx i).prog = .commit next ∧
      σ' = ⟨overlay σ.committed (σ.tx i).pend,
        Function.update σ.tx i ⟨next, [], (σ.tx i).reads⟩, σ.log ++ [i]⟩) := by
  cases h with
  | select hp => exact .inl ⟨_, rfl, .inl rfl⟩
  | insert hp hl hf => exact .inl ⟨_, rfl, .inr (.inr ⟨_, rfl, hl⟩)⟩
  | insertDup hp hl hf => exact .inl ⟨_, rfl, .inl rfl⟩
  | @update k set next old new hp hl hf hs =>
    have hk : key new = k := (set.key_apply _ _ hs).trans (find_eq_some hf).2
    exact .inl ⟨_, rfl, .inr (.inr ⟨new, rfl, by rwa [hk]⟩)⟩
  | updateFails hp hl hf hs => exact .inl ⟨_, rfl, .inl rfl⟩
  | updateNone hp hl hf => exact .inl ⟨_, rfl, .inl rfl⟩
  | commit hp => exact .inr ⟨_, hp, rfl⟩
  | rollback hp hn => exact .inl ⟨_, rfl, .inr (.inl rfl)⟩

omit [DecidableEq K] in
/-- A transaction in another state leaves the others. -/
theorem Sys.tx_set_of_ne (σ : Sys ι R E α) {i j : ι} (h : j ≠ i) (t : Tx R E α) :
    (σ.set i t).tx j = σ.tx j := by
  simp [Sys.set, h]

/-- A step of another transaction leaves a transaction where it is. -/
theorem Step.tx_of_ne {σ σ' : Sys ι R E α} {i j : ι} (hs : Step σ i σ') (h : j ≠ i) :
    σ'.tx j = σ.tx j := by
  rcases hs.shape with ⟨t, rfl, -⟩ | ⟨next, -, rfl⟩
  · exact σ.tx_set_of_ne h t
  · exact Function.update_of_ne h _ _

/-- A step keeps a system well formed. -/
theorem wellFormed_step {σ σ' : Sys ι R E α} {i : ι} (hw : WellFormed σ) (h : Step σ i σ') :
    WellFormed σ' := by
  -- It is enough that the stepping transaction's new versions are distinct and not locked.
  have main : ∀ (c : List R) (t : Tx R E α) (l : List ι), (c.map key).Nodup →
      (t.pend.map key).Nodup → (∀ k ∈ t.pend.map key, ¬ σ.Locked i k) →
      WellFormed (⟨c, Function.update σ.tx i t, l⟩ : Sys ι R E α) := by
    intro c t l hc ht hl
    refine ⟨hc, fun j => ?_, fun j j' hjj k hk => ?_⟩
    · by_cases hj : j = i
      · subst hj
        simpa using ht
      · simpa [hj] using hw.pend j
    · by_cases hj : j = i
      · subst hj
        simp only [Function.update_self] at hk
        have hj' : j' ≠ j := fun e => hjj e.symm
        simp only [Function.update_of_ne hj']
        exact fun hk' => hl k hk ⟨j', hj', hk'⟩
      · simp only [Function.update_of_ne hj] at hk
        by_cases hj' : j' = i
        · subst hj'
          simp only [Function.update_self]
          exact fun hk' => hl k hk' ⟨j, hj, hk⟩
        · simp only [Function.update_of_ne hj']
          exact hw.apart j j' hjj k hk
  -- The versions it already held are not locked, by what held before.
  have free : ∀ k ∈ (σ.tx i).pend.map key, ¬ σ.Locked i k := by
    rintro k hk ⟨j, hj, hk'⟩
    exact hw.apart j i hj k hk' hk
  rcases h.shape with ⟨t, rfl, ht⟩ | ⟨next, hp, rfl⟩
  · rcases ht with ht | ht | ⟨r, ht, hr⟩
    · exact main _ _ _ hw.committed (ht ▸ hw.pend i) (ht ▸ free)
    · exact main _ _ _ hw.committed (by simp [ht]) (by simp [ht])
    · refine main _ _ _ hw.committed (ht ▸ nodup_put (hw.pend i) r) fun k hk => ?_
      rw [ht, mem_keys_put] at hk
      rcases hk with rfl | hk
      · exact hr
      · exact free k hk
  · exact main _ _ _ (nodup_overlay hw.committed _) (by simp) (by simp)

omit [DecidableEq ι] in
/-- A transaction's commit leaves the rows that another transaction holds. -/
theorem WellFormed.find_overlay_other {σ : Sys ι R E α} (hw : WellFormed σ) {i j : ι}
    (hij : i ≠ j) {k : K} (hk : k ∈ (σ.tx i).pend.map key) :
    find k (overlay σ.committed (σ.tx j).pend) = find k σ.committed := by
  have hn : find k (σ.tx j).pend = none := by
    rw [← Option.not_isSome_iff_eq_none, find_isSome_iff]
    exact hw.apart i j hij k hk
  rw [find_overlay (hw.pend j), hn, Option.none_or]

end System
end ReadCommitted
