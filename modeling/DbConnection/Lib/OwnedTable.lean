import Mathlib.Data.List.Nodup

/-!
# Tables that several users share

A `Table` holds rows under distinct keys. `Effect` says what a step does to a table when it may touch
certain rows only: it reads some of them, writes over one of them, or inserts a row, and shows what it
read or wrote. The other rows are then kept and hidden (`Effect.kept`, `Effect.hidden`), and over a
run in which no step may touch a row, the row is the same at the end (`mem_run_of_kept`).
-/

namespace OwnedTable

variable {R K : Type}

/-- Rows under distinct keys. -/
structure Table (key : R → K) where
  rows : List R
  keyed : (rows.map key).Nodup

namespace Table

variable {key : R → K}

/-- Rows of a table with one key are one row. -/
theorem eq_of_key_eq {table : Table key} {r r' : R} (hr : r ∈ table.rows) (hr' : r' ∈ table.rows)
    (h : key r = key r') : r = r' :=
  List.inj_on_of_nodup_map table.keyed hr hr' h

variable [DecidableEq K]

/-- Inserts a row unless its key is in use. -/
def insert (table : Table key) (row : R) : Option (Table key) :=
  if h : key row ∈ table.rows.map key then none
  else some
    { rows := table.rows ++ [row]
      keyed := by
        rw [List.map_append, List.nodup_append]
        refine ⟨table.keyed, by simp, fun k hk k' hk' => ?_⟩
        rintro rfl
        rw [List.map_singleton, List.mem_singleton] at hk'
        exact h (hk' ▸ hk) }

/-- The rows with `row` in the place of that with the key `k`. -/
def replaceRows (key : R → K) (k : K) (row : R) (rows : List R) : List R :=
  rows.map fun r => if key r = k then row else r

/-- Writing a row whose key no other row has keeps the keys distinct. -/
theorem nodup_replaceRows {rows : List R} {k : K} {row : R} (hrows : (rows.map key).Nodup)
    (hrow : ∀ r ∈ rows, key r ≠ k → key r ≠ key row) :
    ((replaceRows key k row rows).map key).Nodup := by
  induction rows with
  | nil => simp [replaceRows]
  | cons r rows ih =>
    rw [List.map_cons, List.nodup_cons] at hrows
    have hrest := ih hrows.2 fun r' hr' => hrow r' (List.mem_cons_of_mem r hr')
    unfold replaceRows at hrest ⊢
    rw [List.map_cons, List.map_cons, List.nodup_cons]
    refine ⟨?_, hrest⟩
    simp only [List.map_map, List.mem_map, Function.comp_apply]
    rintro ⟨r', hr', he⟩
    have hne : key r' ≠ key r := fun e => hrows.1 (e ▸ List.mem_map_of_mem hr')
    -- At most one of the two rows is the one written over; the other keeps its key.
    by_cases hr : key r = k
    · rw [if_pos hr, if_neg (hr ▸ hne)] at he
      exact hrow r' (List.mem_cons_of_mem r hr') (hr ▸ hne) he
    · rw [if_neg hr] at he
      by_cases hr'k : key r' = k
      · rw [if_pos hr'k] at he
        exact hrow r List.mem_cons_self hr he.symm
      · rw [if_neg hr'k] at he
        exact hne he

/-- Writes a row in the place of that with the key `k`, unless another one has its key. -/
def replace (table : Table key) (k : K) (row : R) : Option (Table key) :=
  if h : ∃ r ∈ table.rows, key r ≠ k ∧ key r = key row then none
  else some
    { rows := replaceRows key k row table.rows
      keyed := nodup_replaceRows table.keyed fun r hr hne he => h ⟨r, hr, hne, he⟩ }

variable {table table' : Table key} {row r : R} {k : K}

/-- What an insertion does. -/
theorem insert_eq_some (h : table.insert row = some table') :
    (∀ r ∈ table.rows, key r ≠ key row) ∧ table'.rows = table.rows ++ [row] := by
  unfold insert at h
  split at h
  · cases h
  · rename_i hk
    cases h
    exact ⟨fun r hr he => hk (he ▸ List.mem_map_of_mem hr), rfl⟩

/-- What a replacement does. -/
theorem replace_eq_some (h : table.replace k row = some table') :
    (∀ r ∈ table.rows, key r ≠ k → key r ≠ key row) ∧
      table'.rows = replaceRows key k row table.rows := by
  unfold replace at h
  split at h
  · cases h
  · rename_i hk
    cases h
    exact ⟨fun r hr hne he => hk ⟨r, hr, hne, he⟩, rfl⟩

/-- A replacement keeps the rows with other keys. -/
theorem mem_replaceRows_of_ne {rows : List R} (hr : r ∈ rows) (hne : key r ≠ k) :
    r ∈ replaceRows key k row rows :=
  List.mem_map.mpr ⟨r, hr, if_neg hne⟩

/-- A row that is in the table before and after a replacement at its key is what was written. -/
theorem eq_of_mem_replace (h : table.replace (key r) row = some table') (hr : r ∈ table.rows)
    (hmem : r ∈ table'.rows) : r = row := by
  obtain ⟨-, hrows⟩ := replace_eq_some h
  have hrow : row ∈ table'.rows := by
    rw [hrows]
    exact List.mem_map.mpr ⟨r, hr, if_pos rfl⟩
  rw [hrows] at hmem
  obtain ⟨r', hr', he⟩ := List.mem_map.mp hmem
  -- Only the row of the key was written over; a row with another key is not `r`.
  by_cases hk : key r' = key r
  · rw [if_pos hk] at he
    exact he.symm
  · rw [if_neg hk] at he
    exact absurd (he ▸ rfl) hk

/-- How many rows have a property after writing over one of them. -/
theorem countP_replaceRows (p : R → Bool) (row : R) {rows : List R} {old : R}
    (hrows : (rows.map key).Nodup) (hold : old ∈ rows) :
    (replaceRows key (key old) row rows).countP p + (if p old then 1 else 0) =
      rows.countP p + if p row then 1 else 0 := by
  induction rows with
  | nil => cases hold
  | cons r rows ih =>
    rw [List.map_cons, List.nodup_cons] at hrows
    unfold replaceRows at ih ⊢
    rw [List.map_cons, List.countP_cons, List.countP_cons]
    by_cases hk : key r = key old
    · -- The row is the one that is written over, and no other has its key.
      have hr : r = old := by
        rcases List.mem_cons.mp hold with h | h
        · exact h.symm
        · exact absurd (hk ▸ List.mem_map_of_mem h) hrows.1
      have hrest : rows.map (fun r' => if key r' = key old then row else r') = rows := by
        refine (List.map_congr_left fun r' hr' => ?_).trans (List.map_id rows)
        have hne : key r' ≠ key old := by
          intro he
          rw [hk, ← he] at hrows
          exact hrows.1 (List.mem_map_of_mem hr')
        rw [if_neg hne]
        rfl
      rw [if_pos hk, hrest, hr]
      omega
    · have hmem : old ∈ rows := by
        rcases List.mem_cons.mp hold with h | h
        · exact absurd (h ▸ rfl) hk
        · exact h
      rw [if_neg hk]
      have hcount := ih hrows.2 hmem
      omega

/-! ## Rows under a key -/

section Keyed

variable {before after : Table key} {new : R}

/-- A row was put into a table: it is there, and so are the rows with other keys. -/
def Put (before : Table key) (new : R) (after : Table key) : Prop :=
  ∀ r, r ∈ after.rows ↔ r = new ∨ r ∈ before.rows ∧ key r ≠ key new

/-- An insertion puts its row. -/
theorem put_of_insert (h : before.insert new = some after) : Put before new after := by
  obtain ⟨hnew, hrows⟩ := insert_eq_some h
  intro r
  rw [hrows, List.mem_append, List.mem_singleton, or_comm]
  exact or_congr_right ⟨fun hr => ⟨hr, hnew r hr⟩, And.left⟩

/-- A replacement by a row with the same key puts it. -/
theorem put_of_replace {old : R} (hold : old ∈ before.rows) (hkey : key new = key old)
    (h : before.replace (key old) new = some after) : Put before new after := by
  obtain ⟨-, hrows⟩ := replace_eq_some h
  intro r
  rw [hrows]
  constructor
  · intro hr
    obtain ⟨r', hr', rfl⟩ := List.mem_map.mp hr
    by_cases hk : key r' = key old
    · rw [if_pos hk]
      exact Or.inl rfl
    · rw [if_neg hk]
      exact Or.inr ⟨hr', hkey ▸ hk⟩
  · rintro (rfl | ⟨hr, hne⟩)
    · exact List.mem_map.mpr ⟨old, hold, if_pos rfl⟩
    · exact mem_replaceRows_of_ne hr (hkey ▸ hne)

/-- A row can be inserted when no row has its key. -/
theorem exists_insert (before : Table key) (new : R) (h : ∀ r ∈ before.rows, key r ≠ key new) :
    ∃ after, before.insert new = some after := by
  have hnot : key new ∉ before.rows.map key := by
    rintro hmem
    obtain ⟨r, hr, hkey⟩ := List.mem_map.mp hmem
    exact h r hr hkey
  exact ⟨_, dif_neg hnot⟩

/-- A row can be replaced by one with its key. -/
theorem exists_replace (before : Table key) (new : R) :
    ∃ after, before.replace (key new) new = some after := by
  have hnot : ¬ ∃ r ∈ before.rows, key r ≠ key new ∧ key r = key new := by
    rintro ⟨r, -, hne, heq⟩
    exact hne heq
  exact ⟨_, dif_neg hnot⟩

/-- The rows with a key and a property, where a row has the key. -/
theorem filter_key_eq {table : Table key} (hr : r ∈ table.rows) (p : R → Bool) :
    table.rows.filter (fun r' => p r' && decide (key r' = key r)) = if p r then [r] else [] := by
  have hkeyed := table.keyed
  have hmem := hr
  generalize table.rows = rows at hkeyed hmem
  induction rows with
  | nil => cases hmem
  | cons r' rows ih =>
    rw [List.map_cons, List.nodup_cons] at hkeyed
    rw [List.filter_cons]
    rcases List.mem_cons.mp hmem with rfl | hmem
    · -- No other row has the key.
      have hrest : rows.filter (fun r' => p r' && decide (key r' = key r)) = [] := by
        refine List.filter_eq_nil_iff.mpr fun r' hr' => ?_
        have hne : key r' ≠ key r := fun heq => hkeyed.1 (heq ▸ List.mem_map_of_mem hr')
        simp [hne]
      rw [hrest]
      simp
    · have hne : key r' ≠ key r := fun heq => hkeyed.1 (heq ▸ List.mem_map_of_mem hmem)
      rw [ih hkeyed.2 hmem]
      simp [hne]

end Keyed

end Table

open Table

variable {key : R → K} [DecidableEq K]

/-- What a step does to a table, and which rows it shows, when it may touch the rows satisfying `may`
only. -/
inductive Effect (may : R → Prop) (table : Table key) : Table key → List R → Prop where
  | read {shown : List R} (h : ∀ r ∈ shown, r ∈ table.rows ∧ may r) : Effect may table table shown
  | replaced {old new : R} {table' : Table key} {shown : List R} (hold : old ∈ table.rows)
      (hmay : may old) (h : table.replace (key old) new = some table')
      (hshown : ∀ r ∈ shown, r = new) : Effect may table table' shown
  | inserted {new : R} {table' : Table key} {shown : List R} (h : table.insert new = some table')
      (hshown : ∀ r ∈ shown, r = new) : Effect may table table' shown

namespace Effect

variable {may may' : R → Prop} {table table' : Table key} {shown : List R} {r : R}

/-- A step that may touch more. -/
theorem mono (h : Effect may table table' shown) (hmay : ∀ r, may r → may' r) :
    Effect may' table table' shown := by
  cases h with
  | read h => exact .read fun r hr => ⟨(h r hr).1, hmay r (h r hr).2⟩
  | replaced hold hold' h hshown => exact .replaced hold (hmay _ hold') h hshown
  | inserted h hshown => exact .inserted h hshown

/-- A row that the step may not touch is kept. -/
theorem kept (h : Effect may table table' shown) (hr : r ∈ table.rows) (hnot : ¬ may r) :
    r ∈ table'.rows := by
  cases h with
  | read h => exact hr
  | @replaced old new table' shown hold hmay h hshown =>
    rw [(replace_eq_some h).2]
    refine mem_replaceRows_of_ne hr fun he => hnot ?_
    rw [eq_of_key_eq hr hold he]
    exact hmay
  | inserted h hshown =>
    rw [(insert_eq_some h).2]
    exact List.mem_append_left _ hr

/-- A row that the step may not touch is not shown, nor is one with its key. -/
theorem hidden (h : Effect may table table' shown) (hr : r ∈ table.rows) (hnot : ¬ may r) :
    ∀ s ∈ shown, key s ≠ key r := by
  intro s hs he
  cases h with
  | read h =>
    obtain ⟨hmem, hmay⟩ := h s hs
    exact hnot (eq_of_key_eq hmem hr he ▸ hmay)
  | @replaced old new table' shown hold hmay h hshown =>
    rw [hshown s hs] at he
    refine (replace_eq_some h).1 r hr (fun hk => hnot ?_) he.symm
    rw [eq_of_key_eq hr hold hk]
    exact hmay
  | inserted h hshown =>
    rw [hshown s hs] at he
    exact (insert_eq_some h).1 r hr he.symm

end Effect

/-! ## Runs -/

section Run

variable {S A : Type} (step : S → A → S)

/-- The state after a run of actions. -/
def run (s : S) (actions : List A) : S := actions.foldl step s

/-- The predicate holds of each action of the run and the state it is taken in. -/
def Along (P : S → A → Prop) : S → List A → Prop
  | _, [] => True
  | s, a :: actions => P s a ∧ Along P (step s a) actions

variable {step}

/-- What follows of each action follows along a run. -/
theorem Along.mono {P Q : S → A → Prop} {actions : List A} {s : S}
    (h : ∀ s, ∀ a ∈ actions, P s a → Q s a) (hP : Along step P s actions) :
    Along step Q s actions := by
  induction actions generalizing s with
  | nil => trivial
  | cons a actions ih =>
    exact ⟨h s a List.mem_cons_self hP.1,
      ih (fun s b hb => h s b (List.mem_cons_of_mem a hb)) hP.2⟩

/-- A row that no action of a run may touch is there at the end. -/
theorem mem_run_of_kept (rowsOf : S → List R) (may : A → R → Prop) {actions : List A} {s : S}
    {r : R}
    (hkept : Along step (fun s a => ∀ r ∈ rowsOf s, ¬ may a r → r ∈ rowsOf (step s a)) s actions)
    (hr : r ∈ rowsOf s) (hnot : ∀ a ∈ actions, ¬ may a r) : r ∈ rowsOf (run step s actions) := by
  induction actions generalizing s with
  | nil => exact hr
  | cons a actions ih =>
    exact ih hkept.2 (hkept.1 r hr (hnot a List.mem_cons_self))
      fun b hb => hnot b (List.mem_cons_of_mem a hb)

end Run

end OwnedTable
