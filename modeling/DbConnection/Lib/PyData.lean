import Mathlib.Data.List.Forall2
import Mathlib.Data.List.Sort
import Mathlib.Data.Rat.Defs

/-!
# Python's plain data

The values a program moves between request bodies, dataclasses and JSON columns: `Json` for the
values `json.loads` returns, and `Dict` for a dictionary with string keys, as the list of its
items in insertion order. A dictionary's keys are distinct in Python; nothing below needs it, as
`List.lookup` reads the first item of a key and `Dict.update` keeps the place of an item it
overwrites.
-/

namespace PyData

/-- A dictionary with string keys: its items in insertion order. -/
abbrev Dict (α : Type) := List (String × α)

/-- A value of Python's `json` module. A number with a fractional part is a rational. -/
inductive Json where
  | null
  | bool (b : Bool)
  | int (n : Int)
  | float (q : Rat)
  | str (s : String)
  | arr (xs : List Json)
  | obj (items : List (String × Json))
  deriving Repr, Inhabited

namespace Json

mutual

/-- Structural equality of two values, as a test. -/
def eqb : Json → Json → Bool
  | .null, .null => true
  | .bool a, .bool b => a == b
  | .int a, .int b => a == b
  | .float a, .float b => a == b
  | .str a, .str b => a == b
  | .arr a, .arr b => eqbList a b
  | .obj a, .obj b => eqbItems a b
  | _, _ => false

/-- `eqb` on the elements of two arrays. -/
def eqbList : List Json → List Json → Bool
  | [], [] => true
  | a :: as, b :: bs => eqb a b && eqbList as bs
  | _, _ => false

/-- `eqb` on the items of two objects. -/
def eqbItems : List (String × Json) → List (String × Json) → Bool
  | [], [] => true
  | (k, a) :: as, (l, b) :: bs => k == l && eqb a b && eqbItems as bs
  | _, _ => false

end

mutual

/-- The test `eqb` decides equality. -/
theorem eqb_iff : ∀ a b : Json, eqb a b = true ↔ a = b
  | .null, b => by cases b <;> simp [eqb]
  | .bool a, b => by cases b <;> simp [eqb]
  | .int a, b => by cases b <;> simp [eqb]
  | .float a, b => by cases b <;> simp [eqb]
  | .str a, b => by cases b <;> simp [eqb]
  | .arr a, b => by cases b <;> simp [eqb, eqbList_iff a]
  | .obj a, b => by cases b <;> simp [eqb, eqbItems_iff a]

/-- The test `eqbList` decides equality. -/
theorem eqbList_iff : ∀ a b : List Json, eqbList a b = true ↔ a = b
  | [], b => by cases b <;> simp [eqbList]
  | a :: as, b => by cases b <;> simp [eqbList, eqb_iff a, eqbList_iff as]

/-- The test `eqbItems` decides equality. -/
theorem eqbItems_iff : ∀ a b : List (String × Json), eqbItems a b = true ↔ a = b
  | [], b => by cases b <;> simp [eqbItems]
  | (k, a) :: as, [] => by simp [eqbItems]
  | (k, a) :: as, (l, b) :: bs => by simp [eqbItems, eqb_iff a, eqbItems_iff as, and_assoc]

end

instance : DecidableEq Json := fun a b => decidable_of_iff _ (eqb_iff a b)

mutual

/-- The value with its numbers as rationals and the items of its dictionaries sorted by their keys.
Python's `==` does not see the difference. -/
def canonical : Json → Json
  | .null => .null
  | .bool b => .float (if b then 1 else 0)
  | .int n => .float n
  | .float q => .float q
  | .str s => .str s
  | .arr xs => .arr (canonicalList xs)
  | .obj items => .obj ((canonicalItems items).insertionSort fun a b => a.1 ≤ b.1)

/-- `canonical` on the elements of an array. -/
def canonicalList : List Json → List Json
  | [] => []
  | x :: xs => canonical x :: canonicalList xs

/-- `canonical` on the values of an object. -/
def canonicalItems : List (String × Json) → List (String × Json)
  | [] => []
  | (k, x) :: items => (k, canonical x) :: canonicalItems items

end

/-- Python's `==`: `True`, `1` and `1.0` are equal, and the order of a dictionary's items does not
matter. -/
def pyEq (a b : Json) : Bool := a.canonical == b.canonical

theorem pyEq_refl (a : Json) : pyEq a a = true := beq_self_eq_true _

/-- Only a string equals a string, and only itself. -/
theorem str_pyEq_iff {s : String} {a : Json} : pyEq (.str s) a = true ↔ a = .str s := by
  cases a with
  | str t => simpa [pyEq, canonical] using eq_comm
  | _ => simp [pyEq, canonical]

/-- Only `None` equals `None`. -/
theorem pyEq_null_iff {a : Json} : pyEq .null a = true ↔ a = .null := by
  cases a <;> simp [pyEq, canonical]

example : pyEq (.obj [("a", .int 1), ("b", .str "x")]) (.obj [("b", .str "x"), ("a", .bool true)]) =
    true := by decide +kernel

/-- Python's truth value: `None`, `False`, zero and empty containers are false. -/
def truthy : Json → Bool
  | .null => false
  | .bool b => b
  | .int n => n != 0
  | .float q => q != 0
  | .str s => s != ""
  | .arr xs => !xs.isEmpty
  | .obj items => !items.isEmpty

/-- `type(value).__name__`. -/
def typeName : Json → String
  | .null => "NoneType"
  | .bool _ => "bool"
  | .int _ => "int"
  | .float _ => "float"
  | .str _ => "str"
  | .arr _ => "list"
  | .obj _ => "dict"

/-- The text of a string value. -/
def str? : Json → Option String
  | .str s => some s
  | _ => none

theorem str?_eq_some {a : Json} {s : String} (h : a.str? = some s) : a = .str s := by
  cases a <;> cases h
  rfl

/-- The items of a dictionary value. -/
def obj? : Json → Option (Dict Json)
  | .obj items => some items
  | _ => none

/-- An optional string as a value, `None` for an absent one. -/
def ofStr? : Option String → Json
  | none => .null
  | some s => .str s

/-- An optional dictionary as a value, `None` for an absent one. -/
def ofObj? : Option (Dict Json) → Json
  | none => .null
  | some items => .obj items

/-- A dictionary of strings as a value. -/
def ofStrDict (d : Dict String) : Json := .obj (d.map fun item => (item.1, .str item.2))

end Json

namespace Dict

variable {α : Type}

/-- `key in d`. -/
def contains (d : Dict α) (key : String) : Bool := (d.lookup key).isSome

/-- `d.update(e)`: the items of `e` replace those of `d` with the same key, in place, and the new
ones are appended. -/
def update (d e : Dict α) : Dict α :=
  d.map (fun item => (item.1, (e.lookup item.1).getD item.2)) ++
    e.filter fun item => !d.contains item.1

/-- `d.pop(key, None)`, keeping the dictionary. -/
def pop (d : Dict α) (key : String) : Dict α := d.filter fun item => item.1 != key

/-- `{key: d[key] for key in keys if key in d}`. -/
def pick (keys : List String) (d : Dict α) : Dict α :=
  keys.filterMap fun key => (d.lookup key).map fun value => (key, value)

/-- `for key in keys: if key in d: d[key] = f(key, d[key])`. -/
def modifyKeys (f : String → α → α) (keys : List String) (d : Dict α) : Dict α :=
  keys.foldl (fun d key =>
    match d.lookup key with
    | some value => d.update [(key, f key value)]
    | none => d) d

/-- `dict(pairs)`: the item of a key is in the place of its first pair and has the value of its
last. -/
def ofPairs (pairs : List (String × α)) : Dict α :=
  pairs.foldl (fun d pair => d.update [pair]) []

/-- The values of a dictionary whose values are all strings. -/
def strings? : Dict Json → Option (Dict String)
  | [] => some []
  | (key, value) :: items => do
    let s ← value.str?
    let rest ← strings? items
    return (key, s) :: rest

/-- Reading a key of a filtered dictionary whose filter looks at keys only. -/
theorem lookup_filter_key (p : String → Bool) (d : Dict α) (key : String) :
    (d.filter fun item => p item.1).lookup key = if p key then d.lookup key else none := by
  induction d with
  | nil => simp
  | cons item items ih =>
    obtain ⟨k, v⟩ := item
    by_cases hk : key = k
    · subst hk
      by_cases hp : p key = true
      · simp [hp]
      · simp [hp, ih]
    · have hne : (key == k) = false := by simpa using hk
      by_cases hp : p k = true
      · simp [hp, List.lookup_cons, hne, ih]
      · simp [hp, List.lookup_cons, hne, ih]

/-- Reading a key of a dictionary whose values were rewritten key by key. -/
theorem lookup_map_key (f : String → α → α) (d : Dict α) (key : String) :
    (d.map fun item => (item.1, f item.1 item.2)).lookup key = (d.lookup key).map (f key) := by
  induction d with
  | nil => simp
  | cons item items ih =>
    obtain ⟨k, v⟩ := item
    by_cases hk : key = k
    · subst hk
      simp
    · have hne : (key == k) = false := by simpa using hk
      simp [List.lookup_cons, hne, ih]

/-- Reading a key of a dictionary whose values were rewritten. -/
theorem lookup_map_values {β : Type} (f : α → β) (d : Dict α) (key : String) :
    (List.lookup key (d.map fun item => (item.1, f item.2)) : Option β) =
      (d.lookup key).map f := by
  induction d with
  | nil => simp
  | cons item items ih =>
    obtain ⟨k, v⟩ := item
    by_cases hk : key = k
    · subst hk
      simp
    · have hne : (key == k) = false := by simpa using hk
      simp [List.lookup_cons, hne, ih]

/-- A key of the updated dictionary has the update's value where the update has one. -/
theorem lookup_update (d e : Dict α) (key : String) :
    (d.update e).lookup key = (e.lookup key).or (d.lookup key) := by
  unfold update
  rw [List.lookup_append, lookup_map_key (fun k v => (e.lookup k).getD v),
    lookup_filter_key (fun k => !d.contains k)]
  unfold contains
  cases d.lookup key <;> cases e.lookup key <;> simp

/-- A key of a dictionary after `d[key] = value`. -/
theorem lookup_update_singleton (d : Dict α) (key : String) (value : α) (name : String) :
    (d.update [(key, value)]).lookup name = if name = key then some value else d.lookup name := by
  rw [lookup_update]
  by_cases hname : name = key
  · simp [hname]
  · have hne : (name == key) = false := beq_eq_false_iff_ne.mpr hname
    simp [List.lookup_cons, hne, hname]

/-- An update keeps an entry exactly when it does not give the key another value. -/
theorem lookup_update_eq_iff {d : Dict α} {key : String} {value : α}
    (h : d.lookup key = some value) (e : Dict α) :
    (d.update e).lookup key = some value ↔ ∀ other, e.lookup key = some other → other = value := by
  rw [lookup_update, h]
  cases e.lookup key with
  | none => simp
  | some other => simp

/-- Modifying the values of distinct keys modifies each once and leaves the others. -/
theorem lookup_modifyKeys (f : String → α → α) {keys : List String} (hkeys : keys.Nodup)
    (d : Dict α) (key : String) :
    (d.modifyKeys f keys).lookup key =
      if key ∈ keys then (d.lookup key).map (f key) else d.lookup key := by
  induction keys generalizing d with
  | nil => simp [modifyKeys]
  | cons k keys ih =>
    obtain ⟨hk, hnodup⟩ := List.nodup_cons.mp hkeys
    have hstep : d.modifyKeys f (k :: keys) = modifyKeys f keys
        (match d.lookup k with
        | some value => d.update [(k, f k value)]
        | none => d) := rfl
    rw [hstep, ih hnodup]
    by_cases hkey : key = k
    · subst hkey
      rw [if_neg hk, if_pos List.mem_cons_self]
      cases hv : d.lookup key with
      | none => rw [hv, Option.map_none]
      | some value =>
        rw [lookup_update]
        simp
    · have hne : (key == k) = false := by simpa using hkey
      -- The first step leaves the other keys.
      have hother : List.lookup key (match d.lookup k with
          | some value => d.update [(k, f k value)]
          | none => d) = d.lookup key := by
        cases d.lookup k with
        | none => rfl
        | some value =>
          rw [lookup_update]
          simp [List.lookup_cons, hne]
      rw [hother]
      simp [hkey]

/-- Modifying values keeps the keys and their order. -/
theorem keys_modifyKeys (f : String → α → α) (keys : List String) (d : Dict α) :
    (d.modifyKeys f keys).map Prod.fst = d.map Prod.fst := by
  induction keys generalizing d with
  | nil => rfl
  | cons k keys ih =>
    have hstep : d.modifyKeys f (k :: keys) = modifyKeys f keys
        (match d.lookup k with
        | some value => d.update [(k, f k value)]
        | none => d) := rfl
    rw [hstep, ih]
    cases hv : d.lookup k with
    | none => rfl
    | some value =>
      have hcontains : d.contains k = true := Option.isSome_iff_exists.mpr ⟨value, hv⟩
      -- Nothing is appended.
      have hnew : [(k, f k value)].filter (fun item => !d.contains item.1) = [] := by
        simp [hcontains]
      show (d.update [(k, f k value)]).map Prod.fst = d.map Prod.fst
      unfold update
      rw [hnew, List.append_nil, List.map_map]
      rfl

/-- Two dictionaries with the same distinct keys in the same order and the same values are the
same. -/
theorem eq_of_lookup {d e : Dict α} (hkeys : d.map Prod.fst = e.map Prod.fst)
    (hnodup : (d.map Prod.fst).Nodup) (h : ∀ key ∈ d.map Prod.fst, d.lookup key = e.lookup key) :
    d = e := by
  induction d generalizing e with
  | nil => exact (List.map_eq_nil_iff.mp hkeys.symm).symm
  | cons item items ih =>
    obtain ⟨k, v⟩ := item
    rw [List.map_cons] at hkeys
    obtain ⟨⟨k', v'⟩, rest, rfl, rfl, hrest⟩ := List.map_eq_cons_iff.mp hkeys.symm
    rw [List.map_cons, List.nodup_cons] at hnodup
    have hfirst := h k' List.mem_cons_self
    rw [List.lookup_cons_self, List.lookup_cons_self, Option.some.injEq] at hfirst
    have hothers : items = rest := by
      refine ih hrest.symm hnodup.2 fun key hkey => ?_
      have hne : (key == k') = false := beq_eq_false_iff_ne.mpr fun he => hnodup.1 (he ▸ hkey)
      have hsame := h key (List.mem_cons_of_mem _ hkey)
      rwa [List.lookup_cons, List.lookup_cons, hne] at hsame
    rw [hfirst, hothers]

/-- A key of a selection. -/
theorem lookup_pick (keys : List String) (d : Dict α) (key : String) :
    (d.pick keys).lookup key = if key ∈ keys then d.lookup key else none := by
  unfold pick
  induction keys with
  | nil => rfl
  | cons k keys ih =>
    by_cases hk : key = k
    · subst hk
      cases hd : d.lookup key with
      | none => simp [hd, ih]
      | some value => simp [hd]
    · have hne : (key == k) = false := beq_eq_false_iff_ne.mpr hk
      cases hd : d.lookup k with
      | none => simp [hd, ih, hk]
      | some value =>
        rw [List.filterMap_cons_some (by rw [hd]; rfl), List.lookup_cons, hne, ih]
        simp [hk]

/-- A dictionary has the keys of its items. -/
theorem contains_iff_mem {d : Dict α} {key : String} :
    d.contains key = true ↔ key ∈ d.map Prod.fst := by
  unfold contains
  induction d with
  | nil => simp
  | cons item items ih =>
    obtain ⟨k, v⟩ := item
    by_cases hk : key = k
    · subst hk
      simp
    · have hne : (key == k) = false := by simpa using hk
      rw [List.lookup_cons, hne, List.map_cons, List.mem_cons, ← ih]
      simp [hk]

/-- Under distinct keys, an item's value is the value of its key. -/
theorem lookup_of_mem {d : Dict α} (hd : (d.map Prod.fst).Nodup) {key : String} {value : α}
    (h : (key, value) ∈ d) : d.lookup key = some value := by
  induction d with
  | nil => cases h
  | cons item items ih =>
    obtain ⟨k, v⟩ := item
    simp only [List.map_cons, List.nodup_cons] at hd
    rcases List.mem_cons.mp h with he | he
    · cases he
      simp
    · have hne : (key == k) = false := by
        simp only [beq_eq_false_iff_ne]
        rintro rfl
        exact hd.1 (List.mem_map_of_mem (f := Prod.fst) he)
      rw [List.lookup_cons, hne]
      exact ih hd.2 he

/-- What is found is an item. -/
theorem mem_of_lookup {d : Dict α} {key : String} {value : α} (h : d.lookup key = some value) :
    (key, value) ∈ d := by
  obtain ⟨before, after, hd, -⟩ := List.lookup_eq_some_iff.mp h
  rw [hd]
  simp

/-- A key of the dictionary has a value. -/
theorem exists_lookup_of_mem_keys {d : Dict α} {key : String} (h : key ∈ d.map Prod.fst) :
    ∃ value, d.lookup key = some value := by
  rw [← contains_iff_mem] at h
  exact Option.isSome_iff_exists.mp h

/-- The keys of a selection. -/
theorem keys_pick (keys : List String) (d : Dict α) :
    (d.pick keys).map Prod.fst = keys.filter d.contains := by
  unfold pick contains
  induction keys with
  | nil => rfl
  | cons key keys ih => cases h : d.lookup key <;> simp [h, ih]

/-- The key of a selected item is among the keys, and one of the dictionary. -/
theorem fst_mem_of_mem_pick {keys : List String} {d : Dict α} {item : String × α}
    (h : item ∈ d.pick keys) : item.1 ∈ keys ∧ d.contains item.1 = true := by
  have hkey : item.1 ∈ (d.pick keys).map Prod.fst := List.mem_map_of_mem h
  rw [keys_pick] at hkey
  exact List.mem_filter.mp hkey

/-- A selection has items where one of the keys is the dictionary's. -/
theorem pick_ne_nil_iff {keys : List String} {d : Dict α} :
    d.pick keys ≠ [] ↔ ∃ key ∈ keys, d.contains key = true := by
  rw [ne_eq, ← List.map_eq_nil_iff (f := Prod.fst), keys_pick, List.filter_eq_nil_iff]
  simp

/-- A dictionary whose keys are among those given, in their order, is its selection of them. -/
theorem pick_of_sublist {d : Dict α} {keys : List String} (hkeys : keys.Nodup)
    (h : (d.map Prod.fst).Sublist keys) : d.pick keys = d := by
  induction keys generalizing d with
  | nil => exact (List.map_eq_nil_iff.mp (List.sublist_nil.mp h)).symm
  | cons key keys ih =>
    obtain ⟨hkey, hnodup⟩ := List.nodup_cons.mp hkeys
    unfold pick at ih ⊢
    rw [List.filterMap_cons]
    generalize hnames : d.map Prod.fst = names at h
    cases h with
    | cons _ h =>
      have hnone : d.lookup key = none := by
        rw [Option.eq_none_iff_forall_ne_some]
        intro value hvalue
        exact hkey (h.subset (hnames ▸ List.mem_map.mpr ⟨_, mem_of_lookup hvalue, rfl⟩))
      rw [hnone]
      exact ih hnodup (hnames ▸ h)
    | cons_cons _ h =>
      obtain ⟨item, rest, rfl, rfl, rfl⟩ := List.map_eq_cons_iff.mp hnames
      rw [List.lookup_cons_self]
      refine congrArg (item :: ·) (Eq.trans ?_ (ih hnodup h))
      refine List.filterMap_congr fun other hother => ?_
      have hne : (other == item.1) = false :=
        beq_eq_false_iff_ne.mpr fun he => hkey (he ▸ hother)
      rw [List.lookup_cons, hne]

/-- A key that is not there is not in a dictionary with the same keys. -/
theorem lookup_eq_none_of_keys {β : Type} {d : Dict α} {e : Dict β} {key : String}
    (hkeys : e.map Prod.fst = d.map Prod.fst) (h : d.lookup key = none) :
    (e.lookup key : Option β) = none := by
  rw [Option.eq_none_iff_forall_ne_some]
  intro value hvalue
  have hkey : key ∈ d.map Prod.fst := hkeys ▸ List.mem_map_of_mem (mem_of_lookup hvalue)
  obtain ⟨other, hother⟩ := exists_lookup_of_mem_keys hkey
  rw [h] at hother
  cases hother

/-- An update of keys that are there keeps the keys. -/
theorem keys_update_of_subset {d e : Dict α} (h : ∀ key ∈ e.map Prod.fst, key ∈ d.map Prod.fst) :
    (d.update e).map Prod.fst = d.map Prod.fst := by
  have hnew : e.filter (fun item => !d.contains item.1) = [] := by
    refine List.filter_eq_nil_iff.mpr fun item hitem => ?_
    rw [contains_iff_mem.mpr (h item.1 (List.mem_map_of_mem hitem))]
    exact Bool.false_ne_true
  unfold update
  rw [hnew, List.append_nil, List.map_map]
  rfl

/-- A dictionary of strings reads back from its value. -/
theorem strings?_map_str (d : Dict String) :
    strings? (d.map fun item => (item.1, Json.str item.2)) = some d := by
  induction d with
  | nil => rfl
  | cons item items ih => simp [strings?, Json.str?, ih]

/-- A dictionary whose values are strings is a dictionary of strings. -/
theorem exists_strings? {d : Dict Json} (h : ∀ item ∈ d, ∃ s, item.2 = .str s) :
    ∃ labels, d.strings? = some labels := by
  induction d with
  | nil => exact ⟨[], rfl⟩
  | cons item items ih =>
    rw [List.forall_mem_cons] at h
    obtain ⟨⟨s, hs⟩, hitems⟩ := h
    obtain ⟨labels, hl⟩ := ih hitems
    exact ⟨(item.1, s) :: labels, by simp [strings?, Json.str?, hs, hl]⟩

/-- The values read by `strings?` are the dictionary's own. -/
theorem map_str_of_strings? {d : Dict Json} {s : Dict String} (h : d.strings? = some s) :
    (s.map fun item => (item.1, Json.str item.2)) = d := by
  induction d generalizing s with
  | nil => simp_all [strings?]
  | cons item items ih =>
    obtain ⟨k, v⟩ := item
    cases v with
    | str t =>
      cases hr : strings? items with
      | none => simp [strings?, Json.str?, hr] at h
      | some rest =>
        simp only [strings?, Json.str?, hr, Option.pure_def, Option.bind_eq_bind,
          Option.bind_some, Option.some.injEq] at h
        subst h
        simp [ih hr]
    | _ => simp [strings?, Json.str?] at h

end Dict

/-- The pair that an item of the argument of `dict(..)` is. -/
def Json.pair? : Json → Option (String × Json)
  | .arr [.str key, value] => some (key, value)
  | .obj [(key, _), (value, _)] => some (key, .str value)
  | .str s =>
    match s.toList with
    | [key, value] => some (String.singleton key, .str (String.singleton value))
    | _ => none
  | _ => none

/-- `dict(value)`, of a dictionary or of pairs whose keys are strings. -/
def Json.dict? : Json → Option (Dict Json)
  | .obj items => some items
  | .arr values => (values.mapM Json.pair?).map Dict.ofPairs
  | .str s => if s = "" then some [] else none
  | _ => none

example : (Json.arr [.arr [.str "a", .int 1], .str "bc", .arr [.str "a", .int 2]]).dict? =
    some [("a", .int 2), ("b", .str "c")] := by decide

/-- A sequence of fallible computations succeeds when both do. -/
theorem bind_eq_ok_iff {ε α β : Type} {x : Except ε α} {f : α → Except ε β} {b : β} :
    (x >>= f) = .ok b ↔ ∃ a, x = .ok a ∧ f a = .ok b := by
  cases x with
  | error e => simp [bind, Except.bind]
  | ok a => simp [bind, Except.bind]

/-- Renaming the errors of a computation keeps what it returns. -/
theorem mapError_eq_ok_iff {ε ε' α : Type} {x : Except ε α} {f : ε → ε'} {a : α} :
    x.mapError f = .ok a ↔ x = .ok a := by
  cases x <;> simp [Except.mapError]

/-- An error of a mapped computation is a renamed error of it. -/
theorem mapError_map_eq_error_iff {ε ε' α β : Type} {x : Except ε α} {f : ε → ε'} {g : α → β}
    {e' : ε'} : (x.mapError f).map g = .error e' ↔ ∃ e, x = .error e ∧ f e = e' := by
  cases x <;> simp [Except.mapError, Except.map]

/-- A mapped computation succeeds when it does, with the function of its value. -/
theorem map_eq_ok_iff {ε α β : Type} {x : Except ε α} {f : α → β} {b : β} :
    x.map f = .ok b ↔ ∃ a, x = .ok a ∧ f a = b := by
  cases x with
  | error e => simp [Except.map]
  | ok a => simp [Except.map]

/-- A successful computation goes on with its value. -/
theorem ok_bind {ε α β : Type} (a : α) (f : α → Except ε β) : ((.ok a : Except ε α) >>= f) = f a :=
  rfl

/-- A failed computation fails with the same error whatever follows. -/
theorem error_bind {ε α β : Type} (e : ε) (f : α → Except ε β) :
    ((.error e : Except ε α) >>= f) = .error e :=
  rfl

/-- A list is mapped by a fallible function when each of its items is, in order. -/
theorem mapM_cons_eq_ok_iff {ε α β : Type} {f : α → Except ε β} {a : α} {as : List α}
    {bs : List β} :
    (a :: as).mapM f = .ok bs ↔ ∃ b rest, f a = .ok b ∧ as.mapM f = .ok rest ∧ bs = b :: rest := by
  rw [List.mapM_cons, bind_eq_ok_iff]
  constructor
  · rintro ⟨b, hb, h⟩
    obtain ⟨rest, hrest, h⟩ := bind_eq_ok_iff.mp h
    cases h
    exact ⟨b, rest, hb, hrest, rfl⟩
  · rintro ⟨b, rest, hb, hrest, rfl⟩
    exact ⟨b, hb, bind_eq_ok_iff.mpr ⟨rest, hrest, rfl⟩⟩

/-- An item of a mapped list comes from an item of the list. -/
theorem exists_of_mem_mapM {ε α β : Type} {f : α → Except ε β} {as : List α} {bs : List β}
    (h : as.mapM f = .ok bs) {b : β} (hb : b ∈ bs) : ∃ a ∈ as, f a = .ok b := by
  induction as generalizing bs with
  | nil =>
    cases h
    cases hb
  | cons a as ih =>
    obtain ⟨b', rest, hb', hrest, rfl⟩ := mapM_cons_eq_ok_iff.mp h
    rcases List.mem_cons.mp hb with rfl | hb
    · exact ⟨a, List.mem_cons_self, hb'⟩
    · obtain ⟨a', ha', he⟩ := ih hrest hb
      exact ⟨a', List.mem_cons_of_mem a ha', he⟩

/-- An item of a list is mapped to an item of the mapped list. -/
theorem exists_mem_of_mapM {ε α β : Type} {f : α → Except ε β} {as : List α} {bs : List β}
    (h : as.mapM f = .ok bs) {a : α} (ha : a ∈ as) : ∃ b ∈ bs, f a = .ok b := by
  induction as generalizing bs with
  | nil => cases ha
  | cons a' as ih =>
    obtain ⟨b, rest, hb, hrest, rfl⟩ := mapM_cons_eq_ok_iff.mp h
    rcases List.mem_cons.mp ha with rfl | ha
    · exact ⟨b, List.mem_cons_self, hb⟩
    · obtain ⟨b', hb', he⟩ := ih hrest ha
      exact ⟨b', List.mem_cons_of_mem b hb', he⟩

/-- A list is mapped when each of its items is. -/
theorem exists_mapM_iff {ε α β : Type} {f : α → Except ε β} {as : List α} :
    (∃ bs, as.mapM f = .ok bs) ↔ ∀ a ∈ as, ∃ b, f a = .ok b := by
  constructor
  · rintro ⟨bs, h⟩ a ha
    obtain ⟨b, -, hb⟩ := exists_mem_of_mapM h ha
    exact ⟨b, hb⟩
  · intro h
    induction as with
    | nil => exact ⟨[], rfl⟩
    | cons a as ih =>
      obtain ⟨b, hb⟩ := h a List.mem_cons_self
      obtain ⟨rest, hrest⟩ := ih fun a' ha' => h a' (List.mem_cons_of_mem a ha')
      exact ⟨b :: rest, mapM_cons_eq_ok_iff.mpr ⟨b, rest, hb, hrest, rfl⟩⟩

/-- The items of a mapped list come from those of the list, in order. -/
theorem forall₂_of_mapM {ε α β : Type} {f : α → Except ε β} {as : List α} {bs : List β}
    (h : as.mapM f = .ok bs) : List.Forall₂ (fun a b => f a = .ok b) as bs := by
  induction as generalizing bs with
  | nil =>
    cases h
    exact .nil
  | cons a as ih =>
    obtain ⟨b, rest, hb, hrest, rfl⟩ := mapM_cons_eq_ok_iff.mp h
    exact .cons hb (ih hrest)

/-- A mapped list is any that its items make up. -/
theorem mapM_of_forall₂ {ε α β : Type} {f : α → Except ε β} {as : List α} {bs : List β}
    (h : List.Forall₂ (fun a b => f a = .ok b) as bs) : as.mapM f = .ok bs := by
  induction h with
  | nil => rfl
  | cons hb _ ih => exact mapM_cons_eq_ok_iff.mpr ⟨_, _, hb, ih, rfl⟩

/-- A mapped list is as long as the list. -/
theorem length_of_mapM {ε α β : Type} {f : α → Except ε β} {as : List α} {bs : List β}
    (h : as.mapM f = .ok bs) : bs.length = as.length :=
  (forall₂_of_mapM h).length_eq.symm

/-! ## Dictionaries made by fallible functions -/

section Pairs

variable {ε α β : Type} {k : α → String} {g : α → Except ε β} {as : List α} {e : Dict β}

/-- A dictionary is made of a list when each of its values is. -/
theorem exists_mapM_pairs_iff :
    (∃ e, (as.mapM fun a => do let b ← g a; return (k a, b)) = .ok e) ↔
      ∀ a ∈ as, ∃ b, g a = .ok b := by
  rw [exists_mapM_iff]
  refine forall₂_congr fun a _ => ⟨?_, ?_⟩
  · rintro ⟨item, h⟩
    obtain ⟨b, hb, -⟩ := bind_eq_ok_iff.mp h
    exact ⟨b, hb⟩
  · rintro ⟨b, hb⟩
    exact ⟨(k a, b), bind_eq_ok_iff.mpr ⟨b, hb, rfl⟩⟩

/-- The keys of a dictionary that is made of a list. -/
theorem keys_of_mapM_pairs (h : (as.mapM fun a => do let b ← g a; return (k a, b)) = .ok e) :
    e.map Prod.fst = as.map k := by
  induction as generalizing e with
  | nil =>
    cases h
    rfl
  | cons a as ih =>
    obtain ⟨item, rest, hitem, hrest, rfl⟩ := mapM_cons_eq_ok_iff.mp h
    obtain ⟨b, -, hitem⟩ := bind_eq_ok_iff.mp hitem
    cases hitem
    rw [List.map_cons, List.map_cons, ih hrest]

/-- The value under the key of an item, where the keys are distinct. -/
theorem lookup_of_mapM_pairs (hkeys : (as.map k).Nodup)
    (h : (as.mapM fun a => do let b ← g a; return (k a, b)) = .ok e) {a : α} (ha : a ∈ as) :
    ∃ b, g a = .ok b ∧ e.lookup (k a) = some b := by
  obtain ⟨item, hmem, hitem⟩ := exists_mem_of_mapM h ha
  obtain ⟨b, hb, hitem⟩ := bind_eq_ok_iff.mp hitem
  cases hitem
  refine ⟨b, hb, Dict.lookup_of_mem ?_ hmem⟩
  rw [keys_of_mapM_pairs h]
  exact hkeys

/-- The value under a key of a dictionary whose values were mapped. -/
theorem lookup_of_mapM_items {d : Dict α} {f : String → α → Except ε β} {key : String} {value : α}
    (hd : (d.map Prod.fst).Nodup)
    (h : (d.mapM fun item => do let value ← f item.1 item.2; return (item.1, value)) = .ok e)
    (hvalue : d.lookup key = some value) : ∃ b, f key value = .ok b ∧ e.lookup key = some b :=
  lookup_of_mapM_pairs hd h (Dict.mem_of_lookup hvalue)

end Pairs

/-- A computation that ends well has a result. -/
theorem exists_of_isOk {ε α : Type} {x : Except ε α} (h : x.isOk = true) : ∃ a, x = .ok a := by
  cases x with
  | error e => cases h
  | ok a => exact ⟨a, rfl⟩

/-- The value of a result that is there. -/
theorem toOption_eq_some_iff {ε α : Type} {x : Except ε α} {a : α} :
    x.toOption = some a ↔ x = .ok a := by
  cases x <;> simp [Except.toOption]

/-- A result that is there. -/
theorem exists_eq_ok_of_isSome {ε α : Type} {x : Except ε α} (h : x.toOption.isSome = true) :
    ∃ a, x = .ok a := by
  cases x with
  | error e => cases h
  | ok a => exact ⟨a, rfl⟩

/-- Python's `a or b` on optional strings, where the empty string is false. -/
def orElse (a b : Option String) : Option String :=
  match a with
  | some s => if s = "" then b else some s
  | none => b

end PyData
