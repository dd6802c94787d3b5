import Mathlib.Data.String.Basic
import DbConnection.Lib.PyData

/-!
# Dictionaries of named entries

A registry keeps its entries in a dictionary, each under its own name. `store` writes an entry
there, over the one that has its name, and `listing` is the entries sorted by their names. What a
dictionary lists is determined by what it finds (`listing_congr`), and storing a listing, one entry
after the other, finds the listed entry where there is one and the old one elsewhere
(`lookup_storeAll_listing`).
-/

namespace NamedEntries

open PyData

variable {α : Type} (name : α → String)

/-- Each entry is under its own name, and a name is there once. -/
structure Named (entries : Dict α) : Prop where
  own : ∀ item ∈ entries, name item.2 = item.1
  nodup : (entries.map Prod.fst).Nodup

/-- `entries[name(a)] = a`. -/
def store (entries : Dict α) (a : α) : Dict α := entries.update [(name a, a)]

/-- The entries of a list stored one after the other. -/
def storeAll (entries : Dict α) (as : List α) : Dict α := as.foldl (store name) entries

/-- `sorted(entries.values(), key=name)`. -/
def listing (entries : Dict α) : List α :=
  (entries.map Prod.snd).insertionSort fun a b => name a ≤ name b

variable {name} {entries entries' : Dict α} {a : α} {key : String}

/-! ## Storing an entry -/

/-- The empty dictionary. -/
theorem named_nil : Named name [] := ⟨fun _ h => absurd h List.not_mem_nil, List.nodup_nil⟩

/-- A key of a dictionary in which an entry is stored. -/
theorem lookup_store : (store name entries a).lookup key =
    if key = name a then some a else entries.lookup key := by
  unfold store
  rw [Dict.lookup_update]
  by_cases hkey : key = name a
  · rw [if_pos hkey, hkey, List.lookup_cons_self, Option.some_or]
  · have hne : (key == name a) = false := beq_eq_false_iff_ne.mpr hkey
    rw [if_neg hkey, List.lookup_cons, hne]
    rfl

/-- The items of a dictionary in which an entry is stored. -/
theorem mem_of_mem_store {item : String × α} (h : item ∈ store name entries a) :
    item = (name a, a) ∨ item ∈ entries := by
  unfold store Dict.update at h
  rcases List.mem_append.mp h with h | h
  · obtain ⟨old, hold, rfl⟩ := List.mem_map.mp h
    by_cases hkey : old.1 = name a
    · rw [hkey, List.lookup_cons_self]
      exact Or.inl rfl
    · have hne : (old.1 == name a) = false := beq_eq_false_iff_ne.mpr hkey
      rw [List.lookup_cons, hne]
      exact Or.inr hold
  · exact Or.inl (List.mem_singleton.mp (List.mem_filter.mp h).1)

/-- The keys of a dictionary in which an entry is stored. -/
theorem keys_store : (store name entries a).map Prod.fst =
    if entries.contains (name a) then entries.map Prod.fst
    else entries.map Prod.fst ++ [name a] := by
  unfold store Dict.update
  rw [List.map_append, List.map_map]
  cases hcontains : entries.contains (name a) with
  | true =>
    have hold : [(name a, a)].filter (fun item => !entries.contains item.1) = [] := by
      simp [hcontains]
    rw [hold, List.map_nil, List.append_nil]
    rfl
  | false =>
    have hnew : [(name a, a)].filter (fun item => !entries.contains item.1) = [(name a, a)] := by
      simp [hcontains]
    rw [hnew]
    rfl

/-- Storing an entry under its name keeps the entries named. -/
theorem Named.store (h : Named name entries) (a : α) : Named name (store name entries a) where
  own item hitem := by
    rcases mem_of_mem_store hitem with rfl | hold
    · rfl
    · exact h.own item hold
  nodup := by
    rw [keys_store]
    split
    · exact h.nodup
    · rename_i hcontains
      have hnew : name a ∉ entries.map Prod.fst :=
        fun hmem => hcontains (Dict.contains_iff_mem.mpr hmem)
      exact List.nodup_append.mpr ⟨h.nodup, List.nodup_singleton _, fun key hkey key' hkey' =>
        ne_of_mem_of_not_mem hkey (List.mem_singleton.mp hkey' ▸ hnew)⟩

/-- Storing entries keeps the entries named. -/
theorem Named.storeAll (h : Named name entries) (as : List α) :
    Named name (storeAll name entries as) :=
  List.foldlRecOn as (NamedEntries.store name) h fun _ hb a _ => hb.store a

/-- Under its name, an item is what is found. -/
theorem Named.mem_iff_lookup (h : Named name entries) :
    (key, a) ∈ entries ↔ entries.lookup key = some a :=
  ⟨Dict.lookup_of_mem h.nodup, Dict.mem_of_lookup⟩

/-- What is found under a name has the name. -/
theorem Named.name_of_lookup (h : Named name entries) (ha : entries.lookup key = some a) :
    name a = key :=
  h.own _ (Dict.mem_of_lookup ha)

/-- A dictionary in which an entry is stored has its name and the names it had. -/
theorem contains_store : (store name entries a).contains key =
    (decide (key = name a) || entries.contains key) := by
  unfold Dict.contains
  rw [lookup_store]
  by_cases hkey : key = name a
  · simp [hkey]
  · simp [hkey]

/-! ## Filters -/

/-- Some of the entries are named as they were. -/
theorem Named.filter (h : Named name entries) (p : α → Bool) :
    Named name (entries.filter fun item => p item.2) where
  own item hitem := h.own item (List.mem_filter.mp hitem).1
  nodup := h.nodup.sublist (List.filter_sublist.map Prod.fst)

/-- What is found among some of the entries. -/
theorem Named.lookup_filter (h : Named name entries) (p : α → Bool) :
    (List.lookup key (entries.filter fun item => p item.2)) = (entries.lookup key).filter p := by
  refine Option.ext fun a => ?_
  rw [← (h.filter p).mem_iff_lookup, List.mem_filter, h.mem_iff_lookup, Option.filter_eq_some_iff]

/-! ## Listings -/

/-- The listed entries are the ones found under their names. -/
theorem Named.mem_listing (h : Named name entries) :
    a ∈ listing name entries ↔ entries.lookup (name a) = some a := by
  unfold listing
  rw [List.mem_insertionSort, List.mem_map]
  constructor
  · rintro ⟨⟨key, a'⟩, hmem, rfl⟩
    have hown : name a' = key := h.own _ hmem
    rw [hown]
    exact h.mem_iff_lookup.mp hmem
  · exact fun ha => ⟨(name a, a), Dict.mem_of_lookup ha, rfl⟩

/-- The listed entries have distinct names. -/
theorem Named.nodup_names (h : Named name entries) : ((listing name entries).map name).Nodup := by
  have hperm : (listing name entries).Perm (entries.map Prod.snd) := List.perm_insertionSort _ _
  have hsame : (entries.map Prod.snd).map name = entries.map Prod.fst := by
    rw [List.map_map]
    exact List.map_congr_left h.own
  rw [(hperm.map name).nodup_iff, hsame]
  exact h.nodup

/-- A listing is sorted by the names. -/
theorem pairwise_listing :
    (listing name entries).Pairwise fun a b => name a ≤ name b := by
  have htotal : Std.Total fun a b : α => name a ≤ name b := ⟨fun a b => le_total _ _⟩
  have htrans : IsTrans α fun a b => name a ≤ name b := ⟨fun a b c => le_trans⟩
  exact List.pairwise_insertionSort _ _

/-- Dictionaries that find the same entries list the same. -/
theorem listing_congr (h : Named name entries) (h' : Named name entries')
    (hlookup : ∀ key, entries.lookup key = entries'.lookup key) :
    listing name entries = listing name entries' := by
  have hmem : ∀ a, a ∈ listing name entries ↔ a ∈ listing name entries' := by
    intro a
    rw [h.mem_listing, h'.mem_listing, hlookup]
  have hperm : (listing name entries).Perm (listing name entries') :=
    (List.perm_ext_iff_of_nodup h.nodup_names.of_map h'.nodup_names.of_map).mpr hmem
  refine hperm.eq_of_pairwise ?_ pairwise_listing pairwise_listing
  intro a b ha hb hab hba
  have hname : name a = name b := le_antisymm hab hba
  have hfound := h'.mem_listing.mp hb
  rw [← hname, h'.mem_listing.mp ((hmem a).mp ha)] at hfound
  exact Option.some.inj hfound

/-! ## Storing a list of entries -/

/-- Storing entries leaves the keys that are not among their names. -/
theorem lookup_storeAll_of_not_mem {as : List α} (h : key ∉ as.map name) :
    (storeAll name entries as).lookup key = entries.lookup key := by
  induction as generalizing entries with
  | nil => rfl
  | cons a as ih =>
    rw [List.map_cons, List.mem_cons, not_or] at h
    have hstep : storeAll name entries (a :: as) = storeAll name (store name entries a) as := rfl
    rw [hstep, ih h.2, lookup_store, if_neg h.1]

/-- Of entries with distinct new names, each is new when those before it are stored. -/
theorem contains_storeAll_before {before after : List α}
    (hnames : ((before ++ a :: after).map name).Nodup) (hnew : entries.contains (name a) = false) :
    (storeAll name entries before).contains (name a) = false := by
  have hbefore : name a ∉ before.map name := by
    rw [List.map_append, List.map_cons, List.nodup_append] at hnames
    exact fun hmem => hnames.2.2 _ hmem _ List.mem_cons_self rfl
  unfold Dict.contains at hnew ⊢
  rw [lookup_storeAll_of_not_mem hbefore, hnew]

/-- Of entries with distinct names, each is found under its own. -/
theorem lookup_storeAll_of_mem {as : List α} (hnames : (as.map name).Nodup) (h : a ∈ as) :
    (storeAll name entries as).lookup (name a) = some a := by
  induction as generalizing entries with
  | nil => cases h
  | cons b as ih =>
    rw [List.map_cons, List.nodup_cons] at hnames
    have hstep : storeAll name entries (b :: as) = storeAll name (store name entries b) as := rfl
    rw [hstep]
    rcases List.mem_cons.mp h with rfl | h
    · rw [lookup_storeAll_of_not_mem hnames.1, lookup_store, if_pos rfl]
    · exact ih hnames.2 h

/-- Where the entries of one dictionary are stored in another, theirs are found before the other's.
-/
theorem lookup_storeAll_listing (h : Named name entries') :
    (storeAll name entries (listing name entries')).lookup key =
      (entries'.lookup key).or (entries.lookup key) := by
  cases hkey : entries'.lookup key with
  | none =>
    refine lookup_storeAll_of_not_mem fun hmem => ?_
    obtain ⟨a, ha, rfl⟩ := List.mem_map.mp hmem
    rw [h.mem_listing, hkey] at ha
    cases ha
  | some a =>
    have hname := h.name_of_lookup hkey
    subst hname
    exact lookup_storeAll_of_mem h.nodup_names (h.mem_listing.mpr hkey)

end NamedEntries
