import DbConnection.Lifecycle

/-!
# What `list` returns

`list` of the repository selects rows in two steps: the SQL statement by kind, type, name and
deletion, and Python by the labels, the metadata and the extra of the records. `Selects` says which
rows a query asks for, and `list_exact_iff` when `list` returns those and no others over every store.
A name is handed to LIKE as it is, so `%` and `_` in it are wildcards. A filter for `None` is compared
with what `dict.get` gives for a missing key, which is `None` too.
-/

namespace DbConnection

open PyData ReadCommitted

/-! ## LIKE patterns -/

section Like

variable {fold : Char → Char}

/-- LIKE takes each character of the text for itself. -/
def Literal (text : List Char) : Prop := '%' ∉ text ∧ '_' ∉ text

theorem literal_cons_iff {c : Char} {text : List Char} :
    Literal (c :: text) ↔ c ≠ '%' ∧ c ≠ '_' ∧ Literal text := by
  unfold Literal
  simp only [List.mem_cons, not_or]
  constructor
  · rintro ⟨⟨h1, h2⟩, h3, h4⟩
    exact ⟨Ne.symm h1, Ne.symm h3, h2, h4⟩
  · rintro ⟨h1, h3, h2, h4⟩
    exact ⟨⟨Ne.symm h1, h2⟩, Ne.symm h3, h4⟩

/-- A pattern after `%` matches the end of a text. -/
theorem like_percent_iff {pattern text : List Char} :
    Repository.like fold ('%' :: pattern) text = true ↔
      ∃ rest, rest <:+ text ∧ Repository.like fold pattern rest = true := by
  rw [Repository.like.eq_def]
  simp only [if_true, List.any_eq_true, List.mem_tails]

/-- `%` alone matches every text. -/
theorem like_percent (text : List Char) : Repository.like fold ['%'] text = true :=
  like_percent_iff.mpr ⟨[], List.nil_suffix, rfl⟩

/-- A pattern before `%` whose characters stand for themselves matches the start of a text. -/
theorem like_literal_iff {pattern : List Char} (hliteral : Literal pattern) (text : List Char) :
    Repository.like fold (pattern ++ ['%']) text = true ↔ pattern.map fold <+: text.map fold := by
  induction pattern generalizing text with
  | nil => simp [like_percent]
  | cons c pattern ih =>
    obtain ⟨hpercent, hunderscore, hrest⟩ := literal_cons_iff.mp hliteral
    cases text with
    | nil => simp [Repository.like, hpercent]
    | cons d text =>
      rw [List.cons_append, Repository.like.eq_def]
      simp only [if_neg hpercent, beq_eq_false_iff_ne.mpr hunderscore, Bool.false_or,
        Bool.and_eq_true, beq_iff_eq, ih hrest, List.map_cons, List.cons_prefix_cons]

/-- The text is part of the other, letter case aside. -/
def PartOf (fold : Char → Char) (value column : String) : Prop :=
  value.toList.map fold <:+: column.toList.map fold

/-- A value whose characters stand for themselves is looked up as a part. -/
theorem contains_iff_partOf {column value : String} (hliteral : Literal value.toList) :
    Repository.contains fold column value = true ↔ PartOf fold value column := by
  unfold Repository.contains PartOf
  rw [like_percent_iff, List.infix_iff_prefix_suffix]
  constructor
  · rintro ⟨rest, hsuffix, hlike⟩
    exact ⟨rest.map fold, (like_literal_iff hliteral rest).mp hlike, hsuffix.map fold⟩
  · rintro ⟨rest, hprefix, hsuffix⟩
    obtain ⟨tail, htail, rfl⟩ := List.suffix_map_iff.mp hsuffix
    exact ⟨tail, htail, (like_literal_iff hliteral tail).mpr hprefix⟩

/-- A text that the pattern matches: nothing for `%` and `a` for `_`. -/
def instantiate : List Char → List Char
  | [] => []
  | c :: pattern =>
    if c = '%' then instantiate pattern
    else (if c = '_' then 'a' else c) :: instantiate pattern

/-- The pattern matches its own instance. -/
theorem contains_instantiate (value : String) :
    Repository.contains fold (String.ofList (instantiate value.toList)) value = true := by
  have hlike : ∀ pattern, Repository.like fold (pattern ++ ['%']) (instantiate pattern) = true := by
    intro pattern
    induction pattern with
    | nil => rfl
    | cons c pattern ih =>
      unfold instantiate
      by_cases hpercent : c = '%'
      · subst hpercent
        rw [if_pos rfl, List.cons_append]
        exact like_percent_iff.mpr ⟨_, List.suffix_refl _, ih⟩
      · rw [if_neg hpercent, List.cons_append, Repository.like.eq_def]
        by_cases hunderscore : c = '_'
        · simp [hunderscore, ih]
        · simp [hpercent, hunderscore, ih]
  unfold Repository.contains
  rw [String.toList_ofList]
  exact like_percent_iff.mpr ⟨_, List.suffix_refl _, hlike _⟩

theorem length_instantiate_le (pattern : List Char) :
    (instantiate pattern).length ≤ pattern.length := by
  induction pattern with
  | nil => exact Nat.le_refl 0
  | cons c pattern ih =>
    unfold instantiate
    split
    · exact Nat.le_succ_of_le ih
    · exact Nat.succ_le_succ ih

/-- The pattern is part of its instance only if its characters stand for themselves. -/
theorem literal_of_partOf_instantiate (hfold : fold 'a' ≠ fold '_') {value : String}
    (h : PartOf fold value (String.ofList (instantiate value.toList))) : Literal value.toList := by
  unfold PartOf at h
  rw [String.toList_ofList] at h
  have heq : value.toList.map fold = (instantiate value.toList).map fold := by
    refine h.eq_of_length_le ?_
    rw [List.length_map, List.length_map]
    exact length_instantiate_le _
  clear h
  generalize value.toList = pattern at heq ⊢
  induction pattern with
  | nil => exact ⟨List.not_mem_nil, List.not_mem_nil⟩
  | cons c pattern ih =>
    unfold instantiate at heq
    by_cases hpercent : c = '%'
    · -- Nothing in the instance stands for it, so the instance is too short.
      rw [if_pos hpercent] at heq
      have hlength := congrArg List.length heq
      rw [List.length_map, List.length_map, List.length_cons] at hlength
      have hle := length_instantiate_le pattern
      omega
    · rw [if_neg hpercent, List.map_cons, List.map_cons, List.cons.injEq] at heq
      refine literal_cons_iff.mpr ⟨hpercent, ?_, ih heq.2⟩
      rintro rfl
      exact hfold heq.1.symm

end Like

/-! ## Filters on dictionaries -/

/-- The dictionary has each key of the filters, with a value equal to the filter's. -/
def HasItems (values filters : Dict Json) : Prop :=
  ∀ item ∈ filters, ∃ value, values.lookup item.1 = some value ∧ value.pyEq item.2 = true

/-- The filters without those for `None`. -/
def nonNull (filters : Dict Json) : Dict Json := filters.filter fun item => item.2 != .null

/-- Without a filter for `None`, the filters match what has their items. -/
theorem matchesMappingFilters_iff {filters : Dict Json} (hnull : ∀ item ∈ filters, item.2 ≠ .null)
    (values : Dict Json) :
    Repository.matchesMappingFilters values filters = true ↔ HasItems values filters := by
  unfold Repository.matchesMappingFilters HasItems
  rw [List.all_eq_true]
  refine forall₂_congr fun item hitem => ?_
  cases values.lookup item.1 with
  | none => simp [Json.pyEq_null_iff, hnull item hitem]
  | some value => simp

/-- A key of the filters without those for `None`. -/
theorem lookup_nonNull {filters : Dict Json} (hnodup : (filters.map Prod.fst).Nodup)
    {item : String × Json} (hitem : item ∈ filters) :
    (nonNull filters).lookup item.1 = if item.2 = .null then none else some item.2 := by
  have hself : filters.lookup item.1 = some item.2 := Dict.lookup_of_mem hnodup hitem
  by_cases hnull : item.2 = .null
  · rw [if_pos hnull]
    -- No other item has the key.
    rw [List.lookup_eq_none_iff]
    intro other hother
    obtain ⟨hmem, hne⟩ := List.mem_filter.mp hother
    rw [bne_iff_ne]
    intro hkey
    have hvalue : filters.lookup other.1 = some other.2 := Dict.lookup_of_mem hnodup hmem
    rw [← hkey, hself, hnull] at hvalue
    rw [← Option.some.inj hvalue] at hne
    cases hne
  · rw [if_neg hnull]
    refine Dict.lookup_of_mem (hnodup.sublist (List.filter_sublist.map Prod.fst)) ?_
    exact List.mem_filter.mpr ⟨hitem, by simpa using hnull⟩

/-- What has the items of the filters but those for `None` matches the filters. -/
theorem matchesMappingFilters_nonNull {filters : Dict Json}
    (hnodup : (filters.map Prod.fst).Nodup) :
    Repository.matchesMappingFilters (nonNull filters) filters = true := by
  unfold Repository.matchesMappingFilters
  rw [List.all_eq_true]
  intro item hitem
  rw [lookup_nonNull hnodup hitem]
  by_cases hnull : item.2 = .null
  · rw [if_pos hnull, hnull]
    rfl
  · rw [if_neg hnull]
    exact Json.pyEq_refl item.2

/-- It has the items of the filters only if there are no filters for `None`. -/
theorem ne_null_of_hasItems_nonNull {filters : Dict Json} (hnodup : (filters.map Prod.fst).Nodup)
    (h : HasItems (nonNull filters) filters) : ∀ item ∈ filters, item.2 ≠ .null := by
  intro item hitem hnull
  obtain ⟨value, hvalue, -⟩ := h item hitem
  rw [lookup_nonNull hnodup hitem, if_pos hnull] at hvalue
  cases hvalue

/-! ## Queries -/

/-- The filters of a query are dictionaries: their keys are distinct. -/
structure ConnectionListQuery.WellFormed (query : ConnectionListQuery) : Prop where
  labels : (query.labelFilters.map Prod.fst).Nodup
  metadata : (query.metadataFilters.map Prod.fst).Nodup
  extra : (query.extraFilters.map Prod.fst).Nodup

section Queries

variable {C : Type} (storage : Storage C) (query : ConnectionListQuery)

/-- The query asks for the row. -/
structure Selects (row : Row C) : Prop where
  deleted : query.includeDeleted = true ∨ row.deletedAt = none
  kind : ∀ kind, query.kind = some kind → row.kind = kind
  type : ∀ type, query.type = some type → row.type = type
  /-- The name contains the requested one, letter case aside. -/
  name : ∀ name, query.name = some name → PartOf storage.foldCase name row.name
  labels : HasItems ((toRecord storage row).labels.map fun item => (item.1, .str item.2))
    query.labelFilters
  metadata : HasItems (toRecord storage row).metadata query.metadataFilters
  extra : HasItems (toRecord storage row).extra query.extraFilters

/-- The name and the filters of the query have nothing that `list` takes otherwise than it is meant:
no wildcard of LIKE in the name, and no filter for `None`. -/
structure Plain : Prop where
  name : ∀ name, query.name = some name → Literal name.toList
  labels : ∀ item ∈ query.labelFilters, item.2 ≠ .null
  metadata : ∀ item ∈ query.metadataFilters, item.2 ≠ .null
  extra : ∀ item ∈ query.extraFilters, item.2 ≠ .null

/-- A filter on labels has a value that no label has, as it is neither a string nor `None`. -/
def AsksForNothing : Prop := ∃ item ∈ query.labelFilters, item.2 ≠ .null ∧ ∀ s, item.2 ≠ .str s

/-- `list` selects the row. -/
def listSelects (row : Row C) : Bool :=
  Repository.matchesStatement storage query row &&
    Repository.matchesFilters (toRecord storage row) query

open Classical in
/-- Over every store, `list` returns each row that the query asks for exactly once, and no others. -/
def ListsExactly : Prop :=
  ∀ store : List (Row C), ∃ records,
    (Repository.list storage query).run store = (.ok records, store) ∧
      records.Perm ((store.filter fun row => Selects storage query row).map (toRecord storage))

/-- `list` of the repository run alone. -/
theorem run_repository_list (store : List (Row C)) :
    (Repository.list storage query).run store = (.ok (listed storage query store), store) := rfl

/-- The records that `list` returns are those of the rows it selects. -/
theorem listed_eq (store : List (Row C)) :
    listed storage query store = (store.filter (listSelects storage query)).map (toRecord storage) := by
  unfold listed listSelects
  rw [List.filter_map, List.filter_filter]
  refine congrArg _ (List.filter_congr fun row _ => ?_)
  exact Bool.and_comm _ _

/-- `list` is exact exactly when it selects the rows that the query asks for. -/
theorem listsExactly_iff :
    ListsExactly storage query ↔
      ∀ row : Row C, listSelects storage query row = true ↔ Selects storage query row := by
  classical
  constructor
  · intro h row
    -- Over the row alone, the two lists have as many records.
    obtain ⟨records, hrun, hperm⟩ := h [row]
    rw [run_repository_list, listed_eq] at hrun
    have hlength := hperm.length_eq
    rw [← Except.ok.inj (Prod.mk.inj hrun).1, List.length_map, List.length_map] at hlength
    by_cases hselects : Selects storage query row
    · by_cases hlist : listSelects storage query row = true
      · simp [hselects, hlist]
      · simp [hselects, hlist] at hlength
    · by_cases hlist : listSelects storage query row = true
      · simp [hselects, hlist] at hlength
      · simp [hselects, hlist]
  · intro h store
    refine ⟨_, run_repository_list storage query store, ?_⟩
    rw [listed_eq]
    refine List.Perm.of_eq (congrArg _ (List.filter_congr fun row _ => ?_))
    rw [Bool.eq_iff_iff, h row]
    exact decide_eq_true_iff.symm

/-- `list` selects the rows that a plain query asks for. -/
theorem listSelects_iff (hplain : Plain query) (row : Row C) :
    listSelects storage query row = true ↔ Selects storage query row := by
  unfold listSelects Repository.matchesStatement Repository.matchesFilters
  simp only [Bool.and_eq_true, Bool.or_eq_true, Option.isNone_iff_eq_none, Option.all_eq_true,
    beq_iff_eq, matchesMappingFilters_iff hplain.labels, matchesMappingFilters_iff hplain.metadata,
    matchesMappingFilters_iff hplain.extra]
  constructor
  · rintro ⟨⟨⟨⟨hdeleted, hkind⟩, htype⟩, hname⟩, ⟨hlabels, hmetadata⟩, hextra⟩
    exact ⟨hdeleted, hkind, htype,
      fun name h => (contains_iff_partOf (hplain.name name h)).mp (hname name h), hlabels, hmetadata,
      hextra⟩
  · rintro ⟨hdeleted, hkind, htype, hname, hlabels, hmetadata, hextra⟩
    exact ⟨⟨⟨⟨hdeleted, hkind⟩, htype⟩,
      fun name h => (contains_iff_partOf (hplain.name name h)).mpr (hname name h)⟩,
      ⟨hlabels, hmetadata⟩, hextra⟩

/-- A row that `list` selects by its wildcards and its filters for `None`: the instance of the name,
and no items for those filters. -/
def probeRow : Row C where
  id := ""
  name := String.ofList (instantiate (query.name.getD "").toList)
  kind := query.kind.getD ""
  type := query.type.getD ""
  driver := none
  driverOptionsJson := .null
  propertiesJson := .obj []
  secretsCiphertext := storage.encryption.encrypt 0 (.obj [])
  labelsJson := .obj (nonNull query.labelFilters)
  metadataJson := .obj (nonNull query.metadataFilters)
  extraJson := .obj (nonNull query.extraFilters)
  createdAt := 0
  updatedAt := 0
  deletedAt := none

/-- The labels of the probe are those of the filters, where these are strings. -/
theorem labels_probeRow (hlabels : ¬ AsksForNothing query) :
    ((toRecord storage (probeRow storage query)).labels.map fun item => (item.1, .str item.2)) =
      nonNull query.labelFilters := by
  have hstrings : ∀ item ∈ nonNull query.labelFilters, ∃ s, item.2 = .str s := by
    intro item hitem
    obtain ⟨hmem, hne⟩ := List.mem_filter.mp hitem
    by_contra hno
    exact hlabels ⟨item, hmem, by simpa using hne, not_exists.mp hno⟩
  obtain ⟨labels, hl⟩ := Dict.exists_strings? hstrings
  have hread : (toRecord storage (probeRow storage query)).labels = labels := by
    show (readLabels (.obj (nonNull query.labelFilters))).value = labels
    simp [readLabels, coerceMapping, Json.obj?, hl]
  rw [hread]
  exact Dict.map_str_of_strings? hl

/-- A query for a label that no row has selects nothing, and asks for nothing. -/
theorem listSelects_iff_of_asksForNothing (h : AsksForNothing query) (row : Row C) :
    listSelects storage query row = true ↔ Selects storage query row := by
  obtain ⟨item, hitem, hnull, hstr⟩ := h
  -- A label is a string, and no label at all counts as `None`.
  have hno : ∀ value, ((toRecord storage row).labels.map fun item =>
      (item.1, Json.str item.2)).lookup item.1 = some value → value.pyEq item.2 = false := by
    intro value hvalue
    rw [Dict.lookup_map_values Json.str] at hvalue
    obtain ⟨s, -, rfl⟩ := Option.map_eq_some_iff.mp hvalue
    exact Bool.eq_false_iff.mpr fun he => hstr s (Json.str_pyEq_iff.mp he)
  constructor
  · intro hselects
    unfold listSelects Repository.matchesFilters Repository.matchesMappingFilters at hselects
    simp only [Bool.and_eq_true, List.all_eq_true] at hselects
    have hmatch := hselects.2.1.1 item hitem
    cases hl : ((toRecord storage row).labels.map fun item => (item.1, Json.str item.2)).lookup
        item.1 with
    | none =>
      rw [hl, Option.getD_none, Json.pyEq_null_iff] at hmatch
      exact absurd hmatch hnull
    | some value =>
      rw [hl, Option.getD_some, hno value hl] at hmatch
      cases hmatch
  · intro hselects
    obtain ⟨value, hl, hmatch⟩ := hselects.labels item hitem
    rw [hno value hl] at hmatch
    cases hmatch

theorem listSelects_probeRow (hquery : query.WellFormed) (hlabels : ¬ AsksForNothing query) :
    listSelects storage query (probeRow storage query) = true := by
  have hmetadata : (toRecord storage (probeRow storage query)).metadata =
      nonNull query.metadataFilters := rfl
  have hextra : (toRecord storage (probeRow storage query)).extra = nonNull query.extraFilters := rfl
  unfold listSelects Repository.matchesStatement Repository.matchesFilters
  rw [hmetadata, hextra, matchesMappingFilters_nonNull hquery.metadata,
    matchesMappingFilters_nonNull hquery.extra, labels_probeRow storage query hlabels,
    matchesMappingFilters_nonNull hquery.labels]
  simp only [Bool.and_eq_true, Bool.or_eq_true, Option.all_eq_true, beq_iff_eq]
  refine ⟨⟨⟨⟨.inr rfl, ?_⟩, ?_⟩, ?_⟩, ⟨trivial, trivial⟩, trivial⟩
  · intro kind hkind
    unfold probeRow
    rw [hkind]
    rfl
  · intro type htype
    unfold probeRow
    rw [htype]
    rfl
  · intro name hname
    unfold probeRow
    rw [hname]
    exact contains_instantiate name

/-- The query asks for the probe only if it is plain. -/
theorem plain_of_selects_probeRow (hfold : storage.foldCase 'a' ≠ storage.foldCase '_')
    (hquery : query.WellFormed) (hlabels : ¬ AsksForNothing query)
    (h : Selects storage query (probeRow storage query)) :
    Plain query := by
  have hasLabels := h.labels
  rw [labels_probeRow storage query hlabels] at hasLabels
  refine ⟨?_, ne_null_of_hasItems_nonNull hquery.labels hasLabels,
    ne_null_of_hasItems_nonNull hquery.metadata h.metadata,
    ne_null_of_hasItems_nonNull hquery.extra h.extra⟩
  intro name hname
  have hpart := h.name name hname
  unfold probeRow at hpart
  rw [hname] at hpart
  exact literal_of_partOf_instantiate hfold hpart

/-- For which queries `list` returns, over every store, exactly the rows that they ask for: those
whose name has no wildcard of LIKE and whose filters have no `None`, and those with a filter on
labels that is neither a string nor `None`, which ask for nothing. The case folding of the database
keeps letters and `_` apart. -/
theorem list_exact_iff (hfold : storage.foldCase 'a' ≠ storage.foldCase '_')
    (hquery : query.WellFormed) :
    ListsExactly storage query ↔ Plain query ∨ AsksForNothing query := by
  rw [listsExactly_iff]
  constructor
  · intro h
    by_cases hlabels : AsksForNothing query
    · exact Or.inr hlabels
    · exact Or.inl (plain_of_selects_probeRow storage query hfold hquery hlabels
        ((h _).mp (listSelects_probeRow storage query hquery hlabels)))
  · rintro (hplain | hlabels)
    · exact listSelects_iff storage query hplain
    · exact listSelects_iff_of_asksForNothing storage query hlabels

end Queries

/-- The query for a name, without wildcards. -/
theorem list_exact_iff_backups :
    ListsExactly (defaultService none).storage
      { ConnectionListQuery.all with name := some "backups" } := by
  refine (list_exact_iff _ _ (by decide) ⟨?_, ?_, ?_⟩).mpr (Or.inl ⟨?_, ?_, ?_, ?_⟩)
  · exact List.nodup_nil
  · exact List.nodup_nil
  · exact List.nodup_nil
  · rintro name hname
    cases hname
    exact ⟨by decide, by decide⟩
  · intro item hitem
    cases hitem
  · intro item hitem
    cases hitem
  · intro item hitem
    cases hitem

/-- The query for a name with a wildcard. -/
def wildcardQuery : ConnectionListQuery := { ConnectionListQuery.all with name := some "back_p" }

/-- The query for metadata without a team. -/
def noTeamQuery : ConnectionListQuery :=
  { ConnectionListQuery.all with metadataFilters := [("team", .null)] }

/-- `list` takes the `_` of a name for any character, and a filter for `None` for a missing key. -/
theorem list_returns_other_rows :
    (((Repository.list (defaultService none).storage wildcardQuery).run [bucketRow "1"]).1 =
          .ok [toRecord (defaultService none).storage (bucketRow "1")] ∧
        ¬ Selects (defaultService none).storage wildcardQuery (bucketRow "1")) ∧
      ((Repository.list (defaultService none).storage noTeamQuery).run [bucketRow "1"]).1 =
          .ok [toRecord (defaultService none).storage (bucketRow "1")] ∧
        ¬ Selects (defaultService none).storage noTeamQuery (bucketRow "1") := by
  refine ⟨⟨?_, fun h => ?_⟩, ?_, fun h => ?_⟩
  · rw [run_repository_list]
    exact congrArg Except.ok (by decide +kernel)
  · have hpart := h.name "back_p" rfl
    unfold PartOf at hpart
    exact absurd hpart (by decide)
  · rw [run_repository_list]
    exact congrArg Except.ok (by decide +kernel)
  · obtain ⟨value, hvalue, -⟩ := h.metadata ("team", .null) List.mem_cons_self
    cases hvalue

end DbConnection
