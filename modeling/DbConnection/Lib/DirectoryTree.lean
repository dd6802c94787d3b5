import Mathlib.Data.List.Basic
import Mathlib.Data.List.Induction

/-!
# A tree of directories and a walk through it

A directory is the list of the names that lead to it from the root. A `Tree` is a set of directories
that contains the root and, with a directory, the one above it. A `Place` is a tree with a current
directory in it.

`walk` follows a list of hops, each from where the one before it ended, and makes a directory that
is missing if the one above it is there. It stops at the first hop that fails. When each hop but the
first has at least two names, such a walk makes one directory at most: nothing below a directory
that was just made can be entered or made by a further hop. `walk_cwd_eq_iff` says by this exactly
when the walk ends in a given directory that was missing.
-/

namespace DirectoryTree

variable {ν : Type}

/-- A set of directories that contains the root and all that lie above its members. -/
structure Tree (ν : Type) where
  dirs : List (List ν)
  root_mem : [] ∈ dirs
  parent_mem : ∀ path name, path ++ [name] ∈ dirs → path ∈ dirs

instance : Membership (List ν) (Tree ν) := ⟨fun tree path => path ∈ tree.dirs⟩

instance [DecidableEq ν] (tree : Tree ν) (path : List ν) : Decidable (path ∈ tree) :=
  inferInstanceAs (Decidable (path ∈ tree.dirs))

namespace Tree

/-- What lies above a directory of the tree is in the tree. -/
theorem mem_of_append_mem {tree : Tree ν} {path : List ν} (below : List ν)
    (h : path ++ below ∈ tree) : path ∈ tree := by
  induction below using List.reverseRec with
  | nil => rwa [List.append_nil] at h
  | append_singleton below name ih =>
    rw [← List.append_assoc] at h
    exact ih (tree.parent_mem _ _ h)

/-- Nothing lies above the root. -/
theorem parent_mem_root : ∀ path name, path ++ [name] ∈ [([] : List ν)] → path ∈ [([] : List ν)] := by
  intro path name h
  exact absurd (List.mem_singleton.mp h) (by simp)

/-- The tree of the root only. -/
def root : Tree ν := ⟨[[]], List.mem_singleton_self [], parent_mem_root⟩

/-- The root is in the directories with one more. -/
theorem root_mem_cons (tree : Tree ν) (path : List ν) : [] ∈ path :: tree.dirs :=
  List.mem_cons_of_mem _ tree.root_mem

/-- A directory more, below one of the tree, keeps the parents in the tree. -/
theorem parent_mem_cons (tree : Tree ν) (path : List ν) (h : path.dropLast ∈ tree) :
    ∀ p name, p ++ [name] ∈ path :: tree.dirs → p ∈ path :: tree.dirs := by
  intro p name hmem
  obtain heq | hold := List.mem_cons.mp hmem
  · have hparent : path.dropLast = p := by rw [← heq, List.dropLast_concat]
    rw [hparent] at h
    exact List.mem_cons_of_mem _ h
  · exact List.mem_cons_of_mem _ (tree.parent_mem p name hold)

/-- The tree with a directory more, below one that it has. -/
def insert (tree : Tree ν) (path : List ν) (h : path.dropLast ∈ tree) : Tree ν :=
  ⟨path :: tree.dirs, tree.root_mem_cons path, tree.parent_mem_cons path h⟩

theorem mem_insert {tree : Tree ν} {path : List ν} {h : path.dropLast ∈ tree} {p : List ν} :
    p ∈ tree.insert path h ↔ p = path ∨ p ∈ tree := List.mem_cons

theorem mem_insert_self (tree : Tree ν) (path : List ν) (h : path.dropLast ∈ tree) :
    path ∈ tree.insert path h := mem_insert.mpr (Or.inl rfl)

end Tree

/-- A tree with a current directory. -/
structure Place (ν : Type) where
  tree : Tree ν
  cwd : List ν
  cwd_mem : cwd ∈ tree

namespace Place

/-- The root, in a tree of it only. -/
def root : Place ν := ⟨Tree.root, [], Tree.root.root_mem⟩

/-- The place with another current directory. -/
def enter (place : Place ν) (path : List ν) (h : path ∈ place.tree) : Place ν :=
  ⟨place.tree, path, h⟩

/-- Any directory of a place is one of the place with a directory more. -/
theorem cwd_mem_insert (place : Place ν) (path : List ν) (h : path.dropLast ∈ place.tree) :
    place.cwd ∈ place.tree.insert path h := Tree.mem_insert.mpr (Or.inr place.cwd_mem)

/-- The place with a directory more in its tree. -/
def make (place : Place ν) (path : List ν) (h : path.dropLast ∈ place.tree) : Place ν :=
  ⟨place.tree.insert path h, place.cwd, place.cwd_mem_insert path h⟩

/-- Makes a directory and enters it. -/
def makeAndEnter (place : Place ν) (path : List ν) (h : path.dropLast ∈ place.tree) : Place ν :=
  (place.make path h).enter path (place.tree.mem_insert_self path h)

@[simp] theorem enter_tree (place : Place ν) (path : List ν) (h : path ∈ place.tree) :
    (place.enter path h).tree = place.tree := rfl

@[simp] theorem enter_cwd (place : Place ν) (path : List ν) (h : path ∈ place.tree) :
    (place.enter path h).cwd = path := rfl

/-- What is there after a directory was made. -/
theorem mem_makeAndEnter_tree {place : Place ν} {path p : List ν}
    (h : path.dropLast ∈ place.tree) :
    p ∈ (place.makeAndEnter path h).tree ↔ p = path ∨ p ∈ place.tree :=
  Tree.mem_insert (h := h)

@[simp] theorem makeAndEnter_cwd (place : Place ν) (path : List ν)
    (h : path.dropLast ∈ place.tree) : (place.makeAndEnter path h).cwd = path := rfl

/-- Where the walk gets if its first `j` hops succeed. -/
def stop (cwd : List ν) (hops : List (List ν)) (j : Nat) : List ν := cwd ++ (hops.take j).flatten

theorem stop_succ_cons (cwd hop : List ν) (hops : List (List ν)) (j : Nat) :
    stop cwd (hop :: hops) (j + 1) = stop (cwd ++ hop) hops j := by
  unfold stop
  rw [List.take_succ_cons, List.flatten_cons, List.append_assoc]

/-- A stop after a first hop that leads to a missing directory has no directory above it that is
there, unless it is the first. -/
theorem eq_of_stop (place : Place ν) (hop : List ν) (hops : List (List ν)) (j : Nat)
    (hmissing : place.cwd ++ hop ∉ place.tree) {target : List ν}
    (hparent : target.dropLast ∈ place.tree)
    (hstop : target = stop (place.cwd ++ hop) hops j) : target = place.cwd ++ hop := by
  unfold stop at hstop
  by_cases hnil : (hops.take j).flatten = []
  · rwa [hnil, List.append_nil] at hstop
  · rw [hstop, List.dropLast_append_of_ne_nil hnil] at hparent
    exact absurd (Tree.mem_of_append_mem _ hparent) hmissing

variable [DecidableEq ν]

/-- Follows the hops, each from where the one before it ended, and makes what is missing if it can;
ends at the first hop that fails. -/
def walk : List (List ν) → Place ν → Place ν
  | [], place => place
  | hop :: hops, place =>
    if h : place.cwd ++ hop ∈ place.tree then walk hops (place.enter _ h)
    else if h : (place.cwd ++ hop).dropLast ∈ place.tree then
      walk hops (place.makeAndEnter _ h)
    else place

/-- Below a directory that was just made nothing can be entered or made by a hop of two names or
more, so the walk stays there. -/
theorem walk_of_made (place : Place ν) (path : List ν) (h : path.dropLast ∈ place.tree)
    (hmissing : path ∉ place.tree) (hops : List (List ν)) (hlong : ∀ hop ∈ hops, 2 ≤ hop.length) :
    walk hops (place.makeAndEnter path h) = place.makeAndEnter path h := by
  cases hops with
  | nil => rfl
  | cons hop hops =>
    have hlen : 2 ≤ hop.length := hlong hop List.mem_cons_self
    have hbelow : ∀ below : List ν, below ≠ [] →
        path ++ below ∉ (place.makeAndEnter path h).tree := by
      intro below hne hmem
      obtain heq | hold := (mem_makeAndEnter_tree h).mp hmem
      · exact hne (List.append_right_eq_self.mp heq)
      · exact hmissing (Tree.mem_of_append_mem below hold)
    have hne : hop ≠ [] := List.ne_nil_of_length_pos (by omega)
    have hdrop : hop.dropLast ≠ [] := by
      apply List.ne_nil_of_length_pos
      rw [List.length_dropLast]
      omega
    have hmissing' : (place.makeAndEnter path h).cwd ++ hop ∉ (place.makeAndEnter path h).tree :=
      hbelow hop hne
    have hparent : ((place.makeAndEnter path h).cwd ++ hop).dropLast ∉
        (place.makeAndEnter path h).tree := by
      rw [List.dropLast_append_of_ne_nil hne]
      exact hbelow hop.dropLast hdrop
    unfold walk
    rw [dif_neg hmissing', dif_neg hparent]

/-- The walk leaves the tree as it was, or adds the directory that it ends in. -/
theorem walk_tree (hops : List (List ν)) (hlong : ∀ hop ∈ hops.tail, 2 ≤ hop.length)
    (place : Place ν) {path : List ν} (hmem : path ∈ (walk hops place).tree) :
    path ∈ place.tree ∨ path = (walk hops place).cwd := by
  induction hops generalizing place with
  | nil => exact Or.inl hmem
  | cons hop hops ih =>
    have hlong' : ∀ h ∈ hops.tail, 2 ≤ h.length := fun h hh => hlong h (List.mem_of_mem_tail hh)
    unfold walk at hmem ⊢
    by_cases hthere : place.cwd ++ hop ∈ place.tree
    · rw [dif_pos hthere] at hmem ⊢
      exact ih hlong' _ hmem
    rw [dif_neg hthere] at hmem ⊢
    by_cases hparent : (place.cwd ++ hop).dropLast ∈ place.tree
    · rw [dif_pos hparent, walk_of_made place _ hparent hthere hops hlong] at hmem ⊢
      exact ((mem_makeAndEnter_tree hparent).mp hmem).symm
    · rw [dif_neg hparent] at hmem ⊢
      exact Or.inl hmem

/-- The walk ends in a directory that was missing exactly when the directory above it is there and
it is one of the stops. -/
theorem walk_cwd_eq_iff (hops : List (List ν)) (hlong : ∀ hop ∈ hops.tail, 2 ≤ hop.length)
    (place : Place ν) (target : List ν) (hmissing : target ∉ place.tree) :
    (walk hops place).cwd = target ↔
      target.dropLast ∈ place.tree ∧ ∃ j < hops.length, target = stop place.cwd hops (j + 1) := by
  induction hops generalizing place with
  | nil =>
    constructor
    · intro h
      exact absurd (h ▸ place.cwd_mem) hmissing
    · rintro ⟨-, j, hj, -⟩
      exact absurd hj (Nat.not_lt_zero j)
  | cons hop hops ih =>
    have hlong' : ∀ h ∈ hops.tail, 2 ≤ h.length := fun h hh => hlong h (List.mem_of_mem_tail hh)
    have hstops : (∃ j < (hop :: hops).length, target = stop place.cwd (hop :: hops) (j + 1)) ↔
        ∃ j < hops.length + 1, target = stop (place.cwd ++ hop) hops j := by
      simp only [List.length_cons, stop_succ_cons]
    rw [hstops]
    unfold walk
    by_cases hthere : place.cwd ++ hop ∈ place.tree
    · -- The hop is followed, and the target is not where it leads, as that is there.
      rw [dif_pos hthere, ih hlong' (place.enter _ hthere) hmissing]
      refine and_congr_right fun _ => ?_
      constructor
      · rintro ⟨j, hj, hstop⟩
        exact ⟨j + 1, Nat.succ_lt_succ hj, hstop⟩
      · rintro ⟨j, hj, hstop⟩
        cases j with
        | zero =>
          have hzero : target = place.cwd ++ hop := by
            rw [hstop, stop, List.take_zero, List.flatten_nil, List.append_nil]
          exact absurd (hzero ▸ hthere) hmissing
        | succ j => exact ⟨j, Nat.lt_of_succ_lt_succ hj, hstop⟩
    rw [dif_neg hthere]
    have hfirst : (∃ j < hops.length + 1, target = stop (place.cwd ++ hop) hops j) →
        target.dropLast ∈ place.tree → target = place.cwd ++ hop := by
      rintro ⟨j, -, hstop⟩ hparent
      exact eq_of_stop place hop hops j hthere hparent hstop
    by_cases hparent : (place.cwd ++ hop).dropLast ∈ place.tree
    · rw [dif_pos hparent, walk_of_made place _ hparent hthere hops hlong, makeAndEnter_cwd]
      constructor
      · intro heq
        refine ⟨heq ▸ hparent, 0, Nat.succ_pos _, ?_⟩
        rw [← heq, stop, List.take_zero, List.flatten_nil, List.append_nil]
      · rintro ⟨hp, hj⟩
        exact (hfirst hj hp).symm
    · rw [dif_neg hparent]
      constructor
      · intro heq
        exact absurd (heq ▸ place.cwd_mem) hmissing
      · rintro ⟨hp, hj⟩
        exact absurd (hfirst hj hp ▸ hp) hparent

end Place

end DirectoryTree
