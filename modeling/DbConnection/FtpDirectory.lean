import DbConnection.HealthChecks
import DbConnection.Lib.DirectoryTree
import DbConnection.Lib.Sessions

/-!
# The initial directory of an FTP client

The end of `FTPConnector._create_client` against a server that answers. The server is a tree of
directories with the current directory of the session: `cwd` and `mkd` resolve a path from the root
when it starts with a slash and from the current directory otherwise, and refuse with a 550
`error_perm`. A component of a path is a plain name.

`_create_ftp_directory` enters `p1`, then `p1/p2`, then `p1/p2/p3`, each relative to the directory
that the one before it entered. So it gets to `p1`, `p1/p1/p2`, `p1/p1/p2/p1/p2/p3` below the login
directory, and the failure that ends it is suppressed. `createClient_enters_iff` says for which
trees and requests this is the requested directory.
-/

namespace DbConnection

open PyText DirectoryTree Sessions

/-! ## The server -/

/-- The names in a path. -/
def components (path : String) : List String := (split '/' path).filter (· ≠ "")

/-- The directory that a path leads to. -/
def resolve (cwd : List String) (path : String) : List String :=
  if startsWith "/" path then components path else cwd ++ components path

/-- The calls of a session, which change the server and return or raise. -/
abbrev FtpSession := ExceptT Raised (StateM (Place String))

/-- The answer to a path that cannot be entered or made. -/
def noSuchDirectory (path : String) : Raised :=
  ⟨.errorPerm, "error_perm", "550 " ++ (path ++ ": No such file or directory")⟩

/-- `client.cwd(path)`. -/
def cwd (path : String) : FtpSession Unit := do
  let server ← get
  if h : resolve server.cwd path ∈ server.tree then set (server.enter _ h)
  else throw (noSuchDirectory path)

/-- `client.mkd(path)`. -/
def mkd (path : String) : FtpSession Unit := do
  let server ← get
  if h : (resolve server.cwd path).dropLast ∈ server.tree then set (server.make _ h)
  else throw (noSuchDirectory path)

/-! ## The client -/

/-- One turn of the loop of `_create_ftp_directory`. -/
def enterPart (path : String) : FtpSession Unit :=
  tryCatch (cwd path) fun e => if e.isErrorPerm then do mkd path; cwd path else throw e

/-- The loop of `_create_ftp_directory`. -/
def createDirectory : List String → FtpSession Unit
  | [] => pure ()
  | path :: paths => do
    enterPart path
    createDirectory paths

/-- The end of `FTPConnector._create_client`, from the login directory on. -/
def enterInitialDirectory (initialDirectory : Option String) : FtpSession Unit :=
  match initialDirectory with
  | none => pure ()
  | some directory =>
    if directory = "" then pure ()
    else
      tryCatch (cwd directory) fun e =>
        if e.isErrorPerm then
          if occursIn "550" e.text then
            tryCatch (createDirectory (directoryPaths directory)) fun e =>
              if e.isException then pure () else throw e
          else pure ()
        else throw e

/-- How `_create_client` ends on a server where the login gave the current directory, and the server
that it leaves. -/
def createClient (initialDirectory : Option String) (server : Place String) :
    Except Raised Unit × Place String :=
  (enterInitialDirectory initialDirectory).run.run server

/-- The requested directory, resolved from the login directory. -/
def requested (login : List String) (initialDirectory : Option String) : List String :=
  resolve login (initialDirectory.getD "")

/-- What is asked of the server that `_create_client` leaves. -/
structure EntersRequested (server after : Place String) (directory : List String) : Prop where
  /-- The requested directory exists. -/
  exists_requested : directory ∈ after.tree
  /-- It is the current directory. -/
  cwd_eq : after.cwd = directory
  /-- Only it and what lies above it was made. -/
  made_prefix : ∀ path ∈ after.tree, path ∉ server.tree → path <+: directory

/-! ## What the calls do -/

section Calls

variable {server : Place String} {path : String} {directory : List String}

/-- `cwd` to a directory that is there. -/
theorem run_cwd_of_mem (hresolve : resolve server.cwd path = directory)
    (h : directory ∈ server.tree) :
    (cwd path).run.run server = (.ok (), server.enter directory h) := by
  subst hresolve
  show (if h : resolve server.cwd path ∈ server.tree then set (server.enter _ h)
    else throw (noSuchDirectory path) : FtpSession Unit).run.run server = _
  rw [dif_pos h]
  rfl

/-- `cwd` to a directory that is not there. -/
theorem run_cwd_of_not_mem (h : resolve server.cwd path ∉ server.tree) :
    (cwd path).run.run server = (.error (noSuchDirectory path), server) := by
  show (if h : resolve server.cwd path ∈ server.tree then set (server.enter _ h)
    else throw (noSuchDirectory path) : FtpSession Unit).run.run server = _
  rw [dif_neg h]
  rfl

/-- `mkd` below a directory that is there. -/
theorem run_mkd_of_mem (hresolve : resolve server.cwd path = directory)
    (h : directory.dropLast ∈ server.tree) :
    (mkd path).run.run server = (.ok (), server.make directory h) := by
  subst hresolve
  show (if h : (resolve server.cwd path).dropLast ∈ server.tree then set (server.make _ h)
    else throw (noSuchDirectory path) : FtpSession Unit).run.run server = _
  rw [dif_pos h]
  rfl

/-- `mkd` below a directory that is not there. -/
theorem run_mkd_of_not_mem (h : (resolve server.cwd path).dropLast ∉ server.tree) :
    (mkd path).run.run server = (.error (noSuchDirectory path), server) := by
  show (if h : (resolve server.cwd path).dropLast ∈ server.tree then set (server.make _ h)
    else throw (noSuchDirectory path) : FtpSession Unit).run.run server = _
  rw [dif_neg h]
  rfl

/-- A part that is there is entered. -/
theorem run_enterPart_of_mem (hresolve : resolve server.cwd path = directory)
    (h : directory ∈ server.tree) :
    (enterPart path).run.run server = (.ok (), server.enter directory h) :=
  run_tryCatch_ok (run_cwd_of_mem hresolve h)

/-- A part that is missing is made, below a directory that is there, and entered. -/
theorem run_enterPart_of_parent_mem (hresolve : resolve server.cwd path = directory)
    (hmissing : directory ∉ server.tree) (h : directory.dropLast ∈ server.tree) :
    (enterPart path).run.run server = (.ok (), server.makeAndEnter directory h) := by
  unfold enterPart
  rw [run_tryCatch_error (run_cwd_of_not_mem (hresolve ▸ hmissing))]
  show (do mkd path; cwd path : FtpSession Unit).run.run server = _
  have hthere : directory ∈ (server.make directory h).tree := Tree.mem_insert_self _ _ h
  have hcwd : resolve (server.make directory h).cwd path = directory := hresolve
  rw [run_bind_ok (run_mkd_of_mem hresolve h), run_cwd_of_mem hcwd hthere]
  rfl

/-- A part whose parent is missing fails. -/
theorem run_enterPart_of_not_mem (hmissing : resolve server.cwd path ∉ server.tree)
    (h : (resolve server.cwd path).dropLast ∉ server.tree) :
    (enterPart path).run.run server = (.error (noSuchDirectory path), server) := by
  unfold enterPart
  rw [run_tryCatch_error (run_cwd_of_not_mem hmissing)]
  exact run_bind_error (run_mkd_of_not_mem h)

end Calls

/-- The loop walks along the paths, if they are relative; it ends well or with a refusal. -/
theorem run_createDirectory (paths : List String)
    (hrelative : ∀ path ∈ paths, startsWith "/" path = false) (server : Place String) :
    ∃ outcome, (createDirectory paths).run.run server =
        (outcome, Place.walk (paths.map components) server) ∧
      (outcome = .ok () ∨ ∃ path, outcome = .error (noSuchDirectory path)) := by
  induction paths generalizing server with
  | nil => exact ⟨.ok (), rfl, Or.inl rfl⟩
  | cons path paths ih =>
    have hrest := fun p hp => hrelative p (List.mem_cons_of_mem _ hp)
    have hresolve : resolve server.cwd path = server.cwd ++ components path := by
      unfold resolve
      rw [hrelative path List.mem_cons_self, if_neg Bool.false_ne_true]
    unfold createDirectory
    rw [List.map_cons]
    unfold Place.walk
    by_cases hthere : server.cwd ++ components path ∈ server.tree
    · rw [run_bind_ok (run_enterPart_of_mem hresolve hthere), dif_pos hthere]
      exact ih hrest _
    rw [dif_neg hthere]
    by_cases hparent : (server.cwd ++ components path).dropLast ∈ server.tree
    · rw [run_bind_ok (run_enterPart_of_parent_mem hresolve hthere hparent), dif_pos hparent]
      exact ih hrest _
    · rw [dif_neg hparent]
      rw [← hresolve] at hthere hparent
      exact ⟨_, run_bind_error (run_enterPart_of_not_mem hthere hparent), Or.inr ⟨path, rfl⟩⟩

/-! ## The paths of the loop -/

/-- The names on both sides of a slash follow each other. -/
theorem components_ofList_append (s t : List Char) :
    components (String.ofList (s ++ '/' :: t)) =
      components (String.ofList s) ++ components (String.ofList t) := by
  unfold components split
  rw [String.toList_ofList, String.toList_ofList, String.toList_ofList, splitChars_append,
    List.map_append, List.filter_append]

/-- A name is the only one in its path. -/
theorem components_of_name {name : String} (hne : name ≠ "") (hname : '/' ∉ name.toList) :
    components name = [name] := by
  unfold components split
  rw [splitChars_of_not_mem hname, List.map_singleton, String.ofList_toList]
  exact List.filter_cons_of_pos (decide_eq_true hne)

theorem components_empty : components "" = [] := by decide

/-- Each component is a name. -/
theorem name_of_mem_components {path name : String} (h : name ∈ components path) :
    name ≠ "" ∧ '/' ∉ name.toList := by
  unfold components split at h
  obtain ⟨hmem, hne⟩ := List.mem_filter.mp h
  obtain ⟨piece, hpiece, rfl⟩ := List.mem_map.mp hmem
  rw [String.toList_ofList]
  exact ⟨of_decide_eq_true hne, not_mem_of_mem_splitChars hpiece⟩

/-- Slashes in front do not count. -/
theorem components_dropWhile (s : List Char) :
    components (String.ofList (s.dropWhile (· == '/'))) = components (String.ofList s) := by
  induction s with
  | nil => rfl
  | cons c s ih =>
    by_cases hc : c = '/'
    · rw [hc, List.dropWhile_cons_of_pos (p := fun x => x == '/') rfl, ih]
      have happend := components_ofList_append [] s
      rw [List.nil_append] at happend
      rw [happend]
      exact (List.nil_append _).symm
    · have hneg : ¬ (c == '/') = true := by rwa [beq_iff_eq]
      rw [List.dropWhile_cons_of_neg (p := fun x => x == '/') hneg]

/-- Slashes at the end do not count. -/
theorem components_append_slashes (s slashes : List Char) (h : ∀ c ∈ slashes, c = '/') :
    components (String.ofList (s ++ slashes)) = components (String.ofList s) := by
  induction slashes generalizing s with
  | nil => rw [List.append_nil]
  | cons c slashes ih =>
    obtain rfl : c = '/' := h c List.mem_cons_self
    have hrest := ih [] fun c hc => h c (List.mem_cons_of_mem _ hc)
    rw [List.nil_append] at hrest
    rw [components_ofList_append, hrest]
    exact List.append_nil _

/-- `strip("/")` keeps the names of a path. -/
theorem components_stripBy (path : String) :
    components (stripBy (· == '/') path) = components path := by
  unfold stripBy
  set rest := (path.toList.dropWhile (· == '/')).reverse with hrest
  have hsplit : (rest.dropWhile (· == '/')).reverse ++ (rest.takeWhile (· == '/')).reverse =
      path.toList.dropWhile (· == '/') := by
    rw [← List.reverse_append, List.takeWhile_append_dropWhile, hrest, List.reverse_reverse]
  have hslashes : ∀ c ∈ (rest.takeWhile (· == '/')).reverse, c = '/' := by
    intro c hc
    have hall := List.all_eq_true.mp (List.all_takeWhile (p := (· == '/')) (l := rest))
    exact beq_iff_eq.mp (hall c (List.mem_reverse.mp hc))
  rw [← components_append_slashes _ _ hslashes, hsplit, components_dropWhile,
    String.ofList_toList]

/-- A text that does not start with a slash still does not with more behind it. -/
theorem startsWith_slash_append {s : String} (t : String) (hne : s ≠ "") :
    startsWith "/" (s ++ t) = startsWith "/" s := by
  unfold startsWith
  rw [String.toList_append]
  cases hs : s.toList with
  | nil => exact absurd (String.toList_inj.mp hs) hne
  | cons c rest => rfl

/-- The paths of the loop have the names so far and each one more, and are relative. -/
theorem components_go (current : String) (names parts : List String)
    (hcurrent : components current = names) (hempty : current = "" → names = [])
    (hrelative : startsWith "/" current = false)
    (hparts : ∀ part ∈ parts, part ≠ "" ∧ '/' ∉ part.toList) :
    (directoryPaths.go current parts).map components = parts.inits.tail.map (names ++ ·) ∧
      ∀ path ∈ directoryPaths.go current parts, startsWith "/" path = false := by
  induction parts generalizing current names with
  | nil =>
    refine ⟨rfl, ?_⟩
    intro path hpath
    exact absurd hpath List.not_mem_nil
  | cons part parts ih =>
    obtain ⟨hne, hname⟩ := hparts part List.mem_cons_self
    set path := if current ≠ "" then current ++ "/" ++ part else part with hpath
    have hnames : components path = names ++ [part] := by
      by_cases hc : current = ""
      · rw [hpath, if_neg (not_not.mpr hc), components_of_name hne hname, hempty hc]
        rfl
      · rw [hpath, if_pos hc, ← hcurrent, ← components_of_name hne hname]
        have happend := components_ofList_append current.toList part.toList
        rw [String.ofList_toList, String.ofList_toList] at happend
        have htext : current ++ "/" ++ part =
            String.ofList (current.toList ++ '/' :: part.toList) := by
          rw [← String.toList_inj, String.toList_ofList, String.toList_append,
            String.toList_append, List.append_assoc]
          rfl
        rw [htext, happend]
    have hstart : startsWith "/" path = false := by
      by_cases hc : current = ""
      · rw [hpath, if_neg (not_not.mpr hc)]
        unfold startsWith
        cases hp : part.toList with
        | nil => rfl
        | cons c rest =>
          have hslash : ('/' == c) = false := by
            rw [beq_eq_false_iff_ne]
            intro heq
            exact hname (hp ▸ heq ▸ List.mem_cons_self)
          show ('/' == c && [].isPrefixOf rest) = false
          rw [hslash, Bool.false_and]
      · rw [hpath, if_pos hc, String.append_assoc, startsWith_slash_append _ hc, hrelative]
    have hpathne : path = "" → names ++ [part] = [] := by
      intro heq
      rw [← hnames, heq]
      exact components_empty
    obtain ⟨hmap, hall⟩ := ih path (names ++ [part]) hnames hpathne hstart
      fun p hp => hparts p (List.mem_cons_of_mem _ hp)
    have hgo : directoryPaths.go current (part :: parts) = path :: directoryPaths.go path parts :=
      rfl
    rw [hgo]
    constructor
    · have hinits : (part :: parts).inits.tail = [part] :: parts.inits.tail.map (part :: ·) := by
        cases parts <;> rfl
      rw [List.map_cons, hmap, hnames, hinits, List.map_cons, List.map_map]
      congr 1
      apply List.map_congr_left
      intro tail _
      show names ++ [part] ++ tail = names ++ part :: tail
      rw [List.append_assoc, List.singleton_append]
    · exact List.forall_mem_cons.mpr ⟨hstart, hall⟩

/-- The hops of the loop: the first name, the first two names, and so on. -/
def hops (directory : String) : List (List String) := (components directory).inits.tail

/-- The paths that the loop enters, for a directory other than the root. -/
theorem components_directoryPaths {directory : String} (hne : directory ≠ "")
    (hroot : directory ≠ "/") :
    (directoryPaths directory).map components = hops directory ∧
      ∀ path ∈ directoryPaths directory, startsWith "/" path = false := by
  have hparts : ∀ part ∈ components directory, part ≠ "" ∧ '/' ∉ part.toList :=
    fun part h => name_of_mem_components h
  obtain ⟨hmap, hall⟩ := components_go "" [] (components directory) components_empty
    (fun _ => rfl) (by decide) hparts
  have hgo : directoryPaths directory = directoryPaths.go "" (components directory) := by
    unfold directoryPaths
    rw [if_neg (not_or.mpr ⟨hne, hroot⟩), ← components_stripBy]
    rfl
  rw [hgo]
  exact ⟨by rw [hmap]; exact List.map_id' _, hall⟩

/-- Each hop but the first has two names or more. -/
theorem two_le_length_of_mem_hops (directory : String) :
    ∀ hop ∈ (hops directory).tail, 2 ≤ hop.length := by
  intro hop hmem
  unfold hops at hmem
  obtain ⟨n, hn, rfl⟩ := List.getElem_of_mem hmem
  simp only [List.getElem_tail, List.getElem_inits, List.length_take]
  simp only [List.length_tail, List.length_inits] at hn
  omega

/-! ## The client -/

/-- Where the loop gets if its first `j` turns succeed: the login directory, then `p1` in it, then
`p1/p2` in that, and so on. -/
def accumulated (login : List String) (initialDirectory : Option String) (j : Nat) :
    List String :=
  Place.stop login (hops (initialDirectory.getD "")) j

/-- The change of directory of a client that was asked for no missing directory. -/
theorem createClient_of_mem {server : Place String} {initialDirectory : Option String}
    (h : requested server.cwd initialDirectory ∈ server.tree) :
    createClient initialDirectory server = (.ok (), server.enter _ h) := by
  have hlogin : ∀ h : requested server.cwd (some "") ∈ server.tree,
      server = server.enter _ h := by
    intro h
    have heq : requested server.cwd (some "") = server.cwd := by
      show server.cwd ++ components "" = server.cwd
      rw [components_empty, List.append_nil]
    simp only [heq]
    rfl
  unfold createClient enterInitialDirectory
  cases initialDirectory with
  | none => exact Prod.ext rfl (hlogin h)
  | some directory =>
    by_cases hempty : directory = ""
    · subst hempty
      exact Prod.ext rfl (hlogin h)
    · simp only [if_neg hempty]
      exact run_tryCatch_ok (run_cwd_of_mem rfl h)

/-- The login directory is there, and so is the root. -/
theorem ne_of_requested_not_mem {server : Place String} {directory : String}
    (h : resolve server.cwd directory ∉ server.tree) : directory ≠ "" ∧ directory ≠ "/" := by
  constructor
  · rintro rfl
    have hlogin : resolve server.cwd "" = server.cwd := by
      show server.cwd ++ components "" = server.cwd
      rw [components_empty, List.append_nil]
    rw [hlogin] at h
    exact h server.cwd_mem
  · rintro rfl
    exact h server.tree.root_mem

/-- The client that was asked for a missing directory walks along the hops. -/
theorem createClient_of_not_mem {server : Place String} {initialDirectory : Option String}
    (h : requested server.cwd initialDirectory ∉ server.tree) :
    createClient initialDirectory server =
      (.ok (), Place.walk (hops (initialDirectory.getD "")) server) := by
  obtain ⟨hne, hroot⟩ := ne_of_requested_not_mem h
  cases initialDirectory with
  | none => exact absurd rfl hne
  | some directory =>
    have hne : directory ≠ "" := hne
    have hmissing : resolve server.cwd directory ∉ server.tree := h
    obtain ⟨hmap, hrelative⟩ := components_directoryPaths hne hroot
    obtain ⟨outcome, hrun, houtcome⟩ := run_createDirectory _ hrelative server
    rw [hmap] at hrun
    have h550 : occursIn "550" (noSuchDirectory directory).text = true := by
      have htext : (noSuchDirectory directory).text =
          "550" ++ (" " ++ (directory ++ ": No such file or directory")) := by
        rw [← String.append_assoc]
        rfl
      rw [htext]
      exact occursIn_append _ _
    have hperm : (noSuchDirectory directory).isErrorPerm = true := rfl
    unfold createClient enterInitialDirectory
    simp only [if_neg hne]
    rw [run_tryCatch_error (run_cwd_of_not_mem hmissing), if_pos hperm, if_pos h550]
    obtain rfl | ⟨path, rfl⟩ := houtcome
    · exact run_tryCatch_ok hrun
    · exact run_tryCatch_error hrun

/-- `_create_client` always returns against such a server. It leaves the client in the requested
directory, with nothing made but what was missing of it, exactly when that directory was there, or
the one above it was there and one of the accumulated paths leads to it. A relative path of one name
always does, as it is the first of them. -/
theorem createClient_enters_iff (server : Place String) (initialDirectory : Option String) :
    (createClient initialDirectory server).1 = .ok () ∧
      (EntersRequested server (createClient initialDirectory server).2
          (requested server.cwd initialDirectory) ↔
        requested server.cwd initialDirectory ∈ server.tree ∨
          (requested server.cwd initialDirectory).dropLast ∈ server.tree ∧
            ∃ j < (components (initialDirectory.getD "")).length,
              requested server.cwd initialDirectory =
                accumulated server.cwd initialDirectory (j + 1)) := by
  by_cases h : requested server.cwd initialDirectory ∈ server.tree
  · rw [createClient_of_mem h]
    refine ⟨rfl, iff_of_true ?_ (Or.inl h)⟩
    exact ⟨h, rfl, fun path hmem hnew => absurd hmem hnew⟩
  rw [createClient_of_not_mem h]
  refine ⟨rfl, ?_⟩
  have hlong := two_le_length_of_mem_hops (initialDirectory.getD "")
  have hcount : (hops (initialDirectory.getD "")).length =
      (components (initialDirectory.getD "")).length := by
    unfold hops
    rw [List.length_tail, List.length_inits, Nat.add_sub_cancel]
  have hwalk := Place.walk_cwd_eq_iff _ hlong server (requested server.cwd initialDirectory) h
  rw [hcount] at hwalk
  rw [or_iff_right h]
  unfold accumulated
  rw [← hwalk]
  constructor
  · exact fun henters => henters.cwd_eq
  · intro hcwd
    refine ⟨?_, hcwd, ?_⟩
    · have hthere := (Place.walk (hops (initialDirectory.getD "")) server).cwd_mem
      rwa [hcwd] at hthere
    · intro path hmem hnew
      obtain hold | hlast := Place.walk_tree _ hlong server hmem
      · exact absurd hold hnew
      · rw [hlast, hcwd]

/-- A server with the root directory only, where sessions start in it. -/
def rootServer : Place String := Place.root

/-- Asked for `a/b`, the client makes `a`, fails to make `a/a/b` and stays in `a`. -/
theorem client_left_outside_requested :
    (createClient (some "a/b") rootServer).1 = .ok () ∧
      ["a", "b"] ∉ (createClient (some "a/b") rootServer).2.tree ∧
      (createClient (some "a/b") rootServer).2.cwd = ["a"] ∧
      ¬ EntersRequested rootServer (createClient (some "a/b") rootServer).2
        (requested rootServer.cwd (some "a/b")) := by
  have hrun : (createClient (some "a/b") rootServer).2.cwd = ["a"] := by decide
  refine ⟨by rfl, by decide, hrun, ?_⟩
  intro henters
  have hcwd := henters.cwd_eq
  rw [hrun] at hcwd
  exact absurd hcwd (by decide)

end DbConnection
