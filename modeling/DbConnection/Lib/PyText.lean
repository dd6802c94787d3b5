import Mathlib.Data.List.Basic
import Mathlib.Data.List.Infix
import Mathlib.Data.List.TakeWhile

/-!
# Python's text methods

The methods of `str` that validators use, on the characters of a string: `strip`, `split`,
`startswith`, `partition`, and the reading of a decimal integer as pydantic does it.
-/

namespace PyText

/-- The characters `str.strip()` removes. -/
def isSpace (c : Char) : Bool :=
  let n := c.toNat
  (9 ≤ n && n ≤ 13) || (28 ≤ n && n ≤ 32) || n == 0x85 || n == 0xa0 || n == 0x1680 ||
    (0x2000 ≤ n && n ≤ 0x200a) || n == 0x2028 || n == 0x2029 || n == 0x202f || n == 0x205f ||
    n == 0x3000

/-- Removes the characters that satisfy `p` from both ends. -/
def stripBy (p : Char → Bool) (s : String) : String :=
  String.ofList (((s.toList.dropWhile p).reverse.dropWhile p).reverse)

/-- `s.strip()`. -/
def strip (s : String) : String := stripBy isSpace s

/-- The pieces of a text between its occurrences of `sep`. -/
def splitChars (sep : Char) : List Char → List (List Char)
  | [] => [[]]
  | c :: rest =>
    if c = sep then [] :: splitChars sep rest
    else
      match splitChars sep rest with
      | [] => [[c]]
      | piece :: pieces => (c :: piece) :: pieces

/-- `s.split(sep)`. -/
def split (sep : Char) (s : String) : List String := (splitChars sep s.toList).map String.ofList

/-- `s.startswith(start)`. -/
def startsWith (start s : String) : Bool := start.toList.isPrefixOf s.toList

/-- `s[n:]`. -/
def dropFirst (n : Nat) (s : String) : String := String.ofList (s.toList.drop n)

/-- `s[:n]`. -/
def takeFirst (n : Nat) (s : String) : String := String.ofList (s.toList.take n)

/-- `part in s`. -/
def occursIn (part s : String) : Bool := s.toList.tails.any (part.toList.isPrefixOf ·)

/-- `s.partition(sep)`, without the separator. -/
def partition (sep : Char) (s : String) : String × String :=
  (String.ofList (s.toList.takeWhile (· != sep)),
    String.ofList ((s.toList.dropWhile (· != sep)).drop 1))

/-- `s.rpartition(sep)`, without the separator. -/
def rpartition (sep : Char) (s : String) : String × String :=
  (String.ofList ((s.toList.reverse.dropWhile (· != sep)).drop 1).reverse,
    String.ofList (s.toList.reverse.takeWhile (· != sep)).reverse)

/-- The characters that pydantic trims around a number. The separators 28 to 31, which `strip`
removes, are not among them. -/
def isWhiteSpace (c : Char) : Bool := isSpace c && !(28 ≤ c.toNat && c.toNat ≤ 31)

/-- The value of decimal digits without a leading zero. -/
def plainNat? (s : List Char) : Option Nat :=
  if s = ['0'] ∨ (s ≠ [] ∧ s.head? ≠ some '0' ∧ s.all Char.isDigit) then
    some (s.foldl (fun n c => n * 10 + (c.toNat - 48)) 0)
  else none

/-- The integer that JSON writes as `s`, of at most 4300 characters. -/
def plainInt? (s : List Char) : Option Int :=
  if 4300 < s.length then none
  else
    match s with
    | '-' :: digits => (plainNat? digits).map fun n => -(n : Int)
    | digits => (plainNat? digits).map fun n => (n : Int)

/-- What follows the leading zeros of a number; before a point or the end one character of them
stays. -/
def dropZeros? : List Char → Option (List Char)
  | '0' :: rest => go '0' rest
  | c :: rest => if c.isDigit then some (c :: rest) else none
  | [] => none
where
  go (last : Char) : List Char → Option (List Char)
    | [] => some [last]
    | c :: rest =>
      if c = '0' ∨ c = '_' then go c rest
      -- A sign is also taken to end the zeros.
      else if c.isDigit ∨ c = '-' then some (c :: rest)
      else if c = '.' then some (last :: c :: rest)
      else none

/-- A number without its point, where only zeros follow it. -/
def dropFraction (s : List Char) : List Char :=
  let fraction := (s.dropWhile (· != '.')).drop 1
  if fraction ≠ [] ∧ fraction.all (· == '0') then s.takeWhile (· != '.') else s

/-- A number without its underscores, where each of them stands alone between two characters. -/
def dropUnderscores (s : List Char) : List Char :=
  if [] ∈ splitChars '_' s then s else (splitChars '_' s).flatten

/-- A text as pydantic reads an integer from it: as JSON writes one, or so after white space, a
sign `+`, leading zeros, an empty fraction and underscores are taken off. -/
def int? (s : String) : Option Int :=
  (plainInt? s.toList).or <|
    match (stripBy isWhiteSpace s).toList with
    | '-' :: rest => clean ['-'] rest
    | '+' :: rest => clean [] rest
    | rest => clean [] rest
where
  clean (sign rest : List Char) : Option Int :=
    (dropZeros? rest).bind fun digits =>
      plainInt? (sign ++ dropUnderscores (dropFraction digits))

example : ["5.0", "+05.00", "-0.0", "1_000", " 7 "].map int? =
    [some 5, some 5, some 0, some 1000, some 7] := by decide

example : ["5.5", "5.", "1__0", "5\x1c", "x", ""].map int? =
    [none, none, none, none, none, none] := by decide

/-- A text starts with another exactly when it is that one followed by the rest of it. -/
theorem startsWith_iff {start s : String} :
    startsWith start s = true ↔ s = start ++ dropFirst start.length s := by
  unfold startsWith dropFirst
  rw [List.isPrefixOf_iff_prefix, List.prefix_iff_eq_append, String.length_toList,
    ← String.toList_inj, String.toList_append, String.toList_ofList]
  exact eq_comm

/-- What follows the start of a text. -/
theorem dropFirst_append (start s : String) : dropFirst start.length (start ++ s) = s := by
  unfold dropFirst
  rw [String.toList_append, ← String.length_toList, List.drop_left, String.ofList_toList]

/-- A text starts with its start. -/
theorem startsWith_append (start s : String) : startsWith start (start ++ s) = true := by
  rw [startsWith_iff, dropFirst_append]

/-- The text before and after the first separator. -/
theorem takeWhile_dropWhile_iff {sep : Char} {s before after : List Char} (h : sep ∈ s) :
    (s.takeWhile (· != sep) = before ∧ (s.dropWhile (· != sep)).drop 1 = after) ↔
      s = before ++ sep :: after ∧ sep ∉ before := by
  constructor
  · rintro ⟨rfl, rfl⟩
    have hbefore : ∀ c ∈ s.takeWhile (· != sep), c ≠ sep := fun c hc =>
      by simpa using List.mem_takeWhile_imp hc
    refine ⟨?_, fun hsep => hbefore sep hsep rfl⟩
    have hsplit := List.takeWhile_append_dropWhile (p := (· != sep)) (l := s)
    cases hrest : s.dropWhile (· != sep) with
    | nil =>
      -- All of the text would stand before the separator.
      rw [hrest, List.append_nil] at hsplit
      exact absurd rfl (hbefore sep (hsplit.symm ▸ h))
    | cons c rest =>
      have hc : c = sep := by
        have hhead := @List.head_dropWhile_not _ (· != sep) s (by simp [hrest])
        simpa [hrest] using hhead
      rw [hrest, hc] at hsplit
      exact hsplit.symm
  · rintro ⟨rfl, hsep⟩
    have hbefore : ∀ c ∈ before, (c != sep) = true := fun c hc => by
      simpa using fun hcsep : c = sep => hsep (hcsep ▸ hc)
    rw [List.takeWhile_append_of_pos hbefore, List.dropWhile_append_of_pos hbefore]
    simp

/-- A text with a separator is parted at the first one. -/
theorem partition_eq_iff {sep : Char} {s before after : String} (h : sep ∈ s.toList) :
    partition sep s = (before, after) ↔
      s.toList = before.toList ++ sep :: after.toList ∧ sep ∉ before.toList := by
  unfold partition
  rw [Prod.mk.injEq, ← String.toList_inj, ← String.toList_inj, String.toList_ofList,
    String.toList_ofList]
  exact takeWhile_dropWhile_iff h

/-- A text with a separator is parted from the right at the last one. -/
theorem rpartition_eq_iff {sep : Char} {s before after : String} (h : sep ∈ s.toList) :
    rpartition sep s = (before, after) ↔
      s.toList = before.toList ++ sep :: after.toList ∧ sep ∉ after.toList := by
  unfold rpartition
  rw [Prod.mk.injEq, ← String.toList_inj, ← String.toList_inj, String.toList_ofList,
    String.toList_ofList, and_comm, List.reverse_eq_iff, List.reverse_eq_iff,
    takeWhile_dropWhile_iff (List.mem_reverse.mpr h), List.mem_reverse, List.reverse_eq_iff]
  simp

/-- A text without the separator is parted from the right behind nothing. -/
theorem rpartition_of_not_mem {sep : Char} {s : String} (h : sep ∉ s.toList) :
    rpartition sep s = ("", s) := by
  have hall : ∀ c ∈ s.toList.reverse, (c != sep) = true := fun c hc => by
    simpa using fun hcsep : c = sep => h (List.mem_reverse.mp (hcsep ▸ hc))
  unfold rpartition
  rw [List.dropWhile_eq_nil_iff.mpr hall, List.takeWhile_eq_self_iff.mpr hall]
  simp

/-- A text has at least one piece. -/
theorem splitChars_ne_nil (sep : Char) (s : List Char) : splitChars sep s ≠ [] := by
  cases s with
  | nil => exact List.cons_ne_nil _ _
  | cons c s =>
    unfold splitChars
    split
    · exact List.cons_ne_nil _ _
    · split <;> exact List.cons_ne_nil _ _

/-- At a separator a new piece starts. -/
theorem splitChars_cons_sep (sep : Char) (s : List Char) :
    splitChars sep (sep :: s) = [] :: splitChars sep s := by
  rw [splitChars, if_pos rfl]

/-- Any other character belongs to the first piece. -/
theorem splitChars_cons_of_ne {sep c : Char} (hc : c ≠ sep) (s : List Char) :
    splitChars sep (c :: s) =
      (c :: (splitChars sep s).head (splitChars_ne_nil sep s)) :: (splitChars sep s).tail := by
  rw [splitChars, if_neg hc]
  split
  · rename_i hnil
    exact absurd hnil (splitChars_ne_nil sep s)
  · rename_i piece pieces hpieces
    simp only [hpieces, List.head_cons, List.tail_cons]

/-- A separator ends a piece: the pieces of both sides follow each other. -/
theorem splitChars_append (sep : Char) (s t : List Char) :
    splitChars sep (s ++ sep :: t) = splitChars sep s ++ splitChars sep t := by
  induction s with
  | nil => rw [List.nil_append, splitChars_cons_sep, splitChars, List.singleton_append]
  | cons c s ih =>
    rw [List.cons_append]
    by_cases hc : c = sep
    · rw [hc, splitChars_cons_sep, splitChars_cons_sep, ih, List.cons_append]
    · rw [splitChars_cons_of_ne hc, splitChars_cons_of_ne hc, List.cons_append]
      simp only [ih, List.head_append_of_ne_nil (splitChars_ne_nil sep s),
        List.tail_append_of_ne_nil (splitChars_ne_nil sep s)]

/-- A text without the separator is one piece. -/
theorem splitChars_of_not_mem {sep : Char} {s : List Char} (h : sep ∉ s) :
    splitChars sep s = [s] := by
  induction s with
  | nil => rfl
  | cons c s ih =>
    rw [List.mem_cons, not_or] at h
    unfold splitChars
    rw [if_neg (Ne.symm h.1), ih h.2]

/-- No piece has the separator in it. -/
theorem not_mem_of_mem_splitChars {sep : Char} {s piece : List Char}
    (h : piece ∈ splitChars sep s) : sep ∉ piece := by
  induction s generalizing piece with
  | nil =>
    rw [splitChars, List.mem_singleton] at h
    rw [h]
    exact List.not_mem_nil
  | cons c s ih =>
    by_cases hc : c = sep
    · rw [hc, splitChars_cons_sep, List.mem_cons] at h
      obtain rfl | h := h
      · exact List.not_mem_nil
      · exact ih h
    · rw [splitChars_cons_of_ne hc, List.mem_cons] at h
      obtain rfl | h := h
      · rw [List.mem_cons, not_or]
        exact ⟨Ne.symm hc, ih (List.head_mem _)⟩
      · exact ih (List.mem_of_mem_tail h)

/-- A text with its start in it. -/
theorem occursIn_append (start s : String) : occursIn start (start ++ s) = true := by
  unfold occursIn
  rw [List.any_eq_true]
  refine ⟨(start ++ s).toList, ?_, ?_⟩
  · rw [List.mem_tails]
  · rw [List.isPrefixOf_iff_prefix, String.toList_append]
    exact List.prefix_append _ _

/-- Neither the first nor the last character satisfies `p`. -/
def Trimmed (p : Char → Bool) (s : List Char) : Prop :=
  (∀ c ∈ s.head?, p c = false) ∧ ∀ c ∈ s.getLast?, p c = false

/-- What begins with a character that does not satisfy `p` stays. -/
theorem dropWhile_eq_self {p : Char → Bool} {s : List Char} (h : ∀ c ∈ s.head?, p c = false) :
    s.dropWhile p = s := by
  cases s with
  | nil => rfl
  | cons c s => exact List.dropWhile_cons_of_neg (by rw [h c rfl]; exact Bool.false_ne_true)

/-- What is dropped satisfies `p`, and what stays begins with a character that does not. -/
theorem dropWhile_eq_iff {p : Char → Bool} {s t : List Char} :
    s.dropWhile p = t ↔
      ∃ dropped, s = dropped ++ t ∧ (∀ c ∈ dropped, p c = true) ∧ ∀ c ∈ t.head?, p c = false := by
  constructor
  · rintro rfl
    refine ⟨s.takeWhile p, List.takeWhile_append_dropWhile.symm, ?_, ?_⟩
    · exact List.all_eq_true.mp List.all_takeWhile
    · intro c hc
      have hhead := List.head?_dropWhile_not p s
      rw [Option.mem_def.mp hc] at hhead
      simpa using hhead
  · rintro ⟨dropped, rfl, hdropped, ht⟩
    rw [List.dropWhile_append_of_pos hdropped]
    exact dropWhile_eq_self ht

/-- `strip` finds a text between characters that satisfy `p`, with none at its own ends. -/
theorem stripBy_eq_iff {p : Char → Bool} {s t : String} :
    stripBy p s = t ↔
      ∃ front back, s.toList = front ++ t.toList ++ back ∧ (∀ c ∈ front, p c = true) ∧
        (∀ c ∈ back, p c = true) ∧ Trimmed p t.toList := by
  have hstrip : stripBy p s = t ↔
      (s.toList.dropWhile p).reverse.dropWhile p = t.toList.reverse := by
    unfold stripBy
    rw [← String.toList_inj, String.toList_ofList, List.reverse_eq_iff]
  rw [hstrip, dropWhile_eq_iff]
  constructor
  · rintro ⟨dropped, hrest, hdropped, hlast⟩
    have hrest := List.reverse_eq_iff.mp hrest
    rw [List.reverse_append, List.reverse_reverse] at hrest
    obtain ⟨front, hs, hfront, hhead⟩ := dropWhile_eq_iff.mp hrest
    refine ⟨front, dropped.reverse, ?_, hfront, ?_, ?_, ?_⟩
    · rw [hs, List.append_assoc]
    · exact fun c hc => hdropped c (List.mem_reverse.mp hc)
    · intro c hc
      exact hhead c (by rw [List.head?_append, Option.mem_def.mp hc]; rfl)
    · rwa [List.head?_reverse] at hlast
  · rintro ⟨front, back, hs, hfront, hback, htrimmed⟩
    by_cases hempty : t.toList = []
    · -- All characters are dropped at once.
      have hall : s.toList.dropWhile p = [] := by
        rw [hempty, List.append_nil] at hs
        rw [dropWhile_eq_iff]
        refine ⟨front ++ back, by rw [hs, List.append_nil], ?_, fun c hc => absurd hc (by simp)⟩
        exact List.forall_mem_append.mpr ⟨hfront, hback⟩
      rw [hall, hempty]
      exact ⟨[], rfl, fun c hc => absurd hc List.not_mem_nil, fun c hc => absurd hc (by simp)⟩
    · have hdrop : s.toList.dropWhile p = t.toList ++ back := by
        rw [dropWhile_eq_iff]
        refine ⟨front, by rw [hs, List.append_assoc], hfront, ?_⟩
        rw [List.head?_append_of_ne_nil _ hempty]
        exact htrimmed.1
      refine ⟨back.reverse, ?_, ?_, ?_⟩
      · rw [hdrop, List.reverse_append]
      · exact fun c hc => hback c (List.mem_reverse.mp hc)
      · rw [List.head?_reverse]
        exact htrimmed.2

/-- A text with nothing to strip. -/
theorem stripBy_eq_self_iff {p : Char → Bool} {s : String} :
    stripBy p s = s ↔ Trimmed p s.toList := by
  rw [stripBy_eq_iff]
  constructor
  · exact fun ⟨_, _, _, _, _, htrimmed⟩ => htrimmed
  · intro htrimmed
    exact ⟨[], [], by rw [List.nil_append, List.append_nil],
      fun c hc => absurd hc List.not_mem_nil, fun c hc => absurd hc List.not_mem_nil, htrimmed⟩

/-- Characters that satisfy `p` around characters that satisfy `q` around a text that is not empty
and begins and ends with neither. -/
def Wrapped (p q : Char → Bool) (s : String) : Prop :=
  ∃ front before core after back, s.toList = front ++ (before ++ core ++ after) ++ back ∧
    (∀ c ∈ front, p c = true) ∧ (∀ c ∈ before, q c = true) ∧ (∀ c ∈ after, q c = true) ∧
    (∀ c ∈ back, p c = true) ∧ core ≠ [] ∧ Trimmed p core ∧ Trimmed q core

/-- A text around which there may be characters that satisfy another predicate. -/
theorem trimmed_append {p : Char → Bool} {before core after : List Char} (hne : core ≠ [])
    (hcore : Trimmed p core) (hbefore : ∀ c ∈ before, p c = false)
    (hafter : ∀ c ∈ after, p c = false) : Trimmed p (before ++ core ++ after) := by
  constructor
  · intro c hc
    rw [List.append_assoc, List.head?_append] at hc
    cases before with
    | nil =>
      rw [List.head?_nil, Option.none_or, List.head?_append_of_ne_nil _ hne] at hc
      exact hcore.1 c hc
    | cons b before =>
      obtain rfl : b = c := Option.some.inj hc
      exact hbefore b List.mem_cons_self
  · intro c hc
    rw [List.getLast?_append] at hc
    cases hlast : after.getLast? with
    | none =>
      rw [hlast, Option.none_or, List.getLast?_append_of_ne_nil _ hne] at hc
      exact hcore.2 c hc
    | some b =>
      rw [hlast] at hc
      obtain rfl : b = c := Option.some.inj hc
      exact hafter b (List.mem_of_getLast? hlast)

/-- Stripping first one kind of characters and then another leaves something that the first kind is
not at the ends of exactly when the text is wrapped that way. -/
theorem stripBy_comp_trimmed_iff {p q : Char → Bool} (hdisjoint : ∀ c, q c = true → p c = false)
    {s : String} :
    (stripBy q (stripBy p s) ≠ "" ∧
        stripBy p (stripBy q (stripBy p s)) = stripBy q (stripBy p s)) ↔ Wrapped p q s := by
  constructor
  · rintro ⟨hne, hstable⟩
    obtain ⟨front, back, hs, hfront, hback, -⟩ := stripBy_eq_iff.mp (rfl : stripBy p s = _)
    obtain ⟨before, after, hinner, hbefore, hafter, hcore⟩ :=
      stripBy_eq_iff.mp (rfl : stripBy q (stripBy p s) = _)
    rw [hinner] at hs
    refine ⟨front, before, _, after, back, hs, hfront, hbefore, hafter, hback, ?_,
      stripBy_eq_self_iff.mp hstable, hcore⟩
    exact fun hnil => hne (String.toList_inj.mp hnil)
  · rintro ⟨front, before, core, after, back, hs, hfront, hbefore, hafter, hback, hne, hp, hq⟩
    have hfirst : stripBy p s = String.ofList (before ++ core ++ after) := by
      rw [stripBy_eq_iff, String.toList_ofList]
      exact ⟨front, back, hs, hfront, hback,
        trimmed_append hne hp (fun c hc => hdisjoint c (hbefore c hc))
          fun c hc => hdisjoint c (hafter c hc)⟩
    have hsecond : stripBy q (stripBy p s) = String.ofList core := by
      rw [hfirst, stripBy_eq_iff, String.toList_ofList, String.toList_ofList]
      exact ⟨before, after, rfl, hbefore, hafter, hq⟩
    rw [hsecond]
    refine ⟨?_, ?_⟩
    · intro hempty
      rw [← String.toList_inj, String.toList_ofList] at hempty
      exact hne hempty
    · rw [stripBy_eq_self_iff, String.toList_ofList]
      exact hp

/-- What was stripped has nothing to strip. -/
theorem stripBy_stripBy (p : Char → Bool) (s : String) : stripBy p (stripBy p s) = stripBy p s := by
  obtain ⟨_, _, _, _, _, htrimmed⟩ := stripBy_eq_iff.mp (rfl : stripBy p s = _)
  exact stripBy_eq_self_iff.mpr htrimmed

/-- Stripping shortens a text unless it leaves it as it is. -/
theorem strip_eq_of_stripBy_strip {p q : Char → Bool} {s : String}
    (h : stripBy q (stripBy p s) = s) : stripBy p s = s := by
  obtain ⟨front, back, hs, -⟩ := stripBy_eq_iff.mp (rfl : stripBy p s = _)
  obtain ⟨before, after, hinner, -⟩ := stripBy_eq_iff.mp h
  have hlength := congrArg List.length hs
  have hlength' := congrArg List.length hinner
  rw [List.length_append, List.length_append] at hlength hlength'
  have hfront : front = [] := List.length_eq_zero_iff.mp (by omega)
  have hback : back = [] := List.length_eq_zero_iff.mp (by omega)
  rw [hfront, hback, List.nil_append, List.append_nil] at hs
  exact (String.toList_inj.mp hs).symm

end PyText
