import EventRules.Condition.Glob
import EventRules.Proofs.Text.Slice
import Mathlib.Data.List.Infix

/-!
# What a name pattern accepts

A name matches a pattern if texts can be put for the stars that make it the name (`Matches`), and a
pattern accepts exactly what matches it (`accepts_iff`). The same is found without going back: the parts
before the first star and behind the last one are fixed, and each part between them is taken where it
first occurs (`search?`). What is left of the name then is longest, so that a later part that can be
found at all is found; and no slice of the name is cut outside of it or within a character.
-/

namespace EventRules.Glob

/-- The name is the pattern with some text, empty or not, in place of each star. -/
inductive Matches : List Char → List Char → Prop
  | nil : Matches [] []
  | char {pattern name : List Char} {c : Char} (hc : c ≠ '*') (h : Matches pattern name) :
    Matches (c :: pattern) (c :: name)
  | star {pattern name : List Char} (filling : List Char) (h : Matches pattern name) :
    Matches ('*' :: pattern) (filling ++ name)

variable {pattern name : List Char} {c : Char}

theorem matches_nil_iff : Matches [] name ↔ name = [] := by
  constructor
  · rintro ⟨⟩
    rfl
  · rintro rfl
    exact .nil

theorem matches_char_iff (hc : c ≠ '*') :
    Matches (c :: pattern) name ↔ ∃ rest, name = c :: rest ∧ Matches pattern rest := by
  constructor
  · intro h
    cases h with
    | char _ h => exact ⟨_, rfl, h⟩
    | star => exact absurd rfl hc
  · rintro ⟨rest, rfl, h⟩
    exact .char hc h

theorem matches_star_iff : Matches ('*' :: pattern) name ↔ ∃ rest, rest <:+ name ∧ Matches pattern rest := by
  constructor
  · intro h
    cases h with
    | char hc => exact absurd rfl hc
    | star filling h => exact ⟨_, List.suffix_append filling _, h⟩
  · rintro ⟨rest, ⟨filling, rfl⟩, h⟩
    exact .star filling h

/-- Without a star only the pattern itself matches. -/
theorem matches_plain_iff (h : '*' ∉ pattern) : Matches pattern name ↔ name = pattern := by
  induction pattern generalizing name with
  | nil => exact matches_nil_iff
  | cons c pattern ih =>
    have hc : c ≠ '*' := fun hc => h (by simp [hc])
    have hrest : '*' ∉ pattern := fun hmem => h (by simp [hmem])
    rw [matches_char_iff hc]
    constructor
    · rintro ⟨rest, rfl, hmatch⟩
      rw [(ih hrest).1 hmatch]
    · rintro rfl
      exact ⟨pattern, rfl, (ih hrest).2 rfl⟩

/-! ### The rests that a pattern leaves -/

/-- The names are rests of one another, longest first. -/
def Nested (names : List (List Char)) : Prop :=
  names.Pairwise fun longer shorter => shorter <:+ longer

theorem tails_eq (name : List Char) : tails name = name.tails := by
  induction name with
  | nil => rfl
  | cons c name ih => rw [tails, ih]; rfl

theorem nested_tails (name : List Char) : Nested (tails name) := by
  induction name with
  | nil => simp [Nested, tails]
  | cons c name ih =>
    refine List.pairwise_cons.2 ⟨fun rest hrest => ?_, ih⟩
    rw [tails_eq, List.mem_tails] at hrest
    exact hrest.trans (List.suffix_cons c name)

theorem dropChar?_eq_some_iff {rest : List Char} : dropChar? c name = some rest ↔ name = c :: rest := by
  cases name with
  | nil => simp [dropChar?]
  | cons d name => simp [dropChar?]

theorem Nested.dropChar {names : List (List Char)} (h : Nested names) (c : Char) :
    Nested (names.filterMap (dropChar? c)) := by
  refine h.filterMap (dropChar? c) fun longer shorter hsuffix b hb b' hb' => ?_
  obtain rfl := dropChar?_eq_some_iff.1 hb
  obtain rfl := dropChar?_eq_some_iff.1 hb'
  rcases List.suffix_cons_iff.1 hsuffix with heq | hsuffix
  · rw [(List.cons.inj heq).2]
  · exact (List.suffix_cons c b').trans hsuffix

/-- Behind a star all that counts is the longest of the names. -/
theorem exists_tails_iff {names : List (List Char)} (h : Nested names) {p : List Char → Prop} :
    (∃ rest ∈ names.head?.elim [] tails, p rest) ↔ ∃ name ∈ names, ∃ rest, rest <:+ name ∧ p rest := by
  cases names with
  | nil => simp
  | cons longest names =>
    simp only [List.head?_cons, Option.elim_some, tails_eq, List.mem_tails]
    constructor
    · rintro ⟨rest, hrest, hp⟩
      exact ⟨longest, by simp, rest, hrest, hp⟩
    · rintro ⟨name, hname, rest, hrest, hp⟩
      rcases List.mem_cons.1 hname with rfl | hname
      · exact ⟨rest, hrest, hp⟩
      · exact ⟨rest, hrest.trans ((List.pairwise_cons.1 h).1 name hname), hp⟩

theorem nil_mem_rests_iff {names : List (List Char)} (h : Nested names) :
    [] ∈ rests pattern names ↔ ∃ name ∈ names, Matches pattern name := by
  induction pattern generalizing names with
  | nil => simp [rests, matches_nil_iff]
  | cons c pattern ih =>
    rw [rests]
    split
    case isTrue hc =>
      subst hc
      have hnested : Nested (names.head?.elim [] tails) := by
        cases names with
        | nil => exact List.Pairwise.nil
        | cons longest names => exact nested_tails longest
      rw [ih hnested, exists_tails_iff h]
      simp only [matches_star_iff]
    case isFalse hc =>
      rw [ih (h.dropChar c)]
      simp only [List.mem_filterMap, dropChar?_eq_some_iff, matches_char_iff hc]
      constructor
      · rintro ⟨rest, ⟨name, hname, rfl⟩, hmatch⟩
        exact ⟨_, hname, rest, rfl, hmatch⟩
      · rintro ⟨_, hname, rest, rfl, hmatch⟩
        exact ⟨rest, ⟨_, hname, rfl⟩, hmatch⟩

theorem accepts_iff {pattern name : String} :
    accepts pattern name = true ↔ Matches pattern.toList name.toList := by
  rw [accepts, List.contains_iff_mem, nil_mem_rests_iff (List.pairwise_singleton ..)]
  simp

instance (pattern name : List Char) : Decidable (Matches pattern name) :=
  decidable_of_iff (accepts (.ofList pattern) (.ofList name) = true) (by simp [accepts_iff])

/-! ### The search by parts -/

/-- The name is made of the parts, in order, with some text between any two. -/
def Joins : List (List Char) → List Char → Prop
  | [], _ => False
  | [part], name => name = part
  | part :: next :: parts, name =>
    ∃ filling rest, name = part ++ (filling ++ rest) ∧ Joins (next :: parts) rest

/-- The parts occur in the text one behind the other. -/
def InOrder : List (List Char) → List Char → Prop
  | [], _ => True
  | part :: parts, text => ∃ before after, text = before ++ (part ++ after) ∧ InOrder parts after

/-- Takes each part where it first occurs. -/
def searchParts? : List (List Char) → List Char → Option Bool
  | [], _ => some true
  | part :: parts, text =>
    match Text.find? part text with
    | none => some false
    | some place => do
      let rest ← Text.slice? (place + Text.size part) (Text.size text) text
      searchParts? parts rest

/-- Whether the name begins and ends with the two parts, and has the others in order between them. -/
def searchBetween? (first : List Char) (parts : List (List Char)) (last name : List Char) : Option Bool :=
  if !first.isPrefixOf name || Text.size name < Text.size first + Text.size last ||
      !last.isSuffixOf name then some false
  else do
    let middle ← Text.slice? (Text.size first) (Text.size name - Text.size last) name
    searchParts? parts middle

/-- Whether the name matches the pattern, found from slices of the name. -/
def search? (pattern name : List Char) : Option Bool :=
  match pattern.splitOn '*' with
  | [] | [_] => some (pattern == name)
  | first :: rest => searchBetween? first rest.dropLast (rest.getLastD []) name

theorem joins_cons_iff {first : List Char} {parts : List (List Char)} :
    Joins ((c :: first) :: parts) name ↔ ∃ rest, name = c :: rest ∧ Joins (first :: parts) rest := by
  cases parts with
  | nil => simp [Joins]
  | cons next parts =>
    constructor
    · rintro ⟨filling, rest, rfl, h⟩
      exact ⟨_, rfl, filling, rest, rfl, h⟩
    · rintro ⟨_, rfl, filling, rest, rfl, h⟩
      exact ⟨filling, rest, rfl, h⟩

theorem matches_iff_joins (pattern name : List Char) : Matches pattern name ↔ Joins (pattern.splitOn '*') name := by
  induction pattern generalizing name with
  | nil => exact matches_nil_iff
  | cons c pattern ih =>
    obtain ⟨first, parts, hsplit⟩ := List.exists_cons_of_ne_nil (List.splitOn_ne_nil '*' pattern)
    rw [List.splitOn_cons_eq_if_modifyHead, hsplit]
    rw [hsplit] at ih
    split
    next hc =>
      obtain rfl := beq_iff_eq.1 hc
      rw [matches_star_iff]
      constructor
      · rintro ⟨rest, ⟨filling, rfl⟩, h⟩
        exact ⟨filling, rest, rfl, (ih _).1 h⟩
      · rintro ⟨filling, rest, rfl, h⟩
        exact ⟨rest, List.suffix_append filling rest, (ih _).2 h⟩
    next hc =>
      rw [matches_char_iff fun heq => hc (beq_iff_eq.2 heq), List.modifyHead_cons, joins_cons_iff]
      exact exists_congr fun rest => and_congr_right fun _ => ih rest

/-- The first and the last part are fixed, and the others occur in order between them. -/
theorem joins_iff_inOrder {first last : List Char} {parts : List (List Char)} :
    Joins (first :: (parts ++ [last])) name ↔
      ∃ middle, name = first ++ (middle ++ last) ∧ InOrder parts middle := by
  induction parts generalizing first name with
  | nil =>
    constructor
    · rintro ⟨filling, rest, rfl, rfl⟩
      exact ⟨filling, rfl, trivial⟩
    · rintro ⟨middle, rfl, -⟩
      exact ⟨middle, last, rfl, rfl⟩
  | cons part parts ih =>
    constructor
    · rintro ⟨filling, rest, rfl, h⟩
      obtain ⟨middle, rfl, hparts⟩ := ih.1 h
      exact ⟨filling ++ (part ++ middle), by simp, filling, middle, rfl, hparts⟩
    · rintro ⟨_, rfl, before, after, rfl, hparts⟩
      exact ⟨before, part ++ (after ++ last), by simp, ih.2 ⟨after, rfl, hparts⟩⟩

theorem InOrder.of_suffix {parts : List (List Char)} {text longer : List Char} (h : InOrder parts text)
    (hsuffix : text <:+ longer) : InOrder parts longer := by
  cases parts with
  | nil => trivial
  | cons part parts =>
    obtain ⟨before, after, rfl, hparts⟩ := h
    obtain ⟨front, rfl⟩ := hsuffix
    exact ⟨front ++ before, after, by simp, hparts⟩

/-- If a part can be taken anywhere, it can be taken where it first occurs: what follows that place
ends with what follows any other. -/
theorem inOrder_first_iff {part before after : List Char} {parts : List (List Char)}
    (hfirst : ∀ before' after', before ++ (part ++ after) = before' ++ (part ++ after') →
      Text.size before ≤ Text.size before') :
    InOrder (part :: parts) (before ++ (part ++ after)) ↔ InOrder parts after := by
  constructor
  · rintro ⟨before', after', htext, hparts⟩
    have hle : Text.size (before ++ part) ≤ Text.size (before' ++ part) := by
      have := hfirst before' after' htext
      rw [Text.size_append, Text.size_append]; omega
    have hassoc : (before ++ part) ++ after = (before' ++ part) ++ after' := by simpa using htext
    obtain ⟨between, -, rfl⟩ := Text.exists_append_of_size_le hassoc hle
    exact hparts.of_suffix (List.suffix_append between after')
  · exact fun hparts => ⟨before, after, rfl, hparts⟩

theorem searchParts?_eq (parts : List (List Char)) (text : List Char) :
    ∃ found, searchParts? parts text = some found ∧ (found = true ↔ InOrder parts text) := by
  induction parts generalizing text with
  | nil => exact ⟨true, rfl, by simp [InOrder]⟩
  | cons part parts ih =>
    rw [searchParts?]
    cases hfind : Text.find? part text with
    | none =>
      refine ⟨false, rfl, by simp, ?_⟩
      rintro ⟨before, after, rfl, -⟩
      exact absurd ⟨before, after, by simp⟩ (Text.find?_eq_none hfind)
    | some place =>
      obtain ⟨before, after, rfl, rfl, hfirst⟩ := Text.find?_eq_some hfind
      have hslice := Text.slice?_back (before ++ part) after
      rw [Text.size_append, List.append_assoc] at hslice
      obtain ⟨found, hfound, hiff⟩ := ih after
      refine ⟨found, ?_, hiff.trans (inOrder_first_iff hfirst).symm⟩
      show (Text.slice? _ _ _).bind _ = _
      rw [hslice]; exact hfound

/-- A beginning and an end that have room beside each other leave a text between them. -/
theorem exists_middle_iff {first last : List Char} :
    (first <+: name ∧ Text.size first + Text.size last ≤ Text.size name ∧ last <:+ name) ↔
      ∃ middle, name = first ++ (middle ++ last) := by
  constructor
  · rintro ⟨⟨back, rfl⟩, hsize, front, hname⟩
    have hle : Text.size first ≤ Text.size front := by
      have hsum := congrArg Text.size hname
      rw [Text.size_append] at hsum; omega
    obtain ⟨middle, -, rfl⟩ := Text.exists_append_of_size_le hname.symm hle
    exact ⟨middle, rfl⟩
  · rintro ⟨middle, rfl⟩
    exact ⟨List.prefix_append first _, by simp only [Text.size_append]; omega,
      ((List.suffix_append middle last).trans (List.suffix_append first _))⟩

theorem searchBetween?_eq (first : List Char) (parts : List (List Char)) (last name : List Char) :
    ∃ found, searchBetween? first parts last name = some found ∧
      (found = true ↔ ∃ middle, name = first ++ (middle ++ last) ∧ InOrder parts middle) := by
  unfold searchBetween?
  split
  case isTrue hcond =>
    refine ⟨false, rfl, by simp, ?_⟩
    rintro ⟨middle, hname, -⟩
    obtain ⟨hfirst, hsize, hlast⟩ := exists_middle_iff.2 ⟨middle, hname⟩
    rw [← List.isPrefixOf_iff_prefix] at hfirst
    rw [← List.isSuffixOf_iff_suffix] at hlast
    have hsmall : Text.size name < Text.size first + Text.size last := by simpa [hfirst, hlast] using hcond
    omega
  case isFalse hcond =>
    simp only [Bool.or_eq_true, Bool.not_eq_true', decide_eq_true_eq, not_or, Bool.not_eq_false,
      List.isPrefixOf_iff_prefix, List.isSuffixOf_iff_suffix, not_lt] at hcond
    obtain ⟨middle, rfl⟩ := exists_middle_iff.1 ⟨hcond.1.1, hcond.1.2, hcond.2⟩
    have hslice := Text.slice?_append first middle last
    have hstop : Text.size (first ++ (middle ++ last)) - Text.size last =
        Text.size first + Text.size middle := by
      simp only [Text.size_append]; omega
    obtain ⟨found, hfound, hiff⟩ := searchParts?_eq parts middle
    refine ⟨found, ?_, hiff.trans ⟨fun h => ⟨middle, rfl, h⟩, ?_⟩⟩
    · show (Text.slice? _ _ _).bind _ = _
      rw [hstop, hslice]; exact hfound
    · rintro ⟨middle', hname, h⟩
      rwa [List.append_cancel_right (List.append_cancel_left hname)]

/-- The search cuts no slice that is not there, and finds what matches. -/
theorem search?_eq : search? pattern name = some (decide (Matches pattern name)) := by
  have hparts := matches_iff_joins pattern name
  have hwhole : ['*'].intercalate (pattern.splitOn '*') = pattern := List.intercalate_splitOn '*'
  unfold search?
  split
  case h_1 hsplit => exact absurd hsplit (List.splitOn_ne_nil '*' pattern)
  case h_2 part hsplit =>
    rw [hsplit] at hparts hwhole
    obtain rfl : part = pattern := by simpa using hwhole
    rw [beq_eq_decide, decide_eq_decide.2 (hparts.trans eq_comm)]
  case h_3 first rest hone hsplit =>
    -- With two parts or more the last one is not the first.
    obtain rfl | ⟨parts, last, rfl⟩ := List.eq_nil_or_concat rest
    · exact (hone rfl).elim
    rw [hsplit, List.concat_eq_append, joins_iff_inOrder] at hparts
    obtain ⟨found, hfound, hiff⟩ := searchBetween?_eq first parts last name
    have hlast : (parts.concat last).getLastD [] = last := by simp
    have hfront : (parts.concat last).dropLast = parts := by simp
    rw [hlast, hfront, hfound, Option.some_inj, Bool.eq_iff_iff, decide_eq_true_iff, hiff, hparts]

end EventRules.Glob
