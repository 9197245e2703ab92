import Mathlib.Data.List.Basic
import LineScript.Glob.Match

/-!
# Patterns and the case of letters

A pattern does not tell the cases of ASCII letters apart if every range of its classes either runs
between two letters of one case or has no letter at its ends and none between them. It then matches with
a name all names that differ from it in the case of letters, and it may itself be written in lower or in
upper case.
-/

namespace LineScript

set_option autoImplicit false

/-- A text with its ASCII letters in lower case. Texts that differ in the case of letters only are those
for which this is the same. -/
def Text.lower (text : Text) : Text := text.map Char.toLower

def Text.upper (text : Text) : Text := text.map Char.toUpper

namespace Glob

variable {c d low high : Char} {f : Char → Char} {member : Member} {piece : Piece}
  {listed : List Member} {pieces others : List Piece} {name text : Text}

/-! ## Letters -/

def isUpperLetter (c : Char) : Bool := 'A' ≤ c && c ≤ 'Z'

/-- Whether a character is a letter of ASCII. -/
def isLetter (c : Char) : Bool := isLowerLetter c || isUpperLetter c

theorem is_lower_letter_iff : isLowerLetter c = true ↔ 97 ≤ c.toNat ∧ c.toNat ≤ 122 := by
  rw [isLowerLetter, Bool.and_eq_true, decide_eq_true_iff, decide_eq_true_iff]
  exact Iff.rfl

theorem is_upper_letter_iff : isUpperLetter c = true ↔ 65 ≤ c.toNat ∧ c.toNat ≤ 90 := by
  rw [isUpperLetter, Bool.and_eq_true, decide_eq_true_iff, decide_eq_true_iff]
  exact Iff.rfl

theorem is_letter_iff : isLetter c = true ↔
    97 ≤ c.toNat ∧ c.toNat ≤ 122 ∨ 65 ≤ c.toNat ∧ c.toNat ≤ 90 := by
  rw [isLetter, Bool.or_eq_true, is_lower_letter_iff, is_upper_letter_iff]

theorem is_letter_of_is_lower_letter (lower : isLowerLetter c = true) : isLetter c = true := by
  rw [isLetter, lower, Bool.true_or]

theorem is_letter_of_is_upper_letter (upper : isUpperLetter c = true) : isLetter c = true := by
  rw [isLetter, upper, Bool.or_true]

theorem to_nat_to_lower (c : Char) :
    c.toLower.toNat = if 65 ≤ c.toNat ∧ c.toNat ≤ 90 then c.toNat + 32 else c.toNat := by
  unfold Char.toLower
  split
  · rename_i upper
    have bounds : 65 ≤ c.toNat ∧ c.toNat ≤ 90 := upper
    rw [if_pos bounds]
    change (c.toNat + 32) % 2 ^ 32 = c.toNat + 32
    omega
  · rename_i other
    have bounds : ¬ (65 ≤ c.toNat ∧ c.toNat ≤ 90) := other
    rw [if_neg bounds]

theorem to_nat_to_upper (c : Char) :
    c.toUpper.toNat = if 97 ≤ c.toNat ∧ c.toNat ≤ 122 then c.toNat - 32 else c.toNat := by
  unfold Char.toUpper
  split
  · rename_i lower
    have bounds : 97 ≤ c.toNat ∧ c.toNat ≤ 122 := lower
    have sum : (c.val + ('A'.val - 'a'.val)).toNat = (c.toNat + 4294967264) % 2 ^ 32 :=
      UInt32.toNat_add _ _
    rw [if_pos bounds, Char.toNat, sum]
    omega
  · rename_i other
    have bounds : ¬ (97 ≤ c.toNat ∧ c.toNat ≤ 122) := other
    rw [if_neg bounds]

theorem to_lower_to_lower (c : Char) : c.toLower.toLower = c.toLower := by
  rw [← Char.toNat_inj, to_nat_to_lower c.toLower, to_nat_to_lower c]
  split_ifs <;> omega

theorem to_lower_to_upper (c : Char) : c.toUpper.toLower = c.toLower := by
  rw [← Char.toNat_inj, to_nat_to_lower c.toUpper, to_nat_to_lower c, to_nat_to_upper c]
  split_ifs <;> omega

theorem to_lower_eq_iff_of_not_is_letter (other : isLetter d = false) :
    c.toLower = d ↔ c = d := by
  have outside : ¬ (97 ≤ d.toNat ∧ d.toNat ≤ 122 ∨ 65 ≤ d.toNat ∧ d.toNat ≤ 90) := by
    rw [← is_letter_iff, other]
    exact Bool.false_ne_true
  rw [← Char.toNat_inj, ← Char.toNat_inj, to_nat_to_lower]
  split_ifs <;> omega

theorem to_lower_eq_self_of_not_is_letter (other : isLetter c = false) : c.toLower = c :=
  (to_lower_eq_iff_of_not_is_letter other).mpr rfl

theorem is_lower_letter_to_lower (letter : isLetter c = true) : isLowerLetter c.toLower = true := by
  rw [is_letter_iff] at letter
  rw [is_lower_letter_iff, to_nat_to_lower]
  split_ifs <;> omega

theorem is_upper_letter_to_upper (letter : isLetter c = true) : isUpperLetter c.toUpper = true := by
  rw [is_letter_iff] at letter
  rw [is_upper_letter_iff, to_nat_to_upper]
  split_ifs <;> omega

/-- A change of the case of letters that leaves all letters in one case. -/
structure IsRecasing (f : Char → Char) : Prop where
  toLower_eq : ∀ c, (f c).toLower = c.toLower
  uniform : (∀ c, isLetter c = true → isLowerLetter (f c) = true) ∨
    ∀ c, isLetter c = true → isUpperLetter (f c) = true

theorem is_recasing_to_lower : IsRecasing Char.toLower where
  toLower_eq := to_lower_to_lower
  uniform := .inl fun _ => is_lower_letter_to_lower

theorem is_recasing_to_upper : IsRecasing Char.toUpper where
  toLower_eq := to_lower_to_upper
  uniform := .inr fun _ => is_upper_letter_to_upper

theorem IsRecasing.eq_iff (recasing : IsRecasing f) (other : isLetter d = false) :
    f c = d ↔ c = d := by
  rw [← to_lower_eq_iff_of_not_is_letter other, recasing.toLower_eq,
    to_lower_eq_iff_of_not_is_letter other]

theorem IsRecasing.eq_self (recasing : IsRecasing f) (other : isLetter c = false) : f c = c :=
  (recasing.eq_iff other).mpr rfl

/-! ## Members -/

/-- A class member that does not tell cases apart: a single character, a range between two letters of
one case, or a range without a letter at its ends or between them. -/
def Member.IsCaseless : Member → Prop
  | .single _ => True
  | .range low high =>
    (isLowerLetter low = true ∧ isLowerLetter high = true) ∨
    (isUpperLetter low = true ∧ isUpperLetter high = true) ∨
    (isLetter low = false ∧ isLetter high = false ∧
      ∀ c, isLetter c = true → ¬ (low ≤ c ∧ c ≤ high))

/-- What a member accepts when letters are taken in lower case everywhere. -/
def Member.folded : Member → Char → Bool
  | .single d, c => sameLetter c d
  | .range low high, c => low.toLower ≤ c.toLower && c.toLower ≤ high.toLower

theorem Member.folded_eq_true_of_range :
    (Member.range low high).folded c = true ↔
      low.toLower.toNat ≤ c.toLower.toNat ∧ c.toLower.toNat ≤ high.toLower.toNat := by
  rw [folded, Bool.and_eq_true, decide_eq_true_iff, decide_eq_true_iff]
  exact Iff.rfl

theorem Member.accepts_eq_true_of_range :
    (Member.range low high).accepts c = true ↔
      low.toNat ≤ c.toNat ∧ c.toNat ≤ high.toNat ∨
        c.toNat < 128 ∧ isLowerLetter low.toLower = true ∧ isLowerLetter high.toLower = true ∧
          low.toLower.toNat ≤ c.toLower.toNat ∧ c.toLower.toNat ≤ high.toLower.toNat := by
  simp only [accepts, Bool.or_eq_true, Bool.and_eq_true, decide_eq_true_iff, and_assoc]
  exact Iff.rfl

theorem Member.IsCaseless.accepts_eq (caseless : member.IsCaseless) (c : Char) :
    member.accepts c = member.folded c := by
  cases member with
  | single d => rfl
  | range low high =>
    rw [Bool.eq_iff_iff, Member.accepts_eq_true_of_range, Member.folded_eq_true_of_range]
    rcases caseless with ⟨lowLetter, highLetter⟩ | ⟨lowLetter, highLetter⟩ | ⟨lowOther, highOther, free⟩
    · rw [is_lower_letter_iff] at lowLetter highLetter
      simp only [is_lower_letter_iff, to_nat_to_lower]
      split_ifs <;> omega
    · rw [is_upper_letter_iff] at lowLetter highLetter
      simp only [is_lower_letter_iff, to_nat_to_lower]
      split_ifs <;> omega
    · rw [to_lower_eq_self_of_not_is_letter lowOther, to_lower_eq_self_of_not_is_letter highOther]
      have notLower : ¬ isLowerLetter low = true := by
        intro lower
        cases lowOther.symm.trans (is_letter_of_is_lower_letter lower)
      cases letter : isLetter c with
      | false =>
        rw [to_lower_eq_self_of_not_is_letter letter]
        simp [notLower]
      | true =>
        have outside := free c letter
        have lowerOutside :=
          free c.toLower (is_letter_of_is_lower_letter (is_lower_letter_to_lower letter))
        constructor
        · rintro (within | ⟨-, lower, -⟩)
          · exact absurd within outside
          · exact absurd lower notLower
        · exact fun within => absurd within lowerOutside

/-- A member of which the characters are changed. -/
def Member.recase (f : Char → Char) : Member → Member
  | .single d => .single (f d)
  | .range low high => .range (f low) (f high)

theorem Member.folded_recase (recasing : IsRecasing f) (member : Member) :
    (member.recase f).folded = member.folded := by
  funext c
  cases member with
  | single d => rw [Member.recase, Member.folded, sameLetter, recasing.toLower_eq]; rfl
  | range low high =>
    rw [Member.recase, Member.folded, recasing.toLower_eq, recasing.toLower_eq, Member.folded]

theorem Member.IsCaseless.recase (recasing : IsRecasing f) (caseless : member.IsCaseless) :
    (member.recase f).IsCaseless := by
  cases member with
  | single d => trivial
  | range low high =>
    have uniform (lowLetter : isLetter low = true) (highLetter : isLetter high = true) :
        ((Member.range low high).recase f).IsCaseless := by
      rcases recasing.uniform with lower | upper
      · exact .inl ⟨lower low lowLetter, lower high highLetter⟩
      · exact .inr (.inl ⟨upper low lowLetter, upper high highLetter⟩)
    rcases caseless with ⟨lowLetter, highLetter⟩ | ⟨lowLetter, highLetter⟩ | free
    · exact uniform (is_letter_of_is_lower_letter lowLetter) (is_letter_of_is_lower_letter highLetter)
    · exact uniform (is_letter_of_is_upper_letter lowLetter) (is_letter_of_is_upper_letter highLetter)
    · rw [Member.recase, recasing.eq_self free.1, recasing.eq_self free.2.1]
      exact .inr (.inr free)

/-! ## Matching -/

/-- The members of a class. -/
def Piece.members : Piece → List Member
  | .oneOf listed | .noneOf listed => listed
  | _ => []

/-- A pattern that does not tell the cases of letters apart. -/
def IsCaseless (pieces : List Piece) : Prop :=
  ∀ piece ∈ pieces, ∀ member ∈ piece.members, member.IsCaseless

def Piece.recase (f : Char → Char) : Piece → Piece
  | .literal d => .literal (f d)
  | .anyCharacter => .anyCharacter
  | .anyRun => .anyRun
  | .anyComponents => .anyComponents
  | .oneOf listed => .oneOf (listed.map (·.recase f))
  | .noneOf listed => .noneOf (listed.map (·.recase f))

/-- What a piece accepts when letters are taken in lower case everywhere. -/
def Piece.folded : Piece → Char → Bool
  | .literal d, c => sameLetter c d
  | .anyCharacter, c => c.toLower != '/'
  | .oneOf listed, c => c.toLower != '/' && listed.any (·.folded c)
  | .noneOf listed, c => c.toLower != '/' && !listed.any (·.folded c)
  | .anyRun, _ | .anyComponents, _ => false

theorem any_accepts_eq (caseless : ∀ member ∈ listed, member.IsCaseless) (c : Char) :
    listed.any (·.accepts c) = listed.any (·.folded c) := by
  induction listed with
  | nil => rfl
  | cons member rest ih =>
    rw [List.forall_mem_cons] at caseless
    rw [List.any_cons, List.any_cons, caseless.1.accepts_eq, ih caseless.2]

theorem to_lower_bne_slash (c : Char) : (c.toLower != '/') = (c != '/') := by
  rw [Bool.eq_iff_iff, bne_iff_ne, bne_iff_ne, Ne, Ne, to_lower_eq_iff_of_not_is_letter (by decide)]

theorem Piece.accepts_eq_folded (caseless : ∀ member ∈ piece.members, member.IsCaseless) (c : Char) :
    piece.accepts c = piece.folded c := by
  cases piece with
  | literal d => rfl
  | anyCharacter => rw [Piece.accepts, Piece.folded, to_lower_bne_slash]
  | oneOf listed | noneOf listed =>
    rw [Piece.members] at caseless
    rw [Piece.accepts, Piece.folded, to_lower_bne_slash, any_accepts_eq caseless]
  | anyRun | anyComponents => rfl

theorem Member.folded_to_lower (member : Member) (c : Char) :
    member.folded c.toLower = member.folded c := by
  cases member with
  | single d => rw [Member.folded, sameLetter, to_lower_to_lower]; rfl
  | range low high => rw [Member.folded, to_lower_to_lower, Member.folded]

theorem Piece.folded_to_lower (piece : Piece) (c : Char) :
    piece.folded c.toLower = piece.folded c := by
  cases piece with
  | literal d | anyCharacter => simp only [Piece.folded, sameLetter, to_lower_to_lower]
  | oneOf listed | noneOf listed => simp only [Piece.folded, to_lower_to_lower, Member.folded_to_lower]
  | anyRun | anyComponents => rfl

theorem Piece.folded_recase (recasing : IsRecasing f) (piece : Piece) :
    (piece.recase f).folded = piece.folded := by
  funext c
  cases piece with
  | literal d => rw [Piece.recase, Piece.folded, sameLetter, recasing.toLower_eq]; rfl
  | oneOf listed | noneOf listed =>
    simp only [Piece.recase, Piece.folded, List.any_map, Function.comp_def,
      Member.folded_recase recasing]
  | anyCharacter | anyRun | anyComponents => rfl

theorem lower_is_empty (name : Text) : (Text.lower name).isEmpty = name.isEmpty := by
  cases name <;> rfl

theorem rests_of_run_lower (name : Text) :
    restsOfRun (Text.lower name) = (restsOfRun name).map Text.lower := by
  induction name with
  | nil => rfl
  | cons c rest ih =>
    change (c.toLower :: Text.lower rest) ::
      (if c.toLower = '/' then [] else restsOfRun (Text.lower rest)) = _
    rw [restsOfRun, List.map_cons, ih, apply_ite (List.map Text.lower)]
    simp only [to_lower_eq_iff_of_not_is_letter (show isLetter '/' = false by decide), List.map_nil]
    rfl

theorem rests_of_components_lower (name : Text) :
    restsOfComponents (Text.lower name) = (restsOfComponents name).map Text.lower := by
  induction name with
  | nil => rfl
  | cons c rest ih =>
    change (if c.toLower = '/' then Text.lower rest :: restsOfComponents (Text.lower rest)
      else restsOfComponents (Text.lower rest)) = _
    rw [restsOfComponents, ih, apply_ite (List.map Text.lower)]
    simp only [to_lower_eq_iff_of_not_is_letter (show isLetter '/' = false by decide), List.map_cons]

/-- The names that a caseless pattern matches are matched in all cases of their letters. -/
theorem matches_name_lower (caseless : IsCaseless pieces) (name : Text) :
    matchesName pieces (Text.lower name) = matchesName pieces name := by
  induction pieces generalizing name with
  | nil => exact lower_is_empty name
  | cons piece others ih =>
    rw [IsCaseless, List.forall_mem_cons] at caseless
    obtain ⟨own, later⟩ := caseless
    have rest_eq := ih later
    have accepts_eq : ∀ c, piece.accepts c.toLower = piece.accepts c := by
      intro c
      rw [Piece.accepts_eq_folded own, Piece.accepts_eq_folded own, Piece.folded_to_lower]
    cases piece with
    | anyRun =>
      rw [matchesName, matchesName, rests_of_run_lower, List.any_map]
      simp only [Function.comp_def, rest_eq]
    | anyComponents =>
      rw [matchesName, matchesName, rests_of_components_lower, ← List.map_cons, List.any_map]
      simp only [Function.comp_def, rest_eq]
    | literal | anyCharacter | oneOf | noneOf =>
      cases name with
      | nil => rfl
      | cons c rest =>
        change (Piece.accepts _ c.toLower && matchesName others (Text.lower rest)) = _
        rw [accepts_eq, rest_eq]
        rfl

theorem Piece.caseless_recase (recasing : IsRecasing f)
    (caseless : ∀ member ∈ piece.members, member.IsCaseless) :
    ∀ member ∈ (piece.recase f).members, member.IsCaseless := by
  cases piece with
  | oneOf listed | noneOf listed =>
    rw [Piece.recase, Piece.members, List.forall_mem_map]
    exact fun member mem => (caseless member mem).recase recasing
  | literal | anyCharacter | anyRun | anyComponents => exact List.forall_mem_nil _

theorem matches_name_recase (recasing : IsRecasing f) (caseless : IsCaseless pieces) (name : Text) :
    matchesName (pieces.map (Piece.recase f)) name = matchesName pieces name := by
  induction pieces generalizing name with
  | nil => rfl
  | cons piece others ih =>
    rw [IsCaseless, List.forall_mem_cons] at caseless
    obtain ⟨own, later⟩ := caseless
    have rest_eq := ih later
    have accepts_eq : ∀ c, (piece.recase f).accepts c = piece.accepts c := by
      intro c
      rw [Piece.accepts_eq_folded (Piece.caseless_recase recasing own), Piece.accepts_eq_folded own,
        Piece.folded_recase recasing]
    rw [List.map_cons]
    cases piece with
    | anyRun | anyComponents =>
      rw [Piece.recase, matchesName, matchesName, show matchesName _ = _ from funext rest_eq]
    | literal | anyCharacter | oneOf | noneOf =>
      cases name with
      | nil => rfl
      | cons c rest =>
        change (Piece.accepts _ c && matchesName (others.map (Piece.recase f)) rest) = _
        rw [accepts_eq, rest_eq]
        rfl

/-! ## Reading patterns -/

theorem members_recase (recasing : IsRecasing f) (inside : Text) :
    members (inside.map f) = (members inside).map (·.recase f) := by
  induction inside using members.induct with
  | case1 | case2 | case3 => rfl
  | case4 c e rest ih =>
    rw [List.map_cons, List.map_cons, List.map_cons, members, members,
      recasing.eq_self (show isLetter '-' = false by decide), if_pos rfl, if_pos rfl, ih]
    rfl
  | case5 c d e rest other ih =>
    have dashless : f d ≠ '-' := fun dash => other ((recasing.eq_iff (by decide)).mp dash)
    rw [List.map_cons, List.map_cons, List.map_cons, members, members, if_neg dashless, if_neg other]
    rw [List.map_cons, List.map_cons] at ih
    rw [ih]
    rfl

theorem class_body?_recase (recasing : IsRecasing f) (text : Text) :
    classBody? (text.map f) = (classBody? text).map fun (inside, rest) => (inside.map f, rest.map f) := by
  cases text with
  | nil => rfl
  | cons first tail =>
    have open_eq : ((· != ']') ∘ f) = (· != ']') := by
      funext c
      rw [Bool.eq_iff_iff, Function.comp_apply, bne_iff_ne, bne_iff_ne, Ne, Ne,
        recasing.eq_iff (by decide)]
    rw [List.map_cons, classBody?, classBody?, List.dropWhile_map, List.takeWhile_map, open_eq]
    cases tail.dropWhile (· != ']') with
    | nil => rfl
    | cons bracket rest => rfl

theorem starts_not_recase (recasing : IsRecasing f) (text : Text) (other : isLetter d = false)
    (unlike : ∀ tail, text = d :: tail → False) : ∀ tail, text.map f = d :: tail → False := by
  intro tail split
  obtain ⟨c, rest, rfl, same, -⟩ := List.map_eq_cons_iff.mp split
  exact unlike rest (by rw [(recasing.eq_iff other).mp same])

theorem pieces_from_none_of (previous : Option Char) (position : Nat) (text : Text) :
    piecesFrom previous position ('[' :: '!' :: text) =
      match classBody? text with
      | some (inside, rest) =>
        (piecesFrom (some ']') (position + inside.length + 3) rest).map (.noneOf (members inside) :: ·)
      | none => .error (.unclosedClass position) := by
  rw [piecesFrom]
  split <;> rename_i found <;> rw [found]

theorem pieces_from_one_of (previous : Option Char) (position : Nat)
    (plain : ∀ tail, text = '!' :: tail → False) :
    piecesFrom previous position ('[' :: text) =
      match classBody? text with
      | some (inside, rest) =>
        (piecesFrom (some ']') (position + inside.length + 2) rest).map (.oneOf (members inside) :: ·)
      | none => .error (.unclosedClass position) := by
  rw [piecesFrom.eq_8 _ _ _ plain]
  split <;> rename_i found <;> rw [found]

theorem pieces_from_literal (previous : Option Char) (position : Nat) (rest : Text) (question : c ≠ '?')
    (star : c ≠ '*') (bracket : c ≠ '[') :
    piecesFrom previous position (c :: rest) =
      (piecesFrom (some c) (position + 1) rest).map (.literal c :: ·) :=
  piecesFrom.eq_9 previous position c rest question (fun _ same _ => star same)
    (fun _ same _ => star same) star (fun _ same _ => bracket same) bracket

theorem opens_component_recase_iff (recasing : IsRecasing f) (previous : Option Char) :
    (previous.map f = none ∨ previous.map f = some '/') ↔
      (previous = none ∨ previous = some '/') := by
  cases previous with
  | none => simp
  | some c => simp [recasing.eq_iff (show isLetter '/' = false by decide)]

theorem map_cons_recase (read : Except Fault (List Piece)) (piece : Piece) :
    (read.map (·.map (Piece.recase f))).map (piece.recase f :: ·) =
      (read.map (piece :: ·)).map (·.map (Piece.recase f)) := by
  cases read <;> rfl

theorem pieces_from_recase (recasing : IsRecasing f) (previous : Option Char) (position : Nat)
    (text : Text) : piecesFrom (previous.map f) position (text.map f) =
      (piecesFrom previous position text).map (·.map (Piece.recase f)) := by
  -- No character that the reader looks for is a letter, so it takes the same case for both texts.
  have fixed : ∀ {d}, isLetter d = false → f d = d := recasing.eq_self
  induction previous, position, text using piecesFrom.induct with
  | case1 previous position => rw [List.map_nil, piecesFrom, piecesFrom]; rfl
  | case2 previous position rest ih =>
    rw [Option.map_some, fixed (by decide)] at ih
    rw [List.map_cons, fixed (by decide), piecesFrom, piecesFrom, ih]
    exact map_cons_recase _ .anyCharacter
  | case3 previous position tail =>
    rw [List.map_cons, List.map_cons, List.map_cons, fixed (by decide), piecesFrom, piecesFrom]
    rfl
  | case4 previous position start =>
    rw [List.map_cons, List.map_cons, fixed (by decide), List.map_nil, piecesFrom.eq_4,
      piecesFrom.eq_4, if_pos start, if_pos ((opens_component_recase_iff recasing previous).mpr start)]
    rfl
  | case5 previous position start rest _ ih =>
    have starless : ∀ rest tail : Text, '/' :: rest = '*' :: tail → False := by simp
    rw [Option.map_some, fixed (by decide)] at ih
    rw [List.map_cons, List.map_cons, List.map_cons, fixed (by decide), fixed (by decide),
      piecesFrom.eq_5 _ _ _ _ (starless _), piecesFrom.eq_5 _ _ _ _ (starless _), if_pos start,
      if_pos ((opens_component_recase_iff recasing previous).mpr start), if_pos rfl, if_pos rfl, ih]
    exact map_cons_recase _ .anyComponents
  | case6 previous position start c rest other starless =>
    have otherToo : f c ≠ '/' := fun slash => other ((recasing.eq_iff (by decide)).mp slash)
    rw [List.map_cons, List.map_cons, List.map_cons, fixed (by decide),
      piecesFrom.eq_5 _ _ _ _ starless,
      piecesFrom.eq_5 _ _ _ _ (starts_not_recase recasing (c :: rest) (by decide) starless),
      if_pos start, if_pos ((opens_component_recase_iff recasing previous).mpr start), if_neg other,
      if_neg otherToo]
    rfl
  | case7 previous position rest starless inside =>
    have insideToo := mt (opens_component_recase_iff recasing previous).mp inside
    cases rest with
    | nil =>
      rw [List.map_cons, List.map_cons, fixed (by decide), List.map_nil, piecesFrom.eq_4,
        piecesFrom.eq_4, if_neg inside, if_neg insideToo]
      rfl
    | cons c rest =>
      rw [List.map_cons, List.map_cons, List.map_cons, fixed (by decide),
        piecesFrom.eq_5 _ _ _ _ starless,
        piecesFrom.eq_5 _ _ _ _ (starts_not_recase recasing (c :: rest) (by decide) starless),
        if_neg inside, if_neg insideToo]
      rfl
  | case8 previous position rest double single ih =>
    rw [Option.map_some, fixed (by decide)] at ih
    have singleToo := starts_not_recase recasing rest (by decide) single
    rw [List.map_cons, fixed (by decide), piecesFrom.eq_6 _ _ _ double single,
      piecesFrom.eq_6 _ _ _ (fun tail => singleToo ('*' :: tail)) singleToo, ih]
    exact map_cons_recase _ .anyRun
  | case9 previous position text inside rest found ih =>
    rw [Option.map_some, fixed (by decide)] at ih
    rw [List.map_cons, List.map_cons, fixed (by decide), fixed (by decide), pieces_from_none_of,
      pieces_from_none_of, class_body?_recase recasing, found]
    dsimp only [Option.map_some]
    rw [members_recase recasing, List.length_map, ih]
    exact map_cons_recase _ (.noneOf _)
  | case10 previous position text unclosed =>
    rw [List.map_cons, List.map_cons, fixed (by decide), fixed (by decide), pieces_from_none_of,
      pieces_from_none_of, class_body?_recase recasing, unclosed]
    rfl
  | case11 previous position text plain inside rest found ih =>
    have plainToo := starts_not_recase recasing text (by decide) plain
    rw [Option.map_some, fixed (by decide)] at ih
    rw [List.map_cons, fixed (by decide), pieces_from_one_of _ _ plain, pieces_from_one_of _ _ plainToo,
      class_body?_recase recasing, found]
    dsimp only [Option.map_some]
    rw [members_recase recasing, List.length_map, ih]
    exact map_cons_recase _ (.oneOf _)
  | case12 previous position text plain unclosed =>
    have plainToo := starts_not_recase recasing text (by decide) plain
    rw [List.map_cons, fixed (by decide), pieces_from_one_of _ _ plain, pieces_from_one_of _ _ plainToo,
      class_body?_recase recasing, unclosed]
    rfl
  | case13 previous position c rest question _ _ star _ bracket ih =>
    have unlike : ∀ {d}, isLetter d = false → c ≠ d → f c ≠ d :=
      fun other => mt (recasing.eq_iff other).mp
    rw [Option.map_some] at ih
    rw [List.map_cons, pieces_from_literal _ _ _ question star bracket,
      pieces_from_literal _ _ _ (unlike (by decide) question) (unlike (by decide) star)
        (unlike (by decide) bracket), ih]
    exact map_cons_recase _ (.literal c)

/-- A pattern in lower or in upper case is read as the pattern is, piece by piece. -/
theorem pieces_recase (recasing : IsRecasing f) (pattern : Text) :
    Glob.pieces (pattern.map f) = (Glob.pieces pattern).map (·.map (Piece.recase f)) :=
  pieces_from_recase recasing none 0 pattern

end Glob

end LineScript
