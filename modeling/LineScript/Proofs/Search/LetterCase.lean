import LineScript.Proofs.FileSystem.Copies
import LineScript.Proofs.Glob.LetterCase
import LineScript.Proofs.Search.Selection
import LineScript.Proofs.Text.Utf8

/-!
# Searches and the case of letters

A search comes to an entry if no name on the way down to it is one that the host refuses and the path of
the entry's directory is not too long. For both only the bytes of the names count, and names that differ
in the case of letters have as many. So a search for a pattern that does not tell cases apart selects
corresponding entries in trees that differ in the case of letters, up to the length of paths.
-/

namespace LineScript

set_option autoImplicit false

/-! ## Names that differ in the case of letters -/

namespace Utf8

theorem length_encode_char_to_lower (c : Char) :
    (encodeChar c.toLower).length = (encodeChar c).length := by
  simp only [encodeChar, Glob.to_nat_to_lower, apply_ite List.length]
  split_ifs <;> first | rfl | omega

theorem size_lower (text : Text) : size (Text.lower text) = size text := by
  induction text with
  | nil => rfl
  | cons c rest ih =>
    rw [size, size] at ih
    rw [Text.lower, List.map_cons, size, size, encode_cons, encode_cons, List.length_append,
      List.length_append, length_encode_char_to_lower, ← Text.lower, ih]

end Utf8

namespace Name

/-- A name that the host does not refuse wherever it stands. -/
def IsPassable (name : Name) : Prop := '\x00' ∉ name.text ∧ name.isTooLong = false

theorem is_passable_iff_lower {name : Name} :
    name.IsPassable ↔ '\x00' ∉ Text.lower name.text ∧ Utf8.size (Text.lower name.text) ≤ sizeLimit := by
  have null_iff : '\x00' ∈ Text.lower name.text ↔ '\x00' ∈ name.text := by
    rw [Text.lower, List.mem_map]
    simp only [Glob.to_lower_eq_iff_of_not_is_letter (show Glob.isLetter '\x00' = false by decide),
      exists_eq_right]
  rw [IsPassable, isTooLong, null_iff, Utf8.size_lower, decide_eq_false_iff_not, Nat.not_lt]

end Name

namespace Path

theorem prefix_descend (path : Path) (names : List Name) : path <+: path.descend names := by
  induction names generalizing path with
  | nil => exact List.prefix_refl path
  | cons name names ih => exact (prefix_join path name).trans (ih _)

theorem descend_inj {path : Path} {names others : List Name} :
    path.descend names = path.descend others ↔ names = others := by
  refine ⟨fun same => ?_, congrArg _⟩
  have parts_eq := congrArg properParts same
  rw [proper_parts_descend, proper_parts_descend] at parts_eq
  apply List.map_injective_iff.mpr _ (List.append_cancel_left parts_eq)
  rintro ⟨text, proper⟩ ⟨_, _⟩ rfl
  rfl

theorem file_name?_join (path : Path) (name : Name) :
    fileName? (join path name.text) = some name.text := by
  rw [fileName?, proper_parts_join, List.getLast?_concat]
  exact if_neg name.isEntryName.2.2.2

end Path

theorem Utf8.size_le_of_prefix {first second : Text} (start : first <+: second) :
    Utf8.size first ≤ Utf8.size second := by
  obtain ⟨rest, rfl⟩ := start
  rw [Utf8.size, Utf8.size, Utf8.encode_append, List.length_append]
  exact Nat.le_add_right _ _

theorem FileSystem.leads_to_join_slashes {files : FileSystem} {name : Name} (count : Nat)
    (standing : files.get? [name] = some .directory) (passable : name.IsPassable)
    (short : count + 1 + Utf8.size name.text < Path.sizeLimit) :
    files.LeadsTo (Path.join (List.replicate (count + 1) '/') name.text) [name] := by
  have leads := leads_to_slashes files count (by omega)
  apply leads.join standing passable.2
  apply refusal?_join_of_plain leads.1 passable.1
  rwa [size_join_slashes]

/-- The file system with given entries has something at the root and where they are. -/
theorem FileSystem.get?_of_list_ne_none_iff {entries : List (Location × Node)} {location : Location} :
    (ofList entries).get? location ≠ none ↔ location = [] ∨ location ∈ entries.map (·.1) := by
  by_cases root : location = []
  · simp [root, get?_root]
  · rw [get?_of_ne_nil _ root, Bindings.get?, Ne, Option.map_eq_none_iff, List.find?_eq_none]
    simp only [ofList, List.mem_map, decide_eq_true_eq, not_forall, not_not, exists_prop,
      exists_exists_and_eq_and, Location.key_inj, root, false_or]

namespace Search

variable {files first second : FileSystem} {wanted : Text → Bool} {directory root other path : Path}
  {place elsewhere : Location} {name : Name} {node : Node} {names : List Name}
  {counterpart : List Name → List Name} {pattern : Text} {pieces : List Glob.Piece}

/-! ## Entries that a search comes to -/

/-- A search comes to all entries that stand below its root, unless the host refuses a name on the way
down or the path of the entry's directory. -/
theorem reaches_iff (formed : files.IsWellFormed) (leads : files.LeadsTo directory place) :
    Reaches files directory place names name node ↔
      files.get? (place ++ names ++ [name]) = some node ∧ (∀ outer ∈ names, outer.IsPassable) ∧
        Utf8.size (directory.descend names) < Path.sizeLimit := by
  induction names generalizing directory place with
  | nil =>
    have accepted := FileSystem.refusal?_eq_none_iff.mp leads.1
    rw [List.append_nil]
    constructor
    · intro reached
      have standing := reached.standing
      rw [List.append_nil] at standing
      exact ⟨standing, List.forall_mem_nil _, accepted.2.2⟩
    · exact fun ⟨standing, _, _⟩ =>
        Reaches.here formed (FileSystem.list_eq_ok_iff.mpr ⟨place, leads, rfl⟩) standing
  | cons outer names ih =>
    rw [Reaches.cons_iff, List.forall_mem_cons, Path.descend_cons, List.append_cons place outer names]
    constructor
    · rintro ⟨-, -, reached⟩
      have standing := reached.real [] List.nil_prefix
      rw [List.append_nil] at standing
      obtain ⟨entries, listed⟩ := reached.listed [] List.nil_prefix
      rw [Path.descend_nil] at listed
      obtain ⟨inner, innerLeads, -⟩ := FileSystem.list_eq_ok_iff.mp listed
      cases leads.eq_of_join innerLeads standing
      obtain ⟨atEnd, passable, short⟩ := (ih innerLeads).mp reached
      have shortName := FileSystem.is_too_long_of_status_join leads
        (FileSystem.status_eq_directory_iff.mpr innerLeads)
      exact ⟨atEnd, ⟨⟨FileSystem.null_not_mem_of_join innerLeads.1, shortName⟩, passable⟩, short⟩
    · rintro ⟨atEnd, ⟨⟨plain, shortName⟩, passable⟩, short⟩
      have standing : files.get? (place ++ [outer]) = some .directory := by
        apply formed.directory_above (Location.append_singleton_ne_nil names name)
        rw [← List.append_assoc, atEnd]
        exact Option.some_ne_none _
      have innerShort := Nat.lt_of_le_of_lt (Utf8.size_le_of_prefix (Path.prefix_descend _ names)) short
      have innerLeads := leads.join standing shortName
        (FileSystem.refusal?_join_of_plain leads.1 plain innerShort)
      refine ⟨?_, ⟨_, FileSystem.list_eq_ok_iff.mpr ⟨place, leads, rfl⟩⟩,
        (ih innerLeads).mpr ⟨atEnd, passable, short⟩⟩
      apply formed.rooted place outer
      rw [standing]
      exact Option.some_ne_none _

theorem descend_mem_hits_iff (formed : files.IsWellFormed) (leads : files.LeadsTo root place) :
    root.descend (names ++ [name]) ∈ hits (run files wanted root) ↔
      wanted name.text = true ∧ files.get? (place ++ (names ++ [name])) ≠ none ∧
        (∀ outer ∈ names, outer.IsPassable) ∧
        Utf8.size (root.descend names) < Path.sizeLimit := by
  have status := FileSystem.status_eq_directory_iff.mpr leads
  have notRoot : root.descend (names ++ [name]) ∉ own wanted root := by
    intro isOwn
    have same := (eq_of_mem_own isOwn).trans (Path.descend_nil root).symm
    exact Location.append_singleton_ne_nil names name (Path.descend_inj.mp same)
  rw [hits_run, List.mem_append, mem_hits_below_iff formed, or_iff_right notRoot,
    ← List.append_assoc, Option.ne_none_iff_exists']
  constructor
  · rintro ⟨found, others, last, node, foundStatus, reached, accepted, same⟩
    cases status.symm.trans foundStatus
    obtain ⟨rfl, rfl⟩ := List.append_singleton_inj.mp (Path.descend_inj.mp same)
    obtain ⟨standing, reachable⟩ := (reaches_iff formed leads).mp reached
    exact ⟨accepted, ⟨node, standing⟩, reachable⟩
  · rintro ⟨accepted, ⟨node, standing⟩, reachable⟩
    exact ⟨place, names, name, node, status, (reaches_iff formed leads).mpr ⟨standing, reachable⟩,
      accepted, rfl⟩

theorem root_mem_hits_iff (formed : files.IsWellFormed) :
    root ∈ hits (run files wanted root) ↔
      ∃ name, Path.fileName? root = some name ∧ wanted name = true := by
  have notBelow : root ∉ hits (below files wanted root) := by
    rw [mem_hits_below_iff formed]
    rintro ⟨place, names, name, node, -, -, -, same⟩
    have nowhere := Path.descend_inj.mp ((Path.descend_nil root).trans same)
    exact Location.append_singleton_ne_nil names name nowhere.symm
  rw [hits_run, List.mem_append, or_iff_left notBelow, own]
  cases Path.fileName? root with
  | none => simp
  | some name => simp

theorem exists_standing_of_mem_hits (formed : files.IsWellFormed) (leads : files.LeadsTo root place)
    (top : files.get? place = some .directory) (found : path ∈ hits (run files wanted root)) :
    ∃ names, files.get? (place ++ names) ≠ none ∧ path = root.descend names := by
  rw [hits_run, List.mem_append, mem_hits_below_iff formed] at found
  rcases found with isOwn | ⟨location, names, name, node, status, reached, -, rfl⟩
  · refine ⟨[], ?_, eq_of_mem_own isOwn⟩
    rw [List.append_nil, top]
    exact Option.some_ne_none _
  · cases (FileSystem.status_eq_directory_iff.mpr leads).symm.trans status
    refine ⟨names ++ [name], ?_, rfl⟩
    rw [← List.append_assoc, reached.standing]
    exact Option.some_ne_none _

/-! ## Trees of one shape -/

/-- Two directories with trees of the same shape, in which names that correspond to each other differ in
the case of letters only. The entries of the first tree are given by the names that lead down to them, and
`counterpart` gives the names that lead to the same place in the second. An entry and its counterpart need
not be of the same kind: a search goes by names. -/
structure SameShape (first : FileSystem) (place : Location) (second : FileSystem) (elsewhere : Location)
    (counterpart : List Name → List Name) : Prop where
  top : first.get? place = some .directory
  otherTop : second.get? elsewhere = some .directory
  root : counterpart [] = []
  entry : ∀ names name, first.get? (place ++ (names ++ [name])) ≠ none →
    ∃ twin, counterpart (names ++ [name]) = counterpart names ++ [twin] ∧
      Text.lower twin.text = Text.lower name.text
  standing : ∀ names, first.get? (place ++ names) ≠ none →
    second.get? (elsewhere ++ counterpart names) ≠ none
  onto : ∀ others, second.get? (elsewhere ++ others) ≠ none →
    ∃ names, first.get? (place ++ names) ≠ none ∧ counterpart names = others
  apart : ∀ names others, first.get? (place ++ names) ≠ none → first.get? (place ++ others) ≠ none →
    counterpart names = counterpart others → names = others

theorem SameShape.refl (top : files.get? place = some .directory) :
    SameShape files place files place id where
  top := top
  otherTop := top
  root := rfl
  entry _ name _ := ⟨name, rfl, rfl⟩
  standing _ here := here
  onto others here := ⟨others, here, rfl⟩
  apart _ _ _ _ same := same

theorem SameShape.passable_iff (shape : SameShape first place second elsewhere counterpart)
    (formed : first.IsWellFormed) (standing : first.get? (place ++ names) ≠ none) :
    (∀ name ∈ counterpart names, name.IsPassable) ↔ ∀ name ∈ names, name.IsPassable := by
  induction names using List.reverseRecOn with
  | nil => rw [shape.root]
  | append_singleton names name ih =>
    obtain ⟨twin, twin_eq, alike⟩ := shape.entry names name standing
    have above : first.get? (place ++ names) = some .directory := by
      apply formed.rooted _ name
      rwa [List.append_assoc]
    have last_iff : twin.IsPassable ↔ name.IsPassable := by
      rw [Name.is_passable_iff_lower, Name.is_passable_iff_lower, alike]
    rw [twin_eq, List.forall_mem_append, List.forall_mem_append, List.forall_mem_singleton,
      List.forall_mem_singleton, last_iff, ih (by rw [above]; exact Option.some_ne_none _)]

/-! ## Searches in them -/

theorem accepts_eq_of_lower_eq (caseless : Glob.IsCaseless pieces) {text twin : Text}
    (alike : Text.lower twin = Text.lower text) : Glob.accepts pieces twin = Glob.accepts pieces text := by
  rw [Glob.accepts_eq_matches_name, Glob.accepts_eq_matches_name,
    ← Glob.matches_name_lower caseless twin, alike, Glob.matches_name_lower caseless]

theorem find_recase {f : Char → Char} (recasing : Glob.IsRecasing f)
    (valid : Glob.pieces pattern = .ok pieces) (caseless : Glob.IsCaseless pieces)
    (files : FileSystem) (root : Path) : find files (pattern.map f) root = find files pattern root := by
  have accepts_eq : Glob.accepts (pieces.map (Glob.Piece.recase f)) = Glob.accepts pieces := by
    funext name
    rw [Glob.accepts_eq_matches_name, Glob.accepts_eq_matches_name,
      Glob.matches_name_recase recasing caseless]
  rw [find, find, Glob.pieces_recase recasing, valid]
  dsimp only [Except.map]
  rw [accepts_eq]

theorem find_eq_ok (valid : Glob.pieces pattern = .ok pieces) (files : FileSystem) (root : Path) :
    find files pattern root = .ok (hits (run files (Glob.accepts pieces) root)) := by
  rw [find, valid]
  rfl

/-- An entry and its counterpart are selected by the same pattern, if the paths of their directories are
both short enough to be listed or both too long. -/
theorem descend_mem_hits_iff_counterpart (caseless : Glob.IsCaseless pieces)
    (formed : first.IsWellFormed) (otherFormed : second.IsWellFormed)
    (leads : first.LeadsTo root place) (otherLeads : second.LeadsTo other elsewhere)
    (ownName : (Path.fileName? root).map Text.lower = (Path.fileName? other).map Text.lower)
    (shape : SameShape first place second elsewhere counterpart)
    (standing : first.get? (place ++ names) ≠ none)
    (lengths : Utf8.size (root.descend names.dropLast) < Path.sizeLimit ↔
      Utf8.size (other.descend (counterpart names).dropLast) < Path.sizeLimit) :
    root.descend names ∈ hits (run first (Glob.accepts pieces) root) ↔
      other.descend (counterpart names) ∈ hits (run second (Glob.accepts pieces) other) := by
  rcases List.eq_nil_or_concat' names with rfl | ⟨names, name, rfl⟩
  · rw [shape.root, Path.descend_nil, Path.descend_nil, root_mem_hits_iff formed,
      root_mem_hits_iff otherFormed]
    cases own_eq : Path.fileName? root with
    | none =>
      rw [own_eq, Option.map_none, eq_comm, Option.map_eq_none_iff] at ownName
      rw [ownName]
    | some text =>
      rw [own_eq, Option.map_some, eq_comm, Option.map_eq_some_iff] at ownName
      obtain ⟨twin, twin_eq, alike⟩ := ownName
      simp only [twin_eq, Option.some.injEq, exists_eq_left', accepts_eq_of_lower_eq caseless alike]
  · obtain ⟨twin, twin_eq, alike⟩ := shape.entry names name standing
    have otherStanding := shape.standing _ standing
    have above : first.get? (place ++ names) ≠ none := by
      rw [formed.rooted (place ++ names) name (by rwa [List.append_assoc])]
      exact Option.some_ne_none _
    rw [twin_eq, List.dropLast_concat, List.dropLast_concat] at lengths
    rw [twin_eq] at otherStanding ⊢
    rw [descend_mem_hits_iff formed leads, descend_mem_hits_iff otherFormed otherLeads,
      accepts_eq_of_lower_eq caseless alike, shape.passable_iff formed above, lengths]
    simp only [standing, otherStanding, ne_eq, not_false_eq_true, true_and]

/-- A search for a pattern without ranges that tell the cases of letters apart gives the same for the
pattern in lower and in upper case. In two trees of the same shape with names that differ in the case of
letters only, it selects an entry of the one if it selects its counterpart in the other, and nothing else,
provided that the directory of the entry has a path that can be listed in both trees or in neither. -/
theorem find_ignores_letter_case (valid : Glob.pieces pattern = .ok pieces)
    (caseless : Glob.IsCaseless pieces) :
    (∀ files root, find files (Text.lower pattern) root = find files pattern root ∧
      find files (Text.upper pattern) root = find files pattern root) ∧
    ∀ (first second : FileSystem) (root other : Path) (place elsewhere : Location)
      (counterpart : List Name → List Name), first.IsWellFormed → second.IsWellFormed →
      first.LeadsTo root place → second.LeadsTo other elsewhere →
      (Path.fileName? root).map Text.lower = (Path.fileName? other).map Text.lower →
      SameShape first place second elsewhere counterpart →
      ∃ found others, find first pattern root = .ok found ∧ find second pattern other = .ok others ∧
        (∀ names, first.get? (place ++ names) ≠ none →
          (Utf8.size (root.descend names.dropLast) < Path.sizeLimit ↔
            Utf8.size (other.descend (counterpart names).dropLast) < Path.sizeLimit) →
          (root.descend names ∈ found ↔ other.descend (counterpart names) ∈ others)) ∧
        (∀ path ∈ found, ∃ names, first.get? (place ++ names) ≠ none ∧ path = root.descend names) ∧
        ∀ path ∈ others, ∃ names, first.get? (place ++ names) ≠ none ∧
          path = other.descend (counterpart names) := by
  constructor
  · exact fun files root => ⟨find_recase Glob.is_recasing_to_lower valid caseless files root,
      find_recase Glob.is_recasing_to_upper valid caseless files root⟩
  · intro first second root other place elsewhere counterpart formed otherFormed leads otherLeads
      ownName shape
    refine ⟨_, _, find_eq_ok valid first root, find_eq_ok valid second other, ?_, ?_, ?_⟩
    · exact fun names standing => descend_mem_hits_iff_counterpart caseless formed otherFormed leads
        otherLeads ownName shape standing
    · exact fun path found => exists_standing_of_mem_hits formed leads shape.top found
    · intro path found
      obtain ⟨others, standing, rfl⟩ :=
        exists_standing_of_mem_hits otherFormed otherLeads shape.otherTop found
      obtain ⟨names, here, rfl⟩ := shape.onto others standing
      exact ⟨names, here, rfl⟩

/-- One pattern finds a directory and the file in it under both spellings of their names. -/
theorem find_ignores_letter_case_of_two_names :
    let a : Name := ⟨['A', 'b'], by decide⟩
    let b : Name := ⟨['a', 'B'], by decide⟩
    let c : Name := ⟨['a'], by decide⟩
    let d : Name := ⟨['A'], by decide⟩
    let first : FileSystem := .ofList [([a], .directory), ([a, c], .file [] .created)]
    let second : FileSystem := .ofList [([b], .directory), ([b, d], .file [] .created)]
    let counterpart : List Name → List Name :=
      fun names => if names = [a] then [b] else if names = [a, c] then [b, d] else []
    Glob.pieces ['[', 'A', '-', 'C', ']', '*'] = .ok [.oneOf [.range 'A' 'C'], .anyRun] ∧
      Glob.IsCaseless [.oneOf [.range 'A' 'C'], .anyRun] ∧
      SameShape first [] second [] counterpart ∧
      ∃ found others, find first ['[', 'A', '-', 'C', ']', '*'] ['/'] = .ok found ∧
        find second ['[', 'A', '-', 'C', ']', '*'] ['/'] = .ok others ∧
        ['/', 'A', 'b', '/', 'a'] ∈ found ∧ ['/', 'a', 'B', '/', 'A'] ∈ others := by
  intro a b c d first second counterpart
  have formed : first.IsWellFormed := FileSystem.is_well_formed_of_list (by decide) (by decide)
  have otherFormed : second.IsWellFormed := FileSystem.is_well_formed_of_list (by decide) (by decide)
  have valid : Glob.pieces ['[', 'A', '-', 'C', ']', '*'] =
      .ok [.oneOf [.range 'A' 'C'], .anyRun] := by cbv
  have caseless : Glob.IsCaseless [.oneOf [.range 'A' 'C'], .anyRun] := by
    have uniform : (Glob.Member.range 'A' 'C').IsCaseless := .inr (.inl ⟨by decide, by decide⟩)
    simp [Glob.IsCaseless, Glob.Piece.members, uniform]
  have stands : ∀ names, first.get? names ≠ none ↔ names = [] ∨ names = [a] ∨ names = [a, c] := by
    intro names
    rw [FileSystem.get?_of_list_ne_none_iff]
    simp
  have otherStands : ∀ names, second.get? names ≠ none ↔ names = [] ∨ names = [b] ∨ names = [b, d] := by
    intro names
    rw [FileSystem.get?_of_list_ne_none_iff]
    simp
  have shape : SameShape first [] second [] counterpart := {
    top := rfl
    otherTop := rfl
    root := rfl
    entry := by
      intro names name standing
      rcases (stands _).mp standing with nowhere | outer | inner
      · exact absurd nowhere (Location.append_singleton_ne_nil names name)
      · obtain ⟨rfl, rfl⟩ := List.append_singleton_inj.mp (show names ++ [name] = [] ++ [a] from outer)
        exact ⟨b, rfl, by decide⟩
      · obtain ⟨rfl, rfl⟩ := List.append_singleton_inj.mp (show names ++ [name] = [a] ++ [c] from inner)
        exact ⟨d, rfl, by decide⟩
    standing := by
      intro names standing
      rcases (stands _).mp standing with rfl | rfl | rfl
      · exact (otherStands _).mpr (.inl rfl)
      · exact (otherStands _).mpr (.inr (.inl rfl))
      · exact (otherStands _).mpr (.inr (.inr rfl))
    onto := by
      intro names standing
      rcases (otherStands _).mp standing with rfl | rfl | rfl
      · exact ⟨[], (stands _).mpr (.inl rfl), rfl⟩
      · exact ⟨[a], (stands _).mpr (.inr (.inl rfl)), rfl⟩
      · exact ⟨[a, c], (stands _).mpr (.inr (.inr rfl)), rfl⟩
    apart := by
      intro names others standing otherStanding same
      rcases (stands _).mp standing with rfl | rfl | rfl <;>
        rcases (stands _).mp otherStanding with rfl | rfl | rfl <;>
        first | rfl | cases same }
  obtain ⟨found, others, found_eq, others_eq, same, -⟩ :=
    (find_ignores_letter_case valid caseless).2 first second ['/'] ['/'] [] [] counterpart formed
      otherFormed (FileSystem.leads_to_slashes first 0 (by decide))
      (FileSystem.leads_to_slashes second 0 (by decide)) rfl shape
  have selected : ['/', 'A', 'b', '/', 'a'] ∈ found := by
    have accepted : Glob.accepts [.oneOf [.range 'A' 'C'], .anyRun] c.text = true := by decide
    have standing : first.get? ([] ++ ([a] ++ [c])) ≠ none := by decide
    have passable : ∀ outer ∈ [a], outer.IsPassable :=
      List.forall_mem_singleton.mpr ⟨by decide, by decide⟩
    rw [find_eq_ok valid] at found_eq
    cases found_eq
    exact (descend_mem_hits_iff formed (FileSystem.leads_to_slashes first 0 (by decide))).mpr
      ⟨accepted, standing, passable, by decide⟩
  exact ⟨valid, caseless, shape, found, others, found_eq, others_eq, selected,
    (same [a, c] ((stands _).mpr (.inr (.inr rfl))) (by decide)).mp selected⟩

/-- The lengths of paths matter. The same tree is searched from `/s` and from a spelling of that path that
is as long as a path can be; the directory in it cannot be listed from there, and what is in it is missed.
Without the condition on lengths the statement therefore fails. -/
theorem find_misses_beyond_path_limit :
    ¬ ∀ (pattern : Text) (pieces : List Glob.Piece), Glob.pieces pattern = .ok pieces →
      Glob.IsCaseless pieces →
      ∀ (first second : FileSystem) (root other : Path) (place elsewhere : Location)
        (counterpart : List Name → List Name), first.IsWellFormed → second.IsWellFormed →
        first.LeadsTo root place → second.LeadsTo other elsewhere →
        (Path.fileName? root).map Text.lower = (Path.fileName? other).map Text.lower →
        SameShape first place second elsewhere counterpart →
        ∃ found others, find first pattern root = .ok found ∧ find second pattern other = .ok others ∧
          ∀ names, first.get? (place ++ names) ≠ none →
            (root.descend names ∈ found ↔ other.descend (counterpart names) ∈ others) := by
  intro alike
  let s : Name := ⟨['s'], by decide⟩
  let a : Name := ⟨['a'], by decide⟩
  let x : Name := ⟨['x'], by decide⟩
  let files : FileSystem :=
    .ofList [([s], .directory), ([s, a], .directory), ([s, a, x], .file [] .created)]
  have formed : files.IsWellFormed := FileSystem.is_well_formed_of_list (by decide) (by decide)
  have passable : ∀ outer ∈ [s, a], outer.IsPassable :=
    List.forall_mem_cons.mpr ⟨⟨by decide, by decide⟩,
      List.forall_mem_singleton.mpr ⟨by decide, by decide⟩⟩
  have shortLeads : files.LeadsTo (Path.join ['/'] s.text) [s] :=
    FileSystem.leads_to_join_slashes 0 rfl (passable s List.mem_cons_self) (by decide)
  obtain ⟨long, long_eq⟩ : ∃ long, long = Path.join (List.replicate 4094 '/') s.text := ⟨_, rfl⟩
  have longLeads : files.LeadsTo long [s] :=
    long_eq ▸ FileSystem.leads_to_join_slashes 4093 rfl (passable s List.mem_cons_self) (by decide)
  have size_long : Utf8.size long = 4094 + 1 := long_eq ▸ FileSystem.size_join_slashes 4093 s
  have valid : Glob.pieces ['x'] = .ok [.literal 'x'] := by cbv
  have caseless : Glob.IsCaseless [.literal 'x'] := by simp [Glob.IsCaseless, Glob.Piece.members]
  obtain ⟨found, others, found_eq, others_eq, same⟩ := alike ['x'] _ valid caseless files files
    (Path.join ['/'] s.text) long [s] [s] id formed formed shortLeads longLeads
    (by rw [long_eq, Path.file_name?_join, Path.file_name?_join]) (SameShape.refl rfl)
  rw [find_eq_ok valid] at found_eq others_eq
  cases found_eq
  cases others_eq
  have standing : files.get? ([s] ++ ([a] ++ [x])) ≠ none := by decide
  have accepted : Glob.accepts [.literal 'x'] x.text = true := by decide
  have selected := (descend_mem_hits_iff formed shortLeads).mpr
    ⟨accepted, standing, List.forall_mem_of_forall_mem_cons passable, by decide⟩
  have missed := (descend_mem_hits_iff formed longLeads).mp ((same ([a] ++ [x]) standing).mp selected)
  have longer : Utf8.size long < Utf8.size (long.descend [a]) := size_lt_size_join long a
  have within : Utf8.size (long.descend [a]) < 4096 := missed.2.2.2
  omega

end Search

end LineScript
