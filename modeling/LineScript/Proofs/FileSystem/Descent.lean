import LineScript.Proofs.FileSystem.Lookups
import LineScript.Search

/-!
# Going down from a path

A path that is continued by names leads, from the directory that the path leads to, on through those
names. What a path leads to is a directory exactly when a slash after it would not change that, and
the entries of a directory are what stands directly below its location.
-/

namespace LineScript

set_option autoImplicit false

/-! ## Paths -/

namespace Path

/-- The path continued by some names. -/
def descend (path : Path) (names : List Name) : Path :=
  names.foldl (fun path name => join path name.text) path

@[simp] theorem descend_nil (path : Path) : path.descend [] = path := rfl

@[simp] theorem descend_cons (path : Path) (name : Name) (names : List Name) :
    path.descend (name :: names) = descend (join path name.text) names := rfl

theorem join_name (path : Path) (name : Name) :
    join path name.text =
      if path.isEmpty || path.getLast? == some '/' then path ++ name.text
      else path ++ '/' :: name.text := by
  rw [join, if_neg (by rw [name.is_absolute_text]; exact Bool.false_ne_true)]

theorem mem_join_iff {path : Path} {name : Name} {c : Char} (other : c ≠ '/') :
    c ∈ join path name.text ↔ c ∈ path ∨ c ∈ name.text := by
  rw [join_name]
  split <;> simp [other]

theorem prefix_join (path : Path) (name : Name) : path <+: join path name.text := by
  rw [join_name]
  split
  · exact List.prefix_append _ _
  · exact List.prefix_append _ _

theorem join_ne_nil (path : Path) (name : Name) : join path name.text ≠ [] := by
  rw [join_name]
  split
  · exact List.append_ne_nil_of_right_ne_nil _ name.text_ne_nil
  · exact List.append_ne_nil_of_right_ne_nil _ (List.cons_ne_nil _ _)

theorem proper_parts_append_slash (path : Path) (name : Name) :
    properParts (path ++ '/' :: name.text) = properParts path ++ [name.text] := by
  have proper : (!name.text.isEmpty && name.text != ['.']) = true := by
    simp [name.text_ne_nil, name.isEntryName.2.2.1]
  rw [properParts, parts_append_slash, parts_of_not_mem_slash name.isEntryName.2.1,
    List.filter_append, List.filter_cons, if_pos proper, List.filter_nil, properParts]

theorem proper_parts_join (path : Path) (name : Name) :
    properParts (join path name.text) = properParts path ++ [name.text] := by
  rw [join_name]
  by_cases empty : path = []
  · subst empty
    exact proper_parts_append_slash [] name
  · by_cases slash : path.getLast? = some '/'
    · obtain ⟨start, rfl⟩ := List.getLast?_eq_some_iff.mp slash
      have extended : start ++ ['/'] ++ name.text = start ++ '/' :: name.text := by simp
      have ended : properParts (start ++ ['/']) = properParts start := by
        rw [properParts, parts_append_slash, List.filter_append]
        exact List.append_nil _
      rw [if_pos (by simp), extended, proper_parts_append_slash, ended]
    · rw [if_neg (by simp [empty, slash]), proper_parts_append_slash]

theorem proper_parts_descend (path : Path) (names : List Name) :
    properParts (path.descend names) = properParts path ++ names.map (·.text) := by
  induction names generalizing path with
  | nil => simp
  | cons name names ih => rw [descend_cons, ih, proper_parts_join, List.append_assoc]; rfl

end Path

namespace FileSystem

variable {files before after : FileSystem} {path longer : Path} {directory location place : Location}
  {name : Name} {node : Node} {request : Request}

/-! ## Accepted paths -/

theorem refusal?_eq_none_iff :
    refusal? path = none ↔ '\x00' ∉ path ∧ path ≠ [] ∧ Utf8.size path < Path.sizeLimit := by
  simp only [refusal?]
  split
  · simp_all
  · split
    · simp_all
    · split <;> simp_all

theorem exists_refusal?_of_size_limit_le (long : Path.sizeLimit ≤ Utf8.size path) :
    ∃ error, refusal? path = some error := by
  rw [← Option.ne_none_iff_exists', Ne, refusal?_eq_none_iff]
  rintro ⟨-, -, short⟩
  exact absurd short (Nat.not_lt.mpr long)

theorem refusal?_of_prefix (start : path <+: longer) (inside : path ≠ [])
    (accepted : refusal? longer = none) : refusal? path = none := by
  obtain ⟨rest, rfl⟩ := start
  rw [refusal?_eq_none_iff] at accepted ⊢
  obtain ⟨plain, -, short⟩ := accepted
  rw [List.mem_append, not_or] at plain
  rw [Utf8.size, Utf8.encode_append, List.length_append] at short
  exact ⟨plain.1, inside, Nat.lt_of_le_of_lt (Nat.le_add_right _ _) short⟩

theorem refusal?_join_of_plain (accepted : refusal? path = none) (plain : '\x00' ∉ name.text)
    (short : Utf8.size (Path.join path name.text) < Path.sizeLimit) :
    refusal? (Path.join path name.text) = none := by
  rw [refusal?_eq_none_iff] at accepted ⊢
  refine ⟨?_, Path.join_ne_nil path name, short⟩
  rw [Path.mem_join_iff (by decide), not_or]
  exact ⟨accepted.1, plain⟩

theorem null_not_mem_of_join (named : refusal? (Path.join path name.text) = none) :
    '\x00' ∉ name.text := by
  intro null
  exact (refusal?_eq_none_iff.mp named).1 ((Path.mem_join_iff (by decide)).mpr (.inr null))

/-- A name that one accepted path ends in can follow another, if it does not make that too long. -/
theorem refusal?_join_eq_none (accepted : refusal? path = none)
    (named : refusal? (Path.join longer name.text) = none)
    (short : Utf8.size (Path.join path name.text) < Path.sizeLimit) :
    refusal? (Path.join path name.text) = none :=
  refusal?_join_of_plain accepted (null_not_mem_of_join named) short

theorem refusal?_of_status (found : files.status path = .ok (location, node)) :
    refusal? path = none := by
  unfold status locateEntry locate at found
  cases accepted : refusal? path with
  | none => rfl
  | some error =>
    rw [accepted] at found
    cases found

theorem status_eq_ok_iff :
    files.status path = .ok (location, node) ↔
      files.locate .destination path = .ok (.present location node) := by
  unfold status locateEntry
  rcases files.locate .destination path with error | ⟨place, standing⟩ | ⟨place, free⟩
  · simp
  · simp
  · simp

/-! ## Directories -/

/-- A lookup that asks for a directory finds what the lookup without a slash finds, if that is one. -/
theorem follow_destination_slash_iff (files : FileSystem) (links : Nat) (slash : Bool)
    (directory : Location) (components : List Component) :
    files.follow .destination links true directory components = .ok (.present location node) ↔
      node = .directory ∧ files.follow .destination links slash directory components =
        .ok (.present location .directory) := by
  induction links using Nat.strongRecOn generalizing slash directory components with
  | ind links fewer =>
    induction components generalizing directory with
    | nil =>
      rw [follow, follow]
      simp only [Except.ok.injEq, Arrival.present.injEq]
      constructor
      · rintro ⟨rfl, rfl⟩
        exact ⟨rfl, rfl, trivial⟩
      · rintro ⟨rfl, rfl, -⟩
        exact ⟨rfl, rfl⟩
    | cons component components ih =>
      cases component with
      | here =>
        rw [follow, follow]
        exact ih directory
      | up =>
        rw [follow, follow]
        exact ih directory.dropLast
      | entry name =>
        rw [follow_destination_entry, follow_entry _ rfl rfl]
        by_cases long : name.isTooLong = true
        · rw [if_pos long, if_pos long]
          simp
        · rw [if_neg long, if_neg long]
          rcases files.get? (directory ++ [name]) with _ | _ | ⟨content, mode⟩ | target | device
          · dsimp only
            split <;> simp
          · exact ih (directory ++ [name])
          · dsimp only
            split <;> simp
          · simp only [Request.destination, Bool.not_true, Bool.and_false, Bool.false_eq_true,
              if_false]
            by_cases blank : target.isEmpty = true
            · rw [if_pos blank, if_pos blank]
              simp
            · rw [if_neg blank, if_neg blank]
              cases links with
              | zero => simp
              | succ links => exact fewer links (Nat.lt_succ_self links) _ _ _
          · dsimp only
            split <;> simp

theorem status_eq_directory_iff :
    files.status path = .ok (location, .directory) ↔ files.LeadsTo path location := by
  rw [status_eq_ok_iff, LeadsTo, locate]
  cases refusal? path with
  | some error => simp
  | none =>
    dsimp only
    simp only [true_and, follow_destination_slash_iff files linkLimit
      (Route.ofPath path).endsInSlash, exists_eq_left]

/-- What can be listed is a directory, and its entries stand directly below it. -/
theorem list_eq_ok_iff {entries : List (Name × Node)} :
    files.list path = .ok entries ↔
      ∃ location, files.LeadsTo path location ∧ entries = files.children location := by
  simp only [← status_eq_directory_iff]
  unfold list
  split
  · rename_i failed
    simp [failed]
  · rename_i location found
    rw [found, Except.ok.injEq]
    constructor
    · rintro rfl
      exact ⟨location, rfl, rfl⟩
    · rintro ⟨_, same, rfl⟩
      cases same
      rfl
  · rename_i other found
    constructor
    · exact nofun
    · rintro ⟨place, same, -⟩
      exact absurd (found.symm.trans same) (by simpa using other _)

theorem IsWellFormed.mem_children_iff (formed : files.IsWellFormed) :
    (name, node) ∈ files.children directory ↔ files.get? (directory ++ [name]) = some node := by
  rw [formed.get?_eq_some_iff_mem (Location.append_singleton_ne_nil directory name), children,
    List.mem_filterMap]
  constructor
  · rintro ⟨⟨key, standing⟩, inside, listed⟩
    rw [Option.ite_none_right_eq_some] at listed
    obtain ⟨-, listed⟩ := listed
    obtain ⟨child, child_eq, listed⟩ := Option.map_eq_some_iff.mp listed
    cases listed
    rw [Location.child_name?_eq_some_iff] at child_eq
    rw [← child_eq, ← formed.keyed _ inside]
    exact inside
  · intro inside
    refine ⟨_, inside, ?_⟩
    have child_eq := Location.child_name?_eq_some_iff.mpr (Eq.refl (directory ++ [name]))
    simp [Location.key, child_eq]

theorem IsKeptBy.status (kept : before.IsKeptBy after)
    (found : before.status path = .ok (location, node)) : after.status path = .ok (location, node) := by
  have accepted := refusal?_of_status found
  rw [status_eq_ok_iff, locate_of_accepted _ _ accepted] at found ⊢
  rw [kept.start_of_eq]
  exact kept.follow rfl rfl _ _ _ _ found

theorem exists_follow_link_itself (links : Nat) (slash : Bool) (directory : Location)
    (components : List Component)
    (found : files.follow .destination links slash directory components =
      .ok (.present location node)) :
    ∃ place standing, files.follow .linkItself links slash directory components =
      .ok (.present place standing) := by
  induction links using Nat.strongRecOn generalizing slash directory components with
  | ind links fewer =>
    induction components generalizing directory with
    | nil =>
      rw [follow]
      exact ⟨_, _, rfl⟩
    | cons component components ih =>
      cases component with
      | here =>
        rw [follow] at found ⊢
        exact ih directory found
      | up =>
        rw [follow] at found ⊢
        exact ih directory.dropLast found
      | entry name =>
        rw [follow_entry _ rfl rfl] at found ⊢
        by_cases long : name.isTooLong = true
        · rw [if_pos long] at found
          cases found
        · rw [if_neg long] at found ⊢
          rcases standing : files.get? (directory ++ [name]) with _ | _ | ⟨content, mode⟩ | target |
            device
          · rw [standing] at found
            dsimp only at found
            split at found <;> cases found
          · rw [standing] at found
            exact ih (directory ++ [name]) found
          · rw [standing] at found
            exact ⟨_, _, found⟩
          · rw [standing] at found
            dsimp only at found ⊢
            by_cases stops : (components.isEmpty && !slash && !Request.linkItself.followsLast) = true
            · rw [if_pos stops]
              exact ⟨_, _, rfl⟩
            · rw [if_neg stops]
              rw [if_neg (by simp [Request.destination])] at found
              by_cases blank : target.isEmpty = true
              · rw [if_pos blank] at found
                cases found
              · rw [if_neg blank] at found ⊢
                cases links with
                | zero => cases found
                | succ links => exact fewer links (Nat.lt_succ_self links) _ _ _ found
          · rw [standing] at found
            exact ⟨_, _, found⟩

theorem exists_link_status (found : files.status path = .ok (location, node)) :
    ∃ entry, files.linkStatus path = .ok entry := by
  have accepted := refusal?_of_status found
  rw [status_eq_ok_iff, locate_of_accepted _ _ accepted] at found
  obtain ⟨place, standing, found⟩ := exists_follow_link_itself _ _ _ _ found
  refine ⟨(place, standing), ?_⟩
  rw [linkStatus, locateEntry, locate_of_accepted _ _ accepted, found]

/-! ## One name further -/

namespace LeadsTo

theorem locate_parent_join_eq (leads : files.LeadsTo path location) (short : name.isTooLong = false)
    (accepted : refusal? (Path.join path name.text) = none) :
    files.locateParent (Path.join path name.text) = .ok (location, .entry name false) := by
  obtain ⟨node, walked⟩ := leads.2
  rw [locate_parent_eq_entry_iff, Route.of_path_join leads.ne_nil]
  exact ⟨accepted, short, rfl, _, node, rfl, walked⟩

theorem join (leads : files.LeadsTo path location)
    (standing : files.get? (location ++ [name]) = some .directory) (short : name.isTooLong = false)
    (accepted : refusal? (Path.join path name.text) = none) :
    files.LeadsTo (Path.join path name.text) (location ++ [name]) :=
  leads_to_of_directory (leads.locate_parent_join_eq short accepted) standing

theorem eq_of_join (leads : files.LeadsTo path location)
    (inner : files.LeadsTo (Path.join path name.text) place)
    (standing : files.get? (location ++ [name]) = some .directory) : place = location ++ [name] := by
  obtain ⟨left, lookup⟩ := leads.locate_join .destination rfl inner.1
  rw [status_eq_ok_iff.mp (status_eq_directory_iff.mpr inner), follow_entry _ rfl rfl, standing]
    at lookup
  split at lookup
  · cases lookup
  · dsimp only at lookup
    rw [follow] at lookup
    cases lookup
    rfl

end LeadsTo

/-- What a name after a path leads to is reached through an entry of the directory that the path leads
to. -/
theorem exists_leads_to_of_status_join (inside : path ≠ [])
    (found : files.status (Path.join path name.text) = .ok (location, node)) :
    ∃ directory, files.LeadsTo path directory ∧ files.get? (directory ++ [name]) ≠ none := by
  have accepted := refusal?_of_status found
  have outerAccepted := refusal?_of_prefix (Path.prefix_join path name) inside accepted
  obtain ⟨left, whole⟩ := @exists_follow_append .destination files rfl false _
    (List.cons_ne_nil (.entry name) []) linkLimit (files.startOf (Route.ofPath path))
    (Route.ofPath path).components
  rw [status_eq_ok_iff, locate_of_accepted _ _ accepted, Route.of_path_join inside] at found
  dsimp only at found
  have same := found.symm.trans whole
  split at same
  · rename_i directory standing walked
    refine ⟨directory, ⟨outerAccepted, standing, walked⟩, ?_⟩
    intro free
    cases (follow_last_of_free rfl free same.symm).1
  · cases same
  · cases same

/-! ## Paths of slashes -/

theorem size_slashes (count : Nat) : Utf8.size (List.replicate count '/') = count := by
  induction count with
  | zero => rfl
  | succ count ih =>
    rw [List.replicate_succ, ← List.singleton_append, Utf8.size, Utf8.encode_append,
      List.length_append, ← Utf8.size, ← Utf8.size, ih, Nat.add_comm]
    rfl

theorem join_slashes (count : Nat) (name : Name) :
    Path.join (List.replicate (count + 1) '/') name.text =
      List.replicate (count + 1) '/' ++ name.text := by
  have last : (List.replicate (count + 1) '/').getLast? = some '/' := by
    rw [List.replicate_succ', List.getLast?_concat]
  rw [Path.join_name, last, if_pos (by simp)]

theorem leads_to_slashes (files : FileSystem) (count : Nat) (short : count + 1 < Path.sizeLimit) :
    files.LeadsTo (List.replicate (count + 1) '/') [] := by
  have components_eq : ∀ count,
      (Path.parts (List.replicate count '/')).filterMap Component.ofPart? = [] := by
    intro count
    induction count with
    | zero => rfl
    | succ count ih =>
      rw [List.replicate_succ, Path.parts, if_pos rfl, List.filterMap_cons, ih]
      rfl
  have accepted : refusal? (List.replicate (count + 1) '/') = none := by
    rw [refusal?_eq_none_iff, size_slashes]
    exact ⟨by simp, by simp, short⟩
  refine ⟨accepted, .directory, ?_⟩
  rw [Route.ofPath, components_eq, follow]
  rfl

theorem size_join_slashes (count : Nat) (name : Name) :
    Utf8.size (Path.join (List.replicate (count + 1) '/') name.text) =
      count + 1 + Utf8.size name.text := by
  rw [join_slashes, Utf8.size, Utf8.encode_append, List.length_append, ← Utf8.size, ← Utf8.size,
    size_slashes]

end FileSystem

end LineScript
