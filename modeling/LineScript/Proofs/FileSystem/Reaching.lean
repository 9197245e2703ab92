import LineScript.Proofs.FileSystem.Descent

/-!
# What paths lead to beyond the limits of lookups

The host looks up no path that is too long and follows forty links at most. Without these limits a path
leads to at most one thing, through as many links as that takes. The host finds it where the path is
accepted and forty links suffice.
-/

namespace LineScript.FileSystem

set_option autoImplicit false

variable {files : FileSystem} {path source : Path} {directory location place : Location}
  {name : Name} {names : List Name} {node standing : Node} {links further : Nat}

/-- A path leads to something through no more than so many links, however long the path is. -/
def ReachesWithin (files : FileSystem) (links : Nat) (path : Path) (location : Location)
    (node : Node) : Prop :=
  files.follow .destination links (Route.ofPath path).endsInSlash
      (files.startOf (Route.ofPath path)) (Route.ofPath path).components =
    .ok (.present location node)

/-- What a path leads to through links, however many these are. -/
def Reaches (files : FileSystem) (path : Path) (location : Location) (node : Node) : Prop :=
  ∃ links, files.ReachesWithin links path location node

theorem status_eq_ok_iff_reaches_within :
    files.status path = .ok (location, node) ↔
      refusal? path = none ∧ files.ReachesWithin linkLimit path location node := by
  rw [status_eq_ok_iff, locate, ReachesWithin]
  cases refusal? path with
  | none => simp
  | some error => simp

theorem reaches_of_status (found : files.status path = .ok (location, node)) :
    files.Reaches path location node :=
  ⟨linkLimit, (status_eq_ok_iff_reaches_within.mp found).2⟩

/-- A lookup that arrives needs no more links, and it arrives at the same place if it has more. -/
theorem follow_destination_mono {slash : Bool} {components : List Component} {arrival : Arrival}
    (more : links ≤ further)
    (found : files.follow .destination links slash directory components = .ok arrival) :
    files.follow .destination further slash directory components = .ok arrival := by
  induction links using Nat.strongRecOn generalizing further slash directory components with
  | ind links fewer =>
    induction components generalizing directory with
    | nil =>
      rw [follow] at found ⊢
      exact found
    | cons component components ih =>
      cases component with
      | here =>
        rw [follow] at found ⊢
        exact ih found
      | up =>
        rw [follow] at found ⊢
        exact ih found
      | entry name =>
        rw [follow_entry _ rfl rfl] at found ⊢
        by_cases long : name.isTooLong = true
        · rw [if_pos long] at found
          cases found
        · rw [if_neg long] at found ⊢
          rcases standing : files.get? (directory ++ [name]) with _ | _ | ⟨content, mode⟩ | target |
            device
          · rw [standing] at found
            exact found
          · rw [standing] at found
            exact ih found
          · rw [standing] at found
            exact found
          · rw [standing] at found
            simp only [Request.destination, Bool.not_true, Bool.and_false, Bool.false_eq_true,
              if_false] at found ⊢
            by_cases blank : target.isEmpty = true
            · rw [if_pos blank] at found
              cases found
            · rw [if_neg blank] at found ⊢
              cases links with
              | zero => cases found
              | succ links =>
                obtain ⟨spare, rfl⟩ : ∃ spare, further = spare + 1 :=
                  Nat.exists_eq_add_one.mpr (Nat.lt_of_lt_of_le (Nat.succ_pos links) more)
                exact fewer links (Nat.lt_succ_self links) (Nat.le_of_succ_le_succ more) found
          · rw [standing] at found
            exact found

theorem Reaches.unique (found : files.Reaches path location node)
    (again : files.Reaches path place standing) : place = location ∧ standing = node := by
  obtain ⟨links, found⟩ := found
  obtain ⟨further, again⟩ := again
  have first := follow_destination_mono (Nat.le_max_left links further) found
  have second := follow_destination_mono (Nat.le_max_right links further) again
  cases first.symm.trans second
  exact ⟨rfl, rfl⟩

/-- What a name after a path leads to is reached through an entry of the directory that the path leads
to. -/
theorem Reaches.exists_of_join (inside : path ≠ [])
    (found : files.Reaches (Path.join path name.text) location node) :
    ∃ directory, files.Reaches path directory .directory ∧
      files.get? (directory ++ [name]) ≠ none := by
  obtain ⟨links, found⟩ := found
  obtain ⟨left, whole⟩ := @exists_follow_append .destination files rfl false _
    (List.cons_ne_nil (.entry name) []) links (files.startOf (Route.ofPath path))
    (Route.ofPath path).components
  rw [ReachesWithin, Route.of_path_join inside] at found
  have same := found.symm.trans whole
  split at same
  · rename_i directory standing walked
    obtain ⟨-, walked⟩ := (follow_destination_slash_iff files links
      (Route.ofPath path).endsInSlash _ _).mp walked
    refine ⟨directory, ⟨links, walked⟩, ?_⟩
    intro free
    cases (follow_last_of_free rfl free same.symm).1
  · cases same
  · cases same

theorem Reaches.exists_of_descend (inside : path ≠ [])
    (found : files.Reaches (path.descend (name :: names)) location node) :
    ∃ directory, files.Reaches path directory .directory ∧
      files.get? (directory ++ [name]) ≠ none := by
  induction names generalizing path name with
  | nil => exact found.exists_of_join inside
  | cons next names ih =>
    obtain ⟨inner, reached, -⟩ := ih (Path.join_ne_nil path name) found
    exact reached.exists_of_join inside

theorem Reaches.eq_nil_of_descend {content : List UInt8} {mode : Mode} (inside : source ≠ [])
    (found : files.Reaches source location (.file content mode))
    (further : files.Reaches (source.descend names) place node) : names = [] := by
  rcases names with _ | ⟨name, names⟩
  · rfl
  · obtain ⟨directory, reached, -⟩ := further.exists_of_descend inside
    cases (found.unique reached).2

/-! ## Trees -/

/-- A tree to copy: a regular file, or a directory all of whose entries are trees. Links on the way do
not count, but there is no circle. -/
inductive IsTree (files : FileSystem) : Path → Prop where
  | file (source : Path) (location : Location) (content : List UInt8) (mode : Mode)
    (found : files.Reaches source location (.file content mode)) : IsTree files source
  | directory (source : Path) (location : Location)
    (found : files.Reaches source location .directory)
    (entries : ∀ name, files.get? (location ++ [name]) ≠ none →
      IsTree files (Path.join source name.text)) : IsTree files source

/-- No more links are met on the way to anything that is reached from a source than the host follows in
one lookup. -/
def IsWithinLinks (files : FileSystem) (source : Path) : Prop :=
  ∀ names place node, files.Reaches (source.descend names) place node →
    files.ReachesWithin linkLimit (source.descend names) place node

/-- The paths of a copy are short enough for the host, and a name in them is one that it has. -/
def IsShort (files : FileSystem) (source destination : Path) : Prop :=
  ∀ names place node, files.Reaches (source.descend names) place node →
    refusal? (source.descend names) = none ∧
      Utf8.size (destination.descend names) < Path.sizeLimit

/-- Nothing that is reached from a source lies at or around a location. -/
def IsApart (files : FileSystem) (source : Path) (location : Location) : Prop :=
  ∀ names place node, files.Reaches (source.descend names) place node → ¬ place <+: location

theorem IsWithinLinks.join (within : files.IsWithinLinks source) (name : Name) :
    files.IsWithinLinks (Path.join source name.text) := fun names => within (name :: names)

theorem IsApart.join (apart : files.IsApart source location) (name : Name) :
    files.IsApart (Path.join source name.text) location := fun names => apart (name :: names)

theorem IsShort.join {destination : Path} (short : files.IsShort source destination) (name : Name) :
    files.IsShort (Path.join source name.text) (Path.join destination name.text) :=
  fun names => short (name :: names)

/-! ## Trees of one file -/

theorem is_within_links_of_file {content : List UInt8} {mode : Mode} (inside : source ≠ [])
    (found : files.status source = .ok (location, .file content mode)) :
    files.IsWithinLinks source := by
  intro names place node further
  have whole := reaches_of_status found
  cases whole.eq_nil_of_descend inside further
  obtain ⟨rfl, rfl⟩ := whole.unique further
  exact (status_eq_ok_iff_reaches_within.mp found).2

theorem Reaches.is_apart_of_file {content : List UInt8} {mode : Mode} (inside : source ≠ [])
    (found : files.Reaches source location (.file content mode)) (outside : ¬ location <+: place) :
    files.IsApart source place := by
  intro names reached node further
  cases found.eq_nil_of_descend inside further
  rw [(found.unique further).1]
  exact outside

theorem Reaches.is_short_of_file {content : List UInt8} {mode : Mode} {destination : Path}
    (inside : source ≠ []) (found : files.Reaches source location (.file content mode))
    (accepted : refusal? source = none) (size : Utf8.size destination < Path.sizeLimit) :
    files.IsShort source destination := by
  intro names reached node further
  cases found.eq_nil_of_descend inside further
  exact ⟨accepted, size⟩

/-- A directory is a tree if its only entry leads to a file, and nothing but the two is reached. -/
theorem Reaches.is_tree_of_single_entry {content : List UInt8} {mode : Mode}
    (formed : files.IsWellFormed) (inside : source ≠ [])
    (found : files.Reaches source location .directory)
    (listed : files.children location = [(name, standing)])
    (entry : files.Reaches (Path.join source name.text) place (.file content mode)) :
    files.IsTree source ∧ ∀ names reached node, files.Reaches (source.descend names) reached node →
      (names = [] ∧ reached = location ∧ node = .directory) ∨
        names = [name] ∧ reached = place ∧ node = .file content mode := by
  have only : ∀ other, files.get? (location ++ [other]) ≠ none → other = name := by
    intro other standing
    obtain ⟨held, standing⟩ := Option.ne_none_iff_exists'.mp standing
    rw [← formed.mem_children_iff, listed, List.mem_singleton] at standing
    exact congrArg Prod.fst standing
  constructor
  · refine .directory _ _ found ?_
    intro other standing
    cases only other standing
    exact .file _ _ _ _ entry
  · intro names reached node further
    rcases names with _ | ⟨other, names⟩
    · exact .inl ⟨rfl, found.unique further⟩
    · obtain ⟨directory, above, held⟩ := further.exists_of_descend inside
      cases (found.unique above).1
      cases only other held
      cases entry.eq_nil_of_descend (Path.join_ne_nil source name) further
      exact .inr ⟨rfl, entry.unique further⟩

end LineScript.FileSystem
