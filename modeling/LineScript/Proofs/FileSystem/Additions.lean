import LineScript.Proofs.FileSystem.Lookups

/-!
# Additions to a file system

A request that makes something at an absent path adds one entry at a free name. All that stood before
still stands, and a directory that stood before has at most this entry more.
-/

namespace LineScript.FileSystem

set_option autoImplicit false

variable {files before middle after : FileSystem} {path source : Path} {location : Location}
  {node : Node} {region : Location → Prop}

/-! ## Changes within a region -/

/-- One well-formed file system differs from another at most within a region. -/
structure ChangesWithin (region : Location → Prop) (before after : FileSystem) : Prop where
  formed : after.IsWellFormed
  workingDirectory_eq : after.workingDirectory = before.workingDirectory
  region_of_ne : ∀ location, after.get? location ≠ before.get? location → region location

namespace ChangesWithin

theorem refl (formed : files.IsWellFormed) : ChangesWithin region files files where
  formed := formed
  workingDirectory_eq := rfl
  region_of_ne _ changed := absurd rfl changed

theorem mono {wider : Location → Prop} (within : ChangesWithin region before after)
    (contained : ∀ location, region location → wider location) :
    ChangesWithin wider before after where
  formed := within.formed
  workingDirectory_eq := within.workingDirectory_eq
  region_of_ne location changed := contained location (within.region_of_ne location changed)

theorem trans (first : ChangesWithin region before middle)
    (second : ChangesWithin region middle after) : ChangesWithin region before after where
  formed := second.formed
  workingDirectory_eq := second.workingDirectory_eq.trans first.workingDirectory_eq
  region_of_ne location changed := by
    by_cases same : after.get? location = middle.get? location
    · rw [same] at changed
      exact first.region_of_ne location changed
    · exact second.region_of_ne location same

theorem get?_eq (within : ChangesWithin region before after) (outside : ¬ region location) :
    after.get? location = before.get? location := by
  apply Decidable.byContradiction
  intro changed
  exact outside (within.region_of_ne location changed)

theorem is_kept_by (within : ChangesWithin region before after)
    (free : ∀ location, region location → before.get? location = none) :
    before.IsKeptBy after where
  workingDirectory_eq := within.workingDirectory_eq
  get?_eq location node standing := by
    rw [within.get?_eq, standing]
    intro inside
    rw [free location inside] at standing
    cases standing

end ChangesWithin

/-! ## One new entry -/

/-- A location at or below the free name that a path ends in. -/
def IsNewAt (files : FileSystem) (path : Path) (location : Location) : Prop :=
  ∃ directory name slash, files.locateParent path = .ok (directory, .entry name slash) ∧
    files.get? (directory ++ [name]) = none ∧ directory ++ [name] <+: location

theorem IsNewAt.get?_eq_none (new : files.IsNewAt path location) (formed : files.IsWellFormed) :
    files.get? location = none := by
  obtain ⟨directory, name, slash, -, free, below⟩ := new
  exact formed.get?_below_free free below

/-- The file system with one entry more, at the free name that a path ends in. -/
inductive Inserts (files : FileSystem) (path : Path) (node : Node) : FileSystem → Prop where
  | intro (directory : Location) (name : Name) (slash : Bool)
    (parent : files.locateParent path = .ok (directory, .entry name slash))
    (free : files.get? (directory ++ [name]) = none)
    (above : files.get? directory = some .directory) :
    Inserts files path node (files.insert (directory ++ [name]) node)

theorem Inserts.changes_within (inserts : files.Inserts path node after)
    (formed : files.IsWellFormed) : ChangesWithin (files.IsNewAt path) files after := by
  obtain ⟨directory, name, slash, parent, free, above⟩ := inserts
  constructor
  · exact formed.insert free above node
  · rfl
  · intro location changed
    refine ⟨directory, name, slash, parent, free, ?_⟩
    by_cases here : location = directory ++ [name]
    · subst here
      exact List.prefix_refl _
    · exact absurd (get?_insert_of_ne files node here) changed

theorem Inserts.exists_leads_to (inserts : files.Inserts path .directory after)
    (formed : files.IsWellFormed) :
    ∃ location, after.LeadsTo path location ∧ (∀ name, after.get? (location ++ [name]) = none) ∧
      ∀ inner, location <+: inner → files.IsNewAt path inner := by
  have kept := (inserts.changes_within formed).is_kept_by fun _ new => new.get?_eq_none formed
  obtain ⟨directory, name, slash, parent, free, above⟩ := inserts
  refine ⟨directory ++ [name], ?_, ?_, ?_⟩
  · apply leads_to_of_directory (kept.locate_parent parent)
    exact get?_insert_self files .directory (Location.append_singleton_ne_nil directory name)
  · intro child
    rw [get?_insert_of_ne files .directory (by simp)]
    exact formed.get?_below_free free (List.prefix_append _ _)
  · intro inner below
    exact ⟨directory, name, slash, parent, free, below⟩

/-! ## Requests that make something -/

theorem IsWellFormed.nodup_list {entries : List (Name × Node)} (formed : files.IsWellFormed)
    (listed : files.list path = .ok entries) : (entries.map (·.1)).Nodup := by
  unfold list at listed
  split at listed
  · cases listed
  · cases listed
    exact formed.nodup_children _
  · cases listed

theorem inserts_of_make_directory (made : files.makeDirectory path = .ok after) :
    files.Inserts path .directory after := by
  unfold makeDirectory at made
  split at made
  · cases made
  · rename_i directory name slash parent
    split at made
    · cases made
    · rename_i free
      split at made
      · rename_i above
        cases made
        exact .intro directory name slash parent free above
      · cases made
  · cases made

theorem inserts_of_store {written : List UInt8}
    {update : Option (List UInt8 × Mode) → List UInt8 × Mode} (absent : files.IsAbsent path)
    (stored : files.store path written update = .ok after) :
    ∃ node, files.Inserts path node after := by
  unfold store at stored
  cases located : files.locate .fileToWrite path with
  | error error =>
    rw [located] at stored
    cases stored
  | ok arrival =>
    obtain ⟨directory, name, slash, parent, free, above, rfl⟩ := absent.locate_file_to_write located
    rw [located] at stored
    cases stored
    exact ⟨_, .intro directory name slash parent free above⟩

theorem inserts_of_create (absent : files.IsAbsent path) (created : files.create path = .ok after) :
    ∃ node, files.Inserts path node after := by
  rw [create, write] at created
  exact inserts_of_store absent created

theorem inserts_of_copy_file (absent : files.IsAbsent path)
    (copied : files.copyFile source path = .ok after) : ∃ node, files.Inserts path node after := by
  unfold copyFile at copied
  split at copied
  · cases copied
  · exact inserts_of_store absent copied
  · cases copied

end LineScript.FileSystem
