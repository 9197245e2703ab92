import LineScript.Proofs.FileSystem.Additions
import LineScript.Proofs.FileSystem.Reaching

/-!
# Copies of trees

A tree can be copied if the host finds all that its paths lead to. The copy has an entry where a path
that goes down from the source leads to something, and it has there what that path leads to, so it holds
no links.
-/

namespace LineScript.FileSystem

set_option autoImplicit false

variable {files before after : FileSystem} {path source destination : Path}
  {directory location target : Location} {name : Name} {names : List Name} {node : Node}

/-! ## Entries on the way down -/

theorem IsWellFormed.get?_of_follow (formed : files.IsWellFormed) (links : Nat) (slash : Bool)
    (directory : Location) (components : List Component)
    (start : files.get? directory = some .directory)
    (found : files.follow .destination links slash directory components =
      .ok (.present location node)) : files.get? location = some node := by
  induction links using Nat.strongRecOn generalizing slash directory components with
  | ind links fewer =>
    induction components generalizing directory with
    | nil =>
      rw [follow] at found
      cases found
      exact start
    | cons component components ih =>
      cases component with
      | here =>
        rw [follow] at found
        exact ih directory start found
      | up =>
        rw [follow] at found
        apply ih directory.dropLast _ found
        rcases List.eq_nil_or_concat' directory with rfl | ⟨outer, last, rfl⟩
        · exact get?_root files
        · rw [List.dropLast_concat]
          apply formed.rooted outer last
          rw [start]
          exact Option.some_ne_none _
      | entry name =>
        rw [follow_entry _ rfl rfl] at found
        split at found
        · cases found
        · rcases standing : files.get? (directory ++ [name]) with _ | _ | ⟨content, mode⟩ | link |
            device
          · rw [standing] at found
            dsimp only at found
            split at found <;> cases found
          · rw [standing] at found
            exact ih (directory ++ [name]) standing found
          · rw [standing] at found
            dsimp only at found
            split at found <;> cases found
            exact standing
          · rw [standing] at found
            simp only [Request.destination, Bool.not_true, Bool.and_false, Bool.false_eq_true,
              if_false] at found
            split at found
            · cases found
            · cases links with
              | zero => cases found
              | succ links =>
                refine fewer links (Nat.lt_succ_self links) _ _ _ ?_ found
                split
                · exact get?_root files
                · exact start
          · rw [standing] at found
            dsimp only at found
            split at found <;> cases found
            exact standing

theorem is_too_long_of_status_join (leads : files.LeadsTo path directory)
    (found : files.status (Path.join path name.text) = .ok (location, node)) :
    name.isTooLong = false := by
  obtain ⟨left, lookup⟩ :=
    leads.locate_join .destination rfl (refusal?_of_status found)
  rw [status_eq_ok_iff.mp found, follow_entry _ rfl rfl] at lookup
  split at lookup
  · cases lookup
  · exact Bool.eq_false_iff.mpr ‹_›

theorem LeadsTo.get?_of_status_join (leads : files.LeadsTo path directory)
    (formed : files.IsWellFormed) (entry : files.get? (directory ++ [name]) ≠ none)
    (found : files.status (Path.join path name.text) = .ok (location, node)) :
    files.get? location = some node := by
  obtain ⟨left, lookup⟩ :=
    leads.locate_join .destination rfl (refusal?_of_status found)
  rw [status_eq_ok_iff.mp found] at lookup
  exact formed.get?_of_follow _ _ _ _ (formed.rooted _ _ entry) lookup.symm

/-- What is reached further down is reached through an entry of the directory that the path leads to. -/
theorem exists_leads_to_of_status_descend (inside : path ≠ [])
    (found : files.status (path.descend (name :: names)) = .ok (location, node)) :
    ∃ directory, files.LeadsTo path directory ∧ files.get? (directory ++ [name]) ≠ none := by
  induction names generalizing path name with
  | nil => exact exists_leads_to_of_status_join inside found
  | cons next names ih =>
    obtain ⟨inner, leads, -⟩ := ih (Path.join_ne_nil path name) found
    exact exists_leads_to_of_status_join inside (status_eq_directory_iff.mpr leads)

/-! ## Sources and copies -/

/-- A source in which the host finds a regular file, or a directory with only such entries. -/
inductive IsCopyable (files : FileSystem) : Path → Prop where
  | file (source : Path) (location : Location) (content : List UInt8) (mode : Mode)
    (found : files.status source = .ok (location, .file content mode)) : IsCopyable files source
  | directory (source : Path) (location : Location)
    (found : files.status source = .ok (location, .directory))
    (entries : ∀ name, files.get? (location ++ [name]) ≠ none →
      IsCopyable files (Path.join source name.text)) : IsCopyable files source

theorem IsWithinLinks.status_eq (links : files.IsWithinLinks source)
    (short : files.IsShort source destination) (found : files.Reaches source location node) :
    files.status source = .ok (location, node) :=
  status_eq_ok_iff_reaches_within.mpr ⟨(short [] _ _ found).1, links [] _ _ found⟩

theorem IsTree.is_copyable (tree : files.IsTree source) (links : files.IsWithinLinks source)
    (short : files.IsShort source destination) : files.IsCopyable source := by
  induction tree generalizing destination with
  | file source location content mode found => exact .file _ _ _ _ (links.status_eq short found)
  | directory source location found entries ih =>
    refine .directory _ _ (links.status_eq short found) ?_
    intro name standing
    exact ih name standing (links.join name) (short.join name)

theorem IsCopyable.exists_status (copyable : files.IsCopyable source) :
    ∃ location node, files.status source = .ok (location, node) ∧ ∀ link, node ≠ .link link := by
  cases copyable with
  | file _ location content mode found => exact ⟨location, _, found, nofun⟩
  | directory _ location found entries => exact ⟨location, _, found, nofun⟩

theorem IsCopyable.ne_nil (copyable : files.IsCopyable source) : source ≠ [] := by
  rintro rfl
  obtain ⟨location, node, found, -⟩ := copyable.exists_status
  cases refusal?_of_status found

/-- All that is reached from a source that can be copied can be copied, so it is no link. -/
theorem IsCopyable.descend (copyable : files.IsCopyable source)
    (found : files.status (source.descend names) = .ok (location, node)) :
    files.IsCopyable (source.descend names) := by
  induction names generalizing source with
  | nil => exact copyable
  | cons name names ih =>
    obtain ⟨directory, leads, entry⟩ := exists_leads_to_of_status_descend copyable.ne_nil found
    rw [← status_eq_directory_iff] at leads
    cases copyable with
    | file _ place content mode isFile => cases leads.symm.trans isFile
    | directory _ place isDirectory entries =>
      cases leads.symm.trans isDirectory
      exact ih (entries name entry) found

/-- What stands at and below `target` is a copy of what `source` leads to: paths that go down from the
source lead to something just where the copy has an entry, and to the same thing. -/
def IsCopyOf (before : FileSystem) (source : Path) (after : FileSystem) (target : Location) : Prop :=
  ∀ names node, after.get? (target ++ names) = some node ↔
    ∃ location, before.status (source.descend names) = .ok (location, node)

theorem IsCopyOf.ne_link (copy : before.IsCopyOf source after target)
    (copyable : before.IsCopyable source) (names : List Name) (link : Path) :
    after.get? (target ++ names) ≠ some (.link link) := by
  intro standing
  obtain ⟨location, found⟩ := (copy names _).mp standing
  obtain ⟨place, node, again, real⟩ := (copyable.descend found).exists_status
  cases found.symm.trans again
  exact real link rfl

theorem IsCopyOf.of_get?_eq {later : FileSystem} (copy : before.IsCopyOf source after target)
    (same : ∀ names, later.get? (target ++ names) = after.get? (target ++ names)) :
    before.IsCopyOf source later target := by
  intro names node
  rw [same]
  exact copy names node

theorem is_copy_of_file {content : List UInt8} {mode : Mode} (inside : source ≠ [])
    (found : before.status source = .ok (location, .file content mode))
    (here : after.get? target = some (.file content mode))
    (below : ∀ name names, after.get? (target ++ name :: names) = none) :
    before.IsCopyOf source after target := by
  intro names node
  cases names with
  | nil =>
    rw [List.append_nil, here, Path.descend_nil, found]
    simp
  | cons name names =>
    rw [below name names]
    constructor
    · exact nofun
    · rintro ⟨place, further⟩
      cases (reaches_of_status found).eq_nil_of_descend inside (reaches_of_status further)

theorem is_copy_of_directory (inside : source ≠ [])
    (found : before.status source = .ok (location, .directory))
    (here : after.get? target = some .directory)
    (entries : ∀ name, before.get? (location ++ [name]) ≠ none →
      before.IsCopyOf (Path.join source name.text) after (target ++ [name]))
    (others : ∀ name names, before.get? (location ++ [name]) = none →
      after.get? (target ++ name :: names) = none) : before.IsCopyOf source after target := by
  intro names node
  cases names with
  | nil =>
    rw [List.append_nil, here, Path.descend_nil, found]
    simp
  | cons name names =>
    by_cases absent : before.get? (location ++ [name]) = none
    · rw [others name names absent]
      constructor
      · exact nofun
      · rintro ⟨place, further⟩
        obtain ⟨directory, leads, entry⟩ := exists_leads_to_of_status_descend inside further
        cases (status_eq_directory_iff.mpr leads).symm.trans found
        exact absurd absent entry
    · rw [List.append_cons]
      exact entries name absent names node

/-! ## Requests at a free name -/

/-- A path ends in a free name of a directory. -/
structure EndsFree (files : FileSystem) (path : Path) (directory : Location) (name : Name)
    (slash : Bool) : Prop where
  parent : files.locateParent path = .ok (directory, .entry name slash)
  above : files.get? directory = some .directory
  free : files.get? (directory ++ [name]) = none

namespace EndsFree

variable {slash : Bool}

/-- A lookup arrives at the free name, unless it wants a file before a slash. -/
theorem locate_eq {request : Request} (ends : files.EndsFree path directory name slash)
    (direct : request.stepwise = false) (possible : (slash && request.creates) = false) :
    files.locate request path = .ok (.vacant directory name) := by
  rcases files.approach path with ⟨_, _, _, parent, short, lookups⟩ | ⟨noParent, _⟩ | ⟨noParent, _⟩
  · rw [ends.parent] at parent
    cases parent
    obtain ⟨left, lookup⟩ := lookups request direct
    rw [lookup, follow, ends.free]
    simp only [List.isEmpty_nil, Bool.true_and, possible, direct, short, ends.above, Bool.false_and,
      Bool.or_false, Bool.false_eq_true, if_false, BEq.rfl, if_true]
  · exact absurd ends.parent (noParent _ _ _)
  · exact absurd ends.parent (noParent _ _ _)

theorem link_status_eq (ends : files.EndsFree path directory name slash) :
    files.linkStatus path = .error .noSuchEntry := by
  rw [linkStatus, locateEntry, ends.locate_eq rfl (Bool.and_false slash)]

theorem make_directory_eq (ends : files.EndsFree path directory name slash) :
    files.makeDirectory path = .ok (files.insert (directory ++ [name]) .directory) := by
  rw [makeDirectory, ends.parent]
  dsimp only
  rw [ends.free]
  dsimp only
  rw [if_pos ends.above]

theorem copy_file_eq {content : List UInt8} {mode : Mode}
    (ends : files.EndsFree path directory name false)
    (found : files.status source = .ok (location, .file content mode)) :
    files.copyFile source path = .ok (files.insert (directory ++ [name]) (.file content mode)) := by
  rw [copyFile, found]
  dsimp only
  rw [store, ends.locate_eq rfl rfl]

theorem prefix_of_is_new_at (ends : files.EndsFree path directory name slash)
    (new : files.IsNewAt path location) : directory ++ [name] <+: location := by
  obtain ⟨_, _, _, parent, -, below⟩ := new
  cases ends.parent.symm.trans parent
  exact below

/-- A free name in the directory that a path leads to is the end of a longer path. -/
theorem of_leads_to (leads : files.LeadsTo path directory)
    (above : files.get? directory = some .directory) (short : name.isTooLong = false)
    (accepted : refusal? (Path.join path name.text) = none)
    (free : files.get? (directory ++ [name]) = none) :
    files.EndsFree (Path.join path name.text) directory name false :=
  ⟨leads.locate_parent_join_eq short accepted, above, free⟩

end EndsFree

/-! ## A new directory -/

/-- A directory that has just been made at the end of a path: it is empty, and nothing else changed. -/
structure IsMade (before : FileSystem) (path : Path) (target : Location) (after : FileSystem) :
    Prop where
  changes : ChangesWithin (target <+: ·) before after
  leads : after.LeadsTo path target
  here : after.get? target = some .directory
  empty : ∀ name names, after.get? (target ++ name :: names) = none
  get?_eq : ∀ location, location ≠ target → after.get? location = before.get? location

theorem EndsFree.is_made {slash : Bool} (ends : files.EndsFree path directory name slash)
    (formed : files.IsWellFormed) :
    files.IsMade path (directory ++ [name]) (files.insert (directory ++ [name]) .directory) := by
  have changes := (inserts_of_make_directory ends.make_directory_eq).changes_within formed
  have kept := changes.is_kept_by fun _ new => new.get?_eq_none formed
  have here := get?_insert_self files .directory (Location.append_singleton_ne_nil directory name)
  constructor
  · exact changes.mono fun _ new => ends.prefix_of_is_new_at new
  · exact leads_to_of_directory (kept.locate_parent ends.parent) here
  · exact here
  · intro child names
    rw [get?_insert_of_ne _ _ (by simp)]
    exact formed.get?_below_free ends.free (List.prefix_append _ _)
  · exact fun _ apart => get?_insert_of_ne files .directory apart

theorem prefix_append_singleton_iff {other : Name} :
    target ++ [name] <+: target ++ [other] ++ names ↔ name = other := by
  rw [List.append_assoc, List.prefix_append_right_inj, List.singleton_append, List.cons_prefix_cons,
    and_iff_left List.nil_prefix]

/-- A new directory in which all entries of a directory have been copied is a copy of that directory. -/
theorem IsMade.is_copy_of {made : FileSystem} {entries : List (Name × Node)}
    (isMade : files.IsMade destination target made) (inside : source ≠ [])
    (found : before.status source = .ok (location, .directory))
    (listed : ∀ entry, entry ∈ entries ↔ before.get? (location ++ [entry.1]) = some entry.2)
    (changes : ChangesWithin (fun place => ∃ entry ∈ entries, target ++ [entry.1] <+: place) made
      after)
    (copies : ∀ entry ∈ entries,
      before.IsCopyOf (Path.join source entry.1.text) after (target ++ [entry.1])) :
    before.IsCopyOf source after target := by
  apply is_copy_of_directory inside found
  · rw [changes.get?_eq, isMade.here]
    rintro ⟨entry, -, longer⟩
    have longer := longer.length_le
    rw [List.length_append, List.length_singleton] at longer
    exact absurd longer (Nat.not_succ_le_self _)
  · intro child standing
    obtain ⟨node, standing⟩ := Option.ne_none_iff_exists'.mp standing
    exact copies (child, node) ((listed _).mpr standing)
  · intro child names absent
    rw [changes.get?_eq, isMade.empty]
    rintro ⟨entry, mem, around⟩
    rw [List.append_cons target child names] at around
    cases prefix_append_singleton_iff.mp around
    rw [(listed entry).mp mem] at absent
    cases absent

/-! ## Sources apart from their copies -/

/-- If a source is a directory, a later file system has the same entries in it, and none of them is at a
location to come. -/
def IsSteady (before : FileSystem) (source : Path) (target : Location) (after : FileSystem) : Prop :=
  ∀ place, before.status source = .ok (place, .directory) → ∀ child,
    place ++ [child] ≠ target ∧ after.get? (place ++ [child]) = before.get? (place ++ [child])

/-- Growth in a free place apart from a source leaves all that is reached below the source as it is. -/
theorem IsApart.is_steady_join {outer : Location} (apart : before.IsApart source outer)
    (formed : before.IsWellFormed) (free : before.get? outer = none)
    (leads : before.LeadsTo source directory) (entry : before.get? (directory ++ [name]) ≠ none)
    (grown : ChangesWithin (outer <+: ·) before after) (inside : outer <+: target) :
    before.IsSteady (Path.join source name.text) target after := by
  intro place reached child
  have around : ¬ outer <+: place ++ [child] := by
    rw [List.prefix_concat_iff]
    rintro (rfl | around)
    · exact apart [name] _ _ (reaches_of_status reached) (List.prefix_append _ _)
    · have standing := leads.get?_of_status_join formed entry reached
      rw [formed.get?_below_free free around] at standing
      cases standing
  constructor
  · rintro rfl
    exact around inside
  · exact grown.get?_eq around

/-- What a copy needs: a tree to copy, all of it reached through few links, a free name in a directory to
copy it to, and paths that are short enough. The name is not inside what is copied, and a slash after it
asks for a directory. -/
structure CanCopy (files : FileSystem) (source destination : Path) (directory : Location)
    (name : Name) (slash : Bool) : Prop where
  tree : files.IsTree source
  links : files.IsWithinLinks source
  ends : files.EndsFree destination directory name slash
  slashless : slash = true → files.isDirectory source = true
  apart : files.IsApart source (directory ++ [name])
  short : files.IsShort source destination

theorem CanCopy.is_copyable {slash : Bool}
    (can : files.CanCopy source destination directory name slash) : files.IsCopyable source :=
  can.tree.is_copyable can.links can.short

theorem is_directory_eq_true_iff :
    files.isDirectory path = true ↔ ∃ location, files.status path = .ok (location, .directory) := by
  unfold isDirectory
  split
  · rename_i location found
    simp [found]
  · rename_i other
    simpa using other

end LineScript.FileSystem
