import Mathlib
import LineScript.Proofs.FileSystem.Additions
import LineScript.Proofs.FileSystem.Descent
import LineScript.Proofs.Text.ByteOrder

/-!
# What a search selects

A search comes to every entry that real directories lead to, and to each of them once. The steps at an
entry come before those at the entries below it and before those at its later siblings, so that the
order of siblings and the descent together make up one order of paths.
-/

namespace LineScript

set_option autoImplicit false

/-! ## The order of paths -/

namespace Path

end Path

namespace SearchStep

/-- The path that a step is about. -/
def path : SearchStep → Path
  | listing directory => directory
  | unlistable directory _ => directory
  | hit path => path

/-- The place of a step among those about one path: an entry is looked at before it is listed. -/
def rank : SearchStep → Nat
  | hit _ => 0
  | listing _ => 1
  | unlistable _ _ => 2

end SearchStep

namespace Search

variable {files : FileSystem} {wanted : Text → Bool} {directory root path : Path}
  {place : Location} {entries : List (Name × Node)} {entry : Name × Node} {name : Name} {node : Node}
  {names : List Name} {step : SearchStep}

/-! ## Steps -/

/-- The root of a search, if its own name is wanted. -/
def own (wanted : Text → Bool) (root : Path) : List Path :=
  match Path.fileName? root with
  | some name => if wanted name then [root] else []
  | none => []

/-- The steps of a search at a directory itself: it is listed, or passed over. -/
def opening (files : FileSystem) (directory : Path) : List SearchStep :=
  match files.list directory with
  | .error error => [.listing directory, .unlistable directory error]
  | .ok _ => [.listing directory]

/-- The steps of a search at an entry of a directory and below it. -/
def stepsAt (files : FileSystem) (wanted : Text → Bool) (directory : Path) (entry : Name × Node) :
    List SearchStep :=
  (if wanted entry.1.text then [.hit (Path.join directory entry.1.text)] else []) ++
    (if entry.2 = .directory then below files wanted (Path.join directory entry.1.text) else [])

theorem below_of_error {error : HostError} (failed : files.list directory = .error error) :
    below files wanted directory = opening files directory := by
  rw [below, opening, failed]

theorem below_of_ok (listed : files.list directory = .ok entries) :
    below files wanted directory =
      opening files directory ++ (sorted entries).flatMap (stepsAt files wanted directory) := by
  rw [below, opening, listed]
  rfl

theorem path_of_mem_opening (mem : step ∈ opening files directory) :
    step.path = directory ∧ 0 < step.rank := by
  unfold opening at mem
  split at mem
  · rw [List.mem_cons, List.mem_singleton] at mem
    rcases mem with rfl | rfl
    · exact ⟨rfl, Nat.one_pos⟩
    · exact ⟨rfl, Nat.two_pos⟩
  · rw [List.mem_singleton] at mem
    subst mem
    exact ⟨rfl, Nat.one_pos⟩

theorem mem_steps_at :
    step ∈ stepsAt files wanted directory entry ↔
      wanted entry.1.text = true ∧ step = .hit (Path.join directory entry.1.text) ∨
        entry.2 = .directory ∧ step ∈ below files wanted (Path.join directory entry.1.text) := by
  rw [stepsAt, List.mem_append]
  split <;> split <;> simp_all

theorem eq_of_mem_own (mem : path ∈ own wanted root) : path = root := by
  unfold own at mem
  split at mem
  · exact List.mem_singleton.mp (List.mem_ite_nil_right.mp mem).2
  · cases mem

theorem run_eq (files : FileSystem) (wanted : Text → Bool) (root : Path) :
    run files wanted root = (own wanted root).map .hit ++ below files wanted root := by
  rw [run, own]
  congr 1
  cases Path.fileName? root with
  | none => rfl
  | some name =>
    dsimp only
    split <;> rfl

/-- A search from `root`, which leads to a directory at `place`, comes to an entry: every directory on
the way down to it is one itself, not a link to one, and can be listed. -/
structure Reaches (files : FileSystem) (root : Path) (place : Location) (names : List Name)
    (name : Name) (node : Node) : Prop where
  real : ∀ outer, outer <+: names → files.get? (place ++ outer) = some .directory
  listed : ∀ outer, outer <+: names → ∃ entries, files.list (root.descend outer) = .ok entries
  standing : files.get? (place ++ names ++ [name]) = some node

namespace Reaches

variable {first : Name}

theorem here (formed : files.IsWellFormed) (listed : files.list directory = .ok entries)
    (standing : files.get? (place ++ [name]) = some node) :
    Reaches files directory place [] name node where
  real outer above := by
    rw [List.prefix_nil.mp above, List.append_nil]
    apply formed.rooted place name
    rw [standing]
    exact Option.some_ne_none _
  listed outer above := by
    rw [List.prefix_nil.mp above]
    exact ⟨entries, listed⟩
  standing := by rwa [List.append_nil]

theorem cons_iff : Reaches files directory place (first :: names) name node ↔
    files.get? place = some .directory ∧ (∃ entries, files.list directory = .ok entries) ∧
      Reaches files (Path.join directory first.text) (place ++ [first]) names name node := by
  constructor
  · rintro ⟨real, listed, standing⟩
    have start := real [] List.nil_prefix
    rw [List.append_nil] at start
    refine ⟨start, listed [] List.nil_prefix, ?_, ?_, ?_⟩
    · intro outer above
      rw [List.append_assoc]
      exact real (first :: outer) (List.cons_prefix_cons.mpr ⟨rfl, above⟩)
    · exact fun outer above => listed (first :: outer) (List.cons_prefix_cons.mpr ⟨rfl, above⟩)
    · simpa using standing
  · rintro ⟨start, opened, real, listed, standing⟩
    refine ⟨?_, ?_, ?_⟩
    · intro outer above
      rcases List.prefix_cons_iff.mp above with rfl | ⟨inner, rfl, innerAbove⟩
      · rwa [List.append_nil]
      · rw [List.append_cons]
        exact real inner innerAbove
    · intro outer above
      rcases List.prefix_cons_iff.mp above with rfl | ⟨inner, rfl, innerAbove⟩
      · exact opened
      · exact listed inner innerAbove
    · simpa using standing

end Reaches

theorem opening_subset_below (opens : step ∈ opening files directory) :
    step ∈ below files wanted directory := by
  cases listed : files.list directory with
  | error error => rwa [below_of_error listed]
  | ok entries =>
    rw [below_of_ok listed]
    exact List.mem_append_left _ opens

/-- The steps below a directory are its own, and those at the entries that the search comes to. -/
theorem mem_below_iff (formed : files.IsWellFormed) (leads : files.LeadsTo directory place) :
    step ∈ below files wanted directory ↔ step ∈ opening files directory ∨
      ∃ names name node, Reaches files directory place names name node ∧
        (wanted name.text = true ∧ step = .hit (directory.descend (names ++ [name])) ∨
          node = .directory ∧ step ∈ opening files (directory.descend (names ++ [name]))) := by
  induction directory using below.induct files generalizing place with
  | case1 directory error failed =>
    have listed := FileSystem.list_eq_ok_iff.mpr ⟨place, leads, rfl⟩
    cases failed.symm.trans listed
  | case2 directory entries listed ih =>
    have listed_eq := FileSystem.list_eq_ok_iff.mpr ⟨place, leads, rfl⟩
    cases listed.symm.trans listed_eq
    have mem_sorted : ∀ {entry}, entry ∈ sorted (files.children place) ↔
        files.get? (place ++ [entry.1]) = some entry.2 := by
      intro entry
      rw [sorted, List.mem_mergeSort]
      exact formed.mem_children_iff
    rw [below_of_ok listed, List.mem_append, List.mem_flatMap]
    apply or_congr_right
    constructor
    · rintro ⟨⟨name, node⟩, mem, atEntry⟩
      have standing := mem_sorted.mp mem
      have reached := Reaches.here formed listed standing
      rcases mem_steps_at.mp atEntry with own | ⟨rfl, inner⟩
      · exact ⟨[], name, node, reached, .inl own⟩
      · cases innerListed : files.list (Path.join directory name.text) with
        | error error =>
          rw [below_of_error innerListed] at inner
          exact ⟨[], name, .directory, reached, .inr ⟨rfl, inner⟩⟩
        | ok innerEntries =>
          obtain ⟨innerPlace, innerLeads, -⟩ := FileSystem.list_eq_ok_iff.mp innerListed
          cases leads.eq_of_join innerLeads standing
          rcases (ih name innerLeads).mp inner with opens | ⟨names, last, node, found, steps⟩
          · exact ⟨[], name, .directory, reached, .inr ⟨rfl, opens⟩⟩
          · refine ⟨name :: names, last, node, Reaches.cons_iff.mpr ⟨?_, ⟨_, listed⟩, found⟩, steps⟩
            simpa using reached.real [] List.nil_prefix
    · rintro ⟨names, name, node, reached, steps⟩
      cases names with
      | nil =>
        have standing := reached.standing
        rw [List.append_nil] at standing
        refine ⟨(name, node), mem_sorted.mpr standing, mem_steps_at.mpr ?_⟩
        rcases steps with own | ⟨isDirectory, opens⟩
        · exact .inl own
        · exact .inr ⟨isDirectory, opening_subset_below opens⟩
      | cons first names =>
        obtain ⟨-, -, inner⟩ := Reaches.cons_iff.mp reached
        have standing := inner.real [] List.nil_prefix
        rw [List.append_nil] at standing
        obtain ⟨innerEntries, innerListed⟩ := inner.listed [] List.nil_prefix
        obtain ⟨innerPlace, innerLeads, -⟩ := FileSystem.list_eq_ok_iff.mp innerListed
        cases leads.eq_of_join innerLeads standing
        refine ⟨(first, .directory), mem_sorted.mpr standing, mem_steps_at.mpr (.inr ⟨rfl, ?_⟩)⟩
        exact (ih first innerLeads).mpr (.inr ⟨names, name, node, inner, steps⟩)

/-- The steps below a path are its own and, if it leads to a directory, those at the entries that the
search comes to. -/
theorem mem_below_iff_of_status (formed : files.IsWellFormed) :
    step ∈ below files wanted root ↔ step ∈ opening files root ∨
      ∃ place names name node, files.status root = .ok (place, .directory) ∧
        Reaches files root place names name node ∧
        (wanted name.text = true ∧ step = .hit (root.descend (names ++ [name])) ∨
          node = .directory ∧ step ∈ opening files (root.descend (names ++ [name]))) := by
  simp only [FileSystem.status_eq_directory_iff]
  cases listed : files.list root with
  | error error =>
    rw [below_of_error listed]
    refine ⟨.inl, ?_⟩
    rintro (opens | ⟨place, names, name, node, leads, -⟩)
    · exact opens
    · cases listed.symm.trans (FileSystem.list_eq_ok_iff.mpr ⟨place, leads, rfl⟩)
  | ok entries =>
    obtain ⟨place, leads, -⟩ := FileSystem.list_eq_ok_iff.mp listed
    rw [mem_below_iff formed leads]
    apply or_congr_right
    constructor
    · rintro ⟨names, name, node, reached, steps⟩
      exact ⟨place, names, name, node, leads, reached, steps⟩
    · rintro ⟨other, names, name, node, otherLeads, reached, steps⟩
      rw [← FileSystem.status_eq_directory_iff] at leads otherLeads
      cases leads.symm.trans otherLeads
      exact ⟨names, name, node, reached, steps⟩

/-! ## The selection -/

theorem mem_hits {steps : List SearchStep} : path ∈ hits steps ↔ .hit path ∈ steps := by
  rw [hits, List.mem_filterMap]
  constructor
  · rintro ⟨step, mem, same⟩
    cases step with
    | hit found =>
      cases same
      exact mem
    | listing | unlistable => cases same
  · exact fun mem => ⟨_, mem, rfl⟩

theorem hits_run (files : FileSystem) (wanted : Text → Bool) (root : Path) :
    hits (run files wanted root) = own wanted root ++ hits (below files wanted root) := by
  rw [run_eq, hits, List.filterMap_append, List.filterMap_map, hits]
  congr 1
  exact List.filterMap_some

theorem hit_not_mem_opening : .hit path ∉ opening files directory := by
  intro mem
  exact absurd (path_of_mem_opening mem).2 (Nat.lt_irrefl 0)

theorem mem_hits_below_iff (formed : files.IsWellFormed) (wanted : Text → Bool) (root path : Path) :
    path ∈ hits (below files wanted root) ↔
      ∃ place names name node, files.status root = .ok (place, .directory) ∧
        Reaches files root place names name node ∧ wanted name.text = true ∧
        path = root.descend (names ++ [name]) := by
  rw [mem_hits, mem_below_iff_of_status formed]
  simp only [hit_not_mem_opening, false_or, and_false, or_false, SearchStep.hit.injEq]

end Search

end LineScript
