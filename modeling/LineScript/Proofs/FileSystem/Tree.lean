import Mathlib.Data.List.Nodup
import LineScript.FileSystem.Basic

/-!
# File systems as trees

In a well-formed file system whatever stands anywhere stands in a directory, so that nothing stands at
or below a free location. A directory keeps at most one entry under a name.
-/

namespace LineScript

set_option autoImplicit false

namespace Bindings

variable {κ α : Type} [DecidableEq κ]

theorem get?_eq_some_iff_mem {bindings : Bindings κ α} (distinct : (bindings.map (·.1)).Nodup)
    {key : κ} {value : α} : bindings.get? key = some value ↔ (key, value) ∈ bindings := by
  induction bindings with
  | nil => simp [get?]
  | cons binding others ih =>
    obtain ⟨bound, held⟩ := binding
    rw [List.map_cons, List.nodup_cons] at distinct
    rw [get?_cons, List.mem_cons, Prod.mk.injEq]
    by_cases same : bound = key
    · subst same
      have absent : (bound, value) ∉ others := by
        intro inside
        exact distinct.1 (List.mem_map.mpr ⟨_, inside, rfl⟩)
      rw [if_pos rfl, Option.some.injEq, eq_comm]
      simp only [true_and, absent, or_false]
    · have other : ¬ key = bound := fun same' => same same'.symm
      rw [if_neg same, ih distinct.2]
      simp only [other, false_and, false_or]

theorem get?_ne_none_of_mem {bindings : Bindings κ α} {key : κ} {value : α}
    (bound : (key, value) ∈ bindings) : bindings.get? key ≠ none := by
  intro unbound
  rw [get?, Option.map_eq_none_iff, List.find?_eq_none] at unbound
  exact unbound _ bound (decide_eq_true rfl)

end Bindings

namespace Location

theorem child_name?_eq_some_iff {directory location : Location} {name : Name} :
    directory.childName? location = some name ↔ location = directory ++ [name] := by
  induction directory generalizing location with
  | nil =>
    rcases location with _ | ⟨first, _ | ⟨second, rest⟩⟩ <;> simp [childName?]
  | cons first directory ih =>
    cases location with
    | nil => simp [childName?]
    | cons second location =>
      rw [childName?, List.cons_append, List.cons.injEq]
      by_cases same : first = second
      · rw [if_pos same, ih]
        simp only [same, true_and]
      · have other : ¬ second = first := fun same' => same same'.symm
        rw [if_neg same]
        simp only [reduceCtorEq, other, false_and]

theorem below?_eq_some_iff {outer inner : Location} {names : List Name} :
    outer.below? inner = some names ↔ inner = outer ++ names := by
  induction outer generalizing inner with
  | nil => simp [below?]
  | cons first outer ih =>
    cases inner with
    | nil => simp [below?]
    | cons second inner =>
      rw [below?, List.cons_append, List.cons.injEq]
      by_cases same : first = second
      · rw [if_pos same, ih]
        simp only [same, true_and]
      · have other : ¬ second = first := fun same' => same same'.symm
        rw [if_neg same]
        simp only [reduceCtorEq, other, false_and]

theorem is_some_below?_iff {outer inner : Location} :
    (outer.below? inner).isSome ↔ outer <+: inner := by
  rw [Option.isSome_iff_exists]
  constructor
  · rintro ⟨names, below⟩
    exact ⟨names, (below?_eq_some_iff.mp below).symm⟩
  · rintro ⟨names, rfl⟩
    exact ⟨names, below?_eq_some_iff.mpr rfl⟩

theorem append_singleton_ne_nil (directory : Location) (name : Name) : directory ++ [name] ≠ [] :=
  List.append_ne_nil_of_right_ne_nil directory (List.cons_ne_nil name [])

end Location

namespace FileSystem

variable {files : FileSystem} {location directory other : Location} {name : Name} {node : Node}

/-- A file system whose entries make up a tree of directories. -/
structure IsWellFormed (files : FileSystem) : Prop where
  keyed : ∀ entry ∈ files.entries, entry.1 = entry.1.2.key
  distinct : (files.entries.map (·.1)).Nodup
  rooted : ∀ directory name, files.get? (directory ++ [name]) ≠ none →
    files.get? directory = some .directory

@[simp] theorem get?_root (files : FileSystem) : files.get? [] = some .directory := if_pos rfl

theorem get?_of_ne_nil (files : FileSystem) (inside : location ≠ []) :
    files.get? location = files.entries.get? location.key := if_neg inside

namespace IsWellFormed

theorem get?_eq_some_iff_mem (formed : files.IsWellFormed) (inside : location ≠ []) :
    files.get? location = some node ↔ (location.key, node) ∈ files.entries := by
  rw [get?_of_ne_nil files inside]
  exact Bindings.get?_eq_some_iff_mem formed.distinct

theorem directory_above (formed : files.IsWellFormed) {names : List Name} (inside : names ≠ [])
    (found : files.get? (location ++ names) ≠ none) : files.get? location = some .directory := by
  induction names generalizing location with
  | nil => exact absurd rfl inside
  | cons name rest ih =>
    by_cases last : rest = []
    · subst last
      exact formed.rooted location name found
    · rw [List.append_cons] at found
      have above := ih last found
      apply formed.rooted location name
      rw [above]
      exact Option.some_ne_none _

theorem get?_below_free (formed : files.IsWellFormed) (free : files.get? location = none)
    (below : location <+: other) : files.get? other = none := by
  obtain ⟨names, rfl⟩ := below
  by_cases here : names = []
  · rw [here, List.append_nil]
    exact free
  · apply Decidable.byContradiction
    intro found
    rw [formed.directory_above here found] at free
    cases free

theorem insert (formed : files.IsWellFormed) (free : files.get? (directory ++ [name]) = none)
    (above : files.get? directory = some .directory) (node : Node) :
    (files.insert (directory ++ [name]) node).IsWellFormed where
  keyed entry inside := by
    rcases List.mem_cons.mp inside with rfl | old
    · rfl
    · exact formed.keyed entry (List.mem_of_mem_filter old)
  distinct := by
    apply List.nodup_cons.mpr
    constructor
    · intro bound
      obtain ⟨entry, kept, same⟩ := List.mem_map.mp bound
      exact absurd same (of_decide_eq_true (List.mem_filter.mp kept).2)
    · exact formed.distinct.sublist (List.filter_sublist.map _)
  rooted outer last found := by
    have inside := Location.append_singleton_ne_nil directory name
    by_cases new : outer ++ [last] = directory ++ [name]
    · obtain ⟨rfl, -⟩ := List.append_inj' new rfl
      have apart : outer ≠ outer ++ [name] := by simp
      rw [get?_insert_of_ne files node apart]
      exact above
    · rw [get?_insert_of_ne files node new] at found
      have standing := formed.rooted outer last found
      rw [get?_insert_of_ne]
      · exact standing
      · rintro rfl
        rw [free] at standing
        cases standing

theorem nodup_children (formed : files.IsWellFormed) (directory : Location) :
    ((files.children directory).map (·.1)).Nodup := by
  have distinct := formed.distinct
  rw [List.Nodup, List.pairwise_map] at distinct ⊢
  rw [children, List.pairwise_filterMap]
  apply distinct.imp_of_mem
  intro first second firstInside secondInside apart (name, node) listed (other, otherNode) otherListed same
  have located : ∀ {entry : (Nat × Location) × Node} {name : Name} {node : Node},
      entry ∈ files.entries →
      (if entry.1.1 = directory.length + 1 then
        (directory.childName? entry.1.2).map fun name => (name, entry.2) else none) =
        some (name, node) →
      entry.1 = Location.key (directory ++ [name]) := by
    intro entry name node inside listed
    rw [Option.ite_none_right_eq_some] at listed
    obtain ⟨-, listed⟩ := listed
    obtain ⟨child, child_eq, listed⟩ := Option.map_eq_some_iff.mp listed
    cases listed
    rw [formed.keyed entry inside, Location.child_name?_eq_some_iff.mp child_eq]
  apply apart
  rw [located firstInside listed, located secondInside otherListed]
  exact congrArg (fun name => Location.key (directory ++ [name])) same

end IsWellFormed

/-- Entries at different locations, each of them in a directory, make up a tree. -/
theorem is_well_formed_of_list {entries : List (Location × Node)}
    (distinct : (entries.map (·.1)).Nodup)
    (rooted : ∀ entry ∈ entries,
      (ofList entries).get? entry.1.dropLast = some .directory) :
    (ofList entries).IsWellFormed where
  keyed entry inside := by
    obtain ⟨old, -, rfl⟩ := List.mem_map.mp inside
    rfl
  distinct := by
    have keys : (ofList entries).entries.map (·.1) = (entries.map (·.1)).map Location.key := by
      simp [ofList, Function.comp_def]
    rw [keys]
    exact distinct.map fun _ _ => Location.key_inj.mp
  rooted directory name found := by
    rw [get?_of_ne_nil _ (Location.append_singleton_ne_nil directory name), Bindings.get?,
      Ne, Option.map_eq_none_iff, ← Ne, Option.ne_none_iff_exists'] at found
    obtain ⟨entry, found⟩ := found
    have same : entry.1 = (directory ++ [name]).key := by
      simpa using List.find?_some found
    obtain ⟨old, inside, rfl⟩ := List.mem_map.mp (List.mem_of_find?_eq_some found)
    have standing := rooted old inside
    rw [Location.key_inj.mp same, List.dropLast_concat] at standing
    exact standing

end FileSystem

end LineScript
