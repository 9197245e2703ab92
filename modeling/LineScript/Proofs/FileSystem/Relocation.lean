import LineScript.Proofs.FileSystem.Lookups

/-!
# Moved entries

A rename onto an absent path carries an entry, with all that is below it, to a free location. Nothing
is lost on the way: what stood anywhere stands at the location that the move takes it to.
-/

namespace LineScript

set_option autoImplicit false

namespace Location

variable {old new location other : Location}

/-- Where something at a location comes to be when what is at or below `old` goes to `new`. -/
def moved (old new location : Location) : Location :=
  match old.below? location with
  | some names => new ++ names
  | none => location

@[simp] theorem moved_append (old new : Location) (names : List Name) :
    moved old new (old ++ names) = new ++ names := by
  rw [moved, below?_eq_some_iff.mpr rfl]

theorem moved_of_outside (new : Location) (outside : ¬ old <+: location) :
    moved old new location = location := by
  rw [← is_some_below?_iff, Bool.not_eq_true, Option.isSome_eq_false_iff, Option.isNone_iff_eq_none]
    at outside
  rw [moved, outside]

theorem moved_ne_nil (old : Location) (newInside : new ≠ []) (inside : location ≠ []) :
    moved old new location ≠ [] := by
  rw [moved]
  split
  · exact List.append_ne_nil_of_left_ne_nil newInside _
  · exact inside

theorem moved_inj (outside : ¬ new <+: location) (otherOutside : ¬ new <+: other)
    (same : moved old new location = moved old new other) : location = other := by
  by_cases below : old <+: location
  · obtain ⟨names, rfl⟩ := below
    rw [moved_append] at same
    by_cases otherBelow : old <+: other
    · obtain ⟨otherNames, rfl⟩ := otherBelow
      rw [moved_append] at same
      rw [List.append_cancel_left same]
    · rw [moved_of_outside new otherBelow] at same
      exact absurd ⟨names, same⟩ otherOutside
  · rw [moved_of_outside new below] at same
    by_cases otherBelow : old <+: other
    · obtain ⟨otherNames, rfl⟩ := otherBelow
      rw [moved_append] at same
      exact absurd ⟨otherNames, same.symm⟩ outside
    · rw [moved_of_outside new otherBelow] at same
      exact same

end Location

namespace FileSystem

variable {files after : FileSystem} {source destination : Path}
  {oldDirectory newDirectory old location : Location} {oldName newName name : Name} {node : Node}

theorem erase_of_free (inside : location ≠ []) (free : files.get? location = none) :
    files.erase location = files := by
  rw [get?_of_ne_nil files inside] at free
  have kept : files.entries.erase location.key = files.entries := by
    apply List.filter_eq_self.mpr
    rintro ⟨key, node⟩ bound
    apply decide_eq_true
    rintro rfl
    exact Bindings.get?_ne_none_of_mem bound free
  rw [erase, kept]

theorem get?_ne_none_of_mem (bound : (location.key, node) ∈ files.entries) :
    files.get? location ≠ none := by
  by_cases root : location = []
  · rw [root, get?_root]
    exact Option.some_ne_none _
  · rw [get?_of_ne_nil files root]
    exact Bindings.get?_ne_none_of_mem bound

/-- What a move needs: something stands at `old`, the name at `new` is free in a directory, and that
directory is not a part of what is moved. -/
structure CanRelocate (files : FileSystem) (old newDirectory : Location) (newName : Name) :
    Prop where
  formed : files.IsWellFormed
  inside : old ≠ []
  free : files.get? (newDirectory ++ [newName]) = none
  above : files.get? newDirectory = some .directory
  outside : ¬ old <+: newDirectory

namespace CanRelocate

variable (can : files.CanRelocate old newDirectory newName)

include can

theorem entries_relocate :
    (files.relocate old (newDirectory ++ [newName])).entries =
      files.entries.map fun entry =>
        ((Location.moved old (newDirectory ++ [newName]) entry.1.2).key, entry.2) := by
  apply List.map_congr_left
  rintro ⟨key, node⟩ bound
  have keyed := can.formed.keyed _ bound
  dsimp only at keyed ⊢
  rw [Location.moved]
  cases old.below? key.2 with
  | some names => rfl
  | none => exact congrArg (fun key => (key, node)) keyed

theorem not_below_new {entry : (Nat × Location) × Node} (bound : entry ∈ files.entries) :
    ¬ newDirectory ++ [newName] <+: entry.1.2 := by
  intro below
  have standing : (entry.1.2.key, entry.2) ∈ files.entries := by
    rw [← can.formed.keyed entry bound]
    exact bound
  exact get?_ne_none_of_mem standing (can.formed.get?_below_free can.free below)

theorem nodup_relocate :
    ((files.relocate old (newDirectory ++ [newName])).entries.map (·.1)).Nodup := by
  have distinct := can.formed.distinct
  rw [can.entries_relocate, List.map_map]
  rw [List.Nodup, List.pairwise_map] at distinct ⊢
  apply distinct.imp_of_mem
  intro first second firstBound secondBound apart same
  apply apart
  rw [can.formed.keyed first firstBound, can.formed.keyed second secondBound]
  apply congrArg
  exact Location.moved_inj (can.not_below_new firstBound) (can.not_below_new secondBound)
    (Location.key_inj.mp same)

theorem get?_moved (standing : files.get? location = some node) :
    (files.relocate old (newDirectory ++ [newName])).get?
      (Location.moved old (newDirectory ++ [newName]) location) = some node := by
  by_cases root : location = []
  · have fixed : ¬ old <+: location := by
      rw [root, List.prefix_nil]
      exact can.inside
    rw [Location.moved_of_outside _ fixed, root, get?_root]
    rw [root, get?_root] at standing
    exact standing
  · have newInside := Location.append_singleton_ne_nil newDirectory newName
    rw [get?_of_ne_nil _ (Location.moved_ne_nil old newInside root),
      Bindings.get?_eq_some_iff_mem can.nodup_relocate, can.entries_relocate]
    exact List.mem_map.mpr ⟨_, (can.formed.get?_eq_some_iff_mem root).mp standing, rfl⟩

theorem exists_of_get?_ne_none (inside : location ≠ [])
    (found : (files.relocate old (newDirectory ++ [newName])).get? location ≠ none) :
    ∃ origin, files.get? origin ≠ none ∧
      location = Location.moved old (newDirectory ++ [newName]) origin := by
  obtain ⟨node, standing⟩ := Option.ne_none_iff_exists'.mp found
  rw [get?_of_ne_nil _ inside, Bindings.get?_eq_some_iff_mem can.nodup_relocate,
    can.entries_relocate] at standing
  obtain ⟨entry, bound, same⟩ := List.mem_map.mp standing
  injection same with same
  have standing : (entry.1.2.key, entry.2) ∈ files.entries := by
    rw [← can.formed.keyed entry bound]
    exact bound
  exact ⟨entry.1.2, get?_ne_none_of_mem standing, (Location.key_inj.mp same).symm⟩

theorem is_well_formed_relocate : (files.relocate old (newDirectory ++ [newName])).IsWellFormed where
  keyed entry bound := by
    rw [can.entries_relocate] at bound
    obtain ⟨_, -, rfl⟩ := List.mem_map.mp bound
    rfl
  distinct := can.nodup_relocate
  rooted directory name found := by
    obtain ⟨origin, standing, same⟩ :=
      can.exists_of_get?_ne_none (Location.append_singleton_ne_nil directory name) found
    -- The directory of what is there now is where the move takes the directory it was in before,
    -- except that the entry that is moved itself has come into another directory.
    by_cases below : old <+: origin
    · obtain ⟨names, rfl⟩ := below
      rw [Location.moved_append] at same
      rcases List.eq_nil_or_concat' names with rfl | ⟨upper, last, rfl⟩
      · rw [List.append_nil] at same
        obtain ⟨rfl, -⟩ := List.append_inj' same rfl
        have kept := can.get?_moved can.above
        rw [Location.moved_of_outside _ can.outside] at kept
        exact kept
      · rw [← List.append_assoc] at same standing
        obtain ⟨rfl, -⟩ := List.append_inj' same rfl
        have kept := can.get?_moved (can.formed.rooted (old ++ upper) last standing)
        rw [Location.moved_append] at kept
        exact kept
    · rw [Location.moved_of_outside _ below] at same
      subst same
      have kept := can.get?_moved (can.formed.rooted directory name standing)
      rw [Location.moved_of_outside _ fun above => below (above.trans (List.prefix_append _ _))]
        at kept
      exact kept

end CanRelocate

/-! ## Renames -/

/-- What a rename that succeeds has found out about the entry `old` that it moves and about the name in
`newDirectory` that it moves it to. -/
structure Renames (files : FileSystem) (old newDirectory : Location) (newName : Name)
    (newSlash : Bool) (node : Node) : Prop where
  standing : files.get? old = some node
  slashless : node ≠ .directory → newSlash = false
  above : files.get? newDirectory = some .directory
  outside : node = .directory → ¬ old <+: newDirectory
  replaceable : old ≠ newDirectory ++ [newName] →
    files.replacement (node == .directory) (newDirectory ++ [newName]) = .ok ()

theorem renames_of_rename (renamed : files.rename source destination = .ok after) :
    ∃ oldDirectory oldName oldSlash newDirectory newName newSlash node,
      files.locateParent source = .ok (oldDirectory, .entry oldName oldSlash) ∧
      files.locateParent destination = .ok (newDirectory, .entry newName newSlash) ∧
      files.Renames (oldDirectory ++ [oldName]) newDirectory newName newSlash node ∧
      after = if oldDirectory ++ [oldName] = newDirectory ++ [newName] then files
        else (files.erase (newDirectory ++ [newName])).relocate (oldDirectory ++ [oldName])
          (newDirectory ++ [newName]) := by
  unfold rename at renamed
  split at renamed
  · cases renamed
  · cases renamed
  · rename_i oldDirectory oldName oldSlash newDirectory newName newSlash oldParent newParent
    dsimp only at renamed
    split at renamed
    · cases renamed
    · rename_i node standing
      refine ⟨oldDirectory, oldName, oldSlash, newDirectory, newName, newSlash, node, oldParent,
        newParent, ?_⟩
      split at renamed
      · cases renamed
      · rename_i fits
        split at renamed
        · cases renamed
        · rename_i above
          split at renamed
          · cases renamed
          · rename_i outside
            have slashless : node ≠ .directory → newSlash = false := by
              intro other
              simp only [Bool.not_eq_true, Bool.and_eq_false_iff, Bool.not_eq_false',
                beq_iff_eq, other, false_or, Bool.or_eq_false_iff] at fits
              exact fits.2
            have outside : node = .directory → ¬ oldDirectory ++ [oldName] <+: newDirectory := by
              rintro rfl
              rw [← Location.is_some_below?_iff]
              simpa using outside
            have above : files.get? newDirectory = some .directory := by simpa using above
            split at renamed
            · cases renamed
            · split at renamed
              · rename_i same
                cases renamed
                rw [if_pos same]
                exact ⟨⟨standing, slashless, above, outside, fun apart => absurd same apart⟩, rfl⟩
              · rename_i apart
                split at renamed
                · cases renamed
                · rename_i replaced
                  cases renamed
                  rw [if_neg apart]
                  exact ⟨⟨standing, slashless, above, outside, fun _ => replaced⟩, rfl⟩
  · cases renamed

theorem free_of_replacement (replaced : files.replacement true location = .ok ())
    (other : files.get? location ≠ some .directory) : files.get? location = none := by
  unfold replacement at replaced
  split at replaced
  · assumption
  · exact absurd ‹_› other
  · cases replaced

theorem Renames.can_relocate {newSlash : Bool}
    (renames : files.Renames old newDirectory newName newSlash node) (formed : files.IsWellFormed)
    (inside : old ≠ []) (newFree : files.get? (newDirectory ++ [newName]) = none ∨
      newSlash = true ∧ files.get? (newDirectory ++ [newName]) ≠ some .directory) :
    files.CanRelocate old newDirectory newName where
  formed := formed
  inside := inside
  above := renames.above
  free := by
    rcases newFree with free | ⟨rfl, other⟩
    · exact free
    · have isDirectory : node = .directory := by
        apply Decidable.byContradiction
        intro isOther
        cases renames.slashless isOther
      subst isDirectory
      apply free_of_replacement (renames.replaceable ?_) other
      rintro rfl
      exact other renames.standing
  outside := by
    intro below
    have isDirectory : files.get? old = some .directory := by
      obtain ⟨names, rfl⟩ := below
      by_cases here : names = []
      · have above := renames.above
        rw [here, List.append_nil] at above
        exact above
      · apply formed.directory_above here
        rw [renames.above]
        exact Option.some_ne_none _
    rw [renames.standing, Option.some.injEq] at isDirectory
    exact renames.outside isDirectory below

/-- The file system in which the entry that one path ends in is moved to the free name that another path
ends in. -/
inductive Relocates (files : FileSystem) (source destination : Path) : FileSystem → Prop where
  | intro (oldDirectory : Location) (oldName : Name) (oldSlash : Bool) (newDirectory : Location)
    (newName : Name) (newSlash : Bool)
    (oldParent : files.locateParent source = .ok (oldDirectory, .entry oldName oldSlash))
    (newParent : files.locateParent destination = .ok (newDirectory, .entry newName newSlash))
    (can : files.CanRelocate (oldDirectory ++ [oldName]) newDirectory newName) :
    Relocates files source destination
      (files.relocate (oldDirectory ++ [oldName]) (newDirectory ++ [newName]))

theorem relocates_of_rename (formed : files.IsWellFormed) (absent : files.IsAbsent destination)
    (renamed : files.rename source destination = .ok after) :
    files.Relocates source destination after := by
  obtain ⟨oldDirectory, oldName, oldSlash, newDirectory, newName, newSlash, node, oldParent,
    newParent, renames, after_eq⟩ := renames_of_rename renamed
  have oldInside := Location.append_singleton_ne_nil oldDirectory oldName
  have newInside := Location.append_singleton_ne_nil newDirectory newName
  have can := renames.can_relocate formed oldInside (absent.free_or_slash newParent)
  have apart : oldDirectory ++ [oldName] ≠ newDirectory ++ [newName] := by
    intro same
    have standing := renames.standing
    rw [same, can.free] at standing
    cases standing
  rw [if_neg apart, erase_of_free newInside can.free] at after_eq
  rw [after_eq]
  exact .intro oldDirectory oldName oldSlash newDirectory newName newSlash oldParent newParent can

end FileSystem

end LineScript
