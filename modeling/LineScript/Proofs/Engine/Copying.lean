import Mathlib
import LineScript.Proofs.Engine.Atomicity
import LineScript.Proofs.Engine.FileChanges
import LineScript.Proofs.FileSystem.Copies

/-!
# Copying a tree

A copy reads one part of a file system while it adds to another. Everything that is added lies at or
below the name that the copy goes to, so that the source reads the same all the time, and what is copied
for one entry of a directory does not disturb the copies of the others.
-/

namespace LineScript.Engine

set_option autoImplicit false

open LineScript.Action LineScript.FileSystem

section Copy

variable {blame : HostError → RunFault} {files : FileSystem} {source destination : Path}
  {target directory : Location} {name : Name} {slash : Bool} {machine : Machine}

/-- An action copies one entry into the directory at `target`, whatever has been added to that directory
since it was made. -/
def CopiesEntry (files : FileSystem) (source destination : Path) (made : FileSystem)
    (target : Location) (name : Name) (action : Action Unit) : Prop :=
  ∀ machine : Machine, ChangesWithin (target <+: ·) made machine.files →
    machine.files.EndsFree (Path.join destination name.text) target name false →
    ∃ after, action.run machine = (.ok (), after) ∧
      ChangesWithin (target ++ [name] <+: ·) machine.files after.files ∧
      files.IsCopyOf (Path.join source name.text) after.files (target ++ [name])

/-- Entries that are copied into an empty directory one after the other are all there in the end. -/
theorem exists_run_for_m_copies {entries : List (Name × Node)} {body : Name × Node → Action Unit}
    {made : FileSystem}
    (copies : ∀ entry ∈ entries,
      CopiesEntry files source destination made target entry.1 (body entry))
    (within : ChangesWithin (target <+: ·) made machine.files)
    (leads : machine.files.LeadsTo destination target)
    (standing : machine.files.get? target = some .directory)
    (accepted : ∀ entry ∈ entries, entry.1.isTooLong = false ∧
      refusal? (Path.join destination entry.1.text) = none)
    (distinct : (entries.map (·.1)).Nodup)
    (free : ∀ entry ∈ entries, machine.files.get? (target ++ [entry.1]) = none) :
    ∃ after, (entries.forM body).run machine = (.ok (), after) ∧
      ChangesWithin (fun location => ∃ entry ∈ entries, target ++ [entry.1] <+: location)
        machine.files after.files ∧
      ∀ entry ∈ entries, files.IsCopyOf (Path.join source entry.1.text) after.files
        (target ++ [entry.1]) := by
  induction entries generalizing machine with
  | nil => exact ⟨machine, rfl, .refl within.formed, List.forall_mem_nil _⟩
  | cons entry rest ih =>
    rw [List.forall_mem_cons] at copies accepted free
    rw [List.map_cons, List.nodup_cons] at distinct
    have ends := EndsFree.of_leads_to leads standing accepted.1.1 accepted.1.2 free.1
    obtain ⟨middle, ran, changes, copy⟩ := copies.1 machine within ends
    have kept := changes.is_kept_by fun _ below => within.formed.get?_below_free free.1 below
    have inner := changes.mono fun _ below => (List.prefix_append target _).trans below
    have apart : ∀ other ∈ rest, entry.1 ≠ other.1 := by
      intro other mem same
      apply distinct.1
      rw [same]
      exact List.mem_map_of_mem mem
    have stillFree : ∀ other ∈ rest, middle.files.get? (target ++ [other.1]) = none := by
      intro other mem
      rw [changes.get?_eq, free.2 other mem]
      intro below
      rw [← List.append_nil (target ++ [other.1])] at below
      exact apart other mem (prefix_append_singleton_iff.mp below)
    obtain ⟨after, restRan, restChanges, restCopies⟩ := ih copies.2 (within.trans inner)
      (leads.of_is_kept_by kept) (kept.get?_eq _ _ standing) accepted.2 distinct.2 stillFree
    refine ⟨after, ?_, ?_, ?_⟩
    · rw [run_for_m_cons, ran]
      exact restRan
    · apply (changes.mono fun location below => ?_).trans (restChanges.mono fun location => ?_)
      · exact ⟨entry, List.mem_cons_self .., below⟩
      · rintro ⟨other, mem, below⟩
        exact ⟨other, List.mem_cons_of_mem _ mem, below⟩
    · rw [List.forall_mem_cons]
      refine ⟨copy.of_get?_eq fun names => restChanges.get?_eq ?_, restCopies⟩
      rintro ⟨other, mem, below⟩
      exact apart other mem (prefix_append_singleton_iff.mp below).symm

theorem changes_within_of_ends {after : Machine} {result : Except RunFault Unit}
    (formed : machine.files.IsWellFormed)
    (ends : machine.files.EndsFree destination directory name slash)
    (ran : (copyTree blame source destination).run machine = (result, after)) :
    ChangesWithin (directory ++ [name] <+: ·) machine.files after.files :=
  (changes_within_of_run_copy_tree source destination formed
    (is_absent_of_link_status ends.link_status_eq) ran).mono fun _ new => ends.prefix_of_is_new_at new

theorem exists_run_copy_tree_file {location : Location} {content : List UInt8} {mode : Mode}
    (blame : HostError → RunFault) (ends : machine.files.EndsFree destination directory name false)
    (found : machine.files.status source = .ok (location, .file content mode)) :
    ∃ after, (copyTree blame source destination).run machine = (.ok (), after) ∧
      after.files = machine.files.insert (directory ++ [name]) (.file content mode) := by
  have notDirectory : machine.files.isDirectory source = false := by
    rw [FileSystem.isDirectory, found]
  rw [copyTree, run_bind, run_ask]
  dsimp only
  rw [dif_neg (by simp [notDirectory]), run_change, Machine.files_record, ends.copy_file_eq found]
  exact ⟨_, rfl, rfl⟩

theorem exists_run_copy_tree_directory {location : Location} (blame : HostError → RunFault)
    (formed : machine.files.IsWellFormed)
    (ends : machine.files.EndsFree destination directory name slash)
    (found : machine.files.status source = .ok (location, .directory)) :
    ∃ middle : Machine,
      machine.files.IsMade destination (directory ++ [name]) middle.files ∧
      (copyTree blame source destination).run machine =
        ((middle.files.children location).forM fun entry =>
          copyTree blame (Path.join source entry.1.text)
            (Path.join destination entry.1.text)).run middle := by
  have within := (refusal?_eq_none_iff.mp (refusal?_of_status found)).2.2
  have isDirectory : machine.files.isDirectory source = true := by
    rw [FileSystem.isDirectory, found]
  have made := ends.is_made formed
  have kept := made.changes.is_kept_by fun _ below => formed.get?_below_free ends.free below
  have listed := list_eq_ok_iff.mpr ⟨location, status_eq_directory_iff.mp (kept.status found), rfl⟩
  refine ⟨⟨machine.session, machine.files.insert (directory ++ [name]) .directory, machine.room,
    machine.transcript ++ [.call (.status source)] ++ [.call (.makeDirectory destination)] ++
      [.call (.list source)]⟩, made, ?_⟩
  rw [copyTree, run_bind, run_ask]
  dsimp only
  rw [dif_pos ⟨isDirectory, within⟩, run_bind, run_change, Machine.files_record,
    ends.make_directory_eq]
  dsimp only
  rw [run_bind, run_demand]
  dsimp only
  rw [listed]
  rfl

/-- A source that can be copied is copied to a free name that does not lie inside what is copied. -/
theorem exists_run_copy_tree {outer : Location} (formed : files.IsWellFormed)
    (outerFree : files.get? outer = none) (copyable : files.IsCopyable source)
    (apart : files.IsApart source outer) (short : files.IsShort source destination)
    (within : ChangesWithin (outer <+: ·) files machine.files)
    (steady : files.IsSteady source (directory ++ [name]) machine.files)
    (ends : machine.files.EndsFree destination directory name slash)
    (inside : outer <+: directory ++ [name])
    (slashless : slash = true → ∃ location, files.status source = .ok (location, .directory)) :
    ∃ after, (copyTree blame source destination).run machine = (.ok (), after) ∧
      files.IsCopyOf source after.files (directory ++ [name]) := by
  -- The source is looked up in file systems that have grown, but only where nothing of it is reached.
  have nonempty := copyable.ne_nil
  have kept := within.is_kept_by fun _ below => formed.get?_below_free outerFree below
  induction copyable generalizing destination directory name slash machine with
  | file source location content mode found =>
    have slash_eq : slash = false := by
      cases slash with
      | false => rfl
      | true =>
        obtain ⟨place, isDirectory⟩ := slashless rfl
        cases found.symm.trans isDirectory
    subst slash_eq
    obtain ⟨after, ran, files_eq⟩ := exists_run_copy_tree_file blame ends (kept.status found)
    refine ⟨after, ran, is_copy_of_file nonempty found ?_ ?_⟩
    · rw [files_eq, get?_insert_self _ _ (Location.append_singleton_ne_nil directory name)]
    · intro child names
      rw [files_eq, get?_insert_of_ne _ _ (by simp)]
      exact within.formed.get?_below_free ends.free (List.prefix_append _ _)
  | directory source location found entries ih =>
    have sourceLeads := status_eq_directory_iff.mp found
    obtain ⟨middle, made, run_eq⟩ :=
      exists_run_copy_tree_directory blame within.formed ends (kept.status found)
    have listed : ∀ entry, entry ∈ middle.files.children location ↔
        files.get? (location ++ [entry.1]) = some entry.2 := by
      intro entry
      obtain ⟨elsewhere, same⟩ := steady location found entry.1
      rw [made.changes.formed.mem_children_iff, made.get?_eq _ elsewhere, same]
    have standing : ∀ entry ∈ middle.files.children location,
        files.get? (location ++ [entry.1]) ≠ none := by
      intro entry mem
      exact Option.ne_none_iff_exists'.mpr ⟨_, (listed entry).mp mem⟩
    have accepted : ∀ entry ∈ middle.files.children location, entry.1.isTooLong = false ∧
        refusal? (Path.join destination entry.1.text) = none := by
      intro entry mem
      obtain ⟨place, node, reached, -⟩ := (entries entry.1 (standing entry mem)).exists_status
      exact ⟨is_too_long_of_status_join sourceLeads reached, refusal?_join_eq_none made.leads.1
        (refusal?_of_status reached) (short [entry.1] _ _ (reaches_of_status reached)).2⟩
    have copiesEntry : ∀ entry ∈ middle.files.children location,
        CopiesEntry files source destination middle.files (directory ++ [name]) entry.1
          (copyTree blame (Path.join source entry.1.text) (Path.join destination entry.1.text)) := by
      intro entry mem current grown innerEnds
      have innerInside := inside.trans (List.prefix_append (directory ++ [name]) [entry.1])
      have innerWithin : ChangesWithin (outer <+: ·) files current.files :=
        within.trans ((made.changes.trans grown).mono fun _ inner => inside.trans inner)
      have innerSteady := apart.is_steady_join formed outerFree sourceLeads (standing entry mem)
        innerWithin innerInside
      obtain ⟨last, ran, copy⟩ := ih entry.1 (standing entry mem) (apart.join entry.1)
        (short.join entry.1) innerWithin innerSteady innerEnds innerInside nofun
        (Path.join_ne_nil source entry.1)
        (innerWithin.is_kept_by fun _ below => formed.get?_below_free outerFree below)
      exact ⟨last, ran, changes_within_of_ends innerWithin.formed innerEnds ran, copy⟩
    obtain ⟨after, ran, changes, copies⟩ := exists_run_for_m_copies copiesEntry
      (.refl made.changes.formed) made.leads made.here accepted
      (made.changes.formed.nodup_children location) fun entry _ => made.empty entry.1 []
    exact ⟨after, run_eq.trans ran, made.is_copy_of nonempty found listed changes copies⟩

end Copy

/-! ## The operation -/

section Operation

variable {programs : Programs} {source destination : Token} {machine : Machine} {directory : Location}
  {name : Name} {slash : Bool}

theorem exists_run_ensure_present {path : Path} {entry : Location × Node}
    (present : machine.files.linkStatus path = .ok entry) :
    ∃ answer, (ensurePresent path).run machine =
      (.ok answer, machine.record (.call (.linkStatus path))) := by
  rw [ensurePresent, run_bind, run_demand, present]
  exact ⟨entry.2, rfl⟩

theorem run_ensure_absent {path : Path} (absent : machine.files.linkStatus path = .error .noSuchEntry) :
    (ensureAbsent path).run machine = (.ok (), machine.record (.call (.linkStatus path))) := by
  rw [ensureAbsent, run_bind, run_ask]
  dsimp only
  rw [absent]
  rfl

/-- A transfer goes ahead from a path where something stands to one where nothing does. -/
theorem exists_run_transfer_paths {entry : Location × Node}
    (present : machine.files.linkStatus (machine.session.resolvePath source) = .ok entry)
    (absent : machine.files.linkStatus (machine.session.resolvePath destination) =
      .error .noSuchEntry) :
    ∃ after, (transferPaths source destination).run machine =
        (.ok (machine.session.resolvePath source, machine.session.resolvePath destination), after) ∧
      after.files = machine.files := by
  rw [transferPaths, run_bind, run_resolve_path]
  dsimp only
  rw [run_bind, run_resolve_path, Machine.session_record_events]
  dsimp only
  generalize asked : (machine.recordEvents _).recordEvents _ = resolved
  have files_eq : resolved.files = machine.files := by
    rw [← asked, Machine.files_record_events, Machine.files_record_events]
  rw [← files_eq] at present absent
  obtain ⟨answer, presentRan⟩ := exists_run_ensure_present present
  have absentRan := @run_ensure_absent
    (resolved.record (.call (.linkStatus (machine.session.resolvePath source)))) _ absent
  rw [run_bind, presentRan]
  dsimp only
  rw [run_bind, absentRan]
  exact ⟨_, rfl, files_eq⟩

theorem exists_run_copy
    (can : machine.files.CanCopy (machine.session.resolvePath source)
      (machine.session.resolvePath destination) directory name slash)
    (formed : machine.files.IsWellFormed) :
    ∃ after, (perform programs (.copy source destination)).run machine = (.ok (), after) ∧
      machine.files.IsCopyOf (machine.session.resolvePath source) after.files
        (directory ++ [name]) := by
  obtain ⟨location, node, found, -⟩ := can.is_copyable.exists_status
  obtain ⟨entry, present⟩ := exists_link_status found
  obtain ⟨middle, guarded, files_eq⟩ := exists_run_transfer_paths present can.ends.link_status_eq
  have steady : machine.files.IsSteady (machine.session.resolvePath source) (directory ++ [name])
      middle.files := by
    intro place isDirectory child
    rw [files_eq]
    refine ⟨?_, rfl⟩
    intro same
    apply can.apart [] place .directory (reaches_of_status isDirectory)
    rw [← same]
    exact List.prefix_append _ _
  have ends := can.ends
  have within : ChangesWithin (directory ++ [name] <+: ·) machine.files middle.files := by
    rw [files_eq]
    exact .refl formed
  rw [← files_eq] at ends
  obtain ⟨after, ran, copy⟩ := exists_run_copy_tree formed can.ends.free can.is_copyable can.apart
    can.short within steady ends (List.prefix_refl _)
    (fun isSlash => is_directory_eq_true_iff.mp (can.slashless isSlash))
  rw [perform, run_bind, guarded]
  dsimp only
  rw [run_bind, ran]
  exact ⟨_, rfl, copy⟩

end Operation

/-- A source that can be copied is copied, in whatever order the host lists directories: at and below its
name the copy has exactly what the paths down from the source lead to, so that it has the content and the
permission bits of all files and no links. Nothing else changes, and the source reads as before. However
a copy of anything ends, all that it changes is at or below the free name that its path ends in. -/
theorem copy_reproduces_source (programs : Programs) (source destination : Token)
    (machine : Machine) (formed : machine.files.IsWellFormed) :
    (∀ directory name slash,
      machine.files.CanCopy (machine.session.resolvePath source)
        (machine.session.resolvePath destination) directory name slash →
      ∃ after, (perform programs (.copy source destination)).run machine = (.ok (), after) ∧
        (∀ names node, after.files.get? (directory ++ [name] ++ names) = some node ↔
          ∃ location, machine.files.status
            ((machine.session.resolvePath source).descend names) = .ok (location, node)) ∧
        (∀ names link, after.files.get? (directory ++ [name] ++ names) ≠ some (.link link)) ∧
        (∀ location, ¬ directory ++ [name] <+: location →
          after.files.get? location = machine.files.get? location) ∧
        ∀ names location node, machine.files.status
            ((machine.session.resolvePath source).descend names) = .ok (location, node) →
          after.files.status ((machine.session.resolvePath source).descend names) =
            .ok (location, node)) ∧
    ∀ result after, (perform programs (.copy source destination)).run machine = (result, after) →
      ∀ location, after.files.get? location ≠ machine.files.get? location →
        machine.files.IsNewAt (machine.session.resolvePath destination) location := by
  constructor
  · intro directory name slash can
    obtain ⟨after, ran, copy⟩ := exists_run_copy can formed
    have changes := changes_within_of_copy formed ran
    have kept := changes.is_kept_by fun _ new => new.get?_eq_none formed
    refine ⟨after, ran, copy, copy.ne_link can.is_copyable, ?_, ?_⟩
    · intro location outside
      exact changes.get?_eq fun new => outside (can.ends.prefix_of_is_new_at new)
    · exact fun names location node found => kept.status found
  · exact fun result after ran => (changes_within_of_copy formed ran).region_of_ne

/-- A link in a directory is copied as the file that it leads to, and stays a link itself. -/
theorem copy_reproduces_linked_entry :
    let a : Name := ⟨['a'], by decide⟩
    let b : Name := ⟨['b'], by decide⟩
    let c : Name := ⟨['c'], by decide⟩
    let x : Name := ⟨['x'], by decide⟩
    let files : FileSystem := .ofList [([a], .directory), ([a, x], .link ['/', 'c']),
      ([c], .file [120] .created)]
    let machine := Machine.start (.start ['/'] none) files none
    files.CanCopy ['/', 'a'] ['/', 'b'] [] b false ∧
    ∃ after, (perform onceSuccessful (.copy ⟨.word, ['a']⟩ ⟨.word, ['b']⟩)).run machine =
        (.ok (), after) ∧
      after.files.get? [b, x] = some (.file [120] .created) ∧
      after.files.get? [a, x] = some (.link ['/', 'c']) := by
  intro a b c x files machine
  have formed : files.IsWellFormed := is_well_formed_of_list (by decide) (by decide)
  have root : files.status ['/', 'a'] = .ok ([a], .directory) := by cbv
  have entry : files.status (Path.join ['/', 'a'] x.text) = .ok ([c], .file [120] .created) := by cbv
  have listed : files.children [a] = [(x, .link ['/', 'c'])] := by cbv
  obtain ⟨tree, reached⟩ := (reaches_of_status root).is_tree_of_single_entry formed (by decide)
    listed (reaches_of_status entry)
  have can : files.CanCopy ['/', 'a'] ['/', 'b'] [] b false := by
    constructor
    · exact tree
    · intro names place node found
      rcases reached names place node found with ⟨rfl, rfl, rfl⟩ | ⟨rfl, rfl, rfl⟩
      · exact (status_eq_ok_iff_reaches_within.mp root).2
      · exact (status_eq_ok_iff_reaches_within.mp entry).2
    · exact ⟨by cbv, by cbv, by cbv⟩
    · rintro ⟨⟩
    · intro names place node found
      rcases reached names place node found with ⟨-, rfl, -⟩ | ⟨-, rfl, -⟩ <;> decide
    · intro names place node found
      rcases reached names place node found with ⟨rfl, -⟩ | ⟨rfl, -⟩ <;> decide
  refine ⟨can, ?_⟩
  obtain ⟨after, ran, copy, -, unchanged, -⟩ :=
    (copy_reproduces_source onceSuccessful ⟨.word, ['a']⟩ ⟨.word, ['b']⟩ machine formed).1 [] b false can
  refine ⟨after, ran, (copy [x] _).mpr ⟨[c], entry⟩, ?_⟩
  rw [unchanged [a, x] (by decide)]
  cbv

/-! ## Copies that fail -/

theorem run_copy_tree_of_refused {blame : HostError → RunFault} {source destination : Path}
    {error : HostError} (refused : refusal? destination = some error) (machine : Machine) :
    ((copyTree blame source destination).run machine).1 ≠ .ok () := by
  have notMade : machine.files.makeDirectory destination = .error error := by
    rw [FileSystem.makeDirectory, locateParent, refused]
  have notCopied : ∃ error, machine.files.copyFile source destination = .error error := by
    unfold FileSystem.copyFile
    split
    · exact ⟨_, rfl⟩
    · rw [store, locate, refused]
      exact ⟨_, rfl⟩
    · exact ⟨_, rfl⟩
  obtain ⟨reason, notCopied⟩ := notCopied
  rw [copyTree, run_bind, run_ask]
  dsimp only
  split
  · rw [run_bind, run_change, Machine.files_record, notMade]
    rintro ⟨⟩
  · rw [run_change, Machine.files_record, notCopied]
    rintro ⟨⟩

theorem run_copy_tree_of_lost {blame : HostError → RunFault} {source destination : Path}
    {error : HostError} {machine : Machine} (lost : machine.files.status source = .error error) :
    ((copyTree blame source destination).run machine).1 ≠ .ok () := by
  have notDirectory : machine.files.isDirectory source = false := by
    rw [FileSystem.isDirectory, lost]
  rw [copyTree, run_bind, run_ask]
  dsimp only
  rw [dif_neg (by simp [notDirectory]), run_change, Machine.files_record, FileSystem.copyFile, lost]
  rintro ⟨⟩

theorem exists_of_run_for_m_eq_ok {α : Type} {entries : List α} {body : α → Action Unit} {entry : α}
    {machine : Machine} (ran : ((entries.forM body).run machine).1 = .ok ())
    (mem : entry ∈ entries) : ∃ current, ((body entry).run current).1 = .ok () := by
  induction entries generalizing machine with
  | nil => cases mem
  | cons first rest ih =>
    rw [run_for_m_cons] at ran
    rcases firstRan : (body first).run machine with ⟨fault | answer, middle⟩
    · rw [firstRan] at ran
      cases ran
    · rw [firstRan] at ran
      rcases List.mem_cons.mp mem with rfl | later
      · exact ⟨machine, congrArg Prod.fst firstRan⟩
      · exact ih ran later

/-- A directory is not copied if the path for one of its entries is not accepted. -/
theorem run_copy_tree_of_refused_entry {blame : HostError → RunFault} {source destination : Path}
    {machine : Machine} {directory location : Location} {name child : Name} {slash : Bool}
    {node : Node} {error : HostError} (formed : machine.files.IsWellFormed)
    (ends : machine.files.EndsFree destination directory name slash)
    (found : machine.files.status source = .ok (location, .directory))
    (standing : machine.files.get? (location ++ [child]) = some node)
    (refused : refusal? (Path.join destination child.text) = some error) :
    ((copyTree blame source destination).run machine).1 ≠ .ok () := by
  obtain ⟨middle, made, run_eq⟩ := exists_run_copy_tree_directory blame formed ends found
  have elsewhere : location ++ [child] ≠ directory ++ [name] := by
    intro same
    rw [same, ends.free] at standing
    cases standing
  have listed : (child, node) ∈ middle.files.children location := by
    rw [made.changes.formed.mem_children_iff, made.get?_eq _ elsewhere, standing]
  rw [run_eq]
  intro ran
  obtain ⟨current, entryRan⟩ := exists_of_run_for_m_eq_ok ran listed
  exact run_copy_tree_of_refused refused current entryRan

theorem run_copy_of_copy_tree {programs : Programs} {source destination : Token} {machine : Machine}
    {entry : Location × Node}
    (present : machine.files.linkStatus (machine.session.resolvePath source) = .ok entry)
    (absent : machine.files.linkStatus (machine.session.resolvePath destination) =
      .error .noSuchEntry)
    (fails : ∀ blame current, current.files = machine.files →
      ((copyTree blame (machine.session.resolvePath source)
        (machine.session.resolvePath destination)).run current).1 ≠ .ok ()) :
    ((perform programs (.copy source destination)).run machine).1 ≠ .ok () := by
  obtain ⟨middle, guarded, files_eq⟩ := exists_run_transfer_paths present absent
  have stopped := fails (.host .copyTo (machine.session.resolvePath destination)) middle files_eq
  rw [perform, run_bind, guarded]
  dsimp only
  rw [run_bind]
  generalize (copyTree _ _ _).run middle = ran at stopped ⊢
  rcases ran with ⟨fault | answer, after⟩
  · rintro ⟨⟩
  · exact absurd rfl stopped

theorem run_copy_of_lost {programs : Programs} {source destination : Token} {machine : Machine}
    {entry : Location × Node} {error : HostError}
    (present : machine.files.linkStatus (machine.session.resolvePath source) = .ok entry)
    (lost : machine.files.status (machine.session.resolvePath source) = .error error)
    (absent : machine.files.linkStatus (machine.session.resolvePath destination) =
      .error .noSuchEntry) :
    ((perform programs (.copy source destination)).run machine).1 ≠ .ok () := by
  refine run_copy_of_copy_tree present absent fun blame current files_eq => ?_
  rw [← files_eq] at lost
  exact run_copy_tree_of_lost lost

theorem run_copy_of_refused_entry {programs : Programs} {source destination : Token}
    {machine : Machine} {directory location : Location} {name child : Name} {slash : Bool}
    {node : Node} {error : HostError} (formed : machine.files.IsWellFormed)
    (ends : machine.files.EndsFree (machine.session.resolvePath destination) directory name slash)
    (found : machine.files.status (machine.session.resolvePath source) = .ok (location, .directory))
    (standing : machine.files.get? (location ++ [child]) = some node)
    (refused : refusal? (Path.join (machine.session.resolvePath destination) child.text) =
      some error) :
    ((perform programs (.copy source destination)).run machine).1 ≠ .ok () := by
  obtain ⟨held, present⟩ := exists_link_status found
  refine run_copy_of_copy_tree present ends.link_status_eq fun blame current files_eq => ?_
  rw [← files_eq] at formed ends found standing
  exact run_copy_tree_of_refused_entry formed ends found standing refused

/-! ## A path with many slashes -/

theorem resolve_path_of_slash (session : Session) (rest : Text) :
    session.resolvePath ⟨.word, '/' :: rest⟩ = '/' :: rest := rfl

theorem resolve_path_slashes (session : Session) (count : Nat) (name : Name) :
    session.resolvePath ⟨.word, List.replicate (count + 1) '/' ++ name.text⟩ =
      Path.join (List.replicate (count + 1) '/') name.text := by
  rw [join_slashes, List.replicate_succ, List.cons_append]
  exact resolve_path_of_slash session _

/-- A path that is as long as possible ends in a free name of the root, but has no room for a name after
it. -/
theorem ends_free_slashes {files : FileSystem} {name : Name} (single : Utf8.size name.text = 1)
    (plain : '\x00' ∉ name.text) (free : files.get? [name] = none) :
    files.EndsFree (Path.join (List.replicate 4094 '/') name.text) [] name false := by
  have leads := leads_to_slashes files 4093 (by decide)
  have size_eq := size_join_slashes 4093 name
  rw [single] at size_eq
  apply EndsFree.of_leads_to leads (get?_root files)
  · rw [Name.isTooLong, single]
    decide
  · exact refusal?_join_of_plain leads.1 plain (by rw [size_eq]; decide)
  · exact free

theorem exists_refusal?_join_slashes (name child : Name) :
    ∃ error, refusal? (Path.join (Path.join (List.replicate 4094 '/') name.text) child.text) =
      some error := by
  apply exists_refusal?_of_size_limit_le
  have named := Search.size_lt_size_join (List.replicate 4094 '/') name
  rw [size_slashes] at named
  exact Nat.lt_of_le_of_lt named
    (Search.size_lt_size_join (Path.join (List.replicate 4094 '/') name.text) child)

/-! ## A chain of links -/

/-- Forty-two names of a single character. -/
def chainName (index : Fin 42) : Name where
  text := [Char.ofNat (65 + index)]
  isEntryName := by decide +revert

/-- Forty-one links, each to the next and the last to a file. -/
def linkChain : FileSystem :=
  .ofList (([chainName 41], .file [120] .created) ::
    (List.finRange 41).map fun index =>
      ([chainName index.castSucc], .link (chainName index.succ).text))

theorem link_chain_is_well_formed : linkChain.IsWellFormed :=
  is_well_formed_of_list (by decide +kernel) (by decide +kernel)

theorem link_chain_get?_link (index : Fin 41) :
    linkChain.get? [chainName index.castSucc] = some (.link (chainName index.succ).text) := by
  decide +kernel +revert

/-- From any place in the chain the file is found if there are as many links to follow as are left. -/
theorem follow_link_chain (links : Nat) (index : Fin 42) :
    linkChain.follow .destination links false [] [.entry (chainName index)] =
      if 41 ≤ index + links then .ok (.present [chainName 41] (.file [120] .created))
      else .error .linkLoop := by
  have short : ∀ index, (chainName index).isTooLong = false := by decide
  induction index using Fin.reverseInduction generalizing links with
  | last =>
    have file : linkChain.get? [chainName (Fin.last 41)] = some (.file [120] .created) := by
      decide +kernel
    have enough : 41 ≤ (Fin.last 41 : Nat) + links := Nat.le_add_right 41 links
    rw [follow_entry _ rfl rfl, short, List.nil_append, file, if_pos enough]
    rfl
  | cast index ih =>
    rw [follow_entry _ rfl rfl, short, List.nil_append, link_chain_get?_link]
    dsimp only
    rw [Route.of_path_text]
    cases links with
    | zero =>
      have scarce : ¬ 41 ≤ (index.castSucc : Nat) + 0 := Nat.not_le_of_lt index.isLt
      rw [if_neg scarce]
      rfl
    | succ links =>
      have more : (index.castSucc : Nat) + (links + 1) = index.succ + links := by
        rw [Fin.val_castSucc, Fin.val_succ, Nat.add_right_comm, Nat.add_assoc]
      rw [more]
      exact ih links

/-- A file cannot be copied to a name with a slash after it, a directory cannot be copied to a path that
leaves no room for the names in it, and a file behind more links than the host follows cannot be copied
at all. The other conditions exclude none of the three. -/
theorem copy_fails_at_slash_or_limit :
    (¬ ∀ (machine : Machine) (source destination : Token) (directory : Location) (name : Name)
        (slash : Bool), machine.files.IsWellFormed →
      machine.files.IsTree (machine.session.resolvePath source) →
      machine.files.IsWithinLinks (machine.session.resolvePath source) →
      machine.files.EndsFree (machine.session.resolvePath destination) directory name slash →
      machine.files.IsApart (machine.session.resolvePath source) (directory ++ [name]) →
      machine.files.IsShort (machine.session.resolvePath source)
        (machine.session.resolvePath destination) →
      ((perform onceSuccessful (.copy source destination)).run machine).1 = .ok ()) ∧
    (¬ ∀ (machine : Machine) (source destination : Token) (directory : Location) (name : Name),
      machine.files.IsWellFormed →
      machine.files.IsTree (machine.session.resolvePath source) →
      machine.files.IsWithinLinks (machine.session.resolvePath source) →
      machine.files.EndsFree (machine.session.resolvePath destination) directory name false →
      machine.files.IsApart (machine.session.resolvePath source) (directory ++ [name]) →
      ((perform onceSuccessful (.copy source destination)).run machine).1 = .ok ()) ∧
    ¬ ∀ (machine : Machine) (source destination : Token) (directory : Location) (name : Name),
      machine.files.IsWellFormed →
      machine.files.IsTree (machine.session.resolvePath source) →
      machine.files.EndsFree (machine.session.resolvePath destination) directory name false →
      machine.files.IsApart (machine.session.resolvePath source) (directory ++ [name]) →
      machine.files.IsShort (machine.session.resolvePath source)
        (machine.session.resolvePath destination) →
      ((perform onceSuccessful (.copy source destination)).run machine).1 = .ok () := by
  let a : Name := ⟨['a'], by decide⟩
  let b : Name := ⟨['b'], by decide⟩
  let x : Name := ⟨['x'], by decide⟩
  refine ⟨?_, ?_, ?_⟩
  · intro succeeds
    let files : FileSystem := .ofList [([a], .file [120] .created)]
    let machine := Machine.start (.start ['/'] none) files none
    have found : files.status ['/', 'a'] = .ok ([a], .file [120] .created) := by cbv
    have reached := reaches_of_status found
    have stopped : ((perform onceSuccessful (.copy ⟨.word, ['a']⟩ ⟨.word, ['b', '/']⟩)).run
        machine).1 = .error (.host .copyTo ['/', 'b', '/'] .isDirectory) := by cbv
    have ended := succeeds machine ⟨.word, ['a']⟩ ⟨.word, ['b', '/']⟩ [] b true
      (is_well_formed_of_list (by decide) (by decide)) (.file _ _ _ _ reached)
      (is_within_links_of_file (by decide) found) ⟨by cbv, by cbv, by cbv⟩
      (reached.is_apart_of_file (by decide) (by decide))
      (reached.is_short_of_file (by decide) (by decide) (by decide))
    rw [stopped] at ended
    cases ended
  · intro succeeds
    let files : FileSystem := .ofList [([a], .directory), ([a, x], .file [] .created)]
    let machine := Machine.start (.start ['/'] none) files none
    have formed : files.IsWellFormed := is_well_formed_of_list (by decide) (by decide)
    have root : files.status ['/', 'a'] = .ok ([a], .directory) := by cbv
    have entry : files.status (Path.join ['/', 'a'] x.text) = .ok ([a, x], .file [] .created) := by
      cbv
    have listed : files.children [a] = [(x, .file [] .created)] := by cbv
    obtain ⟨tree, reached⟩ := (reaches_of_status root).is_tree_of_single_entry formed (by decide)
      listed (reaches_of_status entry)
    let destination : Token := ⟨.word, List.replicate 4094 '/' ++ b.text⟩
    have path_eq : machine.session.resolvePath destination =
        Path.join (List.replicate 4094 '/') b.text := resolve_path_slashes machine.session 4093 b
    have ends : files.EndsFree (machine.session.resolvePath destination) [] b false := by
      rw [path_eq]
      exact ends_free_slashes (by decide) (by decide) (by cbv)
    obtain ⟨error, refused⟩ : ∃ error, refusal? (Path.join
        (machine.session.resolvePath destination) x.text) = some error := by
      rw [path_eq]
      exact exists_refusal?_join_slashes b x
    have standing : files.get? ([a] ++ [x]) = some (.file [] .created) := by cbv
    have fails := @run_copy_of_refused_entry onceSuccessful ⟨.word, ['a']⟩ destination machine [] [a]
      b x false _ error formed ends root standing refused
    apply fails (succeeds machine ⟨.word, ['a']⟩ destination [] b formed tree ?_ ends ?_)
    · intro names place node further
      rcases reached names place node further with ⟨rfl, rfl, rfl⟩ | ⟨rfl, rfl, rfl⟩
      · exact (status_eq_ok_iff_reaches_within.mp root).2
      · exact (status_eq_ok_iff_reaches_within.mp entry).2
    · intro names place node further
      rcases reached names place node further with ⟨-, rfl, -⟩ | ⟨-, rfl, -⟩ <;> decide
  · intro succeeds
    let machine := Machine.start (.start ['/'] none) linkChain none
    let z : Name := ⟨['z'], by decide⟩
    have found : linkChain.Reaches ['/', 'A'] [chainName 41] (.file [120] .created) :=
      ⟨41, follow_link_chain 41 0⟩
    have lost : linkChain.status ['/', 'A'] = .error .linkLoop := by
      have lookup : linkChain.locate .destination ['/', 'A'] = .error .linkLoop :=
        (locate_of_accepted _ _ (by decide)).trans (follow_link_chain linkLimit 0)
      rw [status, locateEntry, lookup]
    have present : linkChain.linkStatus ['/', 'A'] =
        .ok ([chainName 0], .link (chainName 1).text) := by cbv
    have ends : linkChain.EndsFree ['/', 'z'] [] z false := ⟨by cbv, by cbv, by cbv⟩
    have fails := @run_copy_of_lost onceSuccessful ⟨.word, ['A']⟩ ⟨.word, ['z']⟩ machine _ _ present
      lost ends.link_status_eq
    exact fails (succeeds machine ⟨.word, ['A']⟩ ⟨.word, ['z']⟩ [] z link_chain_is_well_formed
      (.file _ _ _ _ found) ends (found.is_apart_of_file (by decide) (by decide))
      (found.is_short_of_file (by decide) (by decide) (by decide)))

end LineScript.Engine
