import LineScript.Proofs.Engine.Commands
import LineScript.Proofs.Engine.Composition
import LineScript.Proofs.Engine.Operations
import LineScript.Proofs.FileSystem.Additions
import LineScript.Proofs.FileSystem.Relocation

/-!
# What operations do to the file system

The operations that must not overwrite ask first whether their path is absent. What they make then, be
it a whole tree, is at or below one free name; what they move goes to a free name. It does not matter
whether they succeed.
-/

namespace LineScript.Engine

set_option autoImplicit false

open LineScript.Action LineScript.FileSystem

/-! ## Guards -/

theorem is_absent_of_ensure_absent {path : Path} {machine after : Machine} {answer : Unit}
    (ran : (ensureAbsent path).run machine = (.ok answer, after)) :
    machine.files.IsAbsent path ∧ after.files = machine.files := by
  rw [ensureAbsent, run_bind, run_ask] at ran
  dsimp only at ran
  split at ran
  · cases ran
  · rename_i failed
    cases ran
    exact ⟨is_absent_of_link_status failed, rfl⟩
  · cases ran

theorem is_absent_of_transfer_paths {source destination : Token} {machine after : Machine}
    {paths : Path × Path}
    (ran : (transferPaths source destination).run machine = (.ok paths, after)) :
    paths = (machine.session.resolvePath source, machine.session.resolvePath destination) ∧
      machine.files.IsAbsent paths.2 ∧ after.files = machine.files := by
  rw [transferPaths, run_bind, run_resolve_path] at ran
  dsimp only at ran
  rw [run_bind, run_resolve_path] at ran
  dsimp only at ran
  rw [run_bind_eq_ok_iff] at ran
  obtain ⟨node, present, presentRan, ran⟩ := ran
  have present_eq := (@ensure_present_is_composed False False _).files_eq presentRan
  rw [run_bind_eq_ok_iff] at ran
  obtain ⟨answer, guarded, guardRan, ran⟩ := ran
  obtain ⟨absent, guarded_eq⟩ := is_absent_of_ensure_absent guardRan
  cases ran
  rw [present_eq] at absent guarded_eq
  simp only [Machine.session_record_events, Machine.files_record_events] at absent guarded_eq ⊢
  exact ⟨trivial, absent, guarded_eq⟩

/-! ## Copies -/

section Copy

variable {blame : HostError → RunFault} {machine after : Machine} {result : Except RunFault Unit}

theorem changes_within_of_change {call : Call} {path : Path}
    {update : FileSystem → Except HostError FileSystem}
    (ran : (Action.change call update blame).run machine = (result, after))
    (formed : machine.files.IsWellFormed)
    (inserts : ∀ files, update machine.files = .ok files →
      ∃ node, machine.files.Inserts path node files) :
    ChangesWithin (machine.files.IsNewAt path) machine.files after.files := by
  rw [run_change] at ran
  cases updated : update machine.files with
  | error error =>
    rw [updated] at ran
    cases ran
    exact .refl formed
  | ok files =>
    rw [updated] at ran
    cases ran
    obtain ⟨node, inserts⟩ := inserts files updated
    exact inserts.changes_within formed

/-- Entries that are copied into a directory one after the other, each to a free name of it, change
nothing outside. -/
theorem changes_within_of_run_for_m {directory : Path} {location : Location}
    {entries : List (Name × Node)} {body : Name × Node → Action Unit}
    (copies : ∀ entry ∈ entries, ∀ machine after result, machine.files.IsWellFormed →
      machine.files.IsAbsent (Path.join directory entry.1.text) →
      (body entry).run machine = (result, after) →
      ChangesWithin (machine.files.IsNewAt (Path.join directory entry.1.text)) machine.files
        after.files)
    (formed : machine.files.IsWellFormed) (leads : machine.files.LeadsTo directory location)
    (distinct : (entries.map (·.1)).Nodup)
    (free : ∀ entry ∈ entries, machine.files.get? (location ++ [entry.1]) = none)
    (ran : (entries.forM body).run machine = (result, after)) :
    ChangesWithin (location <+: ·) machine.files after.files := by
  -- The names still to come stay free, since each entry changes only what is below its own name.
  induction entries generalizing machine with
  | nil =>
    cases ran
    exact .refl formed
  | cons entry rest ih =>
    rw [List.forall_mem_cons] at copies free
    rw [List.map_cons, List.nodup_cons] at distinct
    rw [run_for_m_cons] at ran
    rcases copied : (body entry).run machine with ⟨outcome, middle⟩
    have absent := leads.is_absent_join free.1
    have within := copies.1 machine middle outcome formed absent copied
    have below : ∀ other, machine.files.IsNewAt (Path.join directory entry.1.text) other →
        location ++ [entry.1] <+: other := by
      rintro other ⟨parent, name, slash, found, -, below⟩
      cases leads.locate_parent_join entry.1 found
      exact below
    have inside := within.mono fun other new => (List.prefix_append location _).trans (below other new)
    rw [copied] at ran
    cases outcome with
    | error fault =>
      cases ran
      exact inside
    | ok answer =>
      have kept := within.is_kept_by fun other new => new.get?_eq_none formed
      apply inside.trans
      apply ih copies.2 within.formed (leads.of_is_kept_by kept) distinct.2 _ ran
      intro other mem
      rw [within.get?_eq, free.2 other mem]
      intro new
      have same := List.IsPrefix.eq_of_length (below _ new) (by simp)
      have name_eq : entry.1 = other.1 := by simpa using same
      apply distinct.1
      rw [name_eq]
      exact List.mem_map_of_mem mem

/-- A copy onto an absent path changes nothing but what is at or below the name that the path ends in,
wherever it stops and whatever it copies. -/
theorem changes_within_of_run_copy_tree (source destination : Path)
    (formed : machine.files.IsWellFormed) (absent : machine.files.IsAbsent destination)
    (ran : (copyTree blame source destination).run machine = (result, after)) :
    ChangesWithin (machine.files.IsNewAt destination) machine.files after.files := by
  induction source, destination using copyTree.induct generalizing machine after result with
  | case1 source destination ih =>
    rw [copyTree, run_bind, run_ask] at ran
    dsimp only at ran
    split at ran
    · rename_i within
      rw [run_bind, run_change, Machine.files_record] at ran
      cases made : machine.files.makeDirectory destination with
      | error error =>
        rw [made] at ran
        cases ran
        exact .refl formed
      | ok files =>
        -- From here on all changes are inside the new directory, even if the source is around it.
        have inserts := inserts_of_make_directory made
        have inserted := inserts.changes_within formed
        obtain ⟨location, leads, empty, new⟩ := inserts.exists_leads_to formed
        rw [made] at ran
        dsimp only at ran
        rw [run_bind, run_demand] at ran
        dsimp only [Machine.files_record] at ran
        cases listed : files.list source with
        | error error =>
          rw [listed] at ran
          cases ran
          exact inserted
        | ok entries =>
          rw [listed] at ran
          dsimp only [Except.mapError] at ran
          have copied := changes_within_of_run_for_m (fun entry _ _ _ _ => ih _ within entry.1)
            inserted.formed leads (inserted.formed.nodup_list listed) (fun entry _ => empty entry.1)
            ran
          exact inserted.trans (copied.mono new)
    · have copied := changes_within_of_change ran formed fun files => inserts_of_copy_file absent
      exact copied

end Copy

/-! ## Operations -/

/-- The path at which an operation makes something that was not there. -/
def newPath? (session : Session) : Operation → Option Path
  | .createFile path | .makeDirectory path => some (session.resolvePath path)
  | .copy _ destination => some (session.resolvePath destination)
  | _ => none

section Perform

variable {programs : Programs} {machine after : Machine} {result : Except RunFault Unit}

theorem changes_within_of_making {token : Token} {event : Path → Event} {call : Path → Call}
    {update : Path → FileSystem → Except HostError FileSystem} {attempt : Attempt}
    (inserts : ∀ {path files changed}, files.IsAbsent path → update path files = .ok changed →
      ∃ node, files.Inserts path node changed)
    (formed : machine.files.IsWellFormed)
    (ran : (do
      let path ← resolvePath token
      ensureAbsent path
      Action.report (event path)
      Action.change (call path) (update path) (.host attempt path) : Action Unit).run machine =
        (result, after)) :
    ChangesWithin (machine.files.IsNewAt (machine.session.resolvePath token)) machine.files
      after.files := by
  rw [run_bind, run_resolve_path] at ran
  dsimp only at ran
  rw [run_bind] at ran
  rcases guarded : (ensureAbsent (machine.session.resolvePath token)).run
    (machine.recordEvents (unboundEvents machine.session [token])) with ⟨fault | answer, middle⟩
  · have files_eq := (@ensure_absent_is_composed False False _).files_eq guarded
    rw [guarded] at ran
    cases ran
    rw [files_eq, Machine.files_record_events]
    exact .refl formed
  · obtain ⟨absent, files_eq⟩ := is_absent_of_ensure_absent guarded
    rw [Machine.files_record_events] at absent files_eq
    rw [guarded] at ran
    dsimp only at ran
    rw [run_bind, run_report] at ran
    dsimp only at ran
    rw [← files_eq] at formed absent ⊢
    have made := changes_within_of_change ran formed fun files => inserts absent
    exact made

theorem changes_within_of_copy {source destination : Token} (formed : machine.files.IsWellFormed)
    (ran : (perform programs (.copy source destination)).run machine = (result, after)) :
    ChangesWithin (machine.files.IsNewAt (machine.session.resolvePath destination)) machine.files
      after.files := by
  rw [perform, run_bind] at ran
  rcases guarded : (transferPaths source destination).run machine with ⟨fault | paths, middle⟩
  · have files_eq := (@transfer_paths_is_composed False False _ _).files_eq guarded
    rw [guarded] at ran
    cases ran
    rw [files_eq]
    exact .refl formed
  · obtain ⟨rfl, absent, files_eq⟩ := is_absent_of_transfer_paths guarded
    rw [guarded] at ran
    dsimp only at ran
    rw [run_bind] at ran
    rw [← files_eq] at formed absent ⊢
    rcases copied : (copyTree (.host .copyTo (machine.session.resolvePath destination))
      (machine.session.resolvePath source) (machine.session.resolvePath destination)).run middle with
      ⟨outcome, last⟩
    have within := changes_within_of_run_copy_tree _ _ formed absent copied
    rw [copied] at ran
    cases outcome with
    | error fault =>
      cases ran
      exact within
    | ok answer =>
      cases ran
      exact within

/-- An operation that makes something changes nothing else, whether it succeeds or not. -/
theorem changes_within_of_perform {operation : Operation} {path : Path}
    (making : newPath? machine.session operation = some path) (formed : machine.files.IsWellFormed)
    (ran : (perform programs operation).run machine = (result, after)) :
    ChangesWithin (machine.files.IsNewAt path) machine.files after.files := by
  cases operation with
  | createFile token =>
    cases making
    exact changes_within_of_making inserts_of_create formed ran
  | makeDirectory token =>
    cases making
    exact changes_within_of_making (fun _ made => ⟨_, inserts_of_make_directory made⟩) formed ran
  | copy source destination =>
    cases making
    exact changes_within_of_copy formed ran
  | _ => cases making

/-- A move is made as a whole or not at all, and the output has no part in it. -/
theorem relocates_of_move {source destination : Token} (formed : machine.files.IsWellFormed)
    (ran : (perform programs (.move source destination)).run machine = (result, after)) :
    (∃ fault, result = .error fault ∧ fault ≠ .outputFull ∧ after.files = machine.files) ∨
      result = .ok () ∧ machine.files.Relocates (machine.session.resolvePath source)
        (machine.session.resolvePath destination) after.files := by
  rw [perform, run_bind] at ran
  rcases guarded : (transferPaths source destination).run machine with ⟨fault | paths, middle⟩
  · have files_eq := (@transfer_paths_is_composed False False _ _).files_eq guarded
    have other := (transfer_paths_is_quiet source destination).ne_outputFull machine
    rw [guarded] at ran other
    cases ran
    exact .inl ⟨fault, rfl, fun full => other (congrArg _ full), files_eq⟩
  · obtain ⟨rfl, absent, files_eq⟩ := is_absent_of_transfer_paths guarded
    rw [guarded] at ran
    dsimp only at ran
    rw [run_bind, run_change, files_eq] at ran
    cases renamed : machine.files.rename (machine.session.resolvePath source)
      (machine.session.resolvePath destination) with
    | error error =>
      rw [renamed] at ran
      cases ran
      exact .inl ⟨_, rfl, host_ne_output_full _ _ _, files_eq⟩
    | ok files =>
      rw [renamed] at ran
      cases ran
      exact .inr ⟨rfl, relocates_of_rename formed absent renamed⟩

end Perform

end LineScript.Engine
