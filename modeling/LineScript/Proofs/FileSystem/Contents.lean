import LineScript.Proofs.FileSystem.Descent

/-!
# The content of a file that is written

A wish for a file ends where the path leads, and once a file is put there the same path leads to it.
So what is stored at a path that can be written is what the path leads to afterwards, and nothing but a
device takes bytes without holding them.
-/

namespace LineScript

set_option autoImplicit false

namespace Arrival

def location : Arrival → Location
  | present location _ => location
  | vacant directory name => directory ++ [name]

/-- The content and the permission bits of the regular file where the lookup ends, if one is there. -/
def file? : Arrival → Option (List UInt8 × Mode)
  | present _ (.file content mode) => some (content, mode)
  | _ => none

/-- What an arrival says about the file system. A directory may be one that is no longer there. -/
def IsTrueOf (files : FileSystem) : Arrival → Prop
  | present location node => node = .directory ∨ files.get? location = some node
  | vacant directory name =>
    files.get? (directory ++ [name]) = none ∧ files.get? directory = some .directory

end Arrival

namespace FileSystem

variable {files after : FileSystem} {path : Path} {directory location : Location} {name : Name}
  {slash : Bool} {request : Request} {arrival : Arrival} {links : Nat}
  {components : List Component} {node : Node}

theorem is_true_of_of_follow
    (arrived : files.follow request links slash directory components = .ok arrival) :
    arrival.IsTrueOf files := by
  fun_induction FileSystem.follow files request links slash directory components with
  | case1 =>
    cases arrived
    exact .inl rfl
  | case2 _ _ _ _ ih => exact ih arrived
  | case3 _ _ _ _ ih => exact ih arrived
  | case6 _ _ directory name rest _ _ _ free last =>
    cases arrived
    rw [Bool.and_eq_true] at last
    exact ⟨free, eq_of_beq last.2⟩
  | case8 _ _ _ _ _ _ _ _ _ ih => exact ih arrived
  | case9 _ _ _ _ _ _ _ _ _ standing =>
    cases arrived
    exact .inr standing
  | case12 _ _ _ _ _ _ _ _ _ _ _ _ _ ih => exact ih arrived
  | case13 _ _ _ _ _ _ _ _ _ _ _ standing =>
    cases arrived
    exact .inr standing
  | _ => cases arrived

theorem follow_destination_of_file_to_write
    (arrived : files.follow .fileToWrite links slash directory components = .ok arrival) :
    files.follow .destination links slash directory components = .ok arrival := by
  fun_induction FileSystem.follow files .fileToWrite links slash directory components with
  | case1 => rw [follow, arrived]
  | case2 _ _ _ _ ih | case3 _ _ _ _ ih =>
    rw [follow]
    exact ih arrived
  | case6 _ _ _ _ _ _ _ short free last =>
    rw [follow_entry _ rfl rfl, if_neg (by simpa [Request.fileToWrite] using short), free]
    dsimp only
    rw [if_pos last, arrived]
  | case8 _ _ _ _ _ _ _ short standing ih =>
    rw [follow_entry _ rfl rfl, if_neg (by simpa [Request.fileToWrite] using short), standing]
    exact ih arrived
  | case9 _ _ _ _ _ _ _ _ _ _ stops => simp [Request.fileToWrite] at stops
  | case12 _ _ _ _ _ _ short _ standing _ blank _ _ ih =>
    rw [follow_entry _ rfl rfl, if_neg (by simpa [Request.fileToWrite] using short), standing]
    dsimp only
    rw [if_neg (by simp [Request.destination]), if_neg blank]
    exact ih arrived
  | case13 _ _ _ _ _ _ _ short node _ _ standing last =>
    rw [follow_entry _ rfl rfl, if_neg (by simpa [Request.fileToWrite] using short), standing]
    cases node with
    | directory | link => simp_all
    | file | device =>
      dsimp only
      rw [if_pos last, arrived]
  | _ => cases arrived

/-- A file can stand at a location: nothing stands there, or another file. -/
def TakesFile (files : FileSystem) (location : Location) : Prop :=
  files.get? location = none ∨ ∃ content mode, files.get? location = some (.file content mode)

theorem TakesFile.ne_nil (takes : files.TakesFile location) : location ≠ [] := by
  rintro rfl
  rcases takes with free | ⟨content, mode, standing⟩ <;> cases ‹_›

/-- A file that is put where a wish for a file ends is found by the same path. -/
theorem follow_insert_of_file_to_write {content : List UInt8} {mode : Mode}
    (takes : files.TakesFile arrival.location)
    (notDirectory : arrival ≠ .present arrival.location .directory)
    (arrived : files.follow .fileToWrite links slash directory components = .ok arrival) :
    (files.insert arrival.location (.file content mode)).follow .destination links slash directory
      components = .ok (.present arrival.location (.file content mode)) := by
  have put := files.get?_insert_self (.file content mode) takes.ne_nil
  -- What the lookup passes on its way is no place for a file, so it is still there.
  have kept : ∀ place node, files.get? place = some node →
      (∀ content mode, node ≠ .file content mode) →
      (files.insert arrival.location (.file content mode)).get? place = some node := by
    intro place node standing passed
    rw [get?_insert_of_ne, standing]
    rintro rfl
    rcases takes with free | ⟨content, mode, file⟩
    · cases free.symm.trans standing
    · exact passed content mode (Option.some.inj (standing.symm.trans file))
  fun_induction FileSystem.follow files .fileToWrite links slash directory components with
  | case1 =>
    cases arrived
    exact absurd rfl notDirectory
  | case2 _ _ _ _ ih | case3 _ _ _ _ ih =>
    rw [follow]
    exact ih arrived
  | case6 _ _ _ _ _ _ noSlash short free last =>
    cases arrived
    have isLast := (Bool.and_eq_true _ _ ▸ last).1
    rw [isLast, Bool.true_and, Request.fileToWrite, Bool.and_true, Bool.not_eq_true] at noSlash
    rw [follow_entry _ rfl rfl, if_neg (by simpa [Request.fileToWrite] using short)]
    dsimp only [Arrival.location] at put ⊢
    rw [put]
    dsimp only
    rw [isLast, noSlash, if_pos (by decide)]
  | case8 _ _ _ _ _ _ _ short standing ih =>
    rw [follow_entry _ rfl rfl, if_neg (by simpa [Request.fileToWrite] using short),
      kept _ _ standing (by simp)]
    exact ih arrived
  | case9 _ _ _ _ _ _ _ _ _ _ stops => simp [Request.fileToWrite] at stops
  | case12 _ _ _ _ _ _ short _ standing _ blank _ _ ih =>
    rw [follow_entry _ rfl rfl, if_neg (by simpa [Request.fileToWrite] using short),
      kept _ _ standing (by simp)]
    dsimp only
    rw [if_neg (by simp [Request.destination]), if_neg blank]
    exact ih arrived
  | case13 _ _ _ _ _ _ _ short node _ _ standing last =>
    cases arrived
    rw [follow_entry _ rfl rfl, if_neg (by simpa [Request.fileToWrite] using short)]
    dsimp only [Arrival.location] at put ⊢
    rw [put]
    dsimp only
    rw [if_pos last]
  | _ => cases arrived

/-! ## What is stored and what is read -/

def fileAt? (files : FileSystem) (path : Path) : Option (List UInt8 × Mode) :=
  match files.status path with
  | .ok (_, .file content mode) => some (content, mode)
  | _ => none

def LeadsToDevice (files : FileSystem) (path : Path) : Prop :=
  ∃ location device, files.status path = .ok (location, .device device)

/-- A regular file can be opened for writing at a path, made anew or with a content that goes. -/
def IsWritable (files : FileSystem) (path : Path) : Prop :=
  (∃ created, files.create path = .ok created) ∧ ¬ files.LeadsToDevice path

theorem file_at?_eq_some_iff {content : List UInt8} {mode : Mode} :
    files.fileAt? path = some (content, mode) ↔
      ∃ location, files.status path = .ok (location, .file content mode) := by
  unfold fileAt?
  rcases files.status path with error | ⟨location, node⟩
  · simp
  · cases node <;> simp

theorem file_at?_eq_none (nothing : ∀ entry, files.status path ≠ .ok entry) :
    files.fileAt? path = none := by
  unfold fileAt?
  split
  · rename_i found
    exact absurd found (nothing _)
  · rfl

theorem content_of_of_file_at? {content : List UInt8} {mode : Mode}
    (file : files.fileAt? path = some (content, mode)) : files.contentOf path = .ok content := by
  obtain ⟨location, found⟩ := file_at?_eq_some_iff.mp file
  rw [contentOf, found]

/-- A wish for a file at the path ends at a place that a file can have. -/
structure OpensAt (files : FileSystem) (path : Path) (arrival : Arrival) : Prop where
  located : files.locate .fileToWrite path = .ok arrival
  takes : files.TakesFile arrival.location
  notDirectory : arrival ≠ .present arrival.location .directory

theorem locate_destination_of_file_to_write (located : files.locate .fileToWrite path = .ok arrival) :
    files.locate .destination path = .ok arrival ∧ arrival.IsTrueOf files := by
  cases accepted : refusal? path with
  | some error =>
    rw [locate, accepted] at located
    cases located
  | none =>
    rw [locate_of_accepted _ _ accepted] at located ⊢
    exact ⟨follow_destination_of_file_to_write located, is_true_of_of_follow located⟩

section Stores

variable {written : List UInt8} {update : Option (List UInt8 × Mode) → List UInt8 × Mode}

/-- A store leaves the file system of a device as it is, and otherwise needs a place for a file. -/
theorem device_or_opens_at_of_store (stored : files.store path written update = .ok after) :
    files.LeadsToDevice path ∧ after = files ∨ ∃ arrival, files.OpensAt path arrival := by
  unfold store at stored
  cases located : files.locate .fileToWrite path with
  | error error =>
    rw [located] at stored
    cases stored
  | ok arrival =>
    obtain ⟨led, isTrue⟩ := locate_destination_of_file_to_write located
    rw [located] at stored
    match arrival with
    | .vacant directory name => exact .inr ⟨_, located, .inl isTrue.1, nofun⟩
    | .present location (.file content mode) =>
      have standing : files.get? location = some (.file content mode) := isTrue.resolve_left nofun
      exact .inr ⟨_, located, .inr ⟨content, mode, standing⟩, nofun⟩
    | .present location .directory | .present location (.link target) => cases stored
    | .present location (.device device) =>
      refine .inl ⟨⟨location, device, status_eq_ok_iff.mpr led⟩, ?_⟩
      cases device with
      | null =>
        cases stored
        rfl
      | full =>
        dsimp only at stored
        split at stored <;> cases stored
        rfl

theorem OpensAt.file_at?_insert (opens : files.OpensAt path arrival) (content : List UInt8)
    (mode : Mode) :
    (files.insert arrival.location (.file content mode)).fileAt? path = some (content, mode) := by
  obtain ⟨located, takes, notDirectory⟩ := opens
  cases accepted : refusal? path with
  | some error =>
    rw [locate, accepted] at located
    cases located
  | none =>
    rw [locate_of_accepted _ _ accepted] at located
    rw [file_at?_eq_some_iff]
    refine ⟨arrival.location, ?_⟩
    rw [status_eq_ok_iff, locate_of_accepted _ _ accepted]
    exact follow_insert_of_file_to_write takes notDirectory located

theorem file_at?_of_locate (led : files.locate .destination path = .ok arrival) :
    files.fileAt? path = arrival.file? := by
  rw [fileAt?, status, locateEntry, led]
  rcases arrival with ⟨location, node⟩ | ⟨directory, name⟩
  · cases node <;> rfl
  · rfl

theorem OpensAt.store_eq (opens : files.OpensAt path arrival) :
    files.store path written update = .ok (files.insert arrival.location
      (.file (update (files.fileAt? path)).1 (update (files.fileAt? path)).2)) := by
  obtain ⟨led, isTrue⟩ := locate_destination_of_file_to_write opens.located
  rw [file_at?_of_locate led, store, opens.located]
  match arrival with
  | .vacant directory name | .present location (.file content mode) => rfl
  | .present location .directory => exact absurd rfl opens.notDirectory
  | .present location (.link _) | .present location (.device _) =>
    have standing := isTrue.resolve_left nofun
    rcases opens.takes with free | ⟨content, mode, file⟩
    · cases free.symm.trans standing
    · cases file.symm.trans standing

theorem IsWritable.exists_opens_at (writable : files.IsWritable path) :
    ∃ arrival, files.OpensAt path arrival := by
  obtain ⟨⟨created, opened⟩, regular⟩ := writable
  rw [create, write] at opened
  exact (device_or_opens_at_of_store opened).resolve_left fun device => regular device.1

theorem IsWritable.exists_store (writable : files.IsWritable path) :
    ∃ after, files.store path written update = .ok after ∧
      after.fileAt? path = some (update (files.fileAt? path)) := by
  obtain ⟨arrival, opens⟩ := writable.exists_opens_at
  exact ⟨_, opens.store_eq, opens.file_at?_insert _ _⟩

theorem file_at?_of_store (stored : files.store path written update = .ok after)
    (regular : ¬ files.LeadsToDevice path) :
    after.fileAt? path = some (update (files.fileAt? path)) := by
  obtain ⟨device, -⟩ | ⟨arrival, opens⟩ := device_or_opens_at_of_store stored
  · exact absurd device regular
  · cases opens.store_eq.symm.trans stored
    exact opens.file_at?_insert _ _

end Stores

theorem IsWritable.exists_write (writable : files.IsWritable path) (content : List UInt8) :
    ∃ after mode, files.write path content = .ok after ∧
      after.fileAt? path = some (content, mode) := by
  obtain ⟨after, stored, held⟩ := writable.exists_store
  exact ⟨after, _, stored, held⟩

theorem IsWritable.exists_append (writable : files.IsWritable path) (content : List UInt8) :
    ∃ after mode, files.append path content = .ok after ∧
      after.fileAt? path = some (((files.fileAt? path).map (·.1)).getD [] ++ content, mode) := by
  obtain ⟨after, stored, held⟩ := writable.exists_store
  exact ⟨after, _, stored, held⟩

end FileSystem

end LineScript
