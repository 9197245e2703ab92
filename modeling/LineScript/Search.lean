import LineScript.FileSystem.Calls
import LineScript.Glob.Match

/-!
# Searching a directory tree

A search lists a directory, goes through its entries in the order of their names, and descends into
those that are directories themselves; links are looked at but not followed. A directory that cannot
be listed is passed over. The descent ends because each path is longer than the one before it and no
path of more than a fixed length can be listed.
-/

namespace LineScript

set_option autoImplicit false

inductive SearchStep where
  | listing (directory : Path)
  | unlistable (directory : Path) (error : HostError)
  | hit (path : Path)

namespace Search

/-- The order of names: by their characters, which is the order of their bytes. -/
def nameLE (first second : Name) : Bool := Text.le first.text second.text

def sorted (entries : List (Name × Node)) : List (Name × Node) :=
  entries.mergeSort fun first second => nameLE first.1 second.1

theorem size_lt_of_list {files : FileSystem} {path : Path} {entries : List (Name × Node)}
    (listed : files.list path = .ok entries) : Utf8.size path < Path.sizeLimit := by
  apply Decidable.byContradiction
  intro long
  have refused : ∃ error, FileSystem.refusal? path = some error := by
    unfold FileSystem.refusal?
    split
    · exact ⟨_, rfl⟩
    · split
      · exact ⟨_, rfl⟩
      · rw [if_pos (Nat.not_lt.mp long)]
        exact ⟨_, rfl⟩
  obtain ⟨error, refused⟩ := refused
  simp [FileSystem.list, FileSystem.status, FileSystem.locateEntry, FileSystem.locate,
    refused] at listed

theorem size_encode_char_pos (c : Char) : 0 < (Utf8.encodeChar c).length := by
  simp only [Utf8.encodeChar]
  split
  · simp
  · split
    · simp
    · split <;> simp

theorem size_lt_size_join (directory : Path) (name : Name) :
    Utf8.size directory < Utf8.size (Path.join directory name.text) := by
  obtain ⟨c, rest, spelled⟩ := List.exists_cons_of_ne_nil name.text_ne_nil
  have relative : Path.isAbsolute name.text = false := by
    have noSlash := name.isEntryName.2.1
    rw [spelled] at noSlash ⊢
    simp only [List.mem_cons, not_or] at noSlash
    simpa [Path.isAbsolute] using fun same : c = '/' => noSlash.1 same.symm
  have positive := size_encode_char_pos c
  have positiveSlash := size_encode_char_pos '/'
  unfold Path.join
  rw [relative]
  simp only [Bool.false_eq_true, if_false]
  split
  · simp only [Utf8.size, Utf8.encode, spelled, List.flatMap_append, List.flatMap_cons,
      List.length_append]
    omega
  · simp only [Utf8.size, Utf8.encode, spelled, List.flatMap_append, List.flatMap_cons,
      List.length_append]
    omega

def below (files : FileSystem) (wanted : Text → Bool) (directory : Path) : List SearchStep :=
  match _listed : files.list directory with
  | .error error => [.listing directory, .unlistable directory error]
  | .ok entries =>
    .listing directory :: (sorted entries).flatMap fun (name, node) =>
      let path := Path.join directory name.text
      (if wanted name.text then [.hit path] else []) ++
        (if node = .directory then below files wanted path else [])
termination_by Path.sizeLimit - Utf8.size directory
decreasing_by
  have within := size_lt_of_list _listed
  have longer := size_lt_size_join directory name
  omega

/-- The steps of a search from `root`, which is itself an entry to be looked at if its path ends in
a name. -/
def run (files : FileSystem) (wanted : Text → Bool) (root : Path) : List SearchStep :=
  (match Path.fileName? root with
    | some name => if wanted name then [.hit root] else []
    | none => []) ++ below files wanted root

def hits (steps : List SearchStep) : List Path :=
  steps.filterMap fun
    | .hit path => some path
    | _ => none

def find (files : FileSystem) (pattern : Text) (root : Path) : Except Glob.Fault (List Path) :=
  (Glob.pieces pattern).map fun pieces => hits (run files (Glob.accepts pieces) root)

end Search

end LineScript
