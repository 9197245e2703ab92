import LineScript.Bindings
import LineScript.FileSystem.HostError
import LineScript.FileSystem.Location

/-!
# File systems

A file system binds locations to what is there: directories, regular files, symbolic links and two
devices. The root is always a directory. Paths that are not absolute start from its working
directory.
-/

namespace LineScript

set_option autoImplicit false

/-- The devices a script can reach. `null` swallows what is written and holds nothing; `full` refuses
what is written, and reading it does not end. -/
inductive Device where
  | null
  | full
  deriving DecidableEq

abbrev Mode := Nat

namespace Mode

/-- The permission bits of a file that is created without any wish about them. -/
def created : Mode := 0o644

def program : Mode := 0o755

def isExecutable (mode : Mode) : Bool := mode.testBit 6

end Mode

inductive Node where
  | directory
  | file (content : List UInt8) (mode : Mode)
  | link (target : Path)
  | device (device : Device)
  deriving DecidableEq

namespace Location

/-- The key that an entry is kept under. Locations of different depths are told apart by their depths. -/
def key (location : Location) : Nat × Location := (location.length, location)

theorem key_inj {first second : Location} : key first = key second ↔ first = second := by
  simp only [key, Prod.mk.injEq]
  exact ⟨And.right, fun same => ⟨congrArg List.length same, same⟩⟩

end Location

/-- Locations with what stands there, and the directory that relative paths start from. -/
structure FileSystem where
  entries : Bindings (Nat × Location) Node
  workingDirectory : Location

namespace FileSystem

def ofList (entries : List (Location × Node)) : FileSystem where
  entries := entries.map fun (location, node) => (location.key, node)
  workingDirectory := []

def toList (files : FileSystem) : List (Location × Node) :=
  files.entries.map fun (key, node) => (key.2, node)

def get? (files : FileSystem) (location : Location) : Option Node :=
  if location = [] then some .directory else files.entries.get? location.key

def insert (files : FileSystem) (location : Location) (node : Node) : FileSystem :=
  { files with entries := files.entries.insert location.key node }

/-- The file system without what stands at a location; anything below it stays. -/
def erase (files : FileSystem) (location : Location) : FileSystem :=
  { files with entries := files.entries.erase location.key }

def eraseBelow (files : FileSystem) (location : Location) : FileSystem :=
  { files with
    entries := files.entries.filter fun (key, _) =>
      match location.below? key.2 with
      | some (_ :: _) => false
      | _ => true }

def relocate (files : FileSystem) (source destination : Location) : FileSystem :=
  { files with
    entries := files.entries.map fun (key, node) =>
      match source.below? key.2 with
      | some names => (Location.key (destination ++ names), node)
      | none => (key, node) }

/-- The file system in which each location on the way from `base` down through `names` is a
directory, unless something stands there already. -/
def withDirectories (files : FileSystem) (base : Location) : List Name → FileSystem
  | [] => files
  | name :: names =>
    let location := base ++ [name]
    match files.get? location with
    | some _ => files.withDirectories location names
    | none => (files.insert location .directory).withDirectories location names

/-- The entries that lie directly in a directory, in no particular order. -/
def children (files : FileSystem) (directory : Location) : List (Name × Node) :=
  let depth := directory.length + 1
  files.entries.filterMap fun (key, node) =>
    if key.1 = depth then (directory.childName? key.2).map fun name => (name, node) else none

theorem get?_insert_self (files : FileSystem) {location : Location} (node : Node)
    (inside : location ≠ []) : (files.insert location node).get? location = some node := by
  simp [get?, insert, inside]

theorem get?_insert_of_ne (files : FileSystem) {location other : Location} (node : Node)
    (distinct : other ≠ location) :
    (files.insert location node).get? other = files.get? other := by
  have apart : other.key ≠ location.key := fun same => distinct (Location.key_inj.mp same)
  simp [get?, insert, Bindings.get?_insert_of_ne _ _ apart]

end FileSystem

end LineScript
