import LineScript.FileSystem.Basic

/-!
# Changes between file systems

What turns one file system into another: entries that go, from the innermost outward, and then
entries that come or have another content, from the outermost inward. An entry whose kind changes
goes and comes.
-/

namespace LineScript

set_option autoImplicit false

inductive Change where
  | remove (location : Location) (node : Node)
  | put (location : Location) (node : Node)
  deriving DecidableEq

namespace Node

/-- Whether two nodes are of one kind, so that the one can be made the other without removing it. -/
def sameKind : Node → Node → Bool
  | .directory, .directory | .file _ _, .file _ _ => true
  | first, second => first == second

end Node

namespace FileSystem

def outermostFirst (files : FileSystem) : List (Location × Node) :=
  files.toList.mergeSort fun first second => first.1.length ≤ second.1.length

def goes (after : FileSystem) (location : Location) (node : Node) : Bool :=
  match after.get? location with
  | some other => !node.sameKind other
  | none => true

def changes (before after : FileSystem) : List Change :=
  (before.outermostFirst.reverse.filter fun (location, node) => after.goes location node).map
      (fun (location, node) => .remove location node) ++
    (after.outermostFirst.filter fun (location, node) => before.get? location != some node).map
      fun (location, node) => .put location node

end FileSystem

end LineScript
