import LineScript.FileSystem.Calls
import LineScript.Programs.Octets

/-!
# Questions about files

What a condition can ask about the entry that a path leads to. All entries belong to the user who asks,
who may read and write them whatever their permission bits are, and none was used after it was made, so
none is newer than another that is there.
-/

namespace LineScript.Programs.FileQuestion

set_option autoImplicit false

def executeBits : Mode := 0o111

/-- What a letter asks of the entry that a path leads to, if it is such a question. -/
def ofNode? (letter : Char) : Option (Node → Bool) :=
  match letter with
  | 'e' | 'r' | 'w' | 'O' | 'G' => some fun _ => true
  | 'f' => some fun
    | .file _ _ => true
    | _ => false
  | 'd' => some (· == .directory)
  | 's' => some fun
    | .file content _ => !content.isEmpty
    | .directory => true
    | _ => false
  | 'x' => some fun
    | .directory => true
    | .file _ mode => mode &&& executeBits ≠ 0
    | _ => false
  | 'c' => some fun
    | .device _ => true
    | _ => false
  | 'b' | 'p' | 'S' | 'u' | 'g' | 'k' => some fun _ => false
  | _ => none

def isLink (files : FileSystem) (path : Text) : Bool :=
  match files.linkStatus (Octets.text path) with
  | .ok (_, .link _) => true
  | _ => false

def answer? (files : FileSystem) (letter : Char) (path : Text) : Option Bool :=
  match letter with
  | 'L' | 'h' => some (isLink files path)
  | _ =>
    (ofNode? letter).map fun holds =>
      match files.status (Octets.text path) with
      | .ok (_, node) => holds node
      | .error _ => false

def leads (files : FileSystem) (path : Text) : Bool := (files.status (Octets.text path)).isOk

def same (files : FileSystem) (first second : Text) : Bool :=
  match files.status (Octets.text first), files.status (Octets.text second) with
  | .ok (here, _), .ok (there, _) => here == there
  | _, _ => false

end LineScript.Programs.FileQuestion
