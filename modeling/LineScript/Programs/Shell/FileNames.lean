import LineScript.FileSystem.Calls
import LineScript.Programs.Pattern
import LineScript.Programs.Octets

/-!
# Names of files

A field with a pattern in it is replaced by the paths that match it, if there are any. The parts of a
path are matched one by one, and a dot at the start of a name has to be in the pattern.
-/

namespace LineScript.Programs.Shell.FileNames

set_option autoImplicit false

/-- Whether a class is closed before the next slash. The text begins behind the bracket. -/
def closes : Text → Bool
  | [] => false
  | '\\' :: c :: d :: rest => c != '/' && (d == ']' || closes (d :: rest))
  | '\\' :: _ => false
  | c :: d :: rest => c != '/' && (d == ']' || closes (d :: rest))
  | [_] => false

def opensClass : Text → Bool
  | '!' :: rest => closes rest
  | rest => closes rest

/-- The first part of a pattern that stands for more than itself: what is before it, the part, and what
follows the slash behind it, if there is one. -/
def firstPart (before part : Text) (active : Bool) : Text → Option (Text × Text × Option Text)
  | [] => if active then some (before.reverse, part.reverse, none) else none
  | '\\' :: '/' :: rest =>
    if active then some (before.reverse, part.reverse, some rest)
    else firstPart ('/' :: '\\' :: part ++ before) [] false rest
  | '\\' :: c :: rest => firstPart before (c :: '\\' :: part) active rest
  | '/' :: rest =>
    if active then some (before.reverse, part.reverse, some rest)
    else firstPart ('/' :: part ++ before) [] false rest
  | c :: rest =>
    firstPart before (c :: part) (active || c == '*' || c == '?' || c == '[' && opensClass rest) rest

def unprotected : Text → Text
  | '\\' :: c :: rest => c :: unprotected rest
  | c :: rest => c :: unprotected rest
  | [] => []

/-- The names in a directory, the directory itself and the one above it included. -/
def namesIn (files : FileSystem) (directory : Text) : List Text :=
  match files.list (Octets.text (if directory.isEmpty then ['.'] else directory)) with
  | .ok entries =>
    ['.'] :: ['.', '.'] :: entries.reverse.map fun (name, _) => Octets.ofText name.text
  | .error _ => []

def matchesDot : Text → Bool
  | '.' :: _ | '\\' :: '.' :: _ => true
  | _ => false

/-- The paths that begin with a path and go on with what a pattern matches. Each step takes a part of
the pattern. -/
def matching (files : FileSystem) : (steps : Nat) → (path pattern : Text) → List Text
  | 0, _, _ => []
  | steps + 1, path, pattern =>
    match firstPart [] [] false pattern with
    | none =>
      let path := path ++ unprotected pattern
      if (files.linkStatus (Octets.text path)).isOk then [path] else []
    | some (before, part, after?) =>
      let directory := path ++ unprotected before
      let read := Pattern.ofText part
      let names := (namesIn files directory).filter fun name =>
        (name.head? != some '.' || matchesDot part) && read.accepts name
      match after? with
      | none => names.map (directory ++ ·)
      | some after => names.flatMap fun name => matching files steps (directory ++ name ++ ['/']) after

def ofPattern (files : FileSystem) (pattern : Text) : List Text :=
  match firstPart [] [] false pattern with
  | none => []
  | some _ => (matching files (pattern.length + 1) [] pattern).mergeSort Text.le

end LineScript.Programs.Shell.FileNames
