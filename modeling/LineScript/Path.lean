import LineScript.Text.Utf8

/-!
# Path texts

A path is kept as the text it was written as. Joining puts one path after another and normalises
nothing; a path that begins with a slash replaces what it is joined to.
-/

namespace LineScript

set_option autoImplicit false

abbrev Path := Text

namespace Path

def isAbsolute (path : Path) : Bool := path.head? == some '/'

/-- `base` followed by `path`, with one slash between them unless `base` ends with one or is empty.
An absolute `path` stands alone. -/
def join (base path : Path) : Path :=
  if isAbsolute path then path
  else if base.isEmpty || base.getLast? == some '/' then base ++ path
  else base ++ '/' :: path

/-- The parts of a path between slashes, empty ones included. -/
def parts : Path → List Text
  | [] => [[]]
  | c :: rest =>
    if c = '/' then [] :: parts rest
    else
      match parts rest with
      | [] => [[c]]
      | part :: others => (c :: part) :: others

def properParts (path : Path) : List Text :=
  (parts path).filter fun part => !part.isEmpty && part != ['.']

/-- The last component of a path, unless the path is a root, a dot or ends by going up. -/
def fileName? (path : Path) : Option Text :=
  match (properParts path).getLast? with
  | some name => if name = ['.', '.'] then none else some name
  | none => none

def sizeLimit : Nat := 4096

end Path

end LineScript
