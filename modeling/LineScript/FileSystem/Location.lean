import LineScript.Path

/-!
# Names and locations

An entry's name is a non-empty text without a slash that is neither `.` nor `..`. A location is the
list of names that leads from the root to an entry, so it depends on no link and no working
directory. A route is a path as a lookup follows it: where it starts, its components, and whether a
slash ends it.
-/

namespace LineScript

set_option autoImplicit false

def IsEntryName (text : Text) : Prop :=
  text ≠ [] ∧ '/' ∉ text ∧ text ≠ ['.'] ∧ text ≠ ['.', '.']

instance (text : Text) : Decidable (IsEntryName text) := by
  unfold IsEntryName
  infer_instance

structure Name where
  text : Text
  isEntryName : IsEntryName text
  deriving DecidableEq

namespace Name

def ofText? (text : Text) : Option Name :=
  if proper : IsEntryName text then some ⟨text, proper⟩ else none

def sizeLimit : Nat := 255

def isTooLong (name : Name) : Bool := sizeLimit < Utf8.size name.text

@[simp] theorem of_text?_text (name : Name) : ofText? name.text = some name := by
  simp [ofText?, name.isEntryName]

theorem text_ne_nil (name : Name) : name.text ≠ [] := name.isEntryName.1

end Name

abbrev Location := List Name

namespace Location

def toPath : Location → Path
  | [] => ['/']
  | name :: names => (name :: names).flatMap fun name => '/' :: name.text

def childName? : Location → Location → Option Name
  | [], [name] => some name
  | first :: directory, second :: location =>
    if first = second then childName? directory location else none
  | _, _ => none

/-- The names that lead from `outer` down to a location at or below it. -/
def below? : Location → Location → Option (List Name)
  | [], inner => some inner
  | first :: outer, second :: inner => if first = second then below? outer inner else none
  | _ :: _, [] => none

end Location

inductive Component where
  | here
  | up
  | entry (name : Name)
  deriving DecidableEq

namespace Component

/-- The step that a part of a path stands for; an empty part is none. -/
def ofPart? (part : Text) : Option Component :=
  if part = ['.'] then some .here
  else if part = ['.', '.'] then some .up
  else (Name.ofText? part).map .entry

end Component

structure Route where
  fromRoot : Bool
  components : List Component
  endsInSlash : Bool

namespace Route

def ofPath (path : Path) : Route :=
  ⟨Path.isAbsolute path, (Path.parts path).filterMap Component.ofPart?,
    path.getLast? == some '/'⟩

end Route

end LineScript
