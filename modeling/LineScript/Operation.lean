import LineScript.Token

/-!
# Operations

The fourteen operations of the script language. A keyword is the name that a line begins with; an
operation is a keyword with its parameters sorted into the places it uses.
-/

namespace LineScript

set_option autoImplicit false

inductive Keyword where
  | echo
  | execute
  | set
  | createFile
  | makeDirectory
  | changeDirectory
  | remove
  | copy
  | move
  | read
  | write
  | append
  | find
  | each
  deriving DecidableEq, Repr

namespace Keyword

def all : List Keyword :=
  [echo, execute, set, createFile, makeDirectory, changeDirectory, remove, copy, move, read, write,
    append, find, each]

theorem mem_all (keyword : Keyword) : keyword ∈ all := by cases keyword <;> decide

def name : Keyword → Text
  | echo => ['e', 'c', 'h', 'o']
  | execute => ['e', 'x', 'e', 'c']
  | set => ['s', 'e', 't']
  | createFile => ['c', 'r', 'e', 'a', 't', 'e']
  | makeDirectory => ['m', 'k', 'd', 'i', 'r']
  | changeDirectory => ['c', 'd']
  | remove => ['r', 'm']
  | copy => ['c', 'p']
  | move => ['m', 'v']
  | read => ['r', 'e', 'a', 'd']
  | write => ['w', 'r', 'i', 't', 'e']
  | append => ['a', 'p', 'p', 'e', 'n', 'd']
  | find => ['f', 'i', 'n', 'd']
  | each => ['e', 'a', 'c', 'h']

def requiredParameters : Keyword → Nat
  | echo | execute | createFile | makeDirectory | changeDirectory | remove | read => 1
  | set | copy | move | write | append | find | each => 2

/-- The tokens that a line needs, the keyword included. -/
def requiredTokens (keyword : Keyword) : Nat := keyword.requiredParameters + 1

def ofName? (name : Text) : Option Keyword := all.find? (·.name == name)

theorem name_injective {first second : Keyword} (same : first.name = second.name) :
    first = second := by
  revert same
  cases first <;> cases second <;> decide

@[simp] theorem of_name?_name (keyword : Keyword) : ofName? keyword.name = some keyword := by
  cases keyword <;> rfl

theorem name_of_of_name? {name : Text} {keyword : Keyword} (found : ofName? name = some keyword) :
    keyword.name = name := by
  simpa using List.find?_some found

end Keyword

inductive Operation where
  | echo (arguments : List Token)
  | execute (command : Token) (capture : Option Text)
  | set (name : Text) (value : Token)
  | createFile (path : Token)
  | makeDirectory (path : Token)
  | changeDirectory (path : Token)
  | remove (path : Token)
  | copy (source destination : Token)
  | move (source destination : Token)
  | read (source : Token) (target : Option Text)
  | write (path data : Token)
  | append (path data : Token)
  | find (pattern : Token) (group : Text)
  | each (group : Text) (command : Token)
  deriving DecidableEq, Repr

inductive Misfit where
  | tooFew
  | notGroup (found : Token)
  deriving DecidableEq, Repr

namespace Operation

def keyword : Operation → Keyword
  | .echo .. => .echo
  | .execute .. => .execute
  | .set .. => .set
  | .createFile .. => .createFile
  | .makeDirectory .. => .makeDirectory
  | .changeDirectory .. => .changeDirectory
  | .remove .. => .remove
  | .copy .. => .copy
  | .move .. => .move
  | .read .. => .read
  | .write .. => .write
  | .append .. => .append
  | .find .. => .find
  | .each .. => .each

def boundVariable? : Operation → Option Text
  | .set name _ => some name
  | .execute _ capture => capture
  | .read _ target => target
  | _ => none

def group? : Operation → Option Text
  | .find _ group => some group
  | .each group _ => some group
  | _ => none

def groupParameter (token : Token) : Except Misfit Text :=
  match token.groupName? with
  | some group => .ok group
  | none => .error (.notGroup token)

/-- Sorts parameters into the places of an operation. Parameters beyond those places are left
aside; `echo` takes all of them. -/
def ofParameters : Keyword → List Token → Except Misfit Operation
  | .echo, first :: others => .ok (.echo (first :: others))
  | .execute, command :: others => .ok (.execute command (others.head?.map Token.bindingName))
  | .set, name :: value :: _ => .ok (.set name.bindingName value)
  | .createFile, path :: _ => .ok (.createFile path)
  | .makeDirectory, path :: _ => .ok (.makeDirectory path)
  | .changeDirectory, path :: _ => .ok (.changeDirectory path)
  | .remove, path :: _ => .ok (.remove path)
  | .copy, source :: destination :: _ => .ok (.copy source destination)
  | .move, source :: destination :: _ => .ok (.move source destination)
  | .read, source :: others => .ok (.read source (others.head?.map Token.bindingName))
  | .write, path :: data :: _ => .ok (.write path data)
  | .append, path :: data :: _ => .ok (.append path data)
  | .find, pattern :: group :: _ => (groupParameter group).map (.find pattern)
  | .each, group :: command :: _ => (groupParameter group).map (.each · command)
  | _, _ => .error .tooFew

end Operation

end LineScript
