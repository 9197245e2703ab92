import LineScript.Text.Basic

/-!
# Quoted texts

A text between two double quotes stands for the text inside, in which a backslash may introduce an
escape. Exactly one layer of quotes is removed, and a text that is not between quotes stands for
itself.
-/

namespace LineScript.Text

set_option autoImplicit false

def escaped? (letter : Char) : Option Char :=
  if letter = 'n' then some '\n'
  else if letter = 't' then some '\t'
  else if letter = 'r' then some '\r'
  else if letter = '0' then some '\x00'
  else if letter = '\\' ∨ letter = '"' ∨ letter = '\'' then some letter
  else none

/-- Reads escapes from left to right. A backslash before any other character, or at the end, is kept
as it is. -/
def unescape : Text → Text
  | [] => []
  | [c] => [c]
  | c :: d :: rest =>
    if c = '\\' then
      match escaped? d with
      | some meant => meant :: unescape rest
      | none => c :: d :: unescape rest
    else c :: unescape (d :: rest)

def inner? : Text → Option Text
  | '"' :: rest => if rest.getLast? = some '"' then some rest.dropLast else none
  | _ => none

def unquote (value : Text) : Text :=
  match inner? value with
  | some inner => unescape inner
  | none => value

end LineScript.Text
