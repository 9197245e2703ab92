import LineScript.Text.Alphanumeric

/-!
# Tokens

A token is one lexical unit of a script line. It keeps the text it was read from, marks and quotes
included; what a token names is computed from that text.
-/

namespace LineScript

set_option autoImplicit false

inductive TokenKind where
  | word
  | quoted
  | variable
  | group
  deriving DecidableEq, Repr

structure Token where
  kind : TokenKind
  text : Text
  deriving DecidableEq, Repr

def isNameChar (c : Char) : Bool :=
  Text.isAlphanumeric c || c == '_' || c == '/' || c == '~' || c == '.'

/-- The characters of bare words: those of names, and the ones that search patterns need. -/
def isWordChar (c : Char) : Bool := isNameChar c || c == '*' || c == '?' || c == '-'

theorem is_word_char_of_is_name_char {c : Char} (name : isNameChar c = true) : isWordChar c = true := by
  simp [isWordChar, name]

namespace Token

def groupName? (token : Token) : Option Text :=
  match token.kind, token.text with
  | .group, '[' :: ']' :: name => some name
  | _, _ => none

def variableName (reference : Text) : Text := reference.dropWhile (· == '$')

/-- The name under which a value is bound when the token is a binding target. -/
def bindingName (token : Token) : Text :=
  match token.kind with
  | .variable => variableName token.text
  | .quoted => Text.trimMarks '"' token.text
  | .group | .word => token.text

end Token

end LineScript
