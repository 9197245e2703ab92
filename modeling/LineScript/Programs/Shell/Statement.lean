import LineScript.Programs.Channel

/-!
# Statements of the shell

A script is a list of statements. Their words are made of pieces: characters, quoted parts, and
parameters, arithmetic and commands that are replaced when the statement is carried out. The texts of
here-documents come later in a script than the redirections that they belong to, so a redirection only
holds their number.
-/

namespace LineScript.Programs.Shell

set_option autoImplicit false

inductive Side where
  | start
  | finish
  deriving DecidableEq

/-- What the word after a parameter's name is for: to stand for a missing value, to stand for one that is
there, to be assigned to a missing one, or to say what is wrong with a missing one. -/
inductive Fallback where
  | substitute
  | replacement
  | assignment
  | demand
  deriving DecidableEq

/-- How the file of a redirection is opened. Creating asks that a file is not overwritten where the
shell was told so. -/
inductive Target where
  | reading
  | creating
  | overwriting
  | appending
  | updating
  deriving DecidableEq

mutual

inductive Piece where
  | plain (octet : Char)
  | escaped (octet : Char)
  | enclosed (inside : List Piece)
  | parameter (name : Text) (use : Use)
  | arithmetic (inside : List Piece)
  | command (body : List Statement)

inductive Use where
  | value
  | length
  | fallback (kind : Fallback) (coversEmpty : Bool) (word : List Piece)
  | trimmed (side : Side) (longest : Bool) (pattern : List Piece)
  | unreadable (word : List Piece)

inductive Redirection where
  | file (descriptor : Nat) (target : Target) (path : List Piece)
  | copy (descriptor : Nat) (source : List Piece)
  | document (descriptor : Nat) (number : Nat)

inductive Statement where
  | simple (line : Nat) (assignments words : List (List Piece)) (redirections : List Redirection)
  | definition (line : Nat) (name : Text) (body : Statement)
  | sequence (parts : List Statement)
  | both (first second : Statement)
  | either (first second : Statement)
  | negation (body : Statement)
  | pipeline (parts : List Statement)
  | background (body : Statement)
  | conditional (test body otherwise : List Statement)
  | repetition (untilTrue : Bool) (test body : List Statement)
  | iteration (line : Nat) (name : Text) (words : List (List Piece)) (body : List Statement)
  | choice (line : Nat) (subject : List Piece)
    (branches : List (List (List Piece) × List Statement))
  | subshell (line : Nat) (body : List Statement) (redirections : List Redirection)
  | redirected (line : Nat) (body : Statement) (redirections : List Redirection)

end

abbrev Word := List Piece

def isNameStart (c : Char) : Bool := c.isAlpha || c == '_'

def isNameChar (c : Char) : Bool := c.isAlphanum || c == '_'

def isName (text : Text) : Bool := text.head?.any isNameStart && text.all isNameChar

namespace Word

def plainText? : Word → Option Text
  | [] => some []
  | .plain c :: rest => (plainText? rest).map (c :: ·)
  | _ => none

def unquoted : Word → Text
  | [] => []
  | .plain c :: rest | .escaped c :: rest => c :: unquoted rest
  | .enclosed inside :: rest => unquoted inside ++ unquoted rest
  | _ :: rest => unquoted rest

def isQuoted (word : Word) : Bool :=
  word.any fun
    | .escaped _ | .enclosed _ => true
    | _ => false

def ofText (text : Text) : Word := text.map .plain

def assignment? (word : Word) : Option (Text × Word) :=
  nameBefore [] word
where
  /-- Takes the characters of a name off a word, up to an equals sign. -/
  nameBefore (name : Text) : Word → Option (Text × Word)
    | .plain c :: rest =>
      if c = '=' then if isName name.reverse then some (name.reverse, rest) else none
      else if isNameChar c then nameBefore (c :: name) rest
      else none
    | _ => none

end Word

end LineScript.Programs.Shell
