import LineScript.Programs.Shell.Lexeme

/-!
# The source of a script

What is left of a script while it is read: its text, the texts of aliases that were put before it, the
number of the line, and the here-documents whose texts begin with the next line. A line that ends with a
backslash goes on in the next one.
-/

namespace LineScript.Programs.Shell

set_option autoImplicit false

structure Splice where
  name : Text
  rest : Text
  endsInBlank : Bool

structure PendingDocument where
  number : Nat
  delimiter : Text
  quoted : Bool
  strips : Bool

/-- What is left of a script. The last lexeme may have to be read once more. After the text of an alias
that ends in a blank the next word may be an alias as well. -/
structure Source where
  splices : List Splice
  rest : Text
  line : Nat
  last : Lexeme
  again : Bool
  asksAliases : Bool
  pending : List PendingDocument
  documents : Bindings Nat Word
  nextDocument : Nat
  aliases : Bindings Text Text

abbrev Reading := EStateM SyntaxFault Source

namespace Source

def ofText (aliases : Bindings Text Text) (nextDocument : Nat) (text : Text) : Source where
  splices := []
  rest := text
  line := 1
  last := .newline
  again := false
  asksAliases := false
  pending := []
  documents := []
  nextDocument := nextDocument
  aliases := aliases

def settle (source : Source) : Source :=
  let rec
    /-- Takes finished texts off, and tells whether one of them ended in a blank. -/
    unfinished (ended : Bool) : List Splice → List Splice × Bool
      | ⟨_, [], endsInBlank⟩ :: others => unfinished (ended || endsInBlank) others
      | splices => (splices, ended)
  match source.splices with
  | ⟨_, [], _⟩ :: _ =>
    let (splices, ended) := unfinished source.asksAliases source.splices
    { source with splices := splices, asksAliases := ended }
  | _ => source

/-- A text without the line ends at its start that a backslash takes away, and their number. -/
def joined (lines : Nat) : Text → Nat × Text
  | '\\' :: '\n' :: rest => joined (lines + 1) rest
  | text => (lines, text)

end Source

namespace Reading

def peekRaw : Reading (Option Char) := do
  modify Source.settle
  let source ← get
  match source.splices with
  | splice :: _ => return splice.rest.head?
  | [] => return source.rest.head?

def takeRaw : Reading (Option Char) := do
  modify Source.settle
  modifyGet fun source =>
    let count (line : Nat) (c : Char) : Nat := if c = '\n' then line + 1 else line
    match source.splices, source.rest with
    | ⟨name, c :: rest, endsInBlank⟩ :: others, _ =>
      (some c,
        { source with
          splices := ⟨name, rest, endsInBlank⟩ :: others
          line := count source.line c })
    | _, c :: rest => (some c, { source with rest := rest, line := count source.line c })
    | _, [] => (none, source)

def peek : Reading (Option Char) := do
  match ← peekRaw with
  | some '\\' =>
    modify fun source =>
      match source.splices with
      | ⟨name, rest, endsInBlank⟩ :: others =>
        let (lines, rest) := Source.joined 0 rest
        { source with
          splices := ⟨name, rest, endsInBlank⟩ :: others
          line := source.line + lines }
      | [] =>
        let (lines, rest) := Source.joined 0 source.rest
        { source with rest := rest, line := source.line + lines }
    peekRaw
  | next => return next

def take : Reading (Option Char) := do
  let _ ← peek
  takeRaw

def takeWhile (test : Char → Bool) : (fuel : Nat) → (taken : Text) → Reading Text
  | 0, _ => throw .tooLong
  | fuel + 1, taken => do
    match ← peek with
    | some c =>
      if test c then
        let _ ← takeRaw
        takeWhile test fuel (c :: taken)
      else return taken.reverse
    | none => return taken.reverse

end Reading

end LineScript.Programs.Shell
