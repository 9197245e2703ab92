import LineScript.Programs.Shell.Source

/-!
# Reading words

A word goes up to a blank, the end of the line or the start of an operator, except that quotes and
substitutions hold such characters. Between double quotes, in here-documents and in arithmetic most
characters stand for themselves. The statements of a command substitution are read by `command`; it is
told whether they end with a parenthesis.
-/

namespace LineScript.Programs.Shell.WordReader

set_option autoImplicit false

open Reading

inductive Enclosure where
  | quotes (braced : Bool)
  | braces
  | document
  | arithmetic (depth : Nat)
  deriving DecidableEq

def Enclosure.isBraced : Enclosure → Bool
  | .quotes braced => braced
  | .braces => true
  | _ => false

inductive Surroundings where
  | bare
  | shielded (document : Bool)
  deriving DecidableEq

def endsWord (c : Char) : Bool := "<>();&| \t".toList.contains c

def isSpecialParameter (c : Char) : Bool := c.isDigit || "*@#?-$!".toList.contains c

def keepsBackslash (enclosure : Enclosure) (document : Bool) (c : Char) : Bool :=
  c != '\\' && c != '`' && c != '$' && (c != '"' || document && !enclosure.isBraced) &&
    (c != '\x7d' || !enclosure.isBraced)

def singleQuoted : (fuel : Nat) → (pieces : Word) → Reading Word
  | 0, _ => throw .tooLong
  | fuel + 1, pieces => do
    match ← takeRaw with
    | none => throw .unterminatedQuote
    | some '\'' => return pieces.reverse
    | some c => singleQuoted fuel (.plain c :: pieces)

/-- Takes the text of a command between backquotes. Some backslashes in it are taken away. -/
def backquotedText (shielded : Bool) : (fuel : Nat) → (taken : Text) → Reading Text
  | 0, _ => throw .tooLong
  | fuel + 1, taken => do
    match ← take with
    | none => throw .unclosedBackquote
    | some '`' => return taken.reverse
    | some '\\' =>
      match ← takeRaw with
      | none => throw .unclosedBackquote
      | some c =>
        if c == '\\' || c == '`' || c == '$' || shielded && c == '"' then
          backquotedText shielded fuel (c :: taken)
        else backquotedText shielded fuel (c :: '\\' :: taken)
    | some c => backquotedText shielded fuel (c :: taken)

section

variable (command : (closes : Bool) → Reading (List Statement))

/-- Reads statements between parentheses. Here-documents that are not complete in them are empty. -/
def parenthesized : Reading Piece := do
  let pending := (← get).pending
  modify fun source => { source with pending := [] }
  let body ← command true
  modify fun source =>
    { source with
      documents := source.pending.map (fun document => (document.number, [])) ++ source.documents
      pending := pending
      again := false }
  return .command body

def backquoted (shielded : Bool) (fuel : Nat) : Reading Piece := do
  let text ← backquotedText shielded fuel []
  let outer ← get
  set { outer with splices := [], rest := text, line := 1, pending := [], again := false }
  let body ← command false
  modify fun inner =>
    { inner with
      splices := outer.splices
      rest := outer.rest
      line := outer.line
      pending := outer.pending
      again := false }
  return .command body

/-- How much of a value a pattern is taken off, if the next character doubles the one before. -/
def isDoubled (c : Char) : Reading Bool := do
  if (← peek) == some c then
    let _ ← take
    return true
  else return false

def fallback? (c : Char) : Option Fallback :=
  match c with
  | '-' => some .substitute
  | '+' => some .replacement
  | '=' => some .assignment
  | '?' => some .demand
  | _ => none

/-- Takes a character of the braces of a parameter before the word in them. The line that it may end is not
counted. -/
def takeModifier : Reading (Option Char) := do
  let next ← take
  if next == some '\n' then modify fun source => { source with line := source.line - 1 }
  return next

/-- Takes the name of a parameter in braces, and whether its length is asked for. There may be no
name. -/
def bracedName (fuel : Nat) : Reading (Option Text × Bool) := do
  let digitsOrName (c : Char) : Reading (Option Text) := do
    if isNameStart c then return some (← takeWhile isNameChar fuel [])
    else return some (← takeWhile Char.isDigit fuel [])
  match ← peek with
  | some '\x7d' | none => return (none, false)
  | some c =>
    if isNameStart c || c.isDigit then return (← digitsOrName c, false)
    else
      let _ ← takeModifier
      if c != '#' then return (if isSpecialParameter c then some [c] else none, false)
      else
        match ← peek with
        | none => return (some ['#'], false)
        | some d =>
          if isNameStart d || d.isDigit then return (← digitsOrName d, true)
          else
            let before ← get
            let _ ← take
            if d != '\x7d' && (← peek) == some '\x7d' then
              return (if isSpecialParameter d then some [d] else none, isSpecialParameter d)
            else
              set before
              return (some ['#'], false)

mutual

/-- Reads the pieces of a word outside quotes. Inside the braces of a parameter, blanks and operators
belong to it, up to the closing brace. In the delimiter of a here-document nothing is replaced. -/
def barePieces (braced literal : Bool) : (fuel : Nat) → (pieces : Word) → Reading Word
  | 0, _ => throw .tooLong
  | fuel + 1, pieces => do
    match ← peek with
    | none => if braced then throw .missingBrace else return pieces.reverse
    | some '\\' =>
      let _ ← takeRaw
      match ← takeRaw with
      | none => barePieces braced literal fuel (.escaped '\\' :: pieces)
      | some c => barePieces braced literal fuel (.escaped c :: pieces)
    | some '\'' =>
      let _ ← takeRaw
      let inside ← singleQuoted fuel []
      barePieces braced literal fuel (.enclosed inside :: pieces)
    | some '"' =>
      let _ ← takeRaw
      let inside ← shieldedPieces (.quotes braced) false fuel []
      barePieces braced literal fuel (.enclosed inside :: pieces)
    | some '`' =>
      let _ ← takeRaw
      if literal then barePieces braced literal fuel (.plain '`' :: pieces)
      else
        let piece ← backquoted command false fuel
        barePieces braced literal fuel (piece :: pieces)
    | some '$' =>
      let _ ← takeRaw
      if literal then barePieces braced literal fuel (.plain '$' :: pieces)
      else
        let piece ← substitution .bare fuel
        barePieces braced literal fuel (piece :: pieces)
    | some '\x7d' =>
      let _ ← takeRaw
      if braced then return pieces.reverse
      else barePieces braced literal fuel (.plain '\x7d' :: pieces)
    | some c =>
      if !braced && (c == '\n' || endsWord c) then return pieces.reverse
      else
        let _ ← takeRaw
        barePieces braced literal fuel (.plain c :: pieces)

/-- Reads pieces in which most characters stand for themselves, up to the end of the enclosure. -/
def shieldedPieces (enclosure : Enclosure) (document : Bool) :
    (fuel : Nat) → (pieces : Word) → Reading Word
  | 0, _ => throw .tooLong
  | fuel + 1, pieces => do
    let goOn (piece : Piece) : Reading Word :=
      shieldedPieces enclosure document fuel (piece :: pieces)
    match ← peek, enclosure with
    | none, .document => return pieces.reverse
    | none, .arithmetic _ => throw .missingParentheses
    | none, _ => throw (if document then .missingBrace else .unterminatedQuote)
    | some '"', .quotes _ | some '\x7d', .braces =>
      let _ ← takeRaw
      return pieces.reverse
    | some '"', .braces =>
      let _ ← takeRaw
      let inside ← shieldedPieces (.quotes true) document fuel []
      goOn (.enclosed inside)
    | some '(', .arithmetic depth =>
      let _ ← takeRaw
      shieldedPieces (.arithmetic (depth + 1)) document fuel (.plain '(' :: pieces)
    | some ')', .arithmetic (depth + 1) =>
      let _ ← takeRaw
      shieldedPieces (.arithmetic depth) document fuel (.plain ')' :: pieces)
    | some ')', .arithmetic 0 =>
      let _ ← takeRaw
      if (← peek) == some ')' then
        let _ ← takeRaw
        return pieces.reverse
      else goOn (.plain ')')
    | some '\\', _ =>
      let _ ← takeRaw
      match ← takeRaw with
      | none => goOn (.escaped '\\')
      | some c =>
        if keepsBackslash enclosure document c then
          shieldedPieces enclosure document fuel (.escaped c :: .escaped '\\' :: pieces)
        else goOn (.escaped c)
    | some '`', _ =>
      let _ ← takeRaw
      goOn (← backquoted command true fuel)
    | some '$', _ =>
      let _ ← takeRaw
      let surroundings := .shielded document
      goOn (← substitution surroundings fuel)
    | some c, _ =>
      let _ ← takeRaw
      goOn (.plain c)

def parameterWord (surroundings : Surroundings) : (fuel : Nat) → Reading Word
  | 0 => throw .tooLong
  | fuel + 1 =>
    match surroundings with
    | .bare => barePieces true false fuel []
    | .shielded document => shieldedPieces .braces document fuel []

def substitution (surroundings : Surroundings) : (fuel : Nat) → Reading Piece
  | 0 => throw .tooLong
  | fuel + 1 => do
    match ← peek with
    | some '(' =>
      let _ ← takeRaw
      if (← peek) == some '(' then
        let _ ← takeRaw
        let document := surroundings = .shielded true
        return .arithmetic (← shieldedPieces (.arithmetic 0) document fuel [])
      else parenthesized command
    | some '\x7b' =>
      let _ ← takeRaw
      bracedParameter surroundings fuel
    | some c =>
      if isNameStart c then return .parameter (← takeWhile isNameChar fuel []) .value
      else if isSpecialParameter c then
        let _ ← takeRaw
        return .parameter [c] .value
      else return .plain '$'
    | none => return .plain '$'

def bracedParameter (surroundings : Surroundings) : (fuel : Nat) → Reading Piece
  | 0 => throw .tooLong
  | fuel + 1 => do
    match ← bracedName fuel with
    | (none, _) => return .parameter [] (.unreadable (← parameterWord surroundings fuel))
    | (some name, true) =>
      let isLength := (← peek) == some '\x7d'
      let word ← parameterWord surroundings fuel
      return .parameter name (if isLength then .length else .unreadable word)
    | (some name, false) =>
      match ← takeModifier with
      | some '\x7d' => return .parameter name .value
      | some ':' =>
        match ← takeModifier with
        | some c =>
          let word ← parameterWord surroundings fuel
          return .parameter name
            (match fallback? c with
              | some kind => .fallback kind true word
              | none => if c = '\x7d' then .fallback .substitute true word else .unreadable word)
        | none => return .parameter name (.unreadable (← parameterWord surroundings fuel))
      | some '%' =>
        let longest ← isDoubled '%'
        return .parameter name (.trimmed .finish longest (← parameterWord .bare fuel))
      | some '#' =>
        let longest ← isDoubled '#'
        return .parameter name (.trimmed .start longest (← parameterWord .bare fuel))
      | some c =>
        let word ← parameterWord surroundings fuel
        return .parameter name
          (match fallback? c with
            | some kind => .fallback kind false word
            | none => .unreadable word)
      | none => return .parameter name (.unreadable (← parameterWord surroundings fuel))

end

end

end LineScript.Programs.Shell.WordReader
