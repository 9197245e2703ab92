import LineScript.Programs.Shell.WordReader

/-!
# Reading statements

A script is read one complete command at a time, so that what a command does can bear on how the next
one is read. A word is a keyword only where a command may begin and at a few other places, and the name
of an alias only where a command may begin or after an alias that ends in a blank.
-/

namespace LineScript.Programs.Shell.Reader

set_option autoImplicit false

open Reading

/-- What is looked for in the next lexeme: ends of lines that are passed over, keywords, and aliases. -/
structure Wants where
  newlines : Bool
  keywords : Bool
  aliases : Bool

namespace Wants

def plain : Wants := ⟨false, false, false⟩

def command : Wants := ⟨false, true, true⟩

def anyLine : Wants := ⟨true, true, true⟩

def keyword : Wants := ⟨true, true, false⟩

def firstWord : Wants := ⟨false, false, true⟩

end Wants

/-- How a list of statements may end and whether it may be empty. A list of a whole script ends with its
line; a list inside of something goes up to a mark that ends lists. -/
inductive ListKind where
  | line
  | nonempty
  | any
  deriving DecidableEq

def specialNames : List String :=
  [".", ":", "break", "continue", "eval", "exec", "exit", "export", "local", "readonly", "return",
    "set", "shift", "times", "trap", "unset"]

def back : Reading Unit := modify fun source => { source with again := true }

def refuse {α : Type} (found : Lexeme) (expected : Option Lexeme) : Reading α :=
  throw (.unexpected found.name (expected.map Lexeme.name))

/-- A line of a here-document, with whether it goes on beyond the end of the line: a backslash before
that takes it away. -/
def documentLine (quoted : Bool) : (taken text : Text) → Text × Text
  | taken, [] => (taken.reverse, [])
  | taken, '\n' :: rest => (('\n' :: taken).reverse, rest)
  | taken, '\\' :: c :: rest =>
    if quoted then
      if c = '\n' then (('\n' :: '\\' :: taken).reverse, rest)
      else documentLine quoted (c :: '\\' :: taken) rest
    else documentLine quoted (c :: '\\' :: taken) rest
  | taken, c :: rest => documentLine quoted (c :: taken) rest

/-- The text of a here-document, what follows its delimiter, and the number of lines passed. -/
def documentText (document : PendingDocument) : (fuel : Nat) → (lines : List Text) → (text : Text) →
    Text × Text × Bool
  | 0, lines, text => (lines.reverse.flatten, text, false)
  | fuel + 1, lines, text =>
    let (_, text) := if document.quoted then (0, text) else Source.joined 0 text
    let text := if document.strips then text.dropWhile (· == '\t') else text
    let after := text.drop document.delimiter.length
    if text.take document.delimiter.length == document.delimiter &&
        (after.isEmpty || after.head? == some '\n') then
      (lines.reverse.flatten, after.tail, true)
    else if text.isEmpty then (lines.reverse.flatten, [], false)
    else
      let (line, rest) := documentLine document.quoted [] text
      documentText document fuel (line :: lines) rest

def countLines (text : Text) : Nat := text.count '\n'

section

variable (command : (closes : Bool) → Reading (List Statement))

def readDocument (fuel : Nat) (document : PendingDocument) : Reading Unit := do
  let source ← get
  let given := (source.splices.flatMap (·.rest)) ++ source.rest
  let (text, rest, _) := documentText document fuel [] given
  let line := source.line + (countLines given - countLines rest)
  let word ←
    if document.quoted then
      set { source with splices := [], rest := rest }
      pure (Word.ofText text)
    else
      set { source with splices := [], rest := text, pending := [] }
      let word ← WordReader.shieldedPieces command .document true fuel []
      modify fun inner => { inner with rest := rest, pending := source.pending }
      pure word
  modify fun source =>
    { source with
      line := line
      again := false
      documents := (document.number, word) :: source.documents }

def readDocuments (fuel : Nat) : Reading Unit := do
  let pending := (← get).pending
  modify fun source => { source with pending := [] }
  pending.forM (readDocument command fuel)

def skipComment : (fuel : Nat) → Reading Unit
  | 0 => throw .tooLong
  | fuel + 1 => do
    match ← peekRaw with
    | none | some '\n' => return ()
    | some _ =>
      let _ ← takeRaw
      skipComment fuel

def redirectionHead (descriptor? : Option Nat) : Reading RedirectionHead := do
  let follows (c : Char) : Reading Bool := do
    if (← peek) == some c then
      let _ ← takeRaw
      return true
    else return false
  if (← take) == some '>' then
    let descriptor := descriptor?.getD 1
    if ← follows '>' then return .file descriptor .appending
    if ← follows '|' then return .file descriptor .overwriting
    if ← follows '&' then return .copy descriptor
    return .file descriptor .creating
  else
    let descriptor := descriptor?.getD 0
    if ← follows '<' then return .document descriptor (← follows '-')
    if ← follows '&' then return .copy descriptor
    if ← follows '>' then return .file descriptor .updating
    return .file descriptor .reading

def wordOrRedirection (literal : Bool) (fuel : Nat) : Reading Lexeme := do
  let word ← WordReader.barePieces command false literal fuel []
  let next ← peek
  if next == some '<' || next == some '>' then
    match word with
    | [] => return .redirection (← redirectionHead none)
    | [.plain c] =>
      if c.isDigit then
        return .redirection (← redirectionHead (some (c.toNat - '0'.toNat)))
      else return .word word
    | _ => return .word word
  else return .word word

def nextLexeme (literal : Bool) : (fuel : Nat) → Reading Lexeme
  | 0 => throw .tooLong
  | fuel + 1 => do
    let double (second : Char) (single both : Mark) : Reading Lexeme := do
      let _ ← takeRaw
      if (← peek) == some second then
        let _ ← takeRaw
        return .mark both
      else return .mark single
    match ← peek with
    | none => return .ending
    | some ' ' | some '\t' =>
      let _ ← takeRaw
      nextLexeme literal fuel
    | some '#' =>
      skipComment fuel
      nextLexeme literal fuel
    | some '\n' =>
      let _ ← takeRaw
      return .newline
    | some '&' => double '&' .ampersand .and
    | some '|' => double '|' .pipe .or
    | some ';' => double ';' .semicolon .branchEnd
    | some '(' =>
      let _ ← takeRaw
      return .mark .opening
    | some ')' =>
      let _ ← takeRaw
      return .mark .closing
    | some _ => wordOrRedirection command literal fuel

def someLexeme (literal : Bool) (fuel : Nat) : Reading Lexeme := do
  let source ← get
  if source.again then
    set { source with again := false }
    return source.last
  else nextLexeme command literal fuel

def afterNewlines (found : Lexeme) : (fuel : Nat) → Reading Lexeme
  | 0 => throw .tooLong
  | fuel + 1 => do
    match found with
    | .newline =>
      readDocuments command fuel
      afterNewlines (← nextLexeme command false fuel) fuel
    | _ => return found

def splice (name value : Text) : Reading Unit :=
  if value.isEmpty then return ()
  else
    modify fun source =>
      { source with
        splices :=
          ⟨name, value, value.getLast? == some ' ' || value.getLast? == some '\t'⟩ :: source.splices }

def lexeme (wants : Wants) : (fuel : Nat) → Reading Lexeme
  | 0 => throw .tooLong
  | fuel + 1 => do
    let found ← someLexeme command false fuel
    let found ← if wants.newlines then afterNewlines command found fuel else pure found
    let source ← get
    let asksAliases := wants.aliases || source.asksAliases
    set { source with asksAliases := false }
    let finish (found : Lexeme) : Reading Lexeme := do
      modify fun source => { source with last := found }
      return found
    match found with
    | .word word =>
      match Word.plainText? word with
      | none => finish found
      | some text =>
        match (if wants.keywords then Mark.ofText? text else none) with
        | some keyword => finish (.mark keyword)
        | none =>
          let known := if asksAliases then source.aliases.get? text else none
          match known with
          | none => finish found
          | some value =>
            if source.splices.any (·.name == text) then finish found
            else
              splice text value
              lexeme { wants with aliases := true } fuel
    | _ => finish found

def redirection (head : RedirectionHead) (fuel : Nat) : Reading Redirection := do
  let isDocument := match head with
    | .document _ _ => true
    | _ => false
  let found ← someLexeme command isDocument fuel
  modify fun source => { source with last := found, asksAliases := false }
  match found with
  | .word word =>
    match head with
    | .file descriptor target => return .file descriptor target word
    | .copy descriptor => return .copy descriptor word
    | .document descriptor strips =>
      let number := (← get).nextDocument
      modify fun source =>
        { source with
          nextDocument := number + 1
          pending := source.pending ++ [⟨number, Word.unquoted word, Word.isQuoted word, strips⟩] }
      return .document descriptor number
  | _ => refuse found none

def redirections : (fuel : Nat) → (found : List Redirection) → Reading (List Redirection)
  | 0, _ => throw .tooLong
  | fuel + 1, found => do
    match ← lexeme command .command fuel with
    | .redirection head => redirections fuel ((← redirection command head fuel) :: found)
    | _ =>
      back
      return found.reverse

def expect (mark : Mark) (wants : Wants) (fuel : Nat) : Reading Unit := do
  let found ← lexeme command wants fuel
  if found.isMark mark then return () else refuse found (some (.mark mark))

def words : (fuel : Nat) → (found : List Word) → Reading (List Word × Lexeme)
  | 0, _ => throw .tooLong
  | fuel + 1, found => do
    match ← lexeme command .plain fuel with
    | .word word => words fuel (word :: found)
    | other => return (found.reverse, other)

def patternOf : Lexeme → Word
  | .word word => word
  | .mark mark => if Mark.keywords.contains mark then Word.ofText mark.spelling.toList else []
  | _ => []

/-- Reads the patterns of a branch, the first of which was read, and what ends them. -/
def patterns (first : Lexeme) : (fuel : Nat) → (found : List Word) → Reading (List Word)
  | 0, _ => throw .tooLong
  | fuel + 1, found => do
    let found := patternOf first :: found
    let next ← lexeme command .plain fuel
    if next.isMark .pipe then patterns (← lexeme command .plain fuel) fuel found
    else if next.isMark .closing then return found.reverse
    else refuse next (some (.mark .closing))

/-- Reads the words and redirections of a simple command. Assignments come before all other words. -/
def simpleParts : (fuel : Nat) → (assignments words : List Word) → (changes : List Redirection) →
    Reading (List Word × List Word × List Redirection)
  | 0, _, _, _ => throw .tooLong
  | fuel + 1, assignments, words, changes => do
    match ← lexeme command (if words.isEmpty then .firstWord else .plain) fuel with
    | .word word =>
      if words.isEmpty && (Word.assignment? word).isSome then
        simpleParts fuel (word :: assignments) words changes
      else simpleParts fuel assignments (word :: words) changes
    | .redirection head =>
      simpleParts fuel assignments words ((← redirection command head fuel) :: changes)
    | .mark .opening =>
      match assignments, words, changes with
      | [], [_], [] => return (assignments, words, changes)
      | _, _, _ =>
        back
        return (assignments.reverse, words.reverse, changes.reverse)
    | _ =>
      back
      return (assignments.reverse, words.reverse, changes.reverse)

end

mutual

def list (kind : ListKind) : (fuel : Nat) → (parts : List Statement) → Reading (List Statement)
  | 0, _ => throw .tooLong
  | fuel + 1, parts => do
    let command := substituted fuel
    let first ← lexeme command (if kind = .line then .command else .anyLine) fuel
    match first with
    | .newline =>
      readDocuments command fuel
      return parts.reverse
    | .ending =>
      readDocuments command fuel
      back
      return parts.reverse
    | _ =>
      back
      if first.endsList && (kind = .any || kind = .nonempty && !parts.isEmpty) then
        return parts.reverse
      else
        let statement ← chain fuel
        match ← lexeme command .plain fuel with
        | .mark .ampersand => list kind fuel (.background statement :: parts)
        | .mark .semicolon => list kind fuel (statement :: parts)
        | .newline =>
          back
          list kind fuel (statement :: parts)
        | .ending =>
          readDocuments command fuel
          back
          return (statement :: parts).reverse
        | other =>
          if kind = .line then refuse other none
          else
            back
            return (statement :: parts).reverse

def chain : (fuel : Nat) → Reading Statement
  | 0 => throw .tooLong
  | fuel + 1 => do
    let first ← pipeline .plain fuel
    chainOn fuel first

def chainOn : (fuel : Nat) → (before : Statement) → Reading Statement
  | 0, _ => throw .tooLong
  | fuel + 1, before => do
    match ← lexeme (substituted fuel) .plain fuel with
    | .mark .and => chainOn fuel (.both before (← pipeline .anyLine fuel))
    | .mark .or => chainOn fuel (.either before (← pipeline .anyLine fuel))
    | _ =>
      back
      return before

def pipeline (wants : Wants) : (fuel : Nat) → Reading Statement
  | 0 => throw .tooLong
  | fuel + 1 => do
    let first ← lexeme (substituted fuel) wants fuel
    if first.isMark .not then
      return .negation (← pipelineOn (← command .command fuel) fuel [])
    else
      back
      pipelineOn (← command .plain fuel) fuel []

def pipelineOn (last : Statement) : (fuel : Nat) → (before : List Statement) → Reading Statement
  | 0, _ => throw .tooLong
  | fuel + 1, before => do
    let next ← lexeme (substituted fuel) .plain fuel
    if next.isMark .pipe then
      pipelineOn (← command .anyLine fuel) fuel (last :: before)
    else
      back
      return (if before.isEmpty then last else .pipeline (last :: before).reverse)

def command (wants : Wants) : (fuel : Nat) → Reading Statement
  | 0 => throw .tooLong
  | fuel + 1 => do
    let line := (← get).line
    let inner := substituted fuel
    match ← lexeme inner wants fuel with
    | .mark .if =>
      let statement ← conditional fuel
      expect inner .fi .plain fuel
      withRedirections line statement fuel
    | .mark .while => withRedirections line (← repetition false fuel) fuel
    | .mark .until => withRedirections line (← repetition true fuel) fuel
    | .mark .for => withRedirections line (← iteration line fuel) fuel
    | .mark .case => withRedirections line (← choice line fuel) fuel
    | .mark .opening =>
      let body ← list .nonempty fuel []
      expect inner .closing .plain fuel
      return .subshell line body (← redirections inner fuel [])
    | .mark .brace =>
      let body ← list .nonempty fuel []
      expect inner .endBrace .plain fuel
      let statement := match body with
        | [lone] => lone
        | _ => .sequence body
      withRedirections line statement fuel
    | .word _ | .redirection _ =>
      back
      simple fuel
    | other => refuse other none

/-- Reads the redirections of a compound command. Those behind the braces around a statement in parentheses
take the place of its own. -/
def withRedirections (line : Nat) (statement : Statement) : (fuel : Nat) → Reading Statement
  | 0 => throw .tooLong
  | fuel + 1 => do
    match ← redirections (substituted fuel) fuel [] with
    | [] => return statement
    | changes =>
      match statement with
      | .subshell line body _ => return .subshell line body changes
      | _ => return .redirected line statement changes

def conditional : (fuel : Nat) → Reading Statement
  | 0 => throw .tooLong
  | fuel + 1 => do
    let inner := substituted fuel
    let test ← list .nonempty fuel []
    expect inner .then .plain fuel
    let body ← list .nonempty fuel []
    let next ← lexeme inner .plain fuel
    if next.isMark .elif then return .conditional test body [← conditional fuel]
    else if next.isMark .else then return .conditional test body (← list .nonempty fuel [])
    else
      back
      return .conditional test body []

def repetition (untilTrue : Bool) : (fuel : Nat) → Reading Statement
  | 0 => throw .tooLong
  | fuel + 1 => do
    let inner := substituted fuel
    let test ← list .nonempty fuel []
    expect inner .do .plain fuel
    let body ← list .nonempty fuel []
    expect inner .done .plain fuel
    return .repetition untilTrue test body

/-- Reads a loop over words after its keyword. Without words it goes over the arguments. -/
def iteration (line : Nat) : (fuel : Nat) → Reading Statement
  | 0 => throw .tooLong
  | fuel + 1 => do
    let inner := substituted fuel
    match ← lexeme inner .plain fuel with
    | .word word =>
      match Word.plainText? word with
      | some name =>
        if !isName name then throw .badLoopVariable
        let next ← lexeme inner .anyLine fuel
        let items ←
          if next.isMark .in then
            let (items, stop) ← words inner fuel []
            match stop with
            | .newline | .mark .semicolon => pure items
            | other => refuse other none
          else
            if !next.isMark .semicolon then back
            pure [[.enclosed [.parameter ['@'] .value]]]
        expect inner .do .anyLine fuel
        let body ← list .nonempty fuel []
        expect inner .done .plain fuel
        return .iteration line name items body
      | none => throw .badLoopVariable
    | _ => throw .badLoopVariable

def choice (line : Nat) : (fuel : Nat) → Reading Statement
  | 0 => throw .tooLong
  | fuel + 1 => do
    let inner := substituted fuel
    match ← lexeme inner .plain fuel with
    | .word subject =>
      expect inner .in .anyLine fuel
      return .choice line subject (← branches fuel [])
    | other => refuse other (some (.word []))

def branches : (fuel : Nat) → (found : List (List Word × List Statement)) →
    Reading (List (List Word × List Statement))
  | 0, _ => throw .tooLong
  | fuel + 1, found => do
    let inner := substituted fuel
    let first ← lexeme inner .keyword fuel
    if first.isMark .esac then return found.reverse
    else
      let first ← if first.isMark .opening then lexeme inner .plain fuel else pure first
      let patterns ← patterns inner first fuel []
      let body ← list .any fuel []
      let found := (patterns, body) :: found
      let next ← lexeme inner .keyword fuel
      if next.isMark .esac then return found.reverse
      else if next.isMark .branchEnd then branches fuel found
      else refuse next (some (.mark .branchEnd))

def simple : (fuel : Nat) → Reading Statement
  | 0 => throw .tooLong
  | fuel + 1 => do
    let inner := substituted fuel
    let line := (← get).line
    let (assignments, words, changes) ← simpleParts inner fuel [] [] []
    let source ← get
    match source.again, words with
    | false, [name] =>
      expect inner .closing .plain fuel
      match Word.plainText? name with
      | some name =>
        if !isName name || specialNames.contains (Text.toString name) then throw .badFunctionName
        let line := (← get).line
        return .definition line name (← command .anyLine fuel)
      | none => throw .badFunctionName
    | _, _ => return .simple line assignments words changes

/-- Reads the statements of a command substitution; they may have to end with a parenthesis. -/
def substituted (fuel : Nat) (closes : Bool) : Reading (List Statement) :=
  match fuel with
  | 0 => throw .tooLong
  | fuel + 1 => do
    let body ← list .any fuel []
    if closes then expect (substituted fuel) .closing .plain fuel
    return body

end

def fuel : Nat := 0x1000000000000

def next? : Reading (Option (List Statement)) := do
  modify fun source => { source with again := false, pending := [] }
  let statements ← list .line fuel []
  match statements, (← get).last with
  | [], .ending => return none
  | _, _ => return some statements

end LineScript.Programs.Shell.Reader
