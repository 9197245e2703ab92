import LineScript.Programs.Shell.Arithmetic
import LineScript.Programs.Shell.FileNames
import LineScript.Programs.Shell.Splitting

/-!
# Expansion of words

Words are replaced by texts: home directories, parameters, the output of commands and arithmetic. What
is replaced outside quotes may be separated into fields and matched with names of files. The statements
of a command substitution are carried out by `substitute`, which gives their output.
-/

namespace LineScript.Programs.Shell

set_option autoImplicit false

def optionNames : List (Char × String) :=
  [('e', "errexit"), ('f', "noglob"), ('I', "ignoreeof"), ('i', "interactive"), ('m', "monitor"),
    ('n', "noexec"), ('s', "stdin"), ('x', "xtrace"), ('v', "verbose"), ('V', "vi"), ('E', "emacs"),
    ('C', "noclobber"), ('a', "allexport"), ('b', "notify"), ('u', "nounset"),
    ('p', "privileged")]

namespace Expansion

/-- How a word is replaced: whether fields are separated, whether it is between quotes, whether it is the
word of a parameter, and where home directories are looked for: after the first equals sign, and after
colons. -/
structure Manner where
  separates : Bool
  quoted : Bool
  isInner : Bool
  afterEquals : Bool
  afterColons : Bool

namespace Manner

def single : Manner := ⟨false, false, false, false, false⟩

def fields : Manner := ⟨true, false, false, false, false⟩

def assignment : Manner := ⟨false, false, false, true, true⟩

def document : Manner := ⟨false, true, false, false, false⟩

def enclosed (manner : Manner) : Manner :=
  { manner with quoted := true, afterEquals := false, afterColons := false }

def inner (manner : Manner) : Manner := { manner with isInner := true }

def ownItem (manner : Manner) (c : Char) : Item :=
  if manner.quoted then .quoted c else if manner.isInner then .loose c else .fixed c .none

def valueItem (manner : Manner) (c : Char) : Item :=
  if manner.quoted then .quoted c else .loose c

end Manner

def homes : List (String × String) :=
  [("root", "/root"), ("daemon", "/usr/sbin"), ("bin", "/bin"), ("sys", "/dev"), ("sync", "/bin"),
    ("games", "/usr/games"), ("man", "/var/cache/man"), ("mail", "/var/mail"),
    ("nobody", "/nonexistent")]

def homeOf? (name : Text) : Act (Option Text) := do
  if name.isEmpty then Act.valueOf? "HOME".toList
  else return (homes.lookup (Text.toString name)).map String.toList

def userName? (endsAtColon : Bool) : Word → Option Text
  | [] => some []
  | .plain c :: rest =>
    if c == '/' || endsAtColon && c == ':' then some []
    else (userName? endsAtColon rest).map (c :: ·)
  | _ => none

def separators : Act Text := return (← Act.valueOf? "IFS".toList).getD standardSeparators

def betweenArguments (manner : Manner) (asFields : Bool) : Act (List Item) := do
  if asFields then return [.gap]
  else
    match ← Act.valueOf? "IFS".toList with
    | none => return [manner.valueItem ' ']
    | some separators =>
      if !manner.quoted && manner.separates then return [.gap]
      else return (separators.head?.map manner.valueItem).toList

/-- The value of a parameter with a special name, which does not hold arguments. -/
def specialValue? (name : Text) : Act (Option Text) := do
  let state ← Act.state
  match name with
  | ['$'] => return some (Text.decimal state.number)
  | ['?'] => return some (Text.decimal state.status)
  | ['#'] => return some (Text.decimal state.arguments.length)
  | ['!'] => return state.lastJob?.map Text.decimal
  | ['-'] =>
    return some ((optionNames.reverse.map (·.1)).filter (state.flags.contains ·))
  | _ =>
    if name.all Char.isDigit then
      match Numeral.numberOf 10 (Numeral.leadingDigits 10 name.length name) with
      | 0 => return some state.name
      | place + 1 => return state.arguments[place]?
    else Act.valueOf? name

def valueItems? (manner : Manner) (name : Text) : Act (Option (List Item)) := do
  if name = ['@'] || name = ['*'] then
    let between ← betweenArguments manner (name = ['@'] && manner.quoted && manner.separates)
    let items := (← Act.state).arguments.map fun value => value.map manner.valueItem
    return some (between.intercalate items)
  else return (← specialValue? name).map fun value => value.map manner.valueItem

def asValue (manner : Manner) (name : Text) (items : List Item) : Act (List Item) := do
  let hasArguments := !(← Act.state).arguments.isEmpty
  let start :=
    if manner.quoted then
      if name = ['@'] && hasArguments then [Item.value true] else []
    else [.value false]
  return items.reverse ++ start

def refuseMissing {α : Type} (name : Text) (wording : Text) : Act α := Act.fail [name, wording]

/-- Complains about a parameter that has no value, if such complaints are wished for. -/
def checkMissing (name : Text) : Act Unit := do
  if ← Act.hasFlag 'u' then refuseMissing name "parameter not set".toList

/-- A text up to the first place between two arguments. A pattern sees no more of it. -/
def firstArgument (text : Text) : Text := text.takeWhile (· != '\x00')

/-- How many items a pattern takes off the start of some, if it does. Shorter ends come first, unless
the longest match is wanted. -/
def matchAtStart? (longest : Bool) (pattern : Pattern) (text : Text) : Option Nat :=
  let lengths :=
    if longest then (List.range (text.length + 1)).reverse
    else List.range ((firstArgument text).length + 1)
  lengths.find? fun length => pattern.accepts (firstArgument (text.take length))

/-- How many items a pattern leaves at the start of some, if it takes off the rest. -/
def matchAtFinish? (longest : Bool) (pattern : Pattern) (text : Text) : Option Nat :=
  let lengths :=
    if longest then List.range ((firstArgument text).length + 1)
    else (List.range (text.length + 1)).reverse
  lengths.find? fun length => pattern.accepts (firstArgument (text.drop length))

def trim (side : Side) (longest : Bool) (pattern : Pattern) (items : List Item) : List Item :=
  let text := Item.octets items
  match side with
  | .start => items.drop ((matchAtStart? longest pattern text).getD 0)
  | .finish => items.take ((matchAtFinish? longest pattern text).getD items.length)

section

variable (substitute : List Statement → Act Text)

mutual

/-- Replaces the pieces of a word after items, the latest of which come first. Some plain pieces that
come next are passed over. A home directory may come next, or after an equals sign; the last piece may
have been a plain one of the word of a parameter. -/
def expandWord (manner : Manner) (passed : Nat) (atHome afterEquals inRun : Bool) (items : List Item) :
    List Piece → Act (List Item)
  | [] => return items
  | .plain c :: rest => do
    match passed with
    | passed + 1 => expandWord manner passed atHome afterEquals inRun items rest
    | 0 =>
      let user? := if atHome && c == '~' then userName? manner.afterColons rest else none
      let home? ← match user? with
        | some user => homeOf? user
        | none => pure none
      match home? with
      | some home =>
        expandWord manner (user?.getD []).length false afterEquals false
          ((home.map Item.quoted).reverse ++ items) rest
      | none =>
        let isEquals := afterEquals && c == '='
        let atHome := isEquals || manner.afterColons && c == ':'
        let isLoose := manner.isInner && !manner.quoted
        let items := if isLoose && !inRun then .value false :: items else items
        expandWord manner 0 atHome (afterEquals && !isEquals) isLoose (manner.ownItem c :: items) rest
  | .escaped c :: rest =>
    expandWord manner 0 false afterEquals false
      (.fixed c (if manner.quoted then .quotes else .backslash) :: items) rest
  | .enclosed inside :: rest => do
    match inside, manner.quoted with
    | [.parameter ['@'] .value], false =>
      let value := (← valueItems? manner.enclosed ['@']).getD []
      let added ← asValue manner.enclosed ['@'] value
      expandWord manner 0 false afterEquals false (added ++ items) rest
    | _, _ =>
      let items ← expandWord manner.enclosed 0 false false false (.quote :: items) inside
      expandWord manner 0 false afterEquals false (.quote :: items) rest
  | .parameter name use :: rest => do
    let items ← expandUse manner name items use
    expandWord manner 0 false afterEquals false items rest
  | .arithmetic inside :: rest => do
    let expression ← expandWord .single 0 false false false [] inside
    let value ← Arithmetic.evaluate (Item.octets expression.reverse)
    let digits := (Arithmetic.decimal value).map manner.valueItem
    let added ← asValue manner [] digits
    expandWord manner 0 false afterEquals false (added ++ items) rest
  | .command body :: rest => do
    let output ← substitute body
    let added ← asValue manner [] (output.map manner.valueItem)
    let isLineEnd (item : Item) : Bool :=
      match item with
      | .fixed '\n' _ | .loose '\n' => true
      | _ => false
    let trimmed := added.dropWhile isLineEnd
    let items :=
      if trimmed.all fun item => item == .value false then trimmed ++ items.dropWhile isLineEnd
      else trimmed ++ items
    expandWord manner 0 false afterEquals false items rest

def expandUse (manner : Manner) (name : Text) (items : List Item) : Use → Act (List Item)
  | .value => do
    match ← valueItems? manner name with
    | some value => return (← asValue manner name value) ++ items
    | none =>
      checkMissing name
      return items
  | .length => do
    match ← valueItems? .document name with
    | some value =>
      let digits := (Text.decimal (Item.octets value).length).map manner.valueItem
      return (← asValue manner [] digits) ++ items
    | none =>
      checkMissing name
      return (← asValue manner [] [manner.valueItem '0']) ++ items
  | .fallback kind coversEmpty word => do
    let value? ← valueItems? manner name
    let value? := if coversEmpty && value? == some [] then none else value?
    match kind, value? with
    | .replacement, none => return items
    | .replacement, some _ | .substitute, none =>
      expandWord manner.inner 0 (!manner.quoted) false false items word
    | _, some value => return (← asValue manner name value) ++ items
    | .assignment, none =>
      let text ← expandWord .single 0 (!manner.quoted) false false [] word
      Act.setNamed name (Item.octets text.reverse)
      match ← valueItems? manner name with
      | some value => return (← asValue manner name value) ++ items
      | none => return items
    | .demand, none =>
      let text ← expandWord .single 0 (!manner.quoted) false false [] word
      let wording :=
        if word.isEmpty then
          "parameter not set".toList ++ if coversEmpty then " or null".toList else []
        else Item.octets text.reverse
      refuseMissing name wording
  | .trimmed side longest pattern => do
    match ← valueItems? manner name with
    | none =>
      checkMissing name
      return items
    | some value =>
      let written ← expandWord .single 0 true false false [] pattern
      let read := Pattern.ofText (Item.patternText false written.reverse)
      return (← asValue manner name (trim side longest read value)) ++ items
  | .unreadable _ => Act.fail ["Bad substitution".toList]

end

def fieldsOf (word : Word) : Act (List Text) := do
  let items ← expandWord substitute .fields 0 true false false [] word
  let separated := splitFields (← separators) none items.reverse
  let keepsPatterns ← Act.hasFlag 'f'
  let files ← Act.ask id
  return separated.flatMap fun field =>
    let text := Item.octets field
    let found :=
      if keepsPatterns || !text.any (fun c => c == '*' || c == '?' || c == '[') then []
      else FileNames.ofPattern files (Item.patternText false field)
    if found.isEmpty then [text] else found

def textOf (word : Word) : Act Text := do
  return Item.octets (← expandWord substitute .single 0 true false false [] word).reverse

def assignmentOf (word : Word) : Act Text := do
  return Item.octets (← expandWord substitute .assignment 0 false true false [] word).reverse

def documentOf (word : Word) : Act Text := do
  return Item.octets (← expandWord substitute .document 0 false false false [] word).reverse

def patternOf (word : Word) : Act Pattern := do
  let items ← expandWord substitute .single 0 true false false [] word
  return Pattern.ofText (Item.patternText false items.reverse)

end

end Expansion

end LineScript.Programs.Shell
