import LineScript.Programs.Options
import LineScript.Programs.Quoting

/-!
# Cat

Writes files one after another, and the input for a dash. What is written may show line numbers, the
ends of lines and characters that are not printed, and leave out repeated empty lines; for all of these
the files are one text.
-/

namespace LineScript.Programs.Cat

set_option autoImplicit false

inductive Wish where
  | all
  | numbersOfNonblank
  | endsAndOthers
  | ends
  | numbers
  | fewBlanks
  | tabsAndOthers
  | tabs
  | others
  | nothing
  deriving DecidableEq

def rules : List (Options.Rule Wish) :=
  [⟨some 'b', ["number-nonblank"], .none, .numbersOfNonblank⟩,
    ⟨some 'n', ["number"], .none, .numbers⟩, ⟨some 's', ["squeeze-blank"], .none, .fewBlanks⟩,
    ⟨some 'v', ["show-nonprinting"], .none, .others⟩, ⟨some 'E', ["show-ends"], .none, .ends⟩,
    ⟨some 'T', ["show-tabs"], .none, .tabs⟩, ⟨some 'A', ["show-all"], .none, .all⟩,
    ⟨some 'e', [], .none, .endsAndOthers⟩, ⟨some 't', [], .none, .tabsAndOthers⟩,
    ⟨some 'u', [], .none, .nothing⟩]

structure Style where
  numbersBlank : Bool
  numbersOthers : Bool
  squeezes : Bool
  showsEnds : Bool
  showsTabs : Bool
  showsOthers : Bool
  deriving DecidableEq

def Style.ofOptions (options : Options.Sorted Wish) : Style where
  numbersBlank := options.has .numbers && !options.has .numbersOfNonblank
  numbersOthers := options.has .numbers || options.has .numbersOfNonblank
  squeezes := options.has .fewBlanks
  showsEnds := options.has .ends || options.has .endsAndOthers || options.has .all
  showsTabs := options.has .tabs || options.has .tabsAndOthers || options.has .all
  showsOthers :=
    options.has .others || options.has .endsAndOthers || options.has .tabsAndOthers ||
      options.has .all

/-- Where in the text the writing is: inside a line or not, and then how many empty lines are just
before. `line` is the number of the last line that got one. `held` tells that a carriage return has
been read and not written, since how it is shown hangs on what comes next. -/
structure Place where
  insideLine : Bool
  blanks : Nat
  line : Nat
  held : Bool

def Place.start : Place := ⟨false, 0, 0, false⟩

def Place.remainder (place : Place) : Text := if place.held then ['\r'] else []

def numberText (line : Nat) : Text := Text.padLeft 6 (Text.decimal line) ++ ['\t']

def caret (code : Nat) : Text := ['^', Char.ofNat (code ^^^ 0x40)]

def Style.shown (style : Style) (c : Char) : Text :=
  let code := c.toNat
  if c = '\t' then if style.showsTabs then ['^', 'I'] else ['\t']
  else if !style.showsOthers then [c]
  else if code < 0x80 then if code < 0x20 || code = 0x7f then caret code else [c]
  else
    let low := code - 0x80
    'M' :: '-' :: if low < 0x20 || low = 0x7f then caret low else [Char.ofNat low]

def Style.render (style : Style) (place : Place) (written : List Text) : Text → Place × List Text
  | [] => (place, written)
  | '\n' :: rest =>
    let ending := if style.showsEnds then ['$', '\n'] else ['\n']
    if place.held then
      style.render ⟨false, 0, place.line, false⟩ (('^' :: 'M' :: ending) :: written) rest
    else if place.insideLine then
      style.render { place with insideLine := false, blanks := 0 } (ending :: written) rest
    else if style.squeezes && 1 ≤ place.blanks then style.render place written rest
    else if style.numbersBlank then
      style.render { place with blanks := place.blanks + 1, line := place.line + 1 }
        ((numberText (place.line + 1) ++ ending) :: written) rest
    else style.render { place with blanks := place.blanks + 1 } (ending :: written) rest
  | c :: rest =>
    let holds := c = '\r' && style.showsEnds && !style.showsOthers
    let shown := place.remainder ++ if holds then [] else style.shown c
    if style.numbersOthers && !place.insideLine then
      style.render ⟨true, place.blanks, place.line + 1, holds⟩
        (shown :: numberText (place.line + 1) :: written) rest
    else style.render { place with insideLine := true, held := holds } (shown :: written) rest

def Style.write (style : Style) (place : Place) (text : Text) : Place × Text :=
  if style = ⟨false, false, false, false, false, false⟩ then (place, text)
  else
    let (place, written) := style.render place [] text
    (place, written.reverse.flatten)

def channelOf (descriptor : Nat) : Running (Option Channel) :=
  return (← read).descriptors.get? descriptor |>.bind (← get).channels.get?

def sourceOf (operand : Text) : Running (Option (Location × Nat)) := do
  if operand = ['-'] then
    match ← channelOf inputDescriptor with
    | some (.file location place _) => return some (location, place)
    | _ => return none
  else
    match ← Running.ask (·.status (Octets.text operand)) with
    | .ok (location, .file _ _) => return some (location, 0)
    | _ => return none

/-- Whether what is read is the output itself, so that reading would not come to an end. -/
def readsOutput (operand : Text) : Running Bool := do
  match ← sourceOf operand, ← channelOf outputDescriptor with
  | some (source, place), some (.file target _ _) =>
    let size := (Channel.contentAt (← get).files source).length
    return source = target && place < size
  | _, _ => return false

def writeOperand (style : Style) (operand : Text) (place : Place) : Running (Place × Bool) := do
  let refuse (wording : Text) : Running (Place × Bool) := do
    Running.complain [Quoting.quotedBeforeColon operand, wording]
    return (place, false)
  if ← readsOutput operand then refuse "input file is output file".toList
  else
    let content ← if operand = ['-'] then Running.readInput else Running.readFile operand
    match content with
    | .error error => refuse error.description
    | .ok content =>
      let (place, octets) := style.write place content
      Running.print octets
      return (place, true)

/-- Gives the input back if it was read. The answer tells whether that went well. -/
def closeInput (wasRead : Bool) : Running Bool := do
  if wasRead && (← channelOf inputDescriptor).isNone then
    Running.complain ["closing standard input".toList, HostError.badDescriptor.description]
    return false
  else return true

/-- Writes operands until one cannot be written. The answer tells whether all could be read, if all were
written. -/
def writeOperands (style : Style) : List Text → Place → Bool → Running (Option Bool)
  | [], place, succeeded => do
    if place.held then Running.print place.remainder
    return if (← get).outputFault.isSome then none else some succeeded
  | operand :: rest, place, succeeded => do
    let (place, done) ← writeOperand style operand place
    if (← get).outputFault.isSome then return none
    else writeOperands style rest place (succeeded && done)

def program : Program :=
  Options.withRules rules 1 fun options => do
    if (← channelOf outputDescriptor).isNone then
      Running.complain ["standard output".toList, HostError.badDescriptor.description]
      return .exited 1
    let operands := if options.operands.isEmpty then [['-']] else options.operands
    match ← writeOperands (Style.ofOptions options) operands Place.start true with
    | none => Running.finish 1 (.exited 1)
    | some succeeded =>
      let closed ← closeInput (operands.contains ['-'])
      Running.finish 1 (.exited (if succeeded && closed then 0 else 1))

end LineScript.Programs.Cat
