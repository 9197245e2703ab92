import LineScript.Programs.Shell.Builtin

/-!
# Commands on arguments and input

`shift` drops arguments, `getopts` takes options off them one by one, and `read` separates a line of the
input into variables.
-/

namespace LineScript.Programs.Shell.Arguments

set_option autoImplicit false

def shift (arguments : List Text) : Act Nat := do
  let count ← match arguments with
    | [] => pure 1
    | written :: _ => Act.naturalOf written
  if (← Act.state).arguments.length < count then Act.fail ["can't shift that many".toList]
  else
    Act.change fun state =>
      { state with
        arguments := state.arguments.drop count
        optionIndex := 1
        optionPlace := none }
    return 0

/-- What `getopts` finds: a letter for the variable, what becomes of the variable for values, a complaint,
where it goes on, and whether the options are at their end. -/
structure Found where
  letter : Char
  value? : Option (Option Text)
  complaint? : Option Text
  index : Nat
  place : Option Nat
  done : Bool

def unread (given : List Text) (index : Nat) (place : Option Nat) : Text :=
  match place with
  | some place => if index ≤ 1 then [] else ((given[index - 2]?).getD []).drop place
  | none => []

/-- What a letter means in a specification: nothing, an option, or an option with a value. -/
def arity? (letter : Char) : Text → Option Bool
  | [] => none
  | c :: rest =>
    if c = letter then some (rest.head? == some ':')
    else
      match rest with
      | ':' :: rest => arity? letter rest
      | rest => arity? letter rest

/-- Finds an option, given the letters that are left of an argument and the index of the next one. -/
def ofLetters (specification : Text) (given : List Text) (index : Nat) : Text → Found
  | [] => ⟨'?', none, none, index, none, true⟩
  | letter :: rest =>
    let quiet := specification.head? == some ':'
    let length := ((given[index - 2]?).getD []).length
    let place (rest : Text) : Option Nat := some (length - rest.length)
    match arity? letter specification with
    | none =>
      if quiet then ⟨'?', some (some [letter]), none, index, place rest, false⟩
      else
        ⟨'?', some none, some ("Illegal option -".toList ++ [letter]), index, place rest, false⟩
    | some false => ⟨letter, some (some []), none, index, place rest, false⟩
    | some true =>
      if !rest.isEmpty then ⟨letter, some (some rest), none, index, none, false⟩
      else
        match given[index - 1]? with
        | some value => ⟨letter, some (some value), none, index + 1, none, false⟩
        | none =>
          if quiet then ⟨':', some (some [letter]), none, index, none, false⟩
          else
            ⟨'?', some none, some ("No arg for -".toList ++ letter :: " option".toList), index, none,
              false⟩

def next (specification : Text) (given : List Text) (index : Nat) (place : Option Nat) : Found :=
  match unread given index place, given[index - 1]? with
  | [], some ['-', '-'] => ⟨'?', none, none, index + 1, none, true⟩
  | [], some ('-' :: c :: rest) => ofLetters specification given (index + 1) (c :: rest)
  | [], _ => ⟨'?', none, none, index, none, true⟩
  | letters, _ => ofLetters specification given index letters

def getopts (arguments : List Text) : Act Nat := do
  let (_, operands) ← Builtin.options "" "" arguments
  match operands with
  | specification :: name :: others =>
    let state ← Act.state
    let given := if others.isEmpty then state.arguments else others
    let (index, place) :=
      if given.length + 1 < state.optionIndex then (1, none)
      else (state.optionIndex, state.optionPlace)
    let found := next specification given index place
    if let some complaint := found.complaint? then
      let _ ← Act.writeDescriptor errorDescriptor (complaint ++ ['\n'])
    match found.value? with
    | some (some value) => Act.setVariable "OPTARG".toList value
    | some none => Act.unsetVariable "OPTARG".toList
    | none => pure ()
    Act.setVariable "OPTIND".toList (Text.decimal found.index)
    Act.setNamed name [found.letter]
    Act.change fun state =>
      { state with optionIndex := found.index, optionPlace := found.place }
    return if found.done then 1 else 0
  | _ => Act.fail ["Usage: getopts optstring var [arg...]".toList]

/-- The items of a line. A backslash keeps what follows it from separating fields, and takes away an end
of the line; the answer tells whether it does that, and whether the line has an end. -/
def lineItems (raw : Bool) (items : List Item) : Text → List Item × Bool × Bool
  | [] => (items, false, false)
  | '\x00' :: rest => lineItems raw items rest
  | ['\n'] => (items, false, true)
  | ['\\'] => if raw then (.loose '\\' :: items, false, false) else (items, false, false)
  | '\\' :: c :: rest =>
    if raw then lineItems raw (.loose '\\' :: items) (c :: rest)
    else if c = '\n' then (.value false :: items, true, false)
    else lineItems raw (.value false :: .fixed c .none :: items) rest
  | c :: rest => lineItems raw (.loose c :: items) rest

def inputLine : Act Text := do
  match (← Act.state).descriptors.get? inputDescriptor with
  | none => return []
  | some number =>
    let world ← get
    match world.workspace.read (fun files channel => channel.readLine files) number with
    | .ok (bytes, workspace) =>
      set { world with workspace := workspace }
      return Octets.ofBytes bytes
    | .error _ => return []

/-- Reads a line and those that it goes on in. The answer tells whether the line has an end. -/
def readItems (raw : Bool) : (fuel : Nat) → (items : List Item) → Act (List Item × Bool)
  | 0, items => return (items.reverse, false)
  | fuel + 1, items => do
    let (items, goesOn, ends) := lineItems raw items (← inputLine)
    if goesOn then readItems raw fuel items else return (items.reverse, ends)

def lineLimit : Nat := 0x1000000000000

def assign : (names fields : List Text) → Act Unit
  | [], _ => return ()
  | name :: names, fields => do
    Act.setNamed name (fields.headD [])
    assign names fields.tail

def read (arguments : List Text) : Act Nat := do
  let (options, names) ← Builtin.options "r" "p" arguments
  if names.isEmpty then Act.fail ["arg count".toList]
  else
    let (items, ends) ← readItems (options.any (·.1 == 'r')) lineLimit [.value false]
    let fields := splitFields (← Expansion.separators) (some names.length) items
    assign names (fields.map Item.octets)
    return if ends then 0 else 1

end LineScript.Programs.Shell.Arguments
