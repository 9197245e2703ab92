import LineScript.Programs.Running

/-!
# Options of programs

Arguments that begin with a dash are options, wherever they stand: clusters of letters after one dash,
and names after two, which may be cut short as long as it is clear which one is meant. The value of an
option follows its letter or is the next argument; that of a name follows an equals sign or is the next
argument. Two dashes alone end the options, and one dash alone is an operand.
-/

namespace LineScript.Programs.Options

set_option autoImplicit false

inductive Arity where
  | none
  | required
  | optional
  deriving DecidableEq

structure Rule (κ : Type) where
  letter? : Option Char
  names : List String
  arity : Arity
  key : κ

inductive Fault where
  | unknownLetter (letter : Char)
  | missingValueOfLetter (letter : Char)
  | unknownName (written : Text)
  | ambiguousName (written : Text) (names : List Text)
  | unexpectedValue (name : Text)
  | missingValueOfName (name : Text)

def Fault.message : Fault → Text
  | .unknownLetter letter => "invalid option -- '".toList ++ [letter, '\'']
  | .missingValueOfLetter letter => "option requires an argument -- '".toList ++ [letter, '\'']
  | .unknownName written => "unrecognized option '--".toList ++ written ++ ['\'']
  | .ambiguousName written names =>
    "option '--".toList ++ written ++ "' is ambiguous; possibilities:".toList ++
      names.flatMap fun name => " '--".toList ++ name ++ ['\'']
  | .unexpectedValue name => "option '--".toList ++ name ++ "' doesn't allow an argument".toList
  | .missingValueOfName name => "option '--".toList ++ name ++ "' requires an argument".toList

/-- Arguments sorted into options with their values and operands, up to the first fault. -/
structure Sorted (κ : Type) where
  options : List (κ × Option Text)
  operands : List Text
  fault? : Option Fault

variable {κ : Type}

/-- The options of a cluster of letters, with the arguments after it that are left. -/
def ofCluster (rules : List (Rule κ)) (rest : List Text) :
    Text → Except Fault (List (κ × Option Text) × List Text)
  | [] => .ok ([], rest)
  | c :: letters =>
    match rules.find? (·.letter? == some c) with
    | none => .error (.unknownLetter c)
    | some rule =>
      match rule.arity, letters, rest with
      | .none, _, _ =>
        (ofCluster rules rest letters).map fun (options, rest) =>
          ((rule.key, none) :: options, rest)
      | _, _ :: _, _ => .ok ([(rule.key, some letters)], rest)
      | .optional, [], _ => .ok ([(rule.key, none)], rest)
      | .required, [], value :: rest => .ok ([(rule.key, some value)], rest)
      | .required, [], [] => .error (.missingValueOfLetter c)

def candidates (rules : List (Rule κ)) (name : Text) : List (Rule κ × Text) :=
  let all := rules.flatMap fun rule => rule.names.map fun name => (rule, name.toList)
  match all.find? (·.2 == name) with
  | some found => [found]
  | none => all.filter (name.isPrefixOf ·.2)

def ofName [DecidableEq κ] (rules : List (Rule κ)) (rest : List Text) (written : Text) :
    Except Fault ((κ × Option Text) × List Text) :=
  let value? := ((written.dropWhile (· != '=')).tail?)
  match candidates rules (written.takeWhile (· != '=')) with
  | [] => .error (.unknownName written)
  | (rule, name) :: others =>
    if others.any (·.1.key ≠ rule.key) then
      .error (.ambiguousName written (name :: others.map (·.2)))
    else
      match rule.arity, value?, rest with
      | .none, some _, _ => .error (.unexpectedValue name)
      | .none, none, _ | .optional, none, _ => .ok ((rule.key, none), rest)
      | _, some value, _ => .ok ((rule.key, some value), rest)
      | .required, none, value :: rest => .ok ((rule.key, some value), rest)
      | .required, none, [] => .error (.missingValueOfName name)

def sortWithin [DecidableEq κ] (rules : List (Rule κ)) : (steps : Nat) → List Text → Sorted κ
  | 0, arguments => ⟨[], arguments, none⟩
  | _ + 1, [] => ⟨[], [], none⟩
  | steps + 1, argument :: rest =>
    match argument with
    | ['-', '-'] => ⟨[], rest, none⟩
    | '-' :: '-' :: written =>
      match ofName rules rest written with
      | .error fault => ⟨[], [], some fault⟩
      | .ok (option, rest) =>
        let sorted := sortWithin rules steps rest
        { sorted with options := option :: sorted.options }
    | '-' :: c :: letters =>
      match ofCluster rules rest (c :: letters) with
      | .error fault => ⟨[], [], some fault⟩
      | .ok (options, rest) =>
        let sorted := sortWithin rules steps rest
        { sorted with options := options ++ sorted.options }
    | operand =>
      let sorted := sortWithin rules steps rest
      { sorted with operands := operand :: sorted.operands }

def sort [DecidableEq κ] (rules : List (Rule κ)) (arguments : List Text) : Sorted κ :=
  sortWithin rules arguments.length arguments

namespace Sorted

variable [DecidableEq κ]

def has (sorted : Sorted κ) (key : κ) : Bool := sorted.options.any (·.1 == key)

def value? (sorted : Sorted κ) (key : κ) : Option Text :=
  (sorted.options.reverse.find? (·.1 == key)).bind (·.2)

end Sorted

/-- Runs a program on sorted arguments; a fault in them ends it with a code of its own. -/
def withRules [DecidableEq κ] (rules : List (Rule κ)) (misuse : Nat)
    (run : Sorted κ → Program) : Program := do
  let sorted := sort rules (← read).arguments
  match sorted.fault? with
  | some fault =>
    Running.complainOfUse fault.message
    return .exited misuse
  | none => run sorted

end LineScript.Programs.Options
