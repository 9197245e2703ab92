import LineScript.Programs.FileQuestion
import LineScript.Programs.Numeral
import LineScript.Programs.Quoting
import LineScript.Programs.Running

/-!
# Test

The programs `test` and `[`, which asks for a closing bracket. Up to four arguments are read by their
number; longer conditions join simple ones with `-a`, which binds tighter, and `-o`. A condition
decides the exit code, and a faulty one is complained about.
-/

namespace LineScript.Programs.Test

set_option autoImplicit false

inductive Fault where
  | unaryExpected (operator : Text)
  | binaryExpected (operator : Text)
  | missingArgument (last : Text)
  | extraArgument (argument : Text)
  | notInteger (argument : Text)
  | refusesLength (operator : Text)
  | parenthesisExpected (found : Option Text)
  | missingBracket

def Fault.message : Fault → List Text
  | .unaryExpected operator => [Quoting.quoted operator, "unary operator expected".toList]
  | .binaryExpected operator => [Quoting.quoted operator, "binary operator expected".toList]
  | .missingArgument last => ["missing argument after ".toList ++ Quoting.quoted last]
  | .extraArgument argument => ["extra argument ".toList ++ Quoting.quoted argument]
  | .notInteger argument => ["invalid integer ".toList ++ Quoting.quoted argument]
  | .refusesLength operator => [operator ++ " does not accept -l".toList]
  | .parenthesisExpected none => ["')' expected".toList]
  | .parenthesisExpected (some found) => ["')' expected, found ".toList ++ Quoting.quoted found]
  | .missingBracket => ["missing ']'".toList]

/-- A step of reading a condition in files. The arguments are looked at by their place, and the state
is the place of the next one. -/
abbrev Step (α : Type) := ReaderT (FileSystem × List Text) (ExceptT Fault (StateM Nat)) α

namespace Step

def ahead? (places : Nat) : Step (Option Text) := return (← read).2[(← get) + places]?

def left : Step Nat := return (← read).2.length - (← get)

def beyond {α : Type} : Step α := do throw (.missingArgument ((← read).2.getLastD []))

def skip (places : Nat) : Step Unit := modify (· + places)

def advance : Step Unit := do
  skip 1
  if (← left) = 0 then beyond

def isAhead (places : Nat) (argument : String) : Step Bool :=
  return (← ahead? places) == some argument.toList

end Step

open Step

def integerOf (argument : Text) : Except Fault Int :=
  let text := ((argument.dropWhile Numeral.isBlank).reverse.dropWhile Numeral.isBlank).reverse
  let (negative, digits) := Numeral.sign text
  if digits.isEmpty || !digits.all Char.isDigit then .error (.notInteger argument)
  else
    let value : Int := (Numeral.decimal digits).1
    .ok (if negative then -value else value)

def comparison? (operator : Text) : Option (Int → Int → Bool) :=
  match Text.toString operator with
  | "-eq" => some fun left right => left == right
  | "-ne" => some fun left right => left != right
  | "-lt" => some fun left right => left < right
  | "-le" => some fun left right => left ≤ right
  | "-gt" => some fun left right => right < left
  | "-ge" => some fun left right => right ≤ left
  | _ => none

def isBinary (operator : Text) : Bool :=
  (comparison? operator).isSome ||
    (["=", "==", "!=", "-nt", "-ot", "-ef"].map String.toList).contains operator

def looksUnary : Text → Bool
  | ['-', _] => true
  | _ => false

def operand (byLength : Bool) (argument : Text) : Step Int := do
  if byLength then return argument.length
  else
    match integerOf argument with
    | .ok value => return value
    | .error fault => throw fault

def binary (leftByLength : Bool) : Step Bool := do
  if leftByLength then skip 1
  let left := (← ahead? 0).getD []
  let operator := (← ahead? 1).getD []
  let rightByLength := 3 < (← Step.left) && (← isAhead 2 "-l")
  let right := (← ahead? (if rightByLength then 3 else 2)).getD []
  if rightByLength then skip 1
  match comparison? operator with
  | some compare =>
    let answer := compare (← operand leftByLength left) (← operand rightByLength right)
    skip 3
    return answer
  | none =>
    let first := (← ahead? 0).getD []
    let second := (← ahead? 2).getD []
    let files := (← read).1
    skip 3
    let refuse : Step Unit := do
      if leftByLength || rightByLength then throw (.refusesLength operator)
    match Text.toString operator with
    | "-nt" =>
      refuse
      return FileQuestion.leads files left && !FileQuestion.leads files right
    | "-ot" =>
      refuse
      return !FileQuestion.leads files left && FileQuestion.leads files right
    | "-ef" =>
      refuse
      return FileQuestion.same files left right
    | "!=" => return first != second
    | _ => return first == second

def unary : Step Bool := do
  let operator := (← ahead? 0).getD []
  let letter := operator.getLastD ' '
  let ask (answer : Text → Step Bool) : Step Bool := do
    advance
    let argument := (← ahead? 0).getD []
    skip 1
    answer argument
  match letter with
  | 'n' => ask fun argument => return !argument.isEmpty
  | 'z' => ask fun argument => return argument.isEmpty
  | 't' => ask fun argument => do
    let _ ← operand false argument
    return false
  | 'N' => ask fun _ => return false
  | _ =>
    if (FileQuestion.answer? (.ofList []) letter []).isSome then
      ask fun argument => do
        return (FileQuestion.answer? (← read).1 letter argument).getD false
    else throw (.unaryExpected operator)

def single : Step Bool := do
  let argument := (← ahead? 0).getD []
  skip 1
  return !argument.isEmpty

def pair : Step Bool := do
  if ← isAhead 0 "!" then
    skip 1
    return !(← single)
  else if looksUnary ((← ahead? 0).getD []) then unary
  else beyond

def joined (word : String) (combine : Bool → Bool → Bool) (part : Step Bool) :
    (steps : Nat) → Bool → Step Bool
  | 0, value => return value
  | steps + 1, value => do
    let value := combine value (← part)
    if ← isAhead 0 word then
      skip 1
      joined word combine part steps value
    else return value

/-- Passes over marks of negation; the answer tells whether their number is odd. -/
def negations : (steps : Nat) → Bool → Step Bool
  | 0, value => return value
  | steps + 1, value => do
    if ← isAhead 0 "!" then
      advance
      negations steps !value
    else return value

/-- The number of arguments up to a closing parenthesis, if that is near, else of all that are left. -/
def reach : (steps count : Nat) → Step Nat
  | 0, _ => left
  | steps + 1, count => do
    if count < (← left) && !(← isAhead count ")") then
      if count = 4 then left else reach steps (count + 1)
    else return count

def term (inside : Nat → Step Bool) : Step Bool := do
  let negated ← negations (← left) false
  if (← left) = 0 then beyond
  let value ←
    if ← isAhead 0 "(" then do
      advance
      let value ← inside (← reach 5 1)
      match ← ahead? 0 with
      | some [')'] => skip 1
      | found => throw (.parenthesisExpected found)
      pure value
    else if 4 ≤ (← left) && (← isAhead 0 "-l") && isBinary ((← ahead? 2).getD []) then binary true
    else if 3 ≤ (← left) && isBinary ((← ahead? 1).getD []) then binary false
    else if looksUnary ((← ahead? 0).getD []) then unary
    else single
  return negated ^^ value

def whole (inside : Nat → Step Bool) : Step Bool := do
  if (← left) = 0 then beyond
  let count ← left
  joined "-o" (· || ·) (joined "-a" (· && ·) (term inside) count true) count false

def triple (inside : Nat → Step Bool) : Step Bool := do
  let operator := (← ahead? 1).getD []
  if isBinary operator then binary false
  else if ← isAhead 0 "!" then
    advance
    return !(← pair)
  else if (← isAhead 0 "(") && (← isAhead 2 ")") then
    skip 1
    let value ← single
    skip 1
    return value
  else if (["-a", "-o"].map String.toList).contains operator then whole inside
  else throw (.binaryExpected operator)

def condition : (nesting count : Nat) → Step Bool
  | 0, _ => return false
  | nesting + 1, count => do
    let inside := condition nesting
    match count with
    | 1 => single
    | 2 => pair
    | 3 => triple inside
    | _ =>
      if count = 4 && (← isAhead 0 "!") then
        advance
        return !(← triple inside)
      else if count = 4 && (← isAhead 0 "(") && (← isAhead 3 ")") then
        skip 1
        let value ← pair
        skip 1
        return value
      else whole inside

def answer (files : FileSystem) (arguments : List Text) : Except Fault Bool :=
  if arguments.isEmpty then .ok false
  else
    let (result, place) :=
      ((condition (arguments.length + 1) arguments.length).run (files, arguments)).run.run 0
    match result, arguments[place]? with
    | .ok _, some extra => .error (.extraArgument extra)
    | result, _ => result

def conditionOf (bracketed : Bool) (arguments : List Text) : Except Fault (List Text) :=
  if !bracketed then .ok arguments
  else if arguments.getLast? == some [']'] then .ok arguments.dropLast
  else .error .missingBracket

/-- The program; `bracketed` tells whether it is the one with the closing bracket. -/
def program (bracketed : Bool) : Program := do
  let arguments := conditionOf bracketed (← read).arguments
  match ← Running.ask fun files => arguments.bind (answer files) with
  | .ok true => return .exited 0
  | .ok false => return .exited 1
  | .error fault =>
    Running.complain fault.message
    return .exited 2

end LineScript.Programs.Test
