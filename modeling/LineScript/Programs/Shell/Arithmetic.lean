import LineScript.Programs.Numeral
import LineScript.Programs.Shell.State

/-!
# Arithmetic of the shell

Expressions over words of 64 bits: names of variables, numbers, assignments, a choice, logical operators
that evaluate their second operand only when it decides, and operators on words. Sums and products wrap
around, and a division goes toward zero. Parts that do not count are read but have no effects.
-/

namespace LineScript.Programs.Shell.Arithmetic

set_option autoImplicit false

inductive Element where
  | number (value : Int)
  | name (name : Text)
  | operator (text : String)
  | unknown
  deriving DecidableEq

/-- Operators that combine two words, with their levels; a lower level binds tighter. -/
def levels : List (String × Nat) :=
  [("*", 0), ("/", 0), ("%", 0), ("+", 1), ("-", 1), ("<<", 2), (">>", 2), ("<", 3), ("<=", 3),
    (">", 3), (">=", 3), ("==", 4), ("!=", 4), ("&", 5), ("^", 6), ("|", 7)]

def outerLevel : Nat := 8

def assigning : List String := ["*", "/", "%", "+", "-", "<<", ">>", "&", "^", "|"]

def operators : List String :=
  ["<<=", ">>=", "<<", ">>", "<=", ">=", "==", "!=", "||", "&&", "|=", "&=", "^=", "*=", "/=", "%=",
    "+=", "-=", "<", ">", "=", "|", "&", "^", "*", "/", "%", "+", "-", "!", "~", "?", ":", "(", ")"]

def elements : (steps : Nat) → Text → List Element
  | 0, _ | _, [] => []
  | steps + 1, c :: rest =>
    let text := c :: rest
    if c == ' ' || c == '\t' || c == '\n' then elements steps rest
    else if c.isDigit then
      match Numeral.read? none text with
      | some numeral => .number numeral.signed.1 :: elements steps numeral.rest
      | none => [.unknown]
    else if isNameStart c then
      .name (text.takeWhile isNameChar) :: elements steps (text.dropWhile isNameChar)
    else
      match operators.find? (·.toList.isPrefixOf text) with
      | some operator => .operator operator :: elements steps (text.drop operator.length)
      | none => .unknown :: elements steps rest

/-- A step of an evaluation, which takes elements off. The whole expression is at hand for
complaints. -/
abbrev Step (α : Type) := ReaderT Text (StateT (List Element) Act) α

def refuse {α : Type} (wording : String) : Step α := fun expression _ =>
  Act.fail ["arithmetic expression".toList, wording.toList, '"' :: expression ++ ['"']]

def peek : Step (Option Element) := return (← get).head?

def skip : Step Unit := modify List.tail

def follows (operator : String) : Step Bool := do
  if (← peek) == some (.operator operator) then
    skip
    return true
  else return false

def wordOf (text : Text) : Act Int := do
  match Numeral.read? none text with
  | none => if text.all Numeral.isBlank then return 0 else illegal
  | some numeral =>
    let (value, inRange) := numeral.signed
    if inRange && numeral.rest.all Numeral.isBlank then return value else illegal
where
  /-- Complains that a text spells no word. -/
  illegal : Act Int := Act.fail ["Illegal number".toList, text]

def valueOf (name : Text) : Act Int := do wordOf ((← Act.valueOf? name).getD [])

def ofBool (holds : Bool) : Int := if holds then 1 else 0

def decimal (value : Int) : Text :=
  if value < 0 then '-' :: Text.decimal value.natAbs else Text.decimal value.natAbs

def quotientSignal : Nat := 8

def divide (operation : Int → Int → Int) (first second : Int) : Step Int := do
  if second = 0 then refuse "division by zero"
  else if second = -1 && first = -((Numeral.wordLimit / 2 : Nat) : Int) then
    throw (.killed quotientSignal)
  else return operation first second

def combine (operator : String) (first second : Int) : Step Int := do
  let bits (operation : Nat → Nat → Nat) : Int :=
    Numeral.ofWord (operation (Numeral.toWord first) (Numeral.toWord second))
  let distance := Numeral.toWord second % 64
  match operator with
  | "*" => return Numeral.wrap (first * second)
  | "/" => divide Int.tdiv first second
  | "%" => divide Int.tmod first second
  | "+" => return Numeral.wrap (first + second)
  | "-" => return Numeral.wrap (first - second)
  | "<<" => return Numeral.wrap (first * (1 <<< distance : Nat))
  | ">>" => return first >>> distance
  | "<" => return ofBool (first < second)
  | "<=" => return ofBool (first ≤ second)
  | ">" => return ofBool (second < first)
  | ">=" => return ofBool (second ≤ first)
  | "==" => return ofBool (first = second)
  | "!=" => return ofBool (first ≠ second)
  | "&" => return bits (· &&& ·)
  | "^" => return bits (· ^^^ ·)
  | _ => return bits (· ||| ·)

def nextCombining : Step (Option (String × Nat)) := do
  match ← peek with
  | some (.operator operator) => return (levels.lookup operator).map (operator, ·)
  | _ => return none

mutual

def assignment (live : Bool) : (fuel : Nat) → Step Int
  | 0 => refuse "expecting EOF"
  | fuel + 1 => do
    match ← get with
    | .name name :: .operator operator :: rest =>
      let combining? := assigning.find? (· ++ "=" == operator)
      if operator == "=" || combining?.isSome then
        set rest
        let value ← assignment live fuel
        if !live then return value
        else
          let value ←
            match combining? with
            | some combining => combine combining (← (valueOf name : Act Int)) value
            | none => pure value
          (Act.setVariable name (decimal value) : Act Unit)
          return value
      else choice live fuel
    | _ => choice live fuel

def choice (live : Bool) : (fuel : Nat) → Step Int
  | 0 => refuse "expecting EOF"
  | fuel + 1 => do
    let test ← disjunction live fuel
    if ← follows "?" then
      let first ← assignment (live && test ≠ 0) fuel
      if !(← follows ":") then refuse "expecting ':'"
      let second ← choice (live && test = 0) fuel
      return if test ≠ 0 then first else second
    else return test

def disjunction (live : Bool) : (fuel : Nat) → Step Int
  | 0 => refuse "expecting EOF"
  | fuel + 1 => do
    let first ← conjunction live fuel
    if ← follows "||" then
      let second ← disjunction (live && first = 0) fuel
      return ofBool (first ≠ 0 || second ≠ 0)
    else return first

def conjunction (live : Bool) : (fuel : Nat) → Step Int
  | 0 => refuse "expecting EOF"
  | fuel + 1 => do
    let first ← primary live fuel
    let first ←
      match ← nextCombining with
      | some (operator, level) => combined live first operator level outerLevel fuel
      | none => pure first
    if ← follows "&&" then
      let second ← conjunction (live && first ≠ 0) fuel
      return ofBool (first ≠ 0 && second ≠ 0)
    else return first

/-- Evaluates the operators that follow a word, as long as they bind tighter than a level. -/
def combined (live : Bool) (first : Int) (operator : String) (level limit : Nat) :
    (fuel : Nat) → Step Int
  | 0 => refuse "expecting EOF"
  | fuel + 1 => do
    skip
    let second ← primary live fuel
    let second ←
      match ← nextCombining with
      | some (next, nextLevel) =>
        if nextLevel < level then combined live second next nextLevel level fuel else pure second
      | none => pure second
    let result ← if live then combine operator first second else pure second
    match ← nextCombining with
    | some (next, nextLevel) =>
      if nextLevel < limit then combined live result next nextLevel limit fuel else return result
    | none => return result

def primary (live : Bool) : (fuel : Nat) → Step Int
  | 0 => refuse "expecting EOF"
  | fuel + 1 => do
    let first ← peek
    skip
    match first with
    | some (.number value) => return value
    | some (.name name) => if live then (valueOf name : Act Int) else return 0
    | some (.operator "(") =>
      let value ← assignment live fuel
      if ← follows ")" then return value else refuse "expecting ')'"
    | some (.operator "+") => primary live fuel
    | some (.operator "-") => return Numeral.wrap (-(← primary live fuel))
    | some (.operator "!") => return ofBool ((← primary live fuel) = 0)
    | some (.operator "~") => return -(← primary live fuel) - 1
    | _ => refuse "expecting primary"

end

def evaluate (expression : Text) : Act Int := do
  let elements := elements expression.length expression
  let step : Step Int := do
    let value ← assignment true (elements.length * 8 + 8)
    if (← peek).isSome then refuse "expecting EOF" else return value
  let (value, _) ← (step.run expression).run elements
  return value

end LineScript.Programs.Shell.Arithmetic
