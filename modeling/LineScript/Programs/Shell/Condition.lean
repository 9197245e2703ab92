import LineScript.Programs.FileQuestion
import LineScript.Programs.Numeral

/-!
# Conditions of the shell

The condition that `test` of the shell decides. A word is an operator only where something follows it
that it can apply to. All parts of a condition are evaluated, whatever the others say.
-/

namespace LineScript.Programs.Shell.Condition

set_option autoImplicit false

inductive Fault where
  | unexpected (word : Text)
  | missing (operator : Text)
  | unclosed
  | notNumber (word : Text)
  | unbracketed
  deriving DecidableEq

def Fault.message : Fault → List Text
  | .unexpected word => shown word ++ ["unexpected operator".toList]
  | .missing operator => shown operator ++ ["argument expected".toList]
  | .unclosed => ["closing paren expected".toList]
  | .notNumber word => ["Illegal number".toList, word]
  | .unbracketed => ["missing ]".toList]
where
  /-- A word before what is said about it. -/
  shown (word : Text) : List Text := if word.isEmpty then [] else [word]

inductive Token where
  | ending
  | operand
  | unary (letter : Char)
  | binary (operator : String)
  | not
  | and
  | or
  | opening
  | closing
  deriving DecidableEq

def unaryLetters : Text := "rwxefdcbpugkstznhOGLS".toList

def binaryOperators : List String :=
  ["=", "!=", "<", ">", "-eq", "-ne", "-ge", "-gt", "-le", "-lt", "-nt", "-ot", "-ef"]

def operator? (word : Text) : Option Token :=
  match word with
  | ['!'] => some .not
  | ['('] => some .opening
  | [')'] => some .closing
  | ['-', 'a'] => some .and
  | ['-', 'o'] => some .or
  | _ =>
    match binaryOperators.find? (·.toList == word), word with
    | some operator, _ => some (.binary operator)
    | none, ['-', letter] => if unaryLetters.contains letter then some (.unary letter) else none
    | none, _ => none

def isBinary (word : Text) : Bool :=
  match operator? word with
  | some (.binary _) => true
  | _ => false

def tokenOf : List Text → Token
  | [] => .ending
  | word :: rest =>
    match operator? word, rest with
    | some (.unary letter), next :: others =>
      if !others.isEmpty && isBinary next then .operand else .unary letter
    | some (.unary _), [] | some .opening, [] | none, _ => .operand
    | some found, _ => found

def numberOf (word : Text) : Except Fault Int :=
  match Numeral.read? (some 10) word with
  | none => .error (.notNumber word)
  | some numeral =>
    let (value, inRange) := numeral.signed
    if inRange && numeral.rest.all Numeral.isBlank then .ok value else .error (.notNumber word)

def compare (files : FileSystem) (operator : String) (first second : Text) : Except Fault Bool :=
  let numbers (holds : Int → Int → Bool) : Except Fault Bool := do
    let first ← numberOf first
    return holds first (← numberOf second)
  match operator with
  | "=" => .ok (first == second)
  | "!=" => .ok (first != second)
  | "<" => .ok (first != second && Text.le first second)
  | ">" => .ok (first != second && Text.le second first)
  | "-eq" => numbers fun first second => first = second
  | "-ne" => numbers fun first second => first ≠ second
  | "-ge" => numbers fun first second => second ≤ first
  | "-gt" => numbers fun first second => second < first
  | "-le" => numbers fun first second => first ≤ second
  | "-lt" => numbers fun first second => first < second
  | "-ef" => .ok (FileQuestion.same files first second)
  | _ => .ok false

def ask (files : FileSystem) (letter : Char) (word : Text) : Except Fault Bool :=
  match letter with
  | 'z' => .ok word.isEmpty
  | 'n' => .ok !word.isEmpty
  | 't' => (numberOf word).map fun _ => false
  | _ => .ok ((FileQuestion.answer? files letter word).getD false)

mutual

/-- Evaluates what `-o` joins. The answer comes with the words from the last one used on. -/
def disjunction (files : FileSystem) : (fuel : Nat) → Token → List Text →
    Except Fault (Bool × List Text)
  | 0, _, words => .ok (false, words)
  | fuel + 1, token, words => do
    let (first, words) ← conjunction files fuel token words
    match tokenOf words.tail with
    | .or =>
      let words := words.tail.tail
      let (second, words) ← disjunction files fuel (tokenOf words) words
      return (first || second, words)
    | _ => return (first, words)

def conjunction (files : FileSystem) : (fuel : Nat) → Token → List Text →
    Except Fault (Bool × List Text)
  | 0, _, words => .ok (false, words)
  | fuel + 1, token, words => do
    let (first, words) ← negation files fuel token words
    match tokenOf words.tail with
    | .and =>
      let words := words.tail.tail
      let (second, words) ← conjunction files fuel (tokenOf words) words
      return (first && second, words)
    | _ => return (first, words)

def negation (files : FileSystem) : (fuel : Nat) → Token → List Text →
    Except Fault (Bool × List Text)
  | 0, _, words => .ok (false, words)
  | fuel + 1, token, words => do
    match token with
    | .not =>
      let next := tokenOf words.tail
      let words := if next = .ending then words else words.tail
      let (holds, words) ← negation files fuel next words
      return (!holds, words)
    | _ => primary files fuel token words

def primary (files : FileSystem) : (fuel : Nat) → Token → List Text →
    Except Fault (Bool × List Text)
  | 0, _, words => .ok (false, words)
  | fuel + 1, token, words => do
    match token, words with
    | .ending, _ | _, [] => return (false, words)
    | .opening, _ :: words =>
      match tokenOf words with
      | .closing => return (false, words)
      | next =>
        let (holds, words) ← disjunction files fuel next words
        match tokenOf words.tail with
        | .closing => return (holds, words.tail)
        | _ => throw .unclosed
    | .unary letter, operator :: words =>
      match words with
      | [] => throw (.missing operator)
      | word :: _ => return (← ask files letter word, words)
    | _, first :: words =>
      match tokenOf words, words with
      | .binary operator, written :: rest =>
        match rest with
        | [] => throw (.missing written)
        | second :: _ => return (← compare files operator first second, rest)
      | _, _ => return (!first.isEmpty, first :: words)

end

def evaluate (files : FileSystem) (token : Token) (words : List Text) : Except Fault Bool := do
  let (holds, rest) ← disjunction files (words.length * 4 + 4) token words
  match rest with
  | last :: _ :: _ => throw (.unexpected last)
  | _ => return holds

/-- The answer to a condition. Conditions of up to four words are read by their number first. -/
def answer (files : FileSystem) : List Text → Except Fault Bool
  | [] => .ok false
  | [first, middle, last] =>
    if isBinary middle then evaluate files .operand [first, middle, last]
    else if first = ['('] && last = [')'] then evaluate files (tokenOf [middle]) [middle]
    else if first = ['!'] then (evaluate files (tokenOf [middle, last]) [middle, last]).map (!·)
    else evaluate files (tokenOf [first, middle, last]) [first, middle, last]
  | [first, second, third, last] =>
    if first = ['('] && last = [')'] then
      evaluate files (tokenOf [second, third]) [second, third]
    else if first = ['!'] then (answer files [second, third, last]).map (!·)
    else evaluate files (tokenOf [first, second, third, last]) [first, second, third, last]
  | words => evaluate files (tokenOf words) words

def ofArguments (bracketed : Bool) (arguments : List Text) : Except Fault (List Text) :=
  if !bracketed then .ok arguments
  else if arguments.getLast? = some [']'] then .ok arguments.dropLast
  else .error .unbracketed

end LineScript.Programs.Shell.Condition
