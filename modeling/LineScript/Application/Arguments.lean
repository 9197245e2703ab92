import LineScript.Path
import LineScript.Text.Terminal

/-!
# Command line arguments

The program takes one optional script path and the flags `-v`, `-h`, `--help`, `-V` and `--version`.
Short flags may be clustered, and after `--` every argument is a path. Arguments are judged in order:
the first flag that asks for help or the version, or the first mistake, decides. An empty path is a
mistake that is noticed when a flag follows it or the arguments end.
-/

namespace LineScript.Application

set_option autoImplicit false

inductive Invocation where
  | help
  | version
  | run (script : Path) (verbose : Bool)
  deriving DecidableEq, Repr

inductive Misuse where
  | unexpected (argument : Text)
  | unexpectedValue (value flag : Text)
  | repeatedVerbose
  | emptyScript
  deriving DecidableEq, Repr

/-- The wording of a mistake. What the user wrote is shown without what would steer a terminal. -/
def Misuse.message : Misuse → Text
  | .unexpected argument =>
    "unexpected argument '".toList ++ Text.Terminal.shown argument ++ "' found".toList
  | .unexpectedValue value flag =>
    "unexpected value '".toList ++ Text.Terminal.shown value ++ "' for '".toList ++ flag ++
      "' found; no more were expected".toList
  | .repeatedVerbose => "the argument '-v' cannot be used multiple times".toList
  | .emptyScript => "a value is required for '[SCRIPT]' but none was supplied".toList

structure Choices where
  script : Option Path
  verbose : Bool

inductive Stop where
  | answer (invocation : Invocation)
  | misuse (misuse : Misuse)

namespace Choices

def checked (choices : Choices) : Except Stop Choices :=
  if choices.script = some [] then .error (.misuse .emptyScript) else .ok choices

def takeScript (choices : Choices) (argument : Text) : Except Stop Choices :=
  match choices.script with
  | none => .ok { choices with script := some argument }
  | some _ => .error (.misuse (.unexpected argument))

def takeLetters (choices : Choices) : Text → Except Stop Choices
  | [] => .ok choices
  | letter :: rest =>
    if letter = 'v' then do
      let choices ← choices.checked
      if choices.verbose then .error (.misuse .repeatedVerbose)
      else takeLetters { choices with verbose := true } rest
    else if letter = 'h' then do
      let _ ← choices.checked
      .error (.answer .help)
    else if letter = 'V' then do
      let _ ← choices.checked
      .error (.answer .version)
    else .error (.misuse (.unexpected ['-', letter]))

def takeLong (choices : Choices) (flag : Text) : Except Stop Choices := do
  let name := flag.takeWhile (· != '=')
  let answer ←
    if name = "help".toList then pure Invocation.help
    else if name = "version".toList then pure Invocation.version
    else .error (.misuse (.unexpected ('-' :: '-' :: name)))
  match flag.dropWhile (· != '=') with
  | [] =>
    let _ ← choices.checked
    .error (.answer answer)
  | _ :: value => .error (.misuse (.unexpectedValue value ('-' :: '-' :: name)))

/-- Takes the arguments one by one. `onlyPaths` holds after `--`. -/
def takeAll (choices : Choices) (onlyPaths : Bool) : List Text → Except Stop Choices
  | [] => choices.checked
  | argument :: others =>
    if onlyPaths then do takeAll (← choices.takeScript argument) true others
    else
      match argument with
      | ['-', '-'] => takeAll choices true others
      | '-' :: '-' :: flag => do takeAll (← choices.takeLong flag) false others
      | '-' :: letter :: letters => do
        takeAll (← choices.takeLetters (letter :: letters)) false others
      | _ => do takeAll (← choices.takeScript argument) false others

end Choices

/-- What the arguments ask for. Without a script the program explains itself. -/
def Invocation.ofArguments (arguments : List Text) : Except Misuse Invocation :=
  match Choices.takeAll ⟨none, false⟩ false arguments with
  | .error (.answer invocation) => .ok invocation
  | .error (.misuse misuse) => .error misuse
  | .ok ⟨none, _⟩ => .ok .help
  | .ok ⟨some script, verbose⟩ => .ok (.run script verbose)

end LineScript.Application
