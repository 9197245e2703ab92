import LineScript.FileSystem.HostError
import LineScript.Path

/-!
# Trace events

While a script runs it reports what it is about to do and what it has done. Each event is one line of
the diagnostic trace, in which characters that could steer a terminal are written as escapes.
-/

namespace LineScript

set_option autoImplicit false

def version : Text := "0.1.0".toList

inductive Event where
  | started
  | loaded (path : Path)
  | executing (line : Nat) (display : Text)
  | unboundVariable (name : Text)
  | running (command : Text)
  | creatingFile (path : Path)
  | creatingDirectory (path : Path)
  | changedDirectory (directory : Path)
  | removing (path : Path)
  | copied (source destination : Path)
  | moved (source destination : Path)
  | readFrom (path : Path)
  | wroteTo (path : Path)
  | appendedTo (path : Path)
  | skipped (directory : Path) (error : HostError)
  | found (count : Nat) (pattern group : Text)
  | emptyGroup (group : Text)
  | entry (text : Text)
  deriving DecidableEq, Repr

def Event.message : Event → Text
  | .started => "SCRIPTOR INTERPRETER VER ".toList ++ version
  | .loaded path => "Loaded contents of ".toList ++ path
  | .executing line display =>
    "Executing: line ".toList ++ Text.decimal line ++ ": ".toList ++ display
  | .unboundVariable name => "Variable not set: ".toList ++ name
  | .running command => "Running: ".toList ++ command
  | .creatingFile path => "Creating file: ".toList ++ path
  | .creatingDirectory path => "Creating folder: ".toList ++ path
  | .changedDirectory directory => "Changed to directory: ".toList ++ directory
  | .removing path => "Removing file/directory: ".toList ++ path
  | .copied source destination =>
    "Copied: ".toList ++ source ++ " to: ".toList ++ destination
  | .moved source destination => "Moved: ".toList ++ source ++ " to: ".toList ++ destination
  | .readFrom path => "Read data from: ".toList ++ path
  | .wroteTo path => "Wrote to file: ".toList ++ path
  | .appendedTo path => "Appended to file: ".toList ++ path
  | .skipped directory error =>
    "Skipping ".toList ++ directory ++ ": ".toList ++ error.message
  | .found count pattern group =>
    "Found ".toList ++ Text.decimal count ++ " entries for ".toList ++ pattern ++
      " into []".toList ++ group
  | .emptyGroup group => "Group []".toList ++ group ++ " is empty".toList
  | .entry text => text

/-- Whether a character could steer a terminal: it is the bell, a backspace, a form feed, an escape, a
deletion, or one of the controls after ASCII. -/
def steersTerminal (c : Char) : Bool :=
  let code := c.toNat
  code == 0x07 || code == 0x08 || code == 0x0C || code == 0x1B || (0x7F ≤ code && code ≤ 0x9F)

def traced (c : Char) : Text :=
  if !steersTerminal c then [c]
  else
    let digits := Nat.toDigits 16 c.toNat
    if c.toNat < 0x80 then "\\x".toList ++ List.replicate (2 - digits.length) '0' ++ digits
    else ['\\', 'u', '{'] ++ digits ++ ['}']

def Event.line (event : Event) : Text := event.message.flatMap traced ++ ['\n']

theorem traced_of_not_steers_terminal {c : Char} (harmless : steersTerminal c = false) :
    traced c = [c] := by
  simp [traced, harmless]

theorem Event.line_eq_message {event : Event}
    (harmless : ∀ c ∈ event.message, steersTerminal c = false) :
    event.line = event.message ++ ['\n'] := by
  have same : ∀ text : Text, (∀ c ∈ text, steersTerminal c = false) →
      text.flatMap traced = text := by
    intro text
    induction text with
    | nil => simp
    | cons c rest ih =>
      intro harmless
      simp only [List.mem_cons, forall_eq_or_imp] at harmless
      rw [List.flatMap_cons, traced_of_not_steers_terminal harmless.1, ih harmless.2]
      rfl
  rw [Event.line, same event.message harmless]

end LineScript
