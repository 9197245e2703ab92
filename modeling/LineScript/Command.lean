import LineScript.Session
import LineScript.Text.WhiteSpace

/-!
# Commands

A command text is cut at white space into a program and its arguments, with no quoting of its own.
A leading `~` of an argument is expanded; the program stays as written. The first argument that is
exactly `$$` is the place for an entry of a group.
-/

namespace LineScript

set_option autoImplicit false

structure Command where
  program : Text
  arguments : List Text
  deriving DecidableEq, Repr

namespace Command

def placeholder : Text := ['$', '$']

/-- The command that a text spells, or `none` when the text has no words. -/
def ofText? (session : Session) (text : Text) : Option Command :=
  match Text.words text with
  | [] => none
  | program :: arguments => some ⟨program, arguments.map session.expandHome⟩

def placeholder? (command : Command) : Option Nat :=
  command.arguments.findIdx? (· == placeholder)

def withArgument (command : Command) (place : Nat) (entry : Text) : Command :=
  { command with arguments := command.arguments.set place entry }

/-- The command for one group entry: the entry takes the place of the first placeholder, if any. -/
def fill (command : Command) (entry : Text) : Command :=
  match command.placeholder? with
  | some place => command.withArgument place entry
  | none => command

def display (command : Command) : Text :=
  Text.join [' '] (command.program :: command.arguments)

end Command

end LineScript
