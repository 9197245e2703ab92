import LineScript.Bindings
import LineScript.Path
import LineScript.Text.Quoted
import LineScript.Token

/-!
# Sessions

A session is what a script run remembers: variables, groups, the working directory that relative
paths start from, and the home directory. Variables and groups are finite maps in which the latest
binding of a name counts.
-/

namespace LineScript

set_option autoImplicit false

structure Session where
  values : Bindings Text Text
  groups : Bindings Text (List Text)
  directory : Path
  home : Option Text

namespace Session

def start (directory : Path) (home : Option Text) : Session := ⟨[], [], directory, home⟩

def valueOf? (session : Session) (name : Text) : Option Text := session.values.get? name

def group (session : Session) (name : Text) : List Text := (session.groups.get? name).getD []

def setVariable (session : Session) (name value : Text) : Session :=
  { session with values := session.values.insert name value }

def setGroup (session : Session) (name : Text) (entries : List Text) : Session :=
  { session with groups := session.groups.insert name entries }

def setDirectory (session : Session) (directory : Path) : Session :=
  { session with directory := directory }

/-- The value that a reference reads; an unbound name reads as the empty text. -/
def lookup (session : Session) (reference : Text) : Text :=
  (session.valueOf? (Token.variableName reference)).getD []

/-- A leading `~` stands for the home directory, whatever follows it, when the home is known. -/
def expandHome (session : Session) (value : Text) : Text :=
  match value, session.home with
  | '~' :: rest, some home => home ++ rest
  | _, _ => value

/-- The text that a token denotes before quotes and `~` are treated. -/
def denotation (session : Session) (token : Token) : Text :=
  match token.kind with
  | .variable => session.lookup token.text
  | _ => token.text

/-- The value of a token: a reference is replaced, then one layer of quotes is removed, then a
leading `~` is expanded. -/
def resolve (session : Session) (token : Token) : Text :=
  session.expandHome (Text.unquote (session.denotation token))

def resolvePath (session : Session) (token : Token) : Path :=
  Path.join session.directory (session.resolve token)

/-- What `echo` prints for a token: a reference is replaced, and outer quotes are removed. -/
def echoed (session : Session) (token : Token) : Text :=
  match token.kind with
  | .variable => session.lookup token.text
  | _ => Text.trimMarks '"' token.text

def unboundName? (session : Session) (token : Token) : Option Text :=
  match token.kind with
  | .variable =>
    match session.valueOf? (Token.variableName token.text) with
    | some _ => none
    | none => some (Token.variableName token.text)
  | _ => none

@[simp] theorem value_of?_set_variable_self (session : Session) (name value : Text) :
    (session.setVariable name value).valueOf? name = some value := by
  simp [valueOf?, setVariable]

theorem value_of?_set_variable_of_ne (session : Session) {name other : Text} (value : Text)
    (distinct : other ≠ name) :
    (session.setVariable name value).valueOf? other = session.valueOf? other := by
  simp [valueOf?, setVariable, Bindings.get?_insert_of_ne _ _ distinct]

@[simp] theorem group_set_group_self (session : Session) (name : Text) (entries : List Text) :
    (session.setGroup name entries).group name = entries := by
  simp [group, setGroup]

theorem group_set_group_of_ne (session : Session) {name other : Text} (entries : List Text)
    (distinct : other ≠ name) : (session.setGroup name entries).group other = session.group other := by
  simp [group, setGroup, Bindings.get?_insert_of_ne _ _ distinct]

end Session

end LineScript
