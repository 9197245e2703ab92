import LineScript.Programs.Shell.Expansion

/-!
# Built-in commands

The commands that a shell carries out itself. An error in a special one ends the shell, and assignments
before it last. Some take words that are assignments as such.
-/

namespace LineScript.Programs.Shell

set_option autoImplicit false

inductive Builtin where
  | aliases
  | bg
  | break
  | cd
  | command
  | continue
  | dot
  | echo
  | eval
  | exec
  | exit
  | export
  | fail
  | fg
  | getopts
  | hash
  | jobs
  | kill
  | local
  | printf
  | pwd
  | read
  | readonly
  | return
  | set
  | shift
  | succeed
  | test
  | times
  | trap
  | type
  | ulimit
  | umask
  | unalias
  | unset
  | wait
  deriving DecidableEq, Repr

namespace Builtin

def names : List (String × Builtin) :=
  [(".", .dot), (":", .succeed), ("[", .test), ("alias", .aliases), ("bg", .bg), ("break", .break),
    ("cd", .cd), ("chdir", .cd), ("command", .command), ("continue", .continue), ("echo", .echo),
    ("eval", .eval), ("exec", .exec), ("exit", .exit), ("export", .export), ("false", .fail),
    ("fg", .fg), ("getopts", .getopts), ("hash", .hash), ("jobs", .jobs), ("kill", .kill),
    ("local", .local), ("printf", .printf), ("pwd", .pwd), ("read", .read),
    ("readonly", .readonly), ("return", .return), ("set", .set), ("shift", .shift),
    ("test", .test), ("times", .times), ("trap", .trap), ("true", .succeed), ("type", .type),
    ("ulimit", .ulimit), ("umask", .umask), ("unalias", .unalias), ("unset", .unset),
    ("wait", .wait)]

def ofName? (name : Text) : Option Builtin := names.lookup (Text.toString name)

def isSpecial (name : Text) : Bool :=
  [".", ":", "break", "continue", "eval", "exec", "exit", "export", "local", "readonly", "return",
    "set", "shift", "times", "trap", "unset"].contains (Text.toString name)

def takesAssignments : Builtin → Bool
  | .aliases | .export | .local | .readonly => true
  | _ => false

/-- Takes the options off the arguments of a built-in command. Two dashes end them. Of the letters that
are known, some have a value. -/
def takeOptions (known valued : Text) : (steps : Nat) → (found : List (Char × Text)) → List Text →
    Act (List (Char × Text) × List Text)
  | 0, found, arguments => return (found.reverse, arguments)
  | steps + 1, found, arguments => do
    match arguments with
    | ['-', '-'] :: rest => return (found.reverse, rest)
    | ('-' :: letter :: letters) :: rest =>
      if valued.contains letter then
        match letters, rest with
        | [], [] => Act.fail ["No arg for -".toList ++ letter :: " option".toList]
        | [], value :: rest => takeOptions known valued steps ((letter, value) :: found) rest
        | _, _ => takeOptions known valued steps ((letter, letters) :: found) rest
      else if known.contains letter then
        let rest := if letters.isEmpty then rest else ('-' :: letters) :: rest
        takeOptions known valued steps ((letter, []) :: found) rest
      else Act.fail ["Illegal option -".toList ++ [letter]]
    | _ => return (found.reverse, arguments)

def options (known valued : String) (arguments : List Text) :
    Act (List (Char × Text) × List Text) :=
  takeOptions known.toList valued.toList
    ((arguments.map (·.length)).foldl (· + ·) arguments.length + 1) [] arguments

/-- A text between quotes that a shell takes away. Single quotes in it stand between double ones. -/
def singleQuoted (text : Text) : Text := quote true text
where
  /-- Quotes the rest of a text; a part begins or goes on. -/
  quote (begins : Bool) : Text → Text
    | [] => if begins then ['\'', '\''] else ['\'']
    | '\'' :: rest =>
      (if begins then ['\'', '\''] else ['\'']) ++ '"' :: '\'' :: doubleQuoted rest
    | c :: rest => (if begins then ['\'', c] else [c]) ++ quote false rest
  /-- Goes on between double quotes. -/
  doubleQuoted : Text → Text
    | [] => ['"']
    | '\'' :: rest => '\'' :: doubleQuoted rest
    | c :: rest => '"' :: '\'' :: c :: quote false rest

end Builtin

end LineScript.Programs.Shell
