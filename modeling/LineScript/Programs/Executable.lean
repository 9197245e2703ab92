import LineScript.Programs.Tool

/-!
# Executable files

A file can be started if its owner may execute it and it holds a tool, or names an interpreter in its
first line. The line is looked for in the head of the file only, and a zero byte ends what is read of
it. An interpreter is given its argument, the path of the file and the arguments; it may be a file
with an interpreter itself, for a few levels.
-/

namespace LineScript.Programs

set_option autoImplicit false

inductive Executable where
  | tool (tool : Tool)
  | interpreted (interpreter : Text) (argument : Option Text)
  deriving DecidableEq

namespace Executable

def headSize : Nat := 256

def isBlank (c : Char) : Bool := c == ' ' || c == '\t'

def endsName (c : Char) : Bool := isBlank c || c == '\x00'

/-- The interpreter that a whole line after its mark names, with the rest of the line as one
argument. -/
def ofWholeLine? (line : Text) : Option Executable :=
  let line := ((line.dropWhile isBlank).reverse.dropWhile isBlank).reverse
  match line.takeWhile (!isBlank ·) with
  | [] => none
  | interpreter =>
    let argument := (line.dropWhile (!isBlank ·)).dropWhile isBlank
    some (.interpreted interpreter (if argument.isEmpty then none else some argument))

/-- The interpreter that a head without the end of its first line names. Its name has to end within
the head; the argument may be cut. -/
def ofCutLine? (head : Text) : Option Executable :=
  let whole := (head ++ List.replicate (headSize - 2 - head.length) '\x00').dropWhile isBlank
  if !whole.any endsName then none
  else
    let line := whole.take (whole.length - 1)
    let argument :=
      match line.dropWhile (!endsName ·) with
      | c :: rest =>
        match (c :: rest).dropWhile isBlank with
        | [] => none
        | argument => if isBlank c then some (argument.takeWhile (· != '\x00')) else none
      | [] => none
    some (.interpreted (line.takeWhile (!endsName ·)) argument)

def ofContent? (content : List UInt8) : Option Executable :=
  match Tool.ofImage? content with
  | some found => some (.tool found)
  | none =>
    match Octets.ofBytes (content.take headSize) with
    | '#' :: '!' :: head =>
      if (head.takeWhile (· != '\x00')).contains '\n' then ofWholeLine? (head.takeWhile (· != '\n'))
      else ofCutLine? head
    | _ => none

def contentOf (files : FileSystem) (path : Text) : Except HostError (List UInt8) :=
  match files.status (Octets.text path) with
  | .error error => .error error
  | .ok (_, .file content mode) =>
    if mode.isExecutable then .ok content else .error .accessDenied
  | .ok _ => .error .accessDenied

/-- The files that may be gone through on the way to a tool, the tool's own included. -/
def levelLimit : Nat := 6

def argumentSizeLimit : Nat := 0x20000

def totalSizeLimit : Nat := 0x200000

def isTooLarge (process : Process) : Bool :=
  let texts := process.name :: process.arguments ++
    process.environment.map fun (name, value) => name ++ '=' :: value
  texts.any (argumentSizeLimit ≤ ·.length + 1) ||
    totalSizeLimit ≤ (texts.map (·.length + 9)).foldl (· + ·) 0

/-- The tool that a file leads to through its interpreters, and the process it runs in. -/
def load (files : FileSystem) : (levels : Nat) → (path : Text) → Process →
    Except HostError (Tool × Process)
  | levels, path, process =>
    match contentOf files path, levels with
    | .error error, _ => .error error
    | .ok _, 0 => .error .linkLoop
    | .ok content, levels + 1 =>
      if isTooLarge process then .error .argumentsTooLong
      else
        match ofContent? content with
        | none => .error .notExecutableFormat
        | some (.tool found) => .ok (found, process)
        | some (.interpreted interpreter argument) =>
          if interpreter.isEmpty then .error .accessDenied
          else
            load files levels interpreter
              { process with
                name := interpreter
                arguments := argument.toList ++ path :: process.arguments }

def searchDirectories : List Text :=
  ["/usr/local/sbin", "/usr/local/bin", "/usr/sbin", "/usr/bin", "/sbin", "/bin"].map String.toList

/-- The first file along directories that can be started under a name. Missing ones are passed over; a
file that may not be executed is remembered, and reported if there is no other. -/
def search (files : FileSystem) (process : Process) (denied : Bool) :
    List Text → Except HostError (Tool × Process)
  | [] => .error (if denied then .accessDenied else .noSuchEntry)
  | directory :: rest =>
    match load files levelLimit (directory ++ '/' :: process.name) process with
    | .ok found => .ok found
    | .error .noSuchEntry | .error .notDirectory => search files process denied rest
    | .error .accessDenied => search files process true rest
    | .error error => .error error

def find (files : FileSystem) (process : Process) : Except HostError (Tool × Process) :=
  if process.name.contains '/' then load files levelLimit process.name process
  else if process.name.isEmpty then .error .noSuchEntry
  else if Name.sizeLimit < process.name.length then .error .nameTooLong
  else search files process false searchDirectories

end Executable

end LineScript.Programs
