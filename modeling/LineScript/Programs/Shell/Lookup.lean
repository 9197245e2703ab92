import LineScript.Programs.Shell.Builtin

/-!
# Looking up commands

What a name stands for where a command is carried out: a function, a built-in command, or a program that
is searched for in the directories of a search path. A name with a slash is the path of a program.
-/

namespace LineScript.Programs.Shell

set_option autoImplicit false

inductive Found where
  | function (body : Statement)
  | builtin (builtin : Builtin)
  | program (paths : List Text)
  | missing (error : HostError)

namespace Lookup

def standardPath : Text := "/usr/local/sbin:/usr/local/bin:/usr/sbin:/usr/bin:/sbin:/bin".toList

def searchPath : Act Text := return (← Act.valueOf? "PATH".toList).getD []

/-- The paths of a name in the directories of a search path. An empty directory is the working
directory. -/
def candidates (path name : Text) : List Text :=
  (path.splitOn ':').map fun directory =>
    if directory.isEmpty then name else directory ++ '/' :: name

def executeBits : Mode := 0o111

/-- Drops paths up to that of a program, and remembers why those dropped hold none. -/
def fromProgram (files : FileSystem) (error : HostError) : List Text → Except HostError (List Text)
  | [] => .error error
  | path :: rest =>
    match files.status (Octets.text path) with
    | .ok (_, .file _ mode) =>
      if mode &&& executeBits ≠ 0 then .ok (path :: rest)
      else fromProgram files .accessDenied rest
    | .ok _ => fromProgram files .accessDenied rest
    | .error .noSuchEntry | .error .notDirectory => fromProgram files error rest
    | .error other => fromProgram files other rest

def refusal (error : HostError) : Text :=
  if error = .noSuchEntry || error = .notDirectory then "not found".toList else error.description

/-- The programs that were found, with one more. A program that was found before keeps its place. -/
def remember (name : Text) (hashed : Bindings Text Bool) : Bindings Text Bool :=
  if (hashed.get? name).isSome then
    hashed.map fun (known, stale) => (known, stale && known != name)
  else hashed ++ [(name, false)]

def withoutFunctions (path name : Text) : Act Found := do
  if name.contains '/' then return .program [name]
  else
    match Builtin.ofName? name with
    | some builtin => return .builtin builtin
    | none =>
      match ← Act.ask fun files => fromProgram files .noSuchEntry (candidates path name) with
      | .ok paths =>
        if path = (← searchPath) then
          Act.change fun state => { state with hashed := remember name state.hashed }
        return .program paths
      | .error error => return .missing error

def find (path name : Text) : Act Found := do
  let state ← Act.state
  match if name.contains '/' then none else state.functions.get? name with
  | some body => return .function body
  | none => withoutFunctions path name

def aliasText (name value : Text) : Text := name ++ '=' :: Builtin.singleQuoted value

/-- Describes what a name stands for, at length or by what would be carried out. The answer is the
status. -/
def describe (path? : Option Text) (verbose : Bool) (name : Text) : Act Nat := do
  let say (description : String) (short : Text) : Act Nat := do
    Act.printLine (if verbose then name ++ description.toList else short)
    return 0
  let state ← Act.state
  if (Mark.ofText? name).isSome then say " is a shell keyword" name
  else
    match state.aliases.get? name with
    | some value =>
      Act.printLine
        (if verbose then name ++ " is an alias for ".toList ++ value
        else "alias ".toList ++ aliasText name value)
      return 0
    | none =>
      let wasHashed := path?.isNone && (state.hashed.get? name).isSome
      match ← find (path?.getD (← searchPath)) name with
      | .function _ => say " is a shell function" name
      | .builtin _ =>
        say (if Builtin.isSpecial name then " is a special shell builtin" else " is a shell builtin")
          name
      | .program paths =>
        let path := paths.headD name
        let isThere ← Act.ask fun files => (files.status (Octets.text path)).isOk
        if !isThere then notFound
        else
          Act.printLine
            (if verbose then
              name ++ (if wasHashed then " is a tracked alias for " else " is ").toList ++ path
            else path)
          return 0
      | .missing _ => notFound
where
  /-- Says that nothing was found. -/
  notFound : Act Nat := do
    if verbose then Act.printLine (name ++ ": not found".toList)
    return 127

end Lookup

end LineScript.Programs.Shell
