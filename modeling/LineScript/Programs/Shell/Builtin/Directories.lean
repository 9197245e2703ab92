import LineScript.Programs.Shell.Builtin

/-!
# Commands on the working directory

`cd` and `pwd`. A shell remembers the path by which its working directory was reached; steps up are taken
in that path, unless the path without links is asked for.
-/

namespace LineScript.Programs.Shell.Directories

set_option autoImplicit false

/-- Whether links are to be followed at once. Each change of the letter changes the answer. -/
def isPhysical (options : List (Char × Text)) : Bool :=
  (options.foldl
    (fun (last, physical) (letter, _) =>
      if letter = last then (last, physical) else (letter, !physical))
    ('L', false)).2

def resolved (parts : List Text) : List Text :=
  (parts.foldl
    (fun before part =>
      if part.isEmpty || part = ['.'] then before
      else if part = ['.', '.'] then before.tail
      else part :: before)
    []).reverse

/-- A path from a directory without steps that stay or go up. Two slashes at the start stay two. -/
def normal (directory path : Text) : Text :=
  let whole := if Path.isAbsolute path then path else Path.join directory path
  let start :=
    match whole with
    | '/' :: '/' :: '/' :: _ => ['/']
    | '/' :: '/' :: _ => ['/', '/']
    | _ => ['/']
  start ++ Text.join ['/'] (resolved (Path.parts whole))

def remember (path : Text) : Act Unit := do
  Act.change fun state => { state with directory := path }
  Act.bindVariable "PWD".toList fun known? =>
    ⟨some path, true, known?.any (·.readonly)⟩

def physical : Act Text := Act.ask fun files => Octets.ofText files.workingDirectory.toPath

def goTo (physically : Bool) (path : Text) : Act Bool := do
  let before := (← Act.state).directory
  let target := if physically then path else normal before path
  match ← Act.ask (·.status (Octets.text target)) with
  | .ok (location, .directory) =>
    modify fun world =>
      { world with
        workspace := { world.workspace with
          files := { world.workspace.files with workingDirectory := location } } }
    Act.bindVariable "OLDPWD".toList fun known? =>
      ⟨some before, true, known?.any (·.readonly)⟩
    remember (← if physically then physical else pure target)
    Act.change fun state => { state with hashed := state.hashed.map fun (name, _) => (name, true) }
    return true
  | _ => return false

def beginsAtDot (path : Text) : Bool :=
  match Path.parts path with
  | first :: _ => first = ['.'] || first = ['.', '.']
  | [] => false

/-- The first directory along a search path in which a path leads to a directory, with whether the place
is worth telling. -/
def searched (files : FileSystem) (path : Text) (directories : Text) : Option (Text × Bool) :=
  (directories.splitOn ':').findSome? fun directory =>
    let candidate := if directory.isEmpty then path else directory ++ '/' :: path
    if files.isDirectory (Octets.text candidate) then some (candidate, !directory.isEmpty) else none

def cd (arguments : List Text) : Act Nat := do
  let (options, operands) ← Builtin.options "LP" "" arguments
  let (wanted, tells) ← match operands with
    | [] => pure ((← Act.valueOf? "HOME".toList).getD [], false)
    | ['-'] :: _ => pure ((← Act.valueOf? "OLDPWD".toList).getD [], true)
    | wanted :: _ => pure (wanted, false)
  let path := if wanted.isEmpty then ['.'] else wanted
  let found? ←
    if Path.isAbsolute path || beginsAtDot wanted then pure none
    else
      let directories := (← Act.valueOf? "CDPATH".toList).getD []
      Act.ask fun files => searched files path directories
  let (target, tells) := match found? with
    | some (target, isElsewhere) => (target, tells || isElsewhere)
    | none => (path, tells)
  if ← goTo (isPhysical options) target then
    if tells then Act.printLine (← Act.state).directory
    return 0
  else Act.fail ["can't cd to ".toList ++ path]

def pwd (arguments : List Text) : Act Nat := do
  let (options, _) ← Builtin.options "LP" "" arguments
  Act.printLine (← if isPhysical options then physical else pure (← Act.state).directory)
  return 0

end LineScript.Programs.Shell.Directories
