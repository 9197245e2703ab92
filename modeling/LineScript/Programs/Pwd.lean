import LineScript.Programs.Options

/-!
# Pwd

Writes the path of the working directory: the one without links, or with `-L` the one that the
environment holds, if that is a proper one.
-/

namespace LineScript.Programs.Pwd

set_option autoImplicit false

def rules : List (Options.Rule Bool) :=
  [⟨some 'L', ["logical"], .none, true⟩, ⟨some 'P', ["physical"], .none, false⟩]

/-- Whether a path is an absolute one of the working directory without steps that stay or go up. -/
def isProper (files : FileSystem) (path : Text) : Bool :=
  Path.isAbsolute path && !(Path.parts path).any (fun part => part == ['.'] || part == ['.', '.']) &&
    match files.status (Octets.text path) with
    | .ok (location, _) => location == files.workingDirectory
    | .error _ => false

def program : Program :=
  Options.withRules rules 1 fun options => do
    let physical := Octets.ofText (← Running.ask (·.workingDirectory.toPath))
    let remembered := ((← read).environment.get? "PWD".toList).getD []
    let logical := (options.options.getLast?.map (·.1)).getD false
    if !options.operands.isEmpty then Running.complain ["ignoring non-option arguments".toList]
    let path ←
      if logical && (← Running.ask (isProper · remembered)) then pure remembered else pure physical
    Running.printLine path
    Running.finish 1 (.exited 0)

end LineScript.Programs.Pwd
