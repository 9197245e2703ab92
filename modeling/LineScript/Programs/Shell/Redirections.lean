import LineScript.Programs.Shell.Expansion

/-!
# Redirections

Where the descriptors of a command lead. The words of all its redirections are replaced first; then one
after the other is carried out, up to the first that fails. The descriptors are restored afterwards.
-/

namespace LineScript.Programs.Shell.Redirections

set_option autoImplicit false

/-- A redirection whose word was replaced. A copy without a source closes the descriptor. -/
inductive Request where
  | file (descriptor : Nat) (target : Target) (path : Text)
  | copy (descriptor : Nat) (source? : Option Nat)
  | document (descriptor : Nat) (number : Nat)

def Request.descriptor : Request → Nat
  | .file descriptor _ _ | .copy descriptor _ | .document descriptor _ => descriptor

def refusal (creates : Bool) (error : HostError) : Text :=
  if error = .noSuchEntry || error = .notDirectory then
    (if creates then "Directory nonexistent" else "No such file").toList
  else error.description

def refuse {α : Type} (creates : Bool) (path : Text) (error : HostError) : Act α :=
  Act.fail
    [(if creates then "cannot create " else "cannot open ").toList ++ path, refusal creates error]

def wishedMode : Mode := 0o666

/-- Opens a file in a way; the answer is the number of its channel. The paths of descriptors lead to where
those lead. -/
def openPath (opening : Opening) (creates : Bool) (path : Text) : Act Nat := do
  let state ← Act.state
  match descriptorOf? path with
  | some descriptor =>
    match state.descriptors.get? descriptor with
    | some number => return number
    | none => refuse creates path .noSuchEntry
  | none =>
    let mode := wishedMode &&& (0o777 ^^^ state.creationMask)
    match openFile (← Act.ask id) opening mode (Octets.text path) with
    | .error error => refuse creates path error
    | .ok (channel, files) =>
      modify fun world => { world with workspace := { world.workspace with files := files } }
      Act.addChannel channel

/-- Whether there is a regular file at a path, and whether there is anything at all. -/
def standing (files : FileSystem) (path : Text) : Bool × Bool :=
  match files.status (Octets.text path) with
  | .ok (_, .file _ _) => (true, true)
  | .ok _ => (false, true)
  | .error _ => (false, false)

def openTarget (target : Target) (path : Text) : Act Nat := do
  match target with
  | .reading => openPath .reading false path
  | .updating => openPath .updating true path
  | .appending => openPath .appending true path
  | .overwriting => openPath .writing true path
  | .creating =>
    if ← Act.hasFlag 'C' then
      match ← Act.ask (standing · path) with
      | (true, _) => refuse true path .alreadyExists
      | (false, true) => openPath .writing false path
      | (false, false) => openPath .writing true path
    else openPath .writing true path

section

variable (substitute : List Statement → Act Text)

def sourceOf (text : Text) : Act (Option Nat) := do
  match text with
  | ['-'] => return none
  | [c] => if c.isDigit then return some (c.toNat - '0'.toNat) else refuseSource
  | _ => refuseSource
where
  /-- Complains about a word that names no descriptor. -/
  refuseSource : Act (Option Nat) := do
    Act.change fun state => { state with line := state.sourceLine }
    Act.fail ["Syntax error".toList, "Bad fd number".toList]

def expand : Redirection → Act Request
  | .file descriptor target path => return .file descriptor target (← Expansion.textOf substitute path)
  | .copy descriptor source => do
    return .copy descriptor (← sourceOf (← Expansion.textOf substitute source))
  | .document descriptor number => return .document descriptor number

def lead (descriptor number : Nat) : Act Unit :=
  Act.change fun state => { state with descriptors := state.descriptors.insert descriptor number }

def perform : Request → Act Unit
  | .file descriptor target path => do lead descriptor (← openTarget target path)
  | .copy descriptor none =>
    Act.change fun state => { state with descriptors := state.descriptors.erase descriptor }
  | .copy descriptor (some source) => do
    if source ≠ descriptor then
      match (← Act.state).descriptors.get? source with
      | some number => lead descriptor number
      | none => Act.fail [Text.decimal source, HostError.badDescriptor.description]
  | .document descriptor number => do
    let word := ((← Act.state).documents.get? number).getD []
    let text ← Expansion.documentOf substitute word
    lead descriptor (← Act.addChannel (.source (Octets.bytes text)))

/-- Carries out redirections. An error is not passed on; the answer tells that there was one. -/
def performSafely (requests : List Request) : Act Bool := do
  match ← Act.attempt (requests.forM (perform substitute)) with
  | .ok () => return true
  | .error .failed => return false
  | .error interruption => throw interruption

end

def forgetUnused (first : Nat) : Act Unit :=
  modify fun world =>
    let isUsed (number : Nat) : Bool :=
      number < first || world.state.descriptors.any (·.2 == number)
    { world with
      workspace := { world.workspace with
        channels := world.workspace.channels.filter (isUsed ·.1) } }

def restore (before : Bindings Nat Nat) (descriptors : List Nat) : Act Unit :=
  Act.change fun state =>
    { state with
      descriptors :=
        descriptors.foldl
          (fun leads descriptor =>
            match before.get? descriptor with
            | some number => leads.insert descriptor number
            | none => leads.erase descriptor)
          state.descriptors }

/-- Does something, and restores the descriptors of redirections afterwards unless they are to be kept. -/
def hold {α : Type} (keeps : Bool) (requests : List Request) (step : Act α) : Act α := do
  if keeps || requests.isEmpty then step
  else
    let before := (← Act.state).descriptors
    let first := (← get).workspace.fresh
    Act.always step do
      restore before (requests.map Request.descriptor)
      forgetUnused first

end LineScript.Programs.Shell.Redirections
