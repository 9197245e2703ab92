import LineScript.FileSystem.Basic

/-!
# Looking up paths

A lookup follows a route component by component. A link on the way is followed, up to forty in one
lookup; whether a link in the last place is followed depends on the request, except that a slash at
the end always asks for the directory behind it. The outcome is an entry, or a free name in an
existing directory.
-/

namespace LineScript

set_option autoImplicit false

def linkLimit : Nat := 40

/-- What a lookup is for. A stepwise lookup asks the host about every entry on the way by a path of its
own, so the limit on paths holds for each of these and not for the whole. -/
structure Request where
  followsLast : Bool
  creates : Bool
  stepwise : Bool

namespace Request

def linkItself : Request := ⟨false, false, false⟩

def destination : Request := ⟨true, false, false⟩

def canonical : Request := ⟨true, false, true⟩

def fileToWrite : Request := ⟨true, true, false⟩

end Request

inductive Arrival where
  | present (location : Location) (node : Node)
  | vacant (directory : Location) (name : Name)

/-- Whether what stands before some components is asked to be a directory by a path of its own. -/
def asksForDirectory (slash : Bool) : List Component → Bool
  | [] => slash
  | .here :: rest => rest.isEmpty || asksForDirectory slash rest
  | .up :: _ => true
  | .entry _ :: _ => false

/-- Whether the path by which a stepwise lookup asks about an entry is beyond the limit. It has three
characters more where it asks for a directory. -/
def stepTooLong (location : Location) (slash : Bool) (rest : List Component) : Bool :=
  Path.sizeLimit ≤
    Utf8.size location.toPath + if asksForDirectory slash rest then 3 else 0

namespace FileSystem

/-- Follows components from a directory. `slash` says that what is found has to be a directory; a
request that creates cannot be met there. -/
def follow (files : FileSystem) (request : Request) (links : Nat) (slash : Bool)
    (directory : Location) : List Component → Except HostError Arrival
  | [] => .ok (.present directory .directory)
  | .here :: rest => files.follow request links slash directory rest
  | .up :: rest => files.follow request links slash directory.dropLast rest
  | .entry name :: rest =>
    let location := directory ++ [name]
    if rest.isEmpty && slash && request.creates then .error .isDirectory
    else if name.isTooLong || request.stepwise && stepTooLong location slash rest then
      .error .nameTooLong
    else
      match files.get? location with
      | none =>
        if rest.isEmpty && files.get? directory == some .directory then
          .ok (.vacant directory name)
        else .error .noSuchEntry
      | some .directory => files.follow request links slash location rest
      | some (.link target) =>
        if rest.isEmpty && !slash && !request.followsLast then
          .ok (.present location (.link target))
        else if target.isEmpty then .error .noSuchEntry
        else
          match links with
          | 0 => .error .linkLoop
          | links + 1 =>
            let route := Route.ofPath target
            files.follow request links (slash || rest.isEmpty && route.endsInSlash)
              (if route.fromRoot then [] else directory) (route.components ++ rest)
      | some node =>
        if rest.isEmpty && !slash then .ok (.present location node) else .error .notDirectory
termination_by components => (links, components.length)

def startOf (files : FileSystem) (route : Route) : Location :=
  if route.fromRoot then [] else files.workingDirectory

def refusal? (path : Path) : Option HostError :=
  if '\x00' ∈ path then some .nulInPath
  else if path.isEmpty then some .noSuchEntry
  else if Path.sizeLimit ≤ Utf8.size path then some .nameTooLong
  else none

def locate (files : FileSystem) (request : Request) (path : Path) : Except HostError Arrival :=
  match refusal? path with
  | some error => .error error
  | none =>
    let route := Route.ofPath path
    files.follow request linkLimit route.endsInSlash (files.startOf route) route.components

def locateCanonical (files : FileSystem) (path : Path) : Except HostError Location :=
  match refusal? path with
  | some .nameTooLong | none =>
    let route := Route.ofPath path
    match files.follow .canonical linkLimit route.endsInSlash (files.startOf route)
        route.components with
    | .error error => .error error
    | .ok (.present location _) => .ok location
    | .ok (.vacant _ _) => .error .noSuchEntry
  | some error => .error error

def locateEntry (files : FileSystem) (request : Request) (path : Path) :
    Except HostError (Location × Node) :=
  match files.locate request path with
  | .error error => .error error
  | .ok (.present location node) => .ok (location, node)
  | .ok (.vacant _ _) => .error .noSuchEntry

/-- The last step of a path, which the operations on directory entries look at by itself. -/
inductive LastStep where
  | root
  | here
  | up
  | entry (name : Name) (slash : Bool)

def locateParent (files : FileSystem) (path : Path) : Except HostError (Location × LastStep) :=
  match refusal? path with
  | some error => .error error
  | none =>
    let route := Route.ofPath path
    match files.follow .destination linkLimit true (files.startOf route)
        route.components.dropLast with
    | .error error => .error error
    | .ok (.vacant _ _) => .error .noSuchEntry
    | .ok (.present directory _) =>
      match route.components.getLast? with
      | none => .ok (directory, .root)
      | some .here => .ok (directory, .here)
      | some .up => .ok (directory, .up)
      | some (.entry name) =>
        if name.isTooLong then .error .nameTooLong
        else .ok (directory, .entry name route.endsInSlash)

end FileSystem

end LineScript
