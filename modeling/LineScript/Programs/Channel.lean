import LineScript.FileSystem.Calls
import LineScript.Programs.Octets

/-!
# Channels

What the open descriptors of processes lead to: the reading end of a pipe with the bytes still in it,
the writing end of one with all that was written, a file with the place where it is read or written
next, a directory, or a device. Descriptors that lead to one channel share its place.
-/

namespace LineScript.Programs

set_option autoImplicit false

/-- What an open file may be used for. One that appends writes at the end of the file, wherever its
place is. -/
structure Access where
  reads : Bool
  writes : Bool
  appends : Bool
  deriving DecidableEq, Repr

/-- What an open descriptor leads to. The pieces written to a sink are kept with the latest first. -/
inductive Channel where
  | source (rest : List UInt8)
  | sink (written : List (List UInt8))
  | file (location : Location) (place : Nat) (access : Access)
  | directory (location : Location)
  | device (device : Device) (access : Access)

/-- How a file is opened. Writing makes it empty first; updating reads and writes it as it is. -/
inductive Opening where
  | reading
  | writing
  | appending
  | updating
  deriving DecidableEq, Repr

namespace Opening

def access : Opening → Access
  | .reading => ⟨true, false, false⟩
  | .writing => ⟨false, true, false⟩
  | .appending => ⟨false, true, true⟩
  | .updating => ⟨true, true, false⟩

end Opening

namespace Channel

def overwritten (content : List UInt8) (place : Nat) (bytes : List UInt8) : List UInt8 :=
  content.take place ++ List.replicate (place - content.length) 0 ++ bytes ++
    content.drop (place + bytes.length)

def contentAt (files : FileSystem) (location : Location) : List UInt8 :=
  match files.get? location with
  | some (.file content _) => content
  | _ => []

def collected : Channel → List UInt8
  | .sink written => written.reverse.flatten
  | _ => []

def write (files : FileSystem) (bytes : List UInt8) :
    Channel → Except HostError (Channel × FileSystem)
  | .sink written => .ok (.sink (bytes :: written), files)
  | .file location place access =>
    if !access.writes then .error .badDescriptor
    else
      match files.get? location with
      | some (.file content mode) =>
        let place := if access.appends then content.length else place
        let content := overwritten content place bytes
        .ok (.file location (place + bytes.length) access,
          files.insert location (.file content mode))
      | _ => .ok (.file location (place + bytes.length) access, files)
  | .device medium access =>
    if !access.writes then .error .badDescriptor
    else if medium = .full && !bytes.isEmpty then .error .noSpace
    else .ok (.device medium access, files)
  | .source _ | .directory _ => .error .badDescriptor

def readAll (files : FileSystem) : Channel → Except HostError (List UInt8 × Channel)
  | .source rest => .ok (rest, .source [])
  | .file location place access =>
    if !access.reads then .error .badDescriptor
    else
      let rest := (contentAt files location).drop place
      .ok (rest, .file location (place + rest.length) access)
  | .device medium access =>
    if access.reads then .ok ([], .device medium access) else .error .badDescriptor
  | .directory _ => .error .isDirectory
  | .sink _ => .error .badDescriptor

def firstLine (bytes : List UInt8) : List UInt8 :=
  let line := bytes.takeWhile (· != 10)
  bytes.take (line.length + 1)

def readLine (files : FileSystem) (channel : Channel) : Except HostError (List UInt8 × Channel) :=
  match channel with
  | .source rest =>
    let line := firstLine rest
    .ok (line, .source (rest.drop line.length))
  | .file location place access =>
    if !access.reads then .error .badDescriptor
    else
      let line := firstLine ((contentAt files location).drop place)
      .ok (line, .file location (place + line.length) access)
  | _ => channel.readAll files

end Channel

/-- Opens the file that a path leads to; one that is made gets the given permission bits. -/
def openFile (files : FileSystem) (opening : Opening) (mode : Mode) (path : Path) :
    Except HostError (Channel × FileSystem) :=
  match opening with
  | .reading =>
    match files.status path with
    | .error error => .error error
    | .ok (location, .directory) => .ok (.directory location, files)
    | .ok (location, .file _ _) => .ok (.file location 0 opening.access, files)
    | .ok (_, .device device) => .ok (.device device opening.access, files)
    | .ok (_, .link _) => .error .linkLoop
  | _ =>
    match files.locate .fileToWrite path with
    | .error error => .error error
    | .ok (.vacant directory name) =>
      let location := directory ++ [name]
      .ok (.file location 0 opening.access, files.insert location (.file [] mode))
    | .ok (.present location (.file content mode)) =>
      let content := if opening = .writing then [] else content
      .ok (.file location 0 opening.access, files.insert location (.file content mode))
    | .ok (.present _ .directory) => .error .isDirectory
    | .ok (.present _ (.device device)) => .ok (.device device opening.access, files)
    | .ok (.present _ (.link _)) => .error .linkLoop

end LineScript.Programs
