import LineScript.FileSystem.Lookup

/-!
# Requests to the file system

The primitive requests that operations are made of. A question leaves the file system alone; a change
either happens as a whole or not at all, except that removing a tree may stop after the tree has been
emptied.
-/

namespace LineScript.FileSystem

set_option autoImplicit false

/-- What stands at a path; a link in the last place is reported as such. -/
def linkStatus (files : FileSystem) (path : Path) : Except HostError (Location × Node) :=
  files.locateEntry .linkItself path

def status (files : FileSystem) (path : Path) : Except HostError (Location × Node) :=
  files.locateEntry .destination path

def isDirectory (files : FileSystem) (path : Path) : Bool :=
  match files.status path with
  | .ok (_, .directory) => true
  | _ => false

/-- The path of the same entry that goes through no link, dot or empty part. -/
def canonical (files : FileSystem) (path : Path) : Except HostError Path :=
  (files.locateCanonical path).map Location.toPath

/-- The bytes that a reader is given. The device `null` gives none, and `full` gives zeros without end,
for which no memory suffices. -/
def contentOf (files : FileSystem) (path : Path) : Except HostError (List UInt8) :=
  match files.status path with
  | .error error => .error error
  | .ok (_, .file content _) => .ok content
  | .ok (_, .directory) => .error .isDirectory
  | .ok (_, .device .null) => .ok []
  | .ok (_, .device .full) => .error .outOfMemory
  | .ok (_, .link _) => .error .linkLoop

def textOf (files : FileSystem) (path : Path) : Except HostError Text :=
  match files.contentOf path with
  | .error error => .error error
  | .ok content =>
    match Utf8.decode? content with
    | some text => .ok text
    | none => .error .notUtf8

def list (files : FileSystem) (path : Path) : Except HostError (List (Name × Node)) :=
  match files.status path with
  | .error error => .error error
  | .ok (location, .directory) => .ok (files.children location)
  | .ok _ => .error .notDirectory

/-- The file that a path leads to after a write: `update` gives its new content and permission bits
from the old ones, or from `none` when the file is new. -/
def store (files : FileSystem) (path : Path) (written : List UInt8)
    (update : Option (List UInt8 × Mode) → List UInt8 × Mode) : Except HostError FileSystem :=
  match files.locate .fileToWrite path with
  | .error error => .error error
  | .ok (.vacant directory name) =>
    let (content, mode) := update none
    .ok (files.insert (directory ++ [name]) (.file content mode))
  | .ok (.present location (.file content mode)) =>
    let (content, mode) := update (some (content, mode))
    .ok (files.insert location (.file content mode))
  | .ok (.present _ .directory) => .error .isDirectory
  | .ok (.present _ (.device .null)) => .ok files
  | .ok (.present _ (.device .full)) => if written.isEmpty then .ok files else .error .noSpace
  | .ok (.present _ (.link _)) => .error .linkLoop

/-- Makes the content of a file exactly `content`. A file that exists keeps its permission bits. -/
def write (files : FileSystem) (path : Path) (content : List UInt8) :
    Except HostError FileSystem :=
  files.store path content fun old => (content, (old.map (·.2)).getD .created)

def append (files : FileSystem) (path : Path) (content : List UInt8) :
    Except HostError FileSystem :=
  files.store path content fun old =>
    (((old.map (·.1)).getD []) ++ content, (old.map (·.2)).getD .created)

/-- Opens a file for writing, which makes it empty. -/
def create (files : FileSystem) (path : Path) : Except HostError FileSystem := files.write path []

/-- Copies content and permission bits of the regular file that `source` leads to. -/
def copyFile (files : FileSystem) (source destination : Path) : Except HostError FileSystem :=
  match files.status source with
  | .error error => .error error
  | .ok (_, .file content mode) => files.store destination content fun _ => (content, mode)
  | .ok _ => .error .notRegularFile

def makeDirectory (files : FileSystem) (path : Path) : Except HostError FileSystem :=
  match files.locateParent path with
  | .error error => .error error
  | .ok (directory, .entry name _) =>
    match files.get? (directory ++ [name]) with
    | some _ => .error .alreadyExists
    | none =>
      if files.get? directory = some .directory then
        .ok (files.insert (directory ++ [name]) .directory)
      else .error .noSuchEntry
  | .ok _ => .error .alreadyExists

def makeLink (files : FileSystem) (path target : Path) : Except HostError FileSystem :=
  match files.locateParent path with
  | .error error => .error error
  | .ok (directory, .entry name slash) =>
    match files.get? (directory ++ [name]) with
    | some _ => .error .alreadyExists
    | none =>
      if slash || files.get? directory ≠ some .directory then .error .noSuchEntry
      else .ok (files.insert (directory ++ [name]) (.link target))
  | .ok _ => .error .alreadyExists

def removeFile (files : FileSystem) (path : Path) : Except HostError FileSystem :=
  match files.locateParent path with
  | .error error => .error error
  | .ok (directory, .entry name slash) =>
    match files.get? (directory ++ [name]) with
    | none => .error .noSuchEntry
    | some .directory => .error .isDirectory
    | some _ =>
      if slash then .error .notDirectory else .ok (files.erase (directory ++ [name]))
  | .ok _ => .error .isDirectory

def removeDirectory (files : FileSystem) (path : Path) : Except HostError FileSystem :=
  match files.locateParent path with
  | .error error => .error error
  | .ok (directory, .entry name _) =>
    match files.get? (directory ++ [name]) with
    | none => .error .noSuchEntry
    | some .directory =>
      if (files.children (directory ++ [name])).isEmpty then
        .ok (files.erase (directory ++ [name]))
      else .error .notEmpty
    | some _ => .error .notDirectory
  | .ok (_, .here) => .error .invalidArgument
  | .ok (_, .up) => .error .notEmpty
  | .ok (_, .root) => .error .busy

/-- Removes a directory with all that is below it. A directory that its own path no longer reaches
once it is empty counts as removed. -/
def removeTree (files : FileSystem) (path : Path) : Except HostError Unit × FileSystem :=
  match files.linkStatus path with
  | .error error => (.error error, files)
  | .ok (location, .directory) =>
    let emptied := files.eraseBelow location
    match emptied.removeDirectory path with
    | .ok removed => (.ok (), removed)
    | .error .noSuchEntry => (.ok (), emptied)
    | .error error => (.error error, emptied)
  | .ok _ => (.error .notDirectory, files)

def replacement (files : FileSystem) (movesDirectory : Bool) (location : Location) :
    Except HostError Unit :=
  match files.get? location with
  | none => .ok ()
  | some .directory =>
    if movesDirectory then
      if (files.children location).isEmpty then .ok () else .error .notEmpty
    else .error .isDirectory
  | some _ => if movesDirectory then .error .notDirectory else .ok ()

/-- Moves what stands at `source` to `destination`, links not followed. -/
def rename (files : FileSystem) (source destination : Path) : Except HostError FileSystem :=
  match files.locateParent source, files.locateParent destination with
  | .error error, _ => .error error
  | _, .error error => .error error
  | .ok (oldDirectory, .entry oldName oldSlash), .ok (newDirectory, .entry newName newSlash) =>
    let old := oldDirectory ++ [oldName]
    let new := newDirectory ++ [newName]
    match files.get? old with
    | none => .error .noSuchEntry
    | some node =>
      let movesDirectory := node == .directory
      if !movesDirectory && (oldSlash || newSlash) then .error .notDirectory
      else if files.get? newDirectory != some .directory then .error .noSuchEntry
      else if movesDirectory && (old.below? newDirectory).isSome then .error .invalidArgument
      else if (new.below? oldDirectory).isSome then .error .notEmpty
      else if old = new then .ok files
      else
        match files.replacement movesDirectory new with
        | .error error => .error error
        | .ok () => .ok ((files.erase new).relocate old new)
  | _, _ => .error .busy

end LineScript.FileSystem
