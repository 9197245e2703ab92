import LineScript.Application
import LineScript.FileSystem.Changes
import LineScript.Programs.Standard

/-!
# Command line

The files at and below the working directory are taken into memory, the program is run on them, and
what it has changed is written back. A file that begins with the mark of an interpreter counts as
executable, since its permission bits cannot be asked for; a link is taken as one to the path it leads
to in the end, and no link is written back.
-/

namespace LineScript.CommandLine

set_option autoImplicit false

def modeOf (content : List UInt8) : Mode :=
  if [0x23, 0x21].isPrefixOf content then .program else .created

/-- What stands at an entry of the disk, directories aside. -/
def nodeOf? (entry : IO.FS.DirEntry) : IO (Option Node) := do
  match (← entry.path.symlinkMetadata).type with
  | .symlink =>
    try return some (.link (toString (← IO.FS.realPath entry.path)).toList)
    catch _ => return none
  | .file =>
    let content := (← IO.FS.readBinFile entry.path).toList
    return some (.file content (modeOf content))
  | .dir => return some .directory
  | .other => return none

/-- Takes entries of the disk, and what is below them, into memory. -/
partial def load (files : FileSystem) (location : Location) (entries : List IO.FS.DirEntry) :
    IO FileSystem := do
  match entries with
  | [] => return files
  | entry :: rest =>
    match Name.ofText? entry.fileName.toList, ← nodeOf? entry with
    | some name, some .directory =>
      let below := location ++ [name]
      let files ← load (files.insert below .directory) below (← entry.path.readDir).toList
      load files location rest
    | some name, some node => load (files.insert (location ++ [name]) node) location rest
    | _, _ => load files location rest

/-- The standard files together with those of the working directory. -/
def currentFiles : IO FileSystem := do
  let directory ← IO.currentDir
  let location := (Path.parts (toString directory).toList).filterMap Name.ofText?
  let files := Programs.standardFiles.withDirectories [] location
  let files ← load files location (← directory.readDir).toList
  return { files with workingDirectory := location }

def byteArray (bytes : List UInt8) : ByteArray := ⟨bytes.toArray⟩

def carryOut (change : Change) : IO Unit := do
  let path (location : Location) : String := Text.toString location.toPath
  match change with
  | .remove location .directory => IO.FS.removeDir (path location)
  | .remove location _ => IO.FS.removeFile (path location)
  | .put location .directory => IO.FS.createDir (path location)
  | .put location (.file content mode) =>
    IO.FS.writeBinFile (path location) (byteArray content)
    if mode.isExecutable then
      let reader : IO.AccessRight := ⟨true, false, true⟩
      IO.setAccessRights (path location) ⟨⟨true, true, true⟩, reader, reader⟩
  | .put _ _ => pure ()

def run (arguments : List String) : IO UInt32 := do
  let home := (← IO.getEnv "HOME").map String.toList
  let before ← currentFiles
  let programs := Programs.standard (Programs.environmentFor home)
  let report := Application.run programs (arguments.map String.toList) home before
  (before.changes report.files).forM carryOut
  (← IO.getStdout).write (byteArray report.output)
  (← IO.getStderr).write (byteArray report.errors)
  return UInt32.ofNat report.code

end LineScript.CommandLine

def main (arguments : List String) : IO UInt32 := LineScript.CommandLine.run arguments
