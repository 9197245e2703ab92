import LineScript.Text.Basic

/-!
# Errors of the host

Why the file system or the start of a process refuses a request. Most of these have a number, which
their wording shows; the last five are refusals made before the host is asked, or about the data it
returned.
-/

namespace LineScript

set_option autoImplicit false

/-- A refusal by the host. -/
inductive HostError where
  | noSuchEntry
  | argumentsTooLong
  | notExecutableFormat
  | badDescriptor
  | accessDenied
  | busy
  | alreadyExists
  | notDirectory
  | isDirectory
  | invalidArgument
  | noSpace
  | nameTooLong
  | notEmpty
  | linkLoop
  | nulInPath
  | nulInArgument
  | notUtf8
  | notRegularFile
  | outOfMemory
  deriving DecidableEq, Repr

namespace HostError

def number? : HostError → Option Nat
  | .noSuchEntry => some 2
  | .argumentsTooLong => some 7
  | .notExecutableFormat => some 8
  | .badDescriptor => some 9
  | .accessDenied => some 13
  | .busy => some 16
  | .alreadyExists => some 17
  | .notDirectory => some 20
  | .isDirectory => some 21
  | .invalidArgument => some 22
  | .noSpace => some 28
  | .nameTooLong => some 36
  | .notEmpty => some 39
  | .linkLoop => some 40
  | .nulInPath | .nulInArgument | .notUtf8 | .notRegularFile | .outOfMemory => none

def description : HostError → Text
  | .noSuchEntry => "No such file or directory".toList
  | .argumentsTooLong => "Argument list too long".toList
  | .notExecutableFormat => "Exec format error".toList
  | .badDescriptor => "Bad file descriptor".toList
  | .accessDenied => "Permission denied".toList
  | .busy => "Device or resource busy".toList
  | .alreadyExists => "File exists".toList
  | .notDirectory => "Not a directory".toList
  | .isDirectory => "Is a directory".toList
  | .invalidArgument => "Invalid argument".toList
  | .noSpace => "No space left on device".toList
  | .nameTooLong => "File name too long".toList
  | .notEmpty => "Directory not empty".toList
  | .linkLoop => "Too many levels of symbolic links".toList
  | .nulInPath => "file name contained an unexpected NUL byte".toList
  | .nulInArgument => "nul byte found in provided data".toList
  | .notUtf8 => "stream did not contain valid UTF-8".toList
  | .notRegularFile =>
    "the source path is neither a regular file nor a symlink to a regular file".toList
  | .outOfMemory => "out of memory".toList

def message (error : HostError) : Text :=
  match error.number? with
  | some number =>
    error.description ++ " (os error ".toList ++ Text.decimal number ++ ")".toList
  | none => error.description

end HostError

end LineScript
