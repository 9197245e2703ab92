import LineScript.Programs.Escape
import LineScript.Programs.Running

/-!
# Echo

Writes its arguments with blanks between them. As a program of its own it takes clusters of the
options `n`, `e` and `E` and reads escapes only on demand; as a part of the shell it takes one `-n`
and always reads escapes.
-/

namespace LineScript.Programs.Echo

set_option autoImplicit false

structure Manner where
  readsEscapes : Bool
  endsLine : Bool

def Manner.withLetter (manner : Manner) : Char → Manner
  | 'n' => { manner with endsLine := false }
  | 'e' => { manner with readsEscapes := true }
  | _ => { manner with readsEscapes := false }

def takeOptions (manner : Manner) : List Text → Manner × List Text
  | ('-' :: c :: letters) :: rest =>
    if (c :: letters).all (['n', 'e', 'E'].contains ·) then
      takeOptions ((c :: letters).foldl Manner.withLetter manner) rest
    else (manner, ('-' :: c :: letters) :: rest)
  | arguments => (manner, arguments)

def octets (escapes : Escapes) (manner : Manner) (arguments : List Text) : Text :=
  let text := Text.join [' '] arguments
  let lineEnd := if manner.endsLine then ['\n'] else []
  if manner.readsEscapes then
    match escapes.expand text with
    | (octets, true) => octets
    | (octets, false) => octets ++ lineEnd
  else text ++ lineEnd

def standalone (arguments : List Text) : Text :=
  let (manner, arguments) := takeOptions ⟨false, true⟩ arguments
  octets .extended manner arguments

def inShell : List Text → Text
  | ['-', 'n'] :: arguments => octets .basic ⟨true, false⟩ arguments
  | arguments => octets .basic ⟨true, true⟩ arguments

def program : Program := do
  Running.print (standalone (← read).arguments)
  Running.finish 1 (.exited 0)

end LineScript.Programs.Echo
