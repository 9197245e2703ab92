import LineScript.Text.Lines

/-!
# Excerpts of a script

An excerpt shows a line of a script with up to three lines on either side of it. Each is written with
its number, and the line in question is marked.
-/

namespace LineScript.Script

set_option autoImplicit false

def excerptRadius : Nat := 3

def numberedLines (source : Text) : List (Text × Nat) := (Text.lines source).zipIdx 1

/-- One line of an excerpt: the mark, the number in at least four columns and the line itself. -/
def excerptEntry (marked : Nat) (text : Text) (number : Nat) : Text :=
  (if number = marked then '>' else ' ') ::
    Text.padLeft 4 (Text.decimal number) ++ [':', ' '] ++ text

def excerpt (source : Text) (line : Nat) : Text :=
  let first := max (line - excerptRadius) 1
  let last := line + excerptRadius
  let shown := (numberedLines source).filter fun (_, number) => first ≤ number && number ≤ last
  Text.join ['\n'] (shown.map fun (text, number) => excerptEntry line text number)

end LineScript.Script
