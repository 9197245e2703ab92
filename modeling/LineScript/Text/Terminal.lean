import LineScript.Text.Utf8

/-!
# Text for a terminal and for a file

A text may hold sequences that steer a terminal: they begin with the escape character and end where
their kind says. What is shown where there is no terminal is the text without these sequences and
without the other control characters, white space aside.
-/

namespace LineScript.Text.Terminal

set_option autoImplicit false

/-- Where a reader of terminal sequences stands: outside of any, just after the escape character, in
a sequence of parameters that a letter ends, in the head of a device string, or in a string that a
mark of its own ends. -/
inductive Position where
  | outside
  | escape
  | escapeIntermediate
  | controlEntry
  | controlParameter
  | controlIntermediate
  | controlIgnored
  | deviceEntry
  | deviceParameter
  | deviceIntermediate
  | deviceIgnored
  | deviceString
  | plainString
  | titledString
  deriving DecidableEq, Repr

def isSpace (c : Char) : Bool := c == '\t' || c == '\n' || c == '\x0C' || c == '\r'

def within (low high code : Nat) : Bool := low ≤ code && code ≤ high

namespace Position

/-- Whether control characters are passed to the terminal at a position; inside strings they belong to
the string. -/
def executes : Position → Bool
  | .deviceEntry | .deviceParameter | .deviceIntermediate | .deviceIgnored | .deviceString
  | .plainString | .titledString => false
  | _ => true

def afterEscape (code : Nat) : Position :=
  if within 0x20 0x2F code then .escapeIntermediate
  else if code = 0x5B then .controlEntry
  else if code = 0x5D then .titledString
  else if code = 0x50 then .deviceEntry
  else if code = 0x58 ∨ code = 0x5E ∨ code = 0x5F then .plainString
  else if within 0x30 0x7E code then .outside
  else .escape

def next (position : Position) (code : Nat) : Position :=
  if code = 0x18 ∨ code = 0x1A then .outside
  else if code = 0x1B then .escape
  else
    match position with
    | .outside => .outside
    | .escape => afterEscape code
    | .escapeIntermediate => if within 0x30 0x7E code then .outside else .escapeIntermediate
    | .controlEntry =>
      if within 0x20 0x2F code then .controlIntermediate
      else if within 0x30 0x3F code then .controlParameter
      else if within 0x40 0x7E code then .outside
      else .controlEntry
    | .controlParameter =>
      if within 0x3C 0x3F code then .controlIgnored
      else if within 0x20 0x2F code then .controlIntermediate
      else if within 0x40 0x7E code then .outside
      else .controlParameter
    | .controlIntermediate =>
      if within 0x30 0x3F code then .controlIgnored
      else if within 0x40 0x7E code then .outside
      else .controlIntermediate
    | .controlIgnored => if within 0x40 0x7E code then .outside else .controlIgnored
    | .deviceEntry =>
      if within 0x20 0x2F code then .deviceIntermediate
      else if within 0x30 0x3F code then .deviceParameter
      else if within 0x40 0x7E code then .deviceString
      else .deviceEntry
    | .deviceParameter =>
      if within 0x3C 0x3F code then .deviceIgnored
      else if within 0x20 0x2F code then .deviceIntermediate
      else if within 0x40 0x7E code then .deviceString
      else .deviceParameter
    | .deviceIntermediate =>
      if within 0x30 0x3F code then .deviceIgnored
      else if within 0x40 0x7E code then .deviceString
      else .deviceIntermediate
    | .deviceIgnored => .deviceIgnored
    | .deviceString => .deviceString
    | .plainString => .plainString
    | .titledString => if code = 0x07 then .outside else .titledString

/-- The position that a character beyond ASCII leads to. Its bytes mean nothing but for one, which ends
a string. -/
def nextBeyond (position : Position) (c : Char) : Position :=
  match position with
  | .deviceIgnored | .deviceString | .plainString =>
    if (Utf8.encodeChar c).contains 0x9C then .outside else position
  | _ => position

end Position

def isShown (position : Position) (c : Char) : Bool :=
  if c.toNat < 0x20 then position.executes && isSpace c
  else position == .outside && c.toNat != 0x7F

/-- What is shown of a text that is read from a position. White space inside a sequence is shown and
makes what follows it shown too, up to the next character that is not; the sequence then goes on.
`showing` tells whether that is the case. -/
def shownFrom (showing : Bool) (position : Position) : Text → Text
  | [] => []
  | c :: rest =>
    if showing && isShown .outside c then
      c :: shownFrom true (if c.toNat < 0x80 then position else .outside) rest
    else if isShown position c then c :: shownFrom true position rest
    else
      shownFrom false
        (if c.toNat < 0x80 then position.next c.toNat else position.nextBeyond c) rest

def shown (text : Text) : Text := shownFrom false .outside text

end LineScript.Text.Terminal
