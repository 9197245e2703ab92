import LineScript.Text.Basic

/-!
# Patterns of programs

Programs match texts of octets with `?` for one octet, `*` for any run, and bracket classes with single
octets, ranges and named classes, negated by a leading `!`. A backslash takes the next octet as it is. A
bracket that is not closed stands for itself. Octets beyond ASCII come before the others in ranges.

`answers` decides a match for all ends of a text at once, so that a run is not tried at each of them.
-/

namespace LineScript.Programs

set_option autoImplicit false

inductive ClassMember where
  | single (c : Char)
  | range (low high : Char)
  | named (name : String)
  deriving DecidableEq

inductive PatternPiece where
  | exactly (c : Char)
  | anyOne
  | anyRun
  | oneOf (negated : Bool) (members : List ClassMember)
  deriving DecidableEq

abbrev Pattern := List PatternPiece

namespace ClassMember

def isGraphic (c : Char) : Bool := '!' ≤ c && c ≤ '~'

def classes : List (String × (Char → Bool)) :=
  [("alnum", Char.isAlphanum), ("alpha", Char.isAlpha), ("blank", fun c => c == ' ' || c == '\t'),
    ("cntrl", fun c => c < ' ' || c == '\x7f'), ("digit", Char.isDigit), ("graph", isGraphic),
    ("lower", Char.isLower), ("print", fun c => isGraphic c || c == ' '),
    ("punct", fun c => isGraphic c && !c.isAlphanum),
    ("space", fun c => " \t\n\x0b\x0c\r".toList.contains c), ("upper", Char.isUpper),
    ("xdigit", fun c =>
      c.isDigit || 'a' ≤ c && c ≤ 'f' || 'A' ≤ c && c ≤ 'F')]

def rank (c : Char) : Int := if c.toNat < 0x80 then c.toNat else (c.toNat : Int) - 0x100

def accepts : ClassMember → Char → Bool
  | .single d, c => c == d
  | .range low high, c => rank low ≤ rank c && rank c ≤ rank high
  | .named name, c => ((classes.lookup name).map (· c)).getD false

/-- The named class at the start of a text that follows an opening bracket, with what follows it. -/
def named? (text : Text) : Option (ClassMember × Text) :=
  classes.findSome? fun (name, _) =>
    let written := (":" ++ name ++ ":]").toList
    if written.isPrefixOf text then some (.named name, text.drop written.length) else none

end ClassMember

namespace PatternPiece

def octet? : Text → Option (Char × Text)
  | [] | ['\\'] => none
  | '\\' :: c :: rest | c :: rest => some (c, rest)

def member? (text : Text) : Option (ClassMember × Text) :=
  let named? := match text with
    | '[' :: rest => ClassMember.named? rest
    | _ => none
  match named?, octet? text with
  | some found, _ => some found
  | none, none => none
  | none, some (low, '-' :: rest) =>
    if rest.head? == some ']' then some (.single low, '-' :: rest)
    else (octet? rest).map fun (high, rest) => (.range low high, rest)
  | none, some (c, rest) => some (.single c, rest)

/-- The members of a class up to its closing bracket, with what follows that. The first member may be
such a bracket. -/
def members? : (steps : Nat) → (isFirst : Bool) → Text → Option (List ClassMember × Text)
  | 0, _, _ => none
  | steps + 1, isFirst, text =>
    if !isFirst && text.head? == some ']' then some ([], text.tail)
    else
      match member? text with
      | none => none
      | some (found, rest) =>
        (members? steps false rest).map fun (others, rest) => (found :: others, rest)

/-- The class at the start of a text that follows an opening bracket, with what follows it. -/
def class? (text : Text) : Option (PatternPiece × Text) :=
  match text with
  | '!' :: rest => (members? rest.length true rest).map fun (found, rest) => (.oneOf true found, rest)
  | _ => (members? text.length true text).map fun (found, rest) => (.oneOf false found, rest)

def accepts : PatternPiece → Char → Bool
  | .exactly d, c => c == d
  | .anyOne, _ => true
  | .anyRun, _ => false
  | .oneOf negated members, c => members.any (·.accepts c) != negated

end PatternPiece

namespace Pattern

def read : (steps : Nat) → Text → Pattern
  | 0, _ | _, [] => []
  | steps + 1, c :: rest =>
    match c, rest with
    | '\\', d :: rest => .exactly d :: read steps rest
    | '?', _ => .anyOne :: read steps rest
    | '*', _ => .anyRun :: read steps rest
    | '[', _ =>
      match PatternPiece.class? rest with
      | some (piece, rest) => piece :: read steps rest
      | none => .exactly '[' :: read steps rest
    | _, _ => .exactly c :: read steps rest

def ofText (text : Text) : Pattern := read text.length text

/-- The answers for a text and its ends, the longest first, when `later` holds the answers for what
follows an element that stands for one octet. -/
def singleAnswers (piece : PatternPiece) : Text → List Bool → List Bool
  | c :: rest, _ :: later =>
    (piece.accepts c && later.headD false) :: singleAnswers piece rest later
  | _, _ => [false]

def runAnswers : List Bool → List Bool
  | [] => []
  | now :: later =>
    let behind := runAnswers later
    (now || behind.headD false) :: behind

def answers : Pattern → Text → List Bool
  | [], text => text.foldr (fun _ later => false :: later) [true]
  | .anyRun :: others, text => runAnswers (answers others text)
  | piece :: others, text => singleAnswers piece text (answers others text)

/-- Whether a pattern matches a whole text, decided in a time that grows with the size of both. -/
def accepts (pattern : Pattern) (text : Text) : Bool := (answers pattern text).headD false

end Pattern

end LineScript.Programs
