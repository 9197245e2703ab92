import LineScript.Programs.Octets

/-!
# Quoting names in messages

Messages of the standard programs put what the user wrote between single quotes, with octets outside
printable ASCII as escapes. Names of files are quoted in a way that a shell undoes, in some messages
only when the shell would not read the name as one plain word.
-/

namespace LineScript.Programs.Quoting

set_option autoImplicit false

def isPrintable (c : Char) : Bool := ' ' ≤ c && c ≤ '~'

/-- An octet as a backslash and three octal digits, or as the letter that stands for it. -/
def escaped (octet : Char) : Text :=
  let code := octet.toNat
  match "abtnvfr".toList[code - 7]? with
  | some letter => if 7 ≤ code then ['\\', letter] else octal code
  | none => octal code
where
  /-- A backslash and three octal digits. -/
  octal (code : Nat) : Text :=
    '\\' :: [code / 64, code / 8 % 8, code % 8].flatMap fun digit => Nat.toDigits 8 digit

def quoted (text : Text) : Text :=
  let inner := text.flatMap fun c =>
    if c = '\'' || c = '\\' then ['\\', c] else if isPrintable c then [c] else escaped c
  '\'' :: inner ++ ['\'']

/-- Whether a name may stand between double quotes as it is. A mark that begins a comment or a home
directory may be only its first character. -/
def servesDoubleQuotes (name : Text) : Bool :=
  name.tail.all isHarmless && name.head?.all fun c => isHarmless c || c == '#' || c == '~'
where
  /-- The characters that are the same between either kind of quotes. -/
  isHarmless (c : Char) : Bool := c.isAlphanum || "%+,-./:@]_ '".toList.contains c

/-- The inside of a name between quotes that a shell undoes. Escapes stand between quotes of their own
kind; `inEscapes` tells whether such quotes are open. -/
def shellInside (inEscapes : Bool) : Text → Text
  | [] => []
  | c :: rest =>
    if !isPrintable c then
      (if inEscapes then [] else "'$'".toList) ++ escaped c ++ shellInside true rest
    else if c = '\'' then "'\\''".toList ++ shellInside false rest
    else (if inEscapes then "''".toList else []) ++ c :: shellInside false rest

/-- A name between quotes that a shell undoes. Double quotes serve if there is a single quote to
protect and nothing else. A name with a single quote whose end is escaped begins as if escapes were
open, which costs two quotes more or saves the opening ones; a shell reads the former alike. -/
def quotedName (name : Text) : Text :=
  if name.contains '\'' then
    if servesDoubleQuotes name then '"' :: name ++ ['"']
    else '\'' :: shellInside (name.getLast?.any (!isPrintable ·)) name ++ ['\'']
  else '\'' :: shellInside false name ++ ['\'']

def meaningful : Text := " !\"$&'()*;<=>?[\\^`|".toList

def isPlain (name : Text) : Bool :=
  !name.isEmpty && name.all (fun c => isPrintable c && !meaningful.contains c) &&
    name.head? != some '#' && name.head? != some '~' && name != ['{'] && name != ['}']

/-- A name as it is when it is plain and free of some marks, else between quotes. -/
def quotedUnlessFree (marks name : Text) : Text :=
  if isPlain name && !name.any (marks.contains ·) then name else quotedName name

def quotedIfNeeded (name : Text) : Text := quotedUnlessFree [] name

def quotedBeforeColon (name : Text) : Text := quotedUnlessFree [':'] name

/-- A name with a backslash before each backslash and before some marks, and escapes for what is not
printable. -/
def withEscapes (marks name : Text) : Text :=
  name.flatMap fun c =>
    if c = '\\' || marks.contains c then ['\\', c] else if isPrintable c then [c] else escaped c

end LineScript.Programs.Quoting
