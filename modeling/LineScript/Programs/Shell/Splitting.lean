import LineScript.Programs.Shell.Statement

/-!
# Splitting into fields

What a word is replaced by is a row of items: characters with what protects them, places where something
is quoted, and values whose characters may separate fields. Blanks between fields belong together; any
other separator ends a field of its own. A word whose items are all gone, quotes included, has no field.
-/

namespace LineScript.Programs.Shell

set_option autoImplicit false

/-- What keeps a character from its meaning in a pattern: nothing, a backslash, or quotes. -/
inductive Shield where
  | none
  | backslash
  | quotes
  deriving DecidableEq

/-- An item of a replaced word: a character that stays together with its neighbours, one of a value that
may separate fields, a quote, the start of a value, and the place between two arguments. A rigid value is
separated only between arguments. -/
inductive Item where
  | fixed (octet : Char) (shield : Shield)
  | loose (octet : Char)
  | quote
  | value (rigid : Bool)
  | gap
  deriving DecidableEq

namespace Item

def isMeaningful (c : Char) : Bool :=
  "!*?[=~:/-]\\".toList.contains c || 0x81 ≤ c.toNat && c.toNat ≤ 0x88

def quoted (c : Char) : Item := .fixed c (if isMeaningful c then .quotes else .none)

def octets (items : List Item) : Text :=
  items.filterMap fun
    | .fixed c _ | .loose c => some c
    | .gap => some '\x00'
    | .quote | .value _ => none

/-- The pattern that items spell: what is protected stands behind a backslash. A backslash of a value
protects what follows it, unless that is protected already. -/
def patternText (afterBackslash : Bool) : List Item → Text
  | [] => []
  | .fixed c .none :: rest | .loose c :: rest =>
    c :: patternText (c == '\\' && !afterBackslash) rest
  | .fixed c .backslash :: rest =>
    if afterBackslash then c :: patternText false rest else '\\' :: c :: patternText false rest
  | .fixed c .quotes :: rest =>
    if afterBackslash then '\\' :: '\\' :: c :: patternText false rest
    else '\\' :: c :: patternText false rest
  | .gap :: rest => '\x00' :: patternText false rest
  | .quote :: rest | .value _ :: rest => patternText afterBackslash rest

end Item

def standardSeparators : Text := " \t\n".toList

/-- Where a splitting is: the fields that are complete and the items of the current one, latest first;
whether the last field was ended by a blank, and whether this value and the one before are rigid; how
many fields may still be separated, and how many items of the last field are before the separators that
end it. -/
structure Splitting where
  fields : List (List Item)
  current : List Item
  afterBlank : Bool
  rigid : Bool
  afterRigid : Bool
  remaining : Option Nat
  cut : Option Nat

namespace Splitting

def start (most : Option Nat) : Splitting := ⟨[], [], false, false, false, most, none⟩

def keep (splitting : Splitting) (item : Item) : Splitting :=
  { splitting with current := item :: splitting.current }

def endField (splitting : Splitting) : Splitting :=
  { splitting with
    fields := splitting.current.reverse :: splitting.fields
    current := []
    remaining := splitting.remaining.map (· - 1) }

def stepInLast (splitting : Splitting) (separates isBlank : Bool) (item : Item) : Splitting :=
  if isBlank then
    { splitting.keep item with cut := splitting.cut.orElse fun _ => some splitting.current.length }
  else
    { splitting.keep item with
      cut := if separates && splitting.afterBlank then splitting.cut else none
      afterBlank := false }

def stepAtSeparator (splitting : Splitting) (isBlank : Bool) (item : Item) : Splitting :=
  let afterBlank := if splitting.rigid || splitting.afterRigid then splitting.afterBlank else isBlank
  let splitting := { splitting with afterBlank := afterBlank }
  if splitting.current.isEmpty && afterBlank then { splitting with afterBlank := false }
  else if splitting.remaining = some 1 then
    { splitting.keep item with cut := some splitting.current.length, remaining := some 0 }
  else splitting.endField

def stepOver (splitting : Splitting) (separates isBlank : Bool) (item : Item) : Splitting :=
  if splitting.remaining = some 0 then splitting.stepInLast separates isBlank item
  else if splitting.afterBlank then
    if isBlank then splitting
    else if separates then { splitting with afterBlank := false }
    else { splitting.keep item with afterBlank := false }
  else if separates then splitting.stepAtSeparator isBlank item
  else splitting.keep item

def step (separators : Text) (splitting : Splitting) (item : Item) : Splitting :=
  match item with
  | .value rigid =>
    { splitting with rigid := rigid, afterRigid := splitting.rigid, afterBlank := false }
  | .fixed _ _ | .quote => splitting.keep item
  | .gap => splitting.stepOver true true item
  | .loose c =>
    let separates := separators.contains c
    splitting.stepOver separates (separates && standardSeparators.contains c) item

def finish (splitting : Splitting) : List (List Item) :=
  let last := splitting.current.reverse
  let last := match splitting.cut with
    | some length => if splitting.rigid then last else last.take length
    | none => last
  if last.isEmpty && !splitting.rigid then splitting.fields.reverse
  else (last :: splitting.fields).reverse

end Splitting

def splitFields (separators : Text) (most : Option Nat) (items : List Item) : List (List Item) :=
  (items.foldl (Splitting.step separators) (Splitting.start most)).finish

end LineScript.Programs.Shell
