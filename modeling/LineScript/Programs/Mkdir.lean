import LineScript.Programs.Numeral
import LineScript.Programs.Options
import LineScript.Programs.Quoting

/-!
# Mkdir

Makes directories, with those that they lie in if `-p` asks for it. A directory has no permission bits
of its own here, so a wish for some is only checked.
-/

namespace LineScript.Programs.Mkdir

set_option autoImplicit false

inductive Wish where
  | mode
  | parents
  | verbose
  | context
  deriving DecidableEq

def rules : List (Options.Rule Wish) :=
  [⟨none, ["context"], .optional, .context⟩, ⟨some 'Z', [], .none, .context⟩,
    ⟨some 'm', ["mode"], .required, .mode⟩, ⟨some 'p', ["parents"], .none, .parents⟩,
    ⟨some 'v', ["verbose"], .none, .verbose⟩]

def greatestMode : Nat := 0o7777

/-- What follows the octal digits at the start of a text, if they stand for permission bits. -/
def afterOctal? (text : Text) : Option Text :=
  let digits := Numeral.leadingDigits 8 text.length text
  if Numeral.numberOf 8 digits ≤ greatestMode then some (text.drop digits.length) else none

def isOperator (c : Char) : Bool := c == '=' || c == '+' || c == '-'

/-- Whether a text describes changes of permission bits after the classes they are for. -/
def describesChanges : (steps : Nat) → (classes : Text) → Text → Bool
  | 0, _, _ => false
  | _ + 1, _, [] => false
  | steps + 1, classes, operator :: rest =>
    if !isOperator operator then false
    else
      let after? : Option Text :=
        match rest with
        | c :: tail =>
          if '0' ≤ c && c ≤ '7' then
            (afterOctal? rest).filter fun after =>
              classes.isEmpty && (after.isEmpty || after.head? == some ',')
          else if c == 'u' || c == 'g' || c == 'o' then some tail
          else some (rest.dropWhile ("rwxXst".toList.contains ·))
        | [] => some []
      match after? with
      | none => false
      | some [] => true
      | some (',' :: next) =>
        describesChanges steps (next.takeWhile ("ugoa".toList.contains ·))
          (next.dropWhile ("ugoa".toList.contains ·))
      | some after => describesChanges steps classes after

/-- Whether a text describes permission bits: as an octal number, or as changes. -/
def isMode (text : Text) : Bool :=
  if text.head?.any fun c => '0' ≤ c && c ≤ '7' then afterOctal? text == some []
  else
    describesChanges (text.length + 1) (text.takeWhile ("ugoa".toList.contains ·))
      (text.dropWhile ("ugoa".toList.contains ·))

/-- The paths of the directories that a path's last entry lies in, outermost first. The path itself, and
steps that lead nowhere else, are not among them. -/
def ancestors (path : Text) : List Text :=
  let ends := (List.range path.length).filter fun place =>
    place ≠ 0 && path[place]? == some '/' && path[place - 1]? != some '/' &&
      (path.drop place).any (· != '/')
  (ends.map path.take).filter fun ancestor => ancestor.reverse.takeWhile (· != '/') != ['.']

def announce (verbose : Bool) (path : Text) : Running Unit := do
  if verbose then
    Running.printLine
      ((← read).name ++ ": created directory ".toList ++ Quoting.quotedName path)

def makeOne (verbose : Bool) (path : Text) : Running Bool := do
  match ← Running.change (·.makeDirectory (Octets.text path)) with
  | .ok () =>
    announce verbose path
    return true
  | .error error =>
    Running.complain
      ["cannot create directory ".toList ++ Quoting.quoted path, error.description]
    return false

def enterable (path : Text) (files : FileSystem) : Except HostError Unit :=
  match files.status (Octets.text path) with
  | .ok (_, .directory) => .ok ()
  | .ok _ => .error .notDirectory
  | .error error => .error error

def makeAncestor (verbose : Bool) (path : Text) : Running (Except HostError Unit) := do
  let goesUp := path.reverse.takeWhile (· != '/') == ['.', '.']
  let made ← if goesUp then pure (.ok ()) else Running.change (·.makeDirectory (Octets.text path))
  if made.isOk && !goesUp then announce verbose path
  match ← Running.ask (enterable path), made with
  | .error .noSuchEntry, .error error => return .error error
  | entered, _ => return entered

def makeAll (verbose : Bool) (path : Text) : List Text → Running Bool
  | [] => do
    let made ← Running.change (·.makeDirectory (Octets.text path))
    if made.isOk then announce verbose path
    match made, ← Running.ask (enterable path) with
    | .ok (), _ | .error _, .ok () => return true
    | .error .alreadyExists, .error .linkLoop =>
      Running.complain
        ["cannot stat ".toList ++ Quoting.quoted path, HostError.linkLoop.description]
      return false
    | .error error, _ =>
      Running.complain
        ["cannot create directory ".toList ++ Quoting.quoted path, error.description]
      return false
  | ancestor :: rest => do
    match ← makeAncestor verbose ancestor with
    | .ok () => makeAll verbose path rest
    | .error error =>
      Running.complain
        ["cannot create directory ".toList ++ Quoting.quoted ancestor, error.description]
      return false

def program : Program :=
  Options.withRules rules 1 fun options => do
    if options.operands.isEmpty then
      Running.complainOfUse "missing operand".toList
      return .exited 1
    let mode? := options.value? .mode
    if (options.value? .context).isSome then
      Running.complain ["warning".toList,
        "ignoring --context; it requires an SELinux/SMACK-enabled kernel".toList]
    match mode?.filter (!isMode ·) with
    | some mode =>
      Running.complain ["invalid mode ".toList ++ Quoting.quoted mode]
      return .exited 1
    | none =>
      let verbose := options.has .verbose
      let status ← Running.forAll options.operands fun path =>
        if options.has .parents then makeAll verbose path (ancestors path)
        else makeOne verbose path
      Running.finish 1 status

end LineScript.Programs.Mkdir
