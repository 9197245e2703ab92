import LineScript.Programs.Copying

/-!
# Cp

Copies an entry to a path, or entries into a directory.
-/

namespace LineScript.Programs.Cp

set_option autoImplicit false

inductive Wish where
  | archive
  | attributesOnly
  | backup
  | simpleBackup
  | noFollowingKeepLinks
  | force
  | followOperands
  | ask
  | hardLink
  | followAll
  | keepExisting
  | noFollowing
  | keepMode
  | preserve
  | noPreserve
  | parents
  | recursive
  | removeFirst
  | symbolicLink
  | ending
  | stripSlashes
  | targetDirectory
  | noTargetDirectory
  | update
  | verbose
  | nothing
  deriving DecidableEq

def rules : List (Options.Rule Wish) :=
  [⟨some 'a', ["archive"], .none, .archive⟩, ⟨none, ["attributes-only"], .none, .attributesOnly⟩,
    ⟨none, ["backup"], .optional, .backup⟩, ⟨some 'b', [], .none, .simpleBackup⟩,
    ⟨none, ["copy-contents", "debug"], .none, .nothing⟩, ⟨some 'L', ["dereference"], .none, .followAll⟩,
    ⟨some 'd', [], .none, .noFollowingKeepLinks⟩, ⟨some 'f', ["force"], .none, .force⟩,
    ⟨some 'H', [], .none, .followOperands⟩, ⟨some 'i', ["interactive"], .none, .ask⟩,
    ⟨some 'l', ["link"], .none, .hardLink⟩, ⟨some 'n', ["no-clobber"], .none, .keepExisting⟩,
    ⟨some 'P', ["no-dereference"], .none, .noFollowing⟩,
    ⟨none, ["no-preserve"], .required, .noPreserve⟩,
    ⟨some 'T', ["no-target-directory"], .none, .noTargetDirectory⟩,
    ⟨some 'x', ["one-file-system"], .none, .nothing⟩, ⟨none, ["parents"], .none, .parents⟩,
    ⟨some 'p', [], .none, .keepMode⟩, ⟨none, ["preserve"], .optional, .preserve⟩,
    ⟨some 'R', ["recursive"], .none, .recursive⟩, ⟨some 'r', [], .none, .recursive⟩,
    ⟨none, ["remove-destination"], .none, .removeFirst⟩, ⟨none, ["reflink"], .optional, .nothing⟩,
    ⟨none, ["sparse"], .required, .nothing⟩,
    ⟨none, ["strip-trailing-slashes"], .none, .stripSlashes⟩, ⟨some 'S', ["suffix"], .required, .ending⟩,
    ⟨some 's', ["symbolic-link"], .none, .symbolicLink⟩,
    ⟨some 't', ["target-directory"], .required, .targetDirectory⟩,
    ⟨some 'u', ["update"], .none, .update⟩, ⟨some 'v', ["verbose"], .none, .verbose⟩,
    ⟨some 'Z', [], .none, .nothing⟩]

def backupOf? (word : Text) : Option (Option Backup) :=
  match Text.toString word with
  | "none" | "off" => some none
  | "simple" | "never" => some (some .simple)
  | "existing" | "nil" => some (some .existing)
  | "numbered" | "t" => some (some .numbered)
  | _ => none

def namesMode (attributes : Option Text) : Bool :=
  match attributes with
  | none => true
  | some attributes =>
    (attributes.splitOn ',').any fun name => name == "mode".toList || name == "all".toList

def withOption (wishes : CopyWishes) : Wish × Option Text → CopyWishes
  | (.archive, _) => { wishes with recursive := true, following := .never, keepsMode := true }
  | (.attributesOnly, _) => { wishes with contentToo := false }
  | (.backup, value) =>
    { wishes with backup := ((value.bind backupOf?).getD (some .existing)) }
  | (.simpleBackup, _) => { wishes with backup := wishes.backup.or (some .existing) }
  | (.ending, value) =>
    { wishes with backup := wishes.backup.or (some .existing), backupEnding := value.getD ['~'] }
  | (.noFollowingKeepLinks, _) | (.noFollowing, _) => { wishes with following := .never }
  | (.followOperands, _) => { wishes with following := .operands }
  | (.followAll, _) => { wishes with following := .always }
  | (.force, _) => { wishes with removesUnwritable := true }
  | (.ask, _) => { wishes with overwriting := .asked }
  | (.keepExisting, _) => { wishes with overwriting := .refused }
  | (.hardLink, _) => { wishes with kind := .name }
  | (.symbolicLink, _) => { wishes with kind := .link }
  | (.keepMode, _) => { wishes with keepsMode := true }
  | (.preserve, value) => { wishes with keepsMode := wishes.keepsMode || namesMode value }
  | (.noPreserve, value) => { wishes with keepsMode := wishes.keepsMode && !namesMode value }
  | (.recursive, _) => { wishes with recursive := true }
  | (.removeFirst, _) => { wishes with removesFirst := true }
  | (.update, _) => { wishes with onlyMissing := true }
  | (.verbose, _) => { wishes with verbose := true }
  | _ => wishes

/-- The wishes of a command. Links are followed unless directories are copied with all that is in
them. -/
def wishesOf (options : Options.Sorted Wish) : CopyWishes :=
  let followingFirst : Following :=
    if (options.has .recursive || options.has .archive) && !options.has .hardLink then .never
    else .always
  let wishes := options.options.foldl withOption
    ⟨false, followingFirst, .own, .silent, false, false, false, true, false, none, ['~'], false⟩
  { wishes with
    removesFirst := wishes.removesFirst || wishes.removesUnwritable && wishes.kind ≠ .own }

def withoutSlashes (path : Text) : Text :=
  match path.reverse.dropWhile (· == '/') with
  | [] => path.take 1
  | rest => rest.reverse

def pathInside (directory operand : Text) : Text :=
  match Copying.lastPart operand with
  | [] => directory
  | ['.', '.'] => Copying.inside directory ['.']
  | part => Copying.inside directory part

def makeParents (wishes : CopyWishes) (directory : Text) : (count : Nat) → (parts : List Text) →
    Copying Bool
  | 0, _ => return true
  | count + 1, parts => do
    let done ← makeParents wishes directory count parts
    let source := Text.join ['/'] (parts.take (count + 1))
    let target := Copying.inside directory (source.dropWhile (· == '/'))
    if !done then return false
    else
      match ← Running.ask fun files => files.status (Octets.text target) with
      | .ok (_, .directory) => return true
      | .ok _ =>
        Copying.refuse [Quoting.quotedName target ++ " exists but is not a directory".toList]
      | .error _ =>
        match ← Running.ask fun files => files.status (Octets.text source) with
        | .error error =>
          Copying.refuse [Copying.about "failed to get attributes of " source, error.description]
        | .ok _ =>
          match ← Running.change (·.makeDirectory (Octets.text target)) with
          | .error error =>
            Copying.refuse [Copying.about "cannot make directory " target, error.description]
          | .ok () =>
            if wishes.verbose then
              Running.printLine (source ++ " -> ".toList ++ target)
            return true

def copyInto (wishes : CopyWishes) (options : Options.Sorted Wish) (directory operand : Text) :
    Copying Bool := do
  let operand := if options.has .stripSlashes then withoutSlashes operand else operand
  if options.has .parents then
    let plain := withoutSlashes operand
    let target := Copying.inside directory (plain.dropWhile (· == '/'))
    let parts := Path.parts plain
    if ← makeParents wishes directory (parts.length - 1) parts then
      Copying.copyOperand wishes .unknown operand target
    else return false
  else
    let target := pathInside directory operand
    Copying.copyOperand wishes .unknown operand target

def directoryFault? (path : Text) : Running (Option HostError) :=
  Running.ask fun files =>
    match files.status (Octets.text path) with
    | .ok (_, .directory) => none
    | .ok _ => some .notDirectory
    | .error error => some error

def carryOut (copying : Copying Bool) : Running ExitStatus := do
  let (succeeded, _) ← copying.run ⟨[], [], []⟩
  Running.finish 1 (.exited (if succeeded then 0 else 1))

def misuse (complaint : Text) : Running ExitStatus := do
  Running.complainOfUse complaint
  return .exited 1

def fail (parts : List Text) : Running ExitStatus := do
  Running.complain parts
  return .exited 1

def copyAllInto (wishes : CopyWishes) (options : Options.Sorted Wish) (directory : Text)
    (operands : List Text) : Running ExitStatus :=
  carryOut do
    let results ← operands.mapM (copyInto wishes options directory)
    return results.all id

def copyTo (wishes : CopyWishes) (options : Options.Sorted Wish) (source destination : Text) :
    Running ExitStatus := do
  if options.has .parents then misuse "with --parents, the destination must be a directory".toList
  else
    let outlook : Copying.Outlook :=
      if !options.has .noTargetDirectory && (← directoryFault? destination) = some .noSuchEntry then
        .missing
      else .unknown
    carryOut (Copying.copyOperand wishes outlook source destination)

def copyOperands (wishes : CopyWishes) (options : Options.Sorted Wish) : Running ExitStatus := do
  match options.operands, options.value? .targetDirectory, options.has .noTargetDirectory with
  | [], _, _ => misuse "missing file operand".toList
  | [source], none, _ => misuse (Copying.about "missing destination file operand after " source)
  | _, some _, true =>
    fail ["cannot combine --target-directory (-t) and --no-target-directory (-T)".toList]
  | operands, some directory, false =>
    match ← directoryFault? directory with
    | none => copyAllInto wishes options directory operands
    | some error => fail [Copying.about "target directory " directory, error.description]
  | [source, destination], none, true => copyTo wishes options source destination
  | _ :: _ :: extra :: _, none, true => misuse (Copying.about "extra operand " extra)
  | operands, none, false =>
    let destination := operands.getLastD []
    match ← directoryFault? destination, operands with
    | none, _ => copyAllInto wishes options destination operands.dropLast
    | some _, [source, _] => copyTo wishes options source destination
    | some error, _ => fail [Copying.about "target " destination, error.description]

def program : Program :=
  Options.withRules rules 1 fun options => do
    let wishes := wishesOf options
    if 1 < (options.options.filter (·.1 == .targetDirectory)).length then
      fail ["multiple target directories specified".toList]
    else if options.has .hardLink && options.has .symbolicLink then
      misuse "cannot make both hard and symbolic links".toList
    else if wishes.backup.isSome && wishes.overwriting = .refused then
      misuse "options --backup and --no-clobber are mutually exclusive".toList
    else
      if options.has .keepExisting then
        Running.complain ["warning".toList,
          "behavior of -n is non-portable and may change in future; use --update=none instead".toList]
      copyOperands wishes options

end LineScript.Programs.Cp
