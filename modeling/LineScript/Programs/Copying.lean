import LineScript.Programs.Options
import LineScript.Programs.Quoting

/-!
# Copying entries

How one entry is copied to a path: a file by its content, a directory with all that is in it, a link as
a link or as what it leads to. What stands at the destination is kept, replaced, written over or set
aside as the wishes say. A directory is not copied into itself, and a file that was just made is not
written over.
-/

namespace LineScript.Programs

set_option autoImplicit false

inductive Following where
  | never
  | operands
  | always
  deriving DecidableEq

inductive Overwriting where
  | silent
  | asked
  | refused
  deriving DecidableEq

/-- What a copy is: an entry of its own, another name of the same file, or a link to it. -/
inductive CopyKind where
  | own
  | name
  | link
  deriving DecidableEq

/-- How a file is set aside: under a name with a number, or with an ending, and with a number only if
there is one with a number already. -/
inductive Backup where
  | numbered
  | existing
  | simple
  deriving DecidableEq

structure CopyWishes where
  recursive : Bool
  following : Following
  kind : CopyKind
  overwriting : Overwriting
  removesUnwritable : Bool
  removesFirst : Bool
  keepsMode : Bool
  contentToo : Bool
  onlyMissing : Bool
  backup : Option Backup
  backupEnding : Text
  verbose : Bool

/-- What was copied so far for the operands: the entries that were read and those that were made, and
the directories that were copied with the paths of their copies. -/
structure CopyHistory where
  sources : List Location
  made : List Location
  directories : List (Location × Text)

abbrev Copying (α : Type) := StateT CopyHistory Running α

namespace Copying

def refuse (parts : List Text) : Copying Bool := do
  Running.complain parts
  return false

def about (wording : String) (name : Text) : Text := wording.toList ++ Quoting.quotedName name

def entryAt? (path : Text) (files : FileSystem) : Option Location :=
  match files.linkStatus (Octets.text path) with
  | .ok (location, _) => some location
  | .error _ => none

def lookUp (follow : Bool) (path : Text) (files : FileSystem) : Except HostError (Location × Node) :=
  if follow then files.status (Octets.text path) else files.linkStatus (Octets.text path)

def announce (wishes : CopyWishes) (source destination : Text) (backup? : Option Text) :
    Running Unit := do
  if wishes.verbose then
    let aside := match backup? with
      | some path => about " (backup: " path ++ [')']
      | none => []
    Running.printLine
      (Quoting.quotedName source ++ " -> ".toList ++ Quoting.quotedName destination ++ aside)

def isLink : Node → Bool
  | .link _ => true
  | _ => false

def isFile : Node → Bool
  | .file _ _ => true
  | _ => false

/-- Whether a source and a destination that is there are so much the same that copying would lose the
file. -/
def clashes (wishes : CopyWishes) (source destination : Text) (sourceAt destinationAt : Location)
    (files : FileSystem) : Bool :=
  let sourceEntry := entryAt? source files
  let destinationEntry := entryAt? destination files
  let linkAt (path : Text) : Bool :=
    match files.linkStatus (Octets.text path) with
    | .ok (_, node) => isLink node
    | .error _ => false
  if wishes.following = .never && linkAt source && linkAt destination then
    sourceEntry == destinationEntry
  else
    let sameTarget : Bool :=
      match files.status (Octets.text source), files.status (Octets.text destination) with
      | .ok (here, _), .ok (there, _) => here == there
      | _, _ => false
    let sameNow := sourceAt == destinationAt
    if wishes.following ≠ .never && !sameNow then false
    else if wishes.following ≠ .never && linkAt source && linkAt destination && wishes.removesFirst then
      false
    else if wishes.backup.isSome then
      if sourceEntry != destinationEntry then
        wishes.following ≠ .never && linkAt source && !linkAt destination
      else true
    else if wishes.removesFirst && linkAt destination then false
    else if !linkAt source && !linkAt destination then
      sourceEntry == destinationEntry && wishes.kind ≠ .name
    else if wishes.kind = .link && linkAt destination then false
    else if wishes.following = .never then sameTarget && wishes.kind ≠ .name
    else true

def isConfirmed : Running Bool := do
  let descriptors := (← read).descriptors
  match descriptors.get? inputDescriptor with
  | none => return false
  | some number =>
    match (← get).read (fun files channel => channel.readLine files) number with
    | .ok (line, workspace) =>
      set workspace
      return (Octets.ofBytes line).head?.any fun c => c == 'y' || c == 'Y'
    | .error _ => return false

def backupNumbers (path : Text) (files : FileSystem) : List Nat :=
  let folder := (path.reverse.dropWhile (· != '/')).reverse
  let start := (path.reverse.takeWhile (· != '/')).reverse ++ ".~".toList
  match files.list (Octets.text (if folder.isEmpty then ['.'] else folder)) with
  | .error _ => []
  | .ok entries =>
    entries.filterMap fun (name, _) =>
      let octets := Octets.ofText name.text
      let digits := (octets.drop start.length).dropLast
      if start.isPrefixOf octets && octets.getLast? == some '~' && !digits.isEmpty &&
          digits.all Char.isDigit && digits.head? != some '0' then
        some (digits.foldl (fun number c => number * 10 + (c.toNat - '0'.toNat)) 0)
      else none

def backupPath (control : Backup) (ending path : Text) (files : FileSystem) : Text :=
  let numbers := backupNumbers path files
  if control = .numbered || control = .existing && !numbers.isEmpty then
    path ++ ".~".toList ++ Text.decimal (numbers.foldl max 0 + 1) ++ ['~']
  else path ++ ending

/-- What becomes of a destination that is there: whether the copy goes on, and whether it then makes a
new entry. -/
inductive Verdict where
  | done (succeeded : Bool)
  | goesOn (isNew : Bool) (backup? : Option Text)

def lastPart (path : Text) : Text :=
  let trimmed := path.reverse.dropWhile (· == '/')
  (trimmed.takeWhile (· != '/')).reverse

def setAside (wishes : CopyWishes) (control : Backup) (source destination : Text) : Copying Verdict := do
  let aside ← Running.ask (backupPath control wishes.backupEnding destination)
  let sourceEntry ← Running.ask (entryAt? source)
  if control ≠ .numbered && sourceEntry.isSome && (← Running.ask (entryAt? aside)) == sourceEntry then
    let _ ← refuse [about "backing up " destination ++ " might destroy source;  ".toList ++
      Quoting.quotedName source ++ " not copied".toList]
    return .done false
  else
    match ← Running.change (·.rename (Octets.text destination) (Octets.text aside)) with
    | .ok () => return .goesOn true (some aside)
    | .error error =>
      let _ ← refuse [about "cannot backup " destination, error.description]
      return .done false

def removeOld (wishes : CopyWishes) (destination : Text) : Copying Bool := do
  match ← Running.change (·.removeFile (Octets.text destination)) with
  | .ok () =>
    if wishes.verbose then Running.printLine (about "removed " destination)
    return true
  | .error error => refuse [about "cannot remove " destination, error.description]

/-- What speaks against copying over an entry, whatever it is kept or replaced by. -/
def obstacle? (wishes : CopyWishes) (isOperand : Bool) (source destination : Text)
    (destinationAt : Location) (sourceNode destinationNode : Node) : Copying (Option Text) := do
  let fromDirectory := sourceNode == .directory
  let toDirectory := destinationNode == .directory
  if fromDirectory && !toDirectory then
    return some
      (about "cannot overwrite non-directory " destination ++ about " with directory " source)
  else if !toDirectory && isOperand && wishes.backup ≠ some .numbered &&
      (← get).made.contains destinationAt then
    return some (about "will not overwrite just-created " destination ++ about " with " source)
  else if toDirectory && !fromDirectory then
    return some (about "cannot overwrite directory " destination ++ " with non-directory".toList)
  else return none

/-- Whether the wishes, or the user, want a file at the destination to be left alone. -/
def isKept (wishes : CopyWishes) (destination : Text) : Running (Option Bool) := do
  if wishes.onlyMissing || wishes.overwriting = .refused then return some true
  else if wishes.overwriting = .asked then
    let _ ← Running.write errorDescriptor
      ((← read).name ++ about ": overwrite " destination ++ "? ".toList)
    return if ← isConfirmed then none else some false
  else return none

def replace (wishes : CopyWishes) (isOperand : Bool) (source destination : Text)
    (sourceAt destinationAt : Location) (sourceNode destinationNode : Node) : Copying Verdict := do
  let clash ← Running.ask (clashes wishes source destination sourceAt destinationAt)
  if wishes.overwriting ≠ .refused && wishes.kind = .name && sourceAt = destinationAt then
    return .done true
  else if wishes.overwriting ≠ .refused && clash then
    return .done (← refuse
      [Quoting.quotedName source ++ about " and " destination ++ " are the same file".toList])
  else
    let kept ← if sourceNode = .directory then pure none else isKept wishes destination
    match kept, ← obstacle? wishes isOperand source destination destinationAt sourceNode
        destinationNode, wishes.backup with
    | some succeeded, _, _ => return .done succeeded
    | none, some wording, _ => return .done (← refuse [wording])
    | none, none, some control =>
      if destinationNode = .directory || [['.', '.'], ['.']].contains (lastPart source) then
        return .goesOn false none
      else setAside wishes control source destination
    | none, none, none =>
      let replacesLink := wishes.contentToo && wishes.following ≠ .always && !isFile sourceNode
      if destinationNode ≠ .directory && (wishes.removesFirst || replacesLink) then
        if ← removeOld wishes destination then return .goesOn true none else return .done false
      else return .goesOn false none

def makeFile (path : Text) (content : List UInt8) (mode : Mode) (files : FileSystem) :
    Except HostError FileSystem :=
  if (files.linkStatus (Octets.text path)).isOk then .error .alreadyExists
  else
    match files.store (Octets.text path) content fun _ => (content, mode) with
    | .error .isDirectory => .error (if path.getLast? == some '/' then .notDirectory else .isDirectory)
    | result => result

/-- Makes a file that is a copy of one with the given content and permission bits. -/
def createCopy (destination : Text) (content : List UInt8) (mode : Mode) : Copying Bool := do
  match ← Running.change (makeFile destination content mode) with
  | .ok () => return true
  | .error .alreadyExists =>
    refuse [about "not writing through dangling symlink " destination]
  | .error error => refuse [about "cannot create regular file " destination, error.description]

def copyContent (wishes : CopyWishes) (destination : Text) (isNew : Bool) (content : List UInt8)
    (mode : Mode) : Copying Bool := do
  let mode ← if wishes.keepsMode then pure mode else Running.maskedMode mode
  if isNew then createCopy destination (if wishes.contentToo then content else []) mode
  else
    let written ← Running.change fun files =>
      files.store (Octets.text destination) content fun old =>
        (if wishes.contentToo then content else (old.map (·.1)).getD [],
          if wishes.keepsMode then mode else (old.map (·.2)).getD mode)
    match written with
    | .ok () => return true
    | .error error =>
      if !wishes.removesUnwritable then
        refuse [about "cannot create regular file " destination, error.description]
      else if ← removeOld wishes destination then
        createCopy destination (if wishes.contentToo then content else []) mode
      else return false

def makeLink (wishes : CopyWishes) (destination : Text) (target : Path) :
    Running (Except HostError Unit) := do
  match ← Running.change (·.makeLink (Octets.text destination) target) with
  | .error .alreadyExists =>
    if wishes.removesUnwritable then
      Running.change fun files =>
        match files.removeFile (Octets.text destination) with
        | .ok files => files.makeLink (Octets.text destination) target
        | .error error => .error error
    else return .error .alreadyExists
  | result => return result

def isHere (path : Text) (files : FileSystem) : Bool :=
  match files.locateParent (Octets.text path) with
  | .ok (directory, _) => directory == files.workingDirectory
  | .error _ => true

def copyLeaf (wishes : CopyWishes) (source destination : Text) (isNew : Bool) (node : Node) :
    Copying Bool := do
  match wishes.kind, node with
  | .link, _ =>
    if !Path.isAbsolute source && !(← Running.ask (isHere destination)) then
      refuse [Quoting.quotedBeforeColon destination,
        "can make relative symbolic links only in current directory".toList]
    else
      match ← makeLink wishes destination (Octets.text source) with
      | .ok () => return true
      | .error error =>
        refuse [about "cannot create symbolic link " destination ++ about " to " source,
          error.description]
  | .own, .link target =>
    match ← makeLink wishes destination target with
    | .ok () => return true
    | .error error => refuse [about "cannot create symbolic link " destination, error.description]
  | .name, node =>
    let replaced ←
      if wishes.removesUnwritable || wishes.overwriting = .asked then
        Running.change fun files =>
          match files.removeFile (Octets.text destination) with
          | .error .noSuchEntry => .ok files
          | result => result
      else pure (.ok ())
    let made ← match replaced, node with
      | .error error, _ => pure (.error error)
      | .ok (), .link target => Running.change (·.makeLink (Octets.text destination) target)
      | .ok (), .file content mode => Running.change (makeFile destination content mode)
      | .ok (), _ => Running.change (makeFile destination [] Mode.created)
    match made with
    | .ok () => return true
    | .error error =>
      refuse [about "cannot create hard link " destination ++ about " to " source, error.description]
  | .own, .file content mode => copyContent wishes destination isNew content mode
  | .own, _ => copyContent wishes destination isNew [] Mode.created

inductive Outlook where
  | unknown
  | missing
  | fresh
  deriving DecidableEq

/-- How copying an entry went. A copy that would go on inside itself ends the copying of all that is
around it. -/
structure Outcome where
  succeeded : Bool
  intoItself : Bool

def Outcome.of (succeeded : Bool) : Outcome := ⟨succeeded, false⟩

/-- The outcome for a directory that was copied before, which is complained about. -/
def metBefore (isOperand : Bool) (wishes : CopyWishes) (top : Text × Text)
    (source destination : Text) (location : Location) : Copying (Option Outcome) := do
  match (← get).directories.find? (·.1 = location) with
  | none =>
    if isOperand then
      modify fun history =>
        { history with directories := (location, destination) :: history.directories }
    return none
  | some (_, earlier) =>
    let here ← Running.ask (entryAt? source)
    let there ← Running.ask (entryAt? destination)
    let copied ← Running.ask (entryAt? earlier)
    if here == copied then
      let _ ← refuse [about "cannot copy a directory, " top.1 ++ about ", into itself, " top.2]
      return some ⟨false, true⟩
    else if there == copied then
      Running.complain ["warning".toList,
        about "source directory " top.1 ++ " specified more than once".toList]
      return some (.of true)
    else if wishes.following = .always || isOperand && wishes.following = .operands then return none
    else
      let refused ← refuse [about "will not create hard link " destination ++
        about " to directory " earlier]
      return some (.of refused)

def makeTarget (wishes : CopyWishes) (isFirst isNew : Bool) (source destination : Text) :
    Copying Bool := do
  if !isNew then return true
  else
    match ← Running.change (·.makeDirectory (Octets.text destination)) with
    | .error error => refuse [about "cannot create directory " destination, error.description]
    | .ok () =>
      match isFirst, ← Running.ask (entryAt? destination) with
      | true, some location =>
        modify fun history =>
          { history with directories := (location, destination) :: history.directories }
      | _, _ => pure ()
      announce wishes source destination none
      return true

def inside (directory name : Text) : Text :=
  if directory.getLast? == some '/' then directory ++ name else directory ++ '/' :: name

def namesIn (path : Text) (files : FileSystem) : List Text :=
  match files.list (Octets.text path) with
  | .ok entries => (entries.map fun (name, _) => Octets.ofText name.text).reverse
  | .error _ => []

def copyEach (copy : Text → Copying Outcome) : List Text → Bool → Copying Outcome
  | [], succeeded => return .of succeeded
  | name :: rest, succeeded => do
    let outcome ← copy name
    if outcome.intoItself then return outcome
    else copyEach copy rest (succeeded && outcome.succeeded)

def remember (isOperand : Bool) (destination : Text) : Copying Unit := do
  match isOperand, ← Running.ask (entryAt? destination) with
  | true, some location => modify fun history => { history with made := location :: history.made }
  | _, _ => pure ()

def readBefore (isOperand : Bool) (source : Text) : Copying Bool := do
  match isOperand, ← Running.ask (entryAt? source) with
  | true, some location =>
    let before := (← get).sources.contains location
    modify fun history => { history with sources := location :: history.sources }
    return before
  | _, _ => return false

def isNewLink (destination : Text) : Copying Bool := do
  match ← Running.ask (·.linkStatus (Octets.text destination)) with
  | .ok (location, .link _) => return (← get).made.contains location
  | _ => return false

def prepare (wishes : CopyWishes) (isOperand : Bool) (outlook : Outlook) (source destination : Text)
    (location : Location) (node : Node) : Copying Verdict := do
  let writesThrough := isFile node || !wishes.recursive && node ≠ .directory && !isLink node
  let follow :=
    writesThrough && wishes.kind = .own && wishes.backup.isNone && !wishes.removesFirst
  let found ←
    if outlook = .fresh || outlook = .missing && follow then pure (.error .noSuchEntry)
    else Running.ask (lookUp follow destination)
  match found with
  | .ok (destinationAt, destinationNode) =>
    replace wishes isOperand source destination location destinationAt node destinationNode
  | .error .noSuchEntry => return .goesOn true none
  | .error error =>
    if error = .linkLoop && wishes.removesUnwritable then return .goesOn false none
    else return .done (← refuse [about "cannot stat " destination, error.description])

/-- Copies an entry. `top` holds the paths of the operand it belongs to, and `outer` the directories it
is in; the first directory that is made for an operand is remembered. -/
def copyEntry (wishes : CopyWishes) :
    (nesting : Nat) → (top : Text × Text) → (outer : List Location) → (isFirst : Bool) →
      (outlook : Outlook) → (source destination : Text) → Copying Outcome
  | 0, _, _, _, _, source, _ =>
    return .of (← refuse [about "cannot stat " source, HostError.nameTooLong.description])
  | nesting + 1, top, outer, isFirst, outlook, source, destination => do
    let isOperand := outer.isEmpty
    let follows := wishes.following = .always || isOperand && wishes.following = .operands
    match ← Running.ask (lookUp follows source) with
    | .error error => return .of (← refuse [about "cannot stat " source, error.description])
    | .ok (location, node) =>
      if node = .directory && !wishes.recursive then
        return .of (← refuse [about "-r not specified; omitting directory " source])
      else if (← readBefore isOperand source) && node ≠ .directory && wishes.backup.isNone then
        Running.complain ["warning".toList,
          about "source file " source ++ " specified more than once".toList]
        return .of true
      else
        match ← prepare wishes isOperand outlook source destination location node with
        | .done succeeded => return .of succeeded
        | .goesOn isNew backup? =>
          if isOperand && wishes.backup.isNone && (← isNewLink destination) then
            return .of (← refuse
              [about "will not copy " source ++ about " through just-created symlink " destination])
          else if node = .directory then
            match ← metBefore isOperand wishes top source destination location with
            | some outcome => return outcome
            | none =>
              if outer.contains location then
                return .of (← refuse [about "cannot copy cyclic symbolic link " source])
              else if ← makeTarget wishes isFirst isNew source destination then
                let outcome ← copyEach
                  (fun name =>
                    copyEntry wishes nesting top (location :: outer) (isFirst && !isNew)
                      (if isNew then .fresh else .unknown) (inside source name)
                      (inside destination name))
                  (← Running.ask (namesIn source)) true
                remember isOperand destination
                return outcome
              else return .of false
          else
            announce wishes source destination backup?
            let done ← copyLeaf wishes source destination isNew node
            remember (isOperand && done) destination
            return .of done

def copyOperand (wishes : CopyWishes) (outlook : Outlook) (source destination : Text) :
    Copying Bool :=
  return (← copyEntry wishes Path.sizeLimit (source, destination) [] true outlook source
    destination).succeeded

end Copying

end LineScript.Programs
