import LineScript.Programs.Listing
import LineScript.Programs.Numeral
import LineScript.Programs.Options
import LineScript.Programs.Pattern
import LineScript.Programs.Quoting
import LineScript.Programs.VersionOrder

/-!
# Ls

Lists entries by their names: the operands that are no directories first, then what is in each of the
others, under its name if there is more to list.
-/

namespace LineScript.Programs.Ls

set_option autoImplicit false

inductive Wish where
  | all
  | almostAll
  | asIs
  | author
  | backups
  | bySize
  | byTime
  | byVersion
  | byEnding
  | columns
  | commas
  | directoriesFirst
  | escapes
  | fileTypes
  | followAll
  | followDirectories
  | followOperands
  | hide
  | indicators
  | indicatorStyle
  | ignoring
  | itself
  | layout
  | literal
  | masks
  | order
  | quotes
  | quotingStyle
  | recursive
  | reverse
  | rows
  | showsControls
  | single
  | slashes
  | tabWidth
  | unsorted
  | width
  | zeroEnds
  deriving DecidableEq

def rules : List (Options.Rule Wish) :=
  [⟨some 'a', ["all"], .none, .all⟩, ⟨some 'A', ["almost-all"], .none, .almostAll⟩,
    ⟨none, ["author", "si"], .none, .author⟩, ⟨some 'b', ["escape"], .none, .escapes⟩,
    ⟨some 'B', ["ignore-backups"], .none, .backups⟩, ⟨none, ["block-size"], .required, .author⟩,
    ⟨some 'c', [], .none, .byTime⟩, ⟨some 'C', [], .none, .columns⟩,
    ⟨none, ["color", "hyperlink"], .optional, .author⟩, ⟨some 'd', ["directory"], .none, .itself⟩,
    ⟨some 'D', ["dired"], .none, .author⟩, ⟨some 'f', [], .none, .asIs⟩,
    ⟨some 'F', [], .none, .indicators⟩, ⟨none, ["classify"], .optional, .indicators⟩,
    ⟨none, ["file-type"], .none, .fileTypes⟩, ⟨none, ["format"], .required, .layout⟩,
    ⟨none, ["full-time"], .none, .author⟩, ⟨some 'g', [], .none, .author⟩,
    ⟨none, ["group-directories-first"], .none, .directoriesFirst⟩,
    ⟨some 'G', ["no-group"], .none, .author⟩, ⟨some 'h', ["human-readable"], .none, .author⟩,
    ⟨some 'H', ["dereference-command-line"], .none, .followOperands⟩,
    ⟨none, ["dereference-command-line-symlink-to-dir"], .none, .followDirectories⟩,
    ⟨none, ["hide"], .required, .hide⟩, ⟨none, ["indicator-style"], .required, .indicatorStyle⟩,
    ⟨some 'i', ["inode"], .none, .author⟩, ⟨some 'I', ["ignore"], .required, .ignoring⟩,
    ⟨some 'k', ["kibibytes"], .none, .author⟩, ⟨some 'l', [], .none, .author⟩,
    ⟨some 'L', ["dereference"], .none, .followAll⟩, ⟨some 'm', [], .none, .commas⟩,
    ⟨some 'n', ["numeric-uid-gid"], .none, .author⟩, ⟨some 'N', ["literal"], .none, .literal⟩,
    ⟨some 'o', [], .none, .author⟩, ⟨some 'p', [], .none, .slashes⟩,
    ⟨some 'q', ["hide-control-chars"], .none, .masks⟩,
    ⟨none, ["show-control-chars"], .none, .showsControls⟩,
    ⟨some 'Q', ["quote-name"], .none, .quotes⟩,
    ⟨none, ["quoting-style"], .required, .quotingStyle⟩,
    ⟨some 'r', ["reverse"], .none, .reverse⟩, ⟨some 'R', ["recursive"], .none, .recursive⟩,
    ⟨some 's', ["size"], .none, .author⟩, ⟨some 'S', [], .none, .bySize⟩,
    ⟨none, ["sort"], .required, .order⟩, ⟨none, ["time", "time-style"], .required, .author⟩,
    ⟨some 't', [], .none, .byTime⟩, ⟨some 'T', ["tabsize"], .required, .tabWidth⟩,
    ⟨some 'u', [], .none, .byTime⟩, ⟨some 'U', [], .none, .unsorted⟩,
    ⟨some 'v', [], .none, .byVersion⟩, ⟨some 'w', ["width"], .required, .width⟩,
    ⟨some 'x', [], .none, .rows⟩, ⟨some 'X', [], .none, .byEnding⟩,
    ⟨some 'Z', ["context"], .none, .author⟩, ⟨some '1', [], .none, .single⟩,
    ⟨none, ["zero"], .none, .zeroEnds⟩]

/-- Which names that begin with a dot are listed: none, all but those of the directory itself and of
the one it lies in, or all. -/
inductive Dotted where
  | hidden
  | entries
  | shown
  deriving DecidableEq

inductive Order where
  | unsorted
  | byName
  | byEnding
  | bySize
  | byVersion
  | byWidth
  deriving DecidableEq

/-- The marks after names: none, on directories only, on all that is no regular file, or on executable
files as well. -/
inductive Marks where
  | none
  | slashes
  | types
  | all
  deriving DecidableEq

inductive Following where
  | nothing
  | operandsToDirectories
  | operands
  | everything
  deriving DecidableEq

inductive NameStyle where
  | literal
  | escaped
  | quoted
  | forShell
  | forShellAlways
  deriving DecidableEq

structure Manner where
  layout : Layout
  lineEnd : Char
  lineWidth? : Option Text
  tabWidth? : Option Text
  dotted : Dotted
  hidden : List Pattern
  ignored : List Pattern
  order : Order
  reversed : Bool
  marks : Marks
  following? : Option Following
  itself : Bool
  recursive : Bool
  directoriesFirst : Bool
  style : NameStyle
  masks : Bool

def Manner.plain : Manner where
  layout := .single
  lineEnd := '\n'
  lineWidth? := none
  tabWidth? := none
  dotted := .hidden
  hidden := []
  ignored := []
  order := .byName
  reversed := false
  marks := .none
  following? := none
  itself := false
  recursive := false
  directoriesFirst := false
  style := .literal
  masks := false

def Manner.withOption (manner : Manner) (option : Wish × Option Text) : Manner :=
  let value := option.2.getD []
  match option.1 with
  | .all => { manner with dotted := .shown }
  | .almostAll => { manner with dotted := .entries }
  | .asIs => { manner with dotted := .shown, order := .unsorted }
  | .author => manner
  | .backups =>
    { manner with
      ignored := Pattern.ofText "*~".toList :: Pattern.ofText ".*~".toList :: manner.ignored }
  | .bySize => { manner with order := .bySize }
  | .byTime => { manner with order := .byName }
  | .byVersion => { manner with order := .byVersion }
  | .byEnding => { manner with order := .byEnding }
  | .columns => { manner with layout := .downColumns }
  | .commas => { manner with layout := .commas }
  | .directoriesFirst => { manner with directoriesFirst := true }
  | .escapes => { manner with style := .escaped }
  | .fileTypes => { manner with marks := .types }
  | .followAll => { manner with following? := some .everything }
  | .followDirectories => { manner with following? := some .operandsToDirectories }
  | .followOperands => { manner with following? := some .operands }
  | .hide => { manner with hidden := Pattern.ofText value :: manner.hidden }
  | .indicators =>
    match Text.toString (option.2.getD "always".toList) with
    | "always" | "yes" | "force" => { manner with marks := .all }
    | _ => manner
  | .indicatorStyle =>
    match Text.toString value with
    | "none" => { manner with marks := .none }
    | "slash" => { manner with marks := .slashes }
    | "file-type" => { manner with marks := .types }
    | _ => { manner with marks := .all }
  | .ignoring => { manner with ignored := Pattern.ofText value :: manner.ignored }
  | .itself => { manner with itself := true }
  | .layout =>
    match Text.toString value with
    | "commas" => { manner with layout := .commas }
    | "vertical" => { manner with layout := .downColumns }
    | "across" | "horizontal" => { manner with layout := .acrossColumns }
    | _ => { manner with layout := .single }
  | .literal => { manner with style := .literal }
  | .masks => { manner with masks := true }
  | .order =>
    match Text.toString value with
    | "none" => { manner with order := .unsorted }
    | "size" => { manner with order := .bySize }
    | "version" => { manner with order := .byVersion }
    | "extension" => { manner with order := .byEnding }
    | "width" => { manner with order := .byWidth }
    | _ => { manner with order := .byName }
  | .quotes => { manner with style := .quoted }
  | .quotingStyle =>
    match Text.toString value with
    | "escape" => { manner with style := .escaped }
    | "c" | "clocale" => { manner with style := .quoted }
    | "shell-escape" => { manner with style := .forShell }
    | "shell-escape-always" => { manner with style := .forShellAlways }
    | _ => { manner with style := .literal }
  | .recursive => { manner with recursive := true }
  | .reverse => { manner with reversed := true }
  | .rows => { manner with layout := .acrossColumns }
  | .showsControls => { manner with masks := false }
  | .single => { manner with layout := .single }
  | .slashes => { manner with marks := .slashes }
  | .tabWidth => { manner with tabWidth? := some value }
  | .unsorted => { manner with order := .unsorted }
  | .width => { manner with lineWidth? := some value }
  | .zeroEnds =>
    { manner with lineEnd := '\x00', layout := .single, style := .literal, masks := false }

namespace Manner

/-- Which links are listed as what they lead to. Where nothing else is asked for, these are operands
that lead to directories which are then listed. -/
def following (manner : Manner) : Following :=
  manner.following?.getD
    (if manner.itself || manner.marks = .all then .nothing else .operandsToDirectories)

/-- Whether a pattern matches a name. A dot that the name begins with has to be in the pattern. -/
def matchesName (pattern : Pattern) (name : Text) : Bool :=
  pattern.accepts name && (name.head? != some '.' || pattern.head? == some (.exactly '.'))

def lists (manner : Manner) (name : Text) : Bool :=
  !(manner.dotted = .hidden && name.head? == some '.') &&
    !(manner.dotted = .entries && (name = ['.'] || name = ['.', '.'])) &&
    !(manner.dotted = .hidden && manner.hidden.any (matchesName · name)) &&
    !manner.ignored.any (matchesName · name)

def protectedMarks (manner : Manner) : Text :=
  match manner.marks with
  | .none | .slashes => []
  | .types => "*=>@|".toList
  | .all => "=>@|".toList

def written (manner : Manner) (marks name : Text) : Text :=
  match manner.style with
  | .literal =>
    if manner.masks then name.map fun c => if Quoting.isPrintable c then c else '?' else name
  | .escaped => Quoting.withEscapes marks name
  | .quoted => '"' :: Quoting.withEscapes ('"' :: marks) name ++ ['"']
  | .forShell => Quoting.quotedUnlessFree marks name
  | .forShellAlways => Quoting.quotedName name

def writtenName (manner : Manner) (name : Text) : Text :=
  manner.written
    (if manner.style = .escaped then ' ' :: manner.protectedMarks else manner.protectedMarks) name

def heading (manner : Manner) (name : Text) : Text :=
  manner.written [':'] name ++ [':', '\n']

end Manner

/-- An entry to be listed: what is at it, and whether it is a link that leads to a directory. -/
structure Entry where
  name : Text
  node : Node
  leadsToDirectory : Bool

namespace Entry

def directorySize : Nat := 4096

def size (entry : Entry) : Nat :=
  match entry.node with
  | .directory => directorySize
  | .file content _ => content.length
  | .link target => Utf8.size target
  | .device _ => 0

def mark (marks : Marks) (entry : Entry) : Text :=
  match marks, entry.node with
  | .none, _ => []
  | _, .directory => ['/']
  | .types, .link _ | .all, .link _ => ['@']
  | .all, .file _ mode => if mode &&& 0o111 ≠ 0 then ['*'] else []
  | _, _ => []

def ending (name : Text) : Text :=
  match name.reverse.span (· != '.') with
  | (last, dot :: _) => dot :: last.reverse
  | (_, []) => []

def widthOf (text : Text) : Nat := (text.filter Quoting.isPrintable).length

def compareTexts (first second : Text) : Ordering :=
  if first = second then .eq else if Text.le first second then .lt else .gt

def compareBy (manner : Manner) (first second : Entry) : Ordering :=
  let byName := compareTexts first.name second.name
  match manner.order with
  | .unsorted => .eq
  | .byName => byName
  | .byEnding => (compareTexts (ending first.name) (ending second.name)).then byName
  | .bySize => (compare second.size first.size).then byName
  | .byVersion => (VersionOrder.compareNames first.name second.name).then byName
  | .byWidth =>
    (compare (widthOf (manner.writtenName first.name))
      (widthOf (manner.writtenName second.name))).then byName

def precedes (manner : Manner) (first second : Entry) : Bool :=
  let isDirectory (entry : Entry) : Bool := entry.node = .directory || entry.leadsToDirectory
  if manner.directoriesFirst && isDirectory first != isDirectory second then isDirectory first
  else
    compareBy manner first second != if manner.reversed then .lt else .gt

end Entry

def inOrder (manner : Manner) (entries : List Entry) : List Entry :=
  if manner.order = .unsorted then entries else entries.mergeSort (Entry.precedes manner)

/-- What has been listed: the octets, how bad the worst fault was, and whether a heading was written. -/
structure Progress where
  written : List Text
  fault : Nat
  headed : Bool

abbrev Reporting := StateT Progress Running

def complain (isOperand : Bool) (parts : List Text) : Reporting Unit := do
  (Running.complain parts : Running Unit)
  modify fun progress => { progress with fault := max progress.fault (if isOperand then 2 else 1) }

def write (octets : Text) : Reporting Unit :=
  modify fun progress => { progress with written := octets :: progress.written }

def about (wording : String) (path : Text) : Text := wording.toList ++ Quoting.quotedName path

def lookUp (manner : Manner) (isOperand : Bool) (path : Text) :
    Reporting (Except HostError Node) :=
  fun progress => do
    let files := (← get).files
    let itself := (files.linkStatus (Octets.text path)).map (·.2)
    let target := (files.status (Octets.text path)).map (·.2)
    return (match manner.following, isOperand with
      | .everything, _ | .operands, true => target
      | .operandsToDirectories, true =>
        match target with
        | .ok .directory | .error .nameTooLong | .error .notDirectory => target
        | _ => itself
      | _, _ => itself, progress)

def operand? (manner : Manner) (operand : Text) : Reporting (Option Entry) := do
  match ← lookUp manner true operand with
  | .ok node =>
    let leads ← (Running.ask (·.isDirectory (Octets.text operand)) : Running Bool)
    return some ⟨operand, node, leads⟩
  | .error error =>
    complain true [about "cannot access " operand, error.description]
    return none

def inside (directory name : Text) : Text :=
  if directory.getLast? = some '/' then directory ++ name else directory ++ '/' :: name

def Manner.asksTargets (manner : Manner) : Bool :=
  manner.following = .everything &&
    (manner.recursive || manner.directoriesFirst || manner.marks ≠ .none ||
      manner.order = .bySize)

/-- An entry of a directory as it is listed. Of a link whose target was asked for and cannot be looked
up nothing is known but that it is a link. -/
def memberOf (manner : Manner) (directory name : Text) (node : Node) : Reporting Entry := do
  let path := if directory = ['.'] then name else inside directory name
  let leads ← (Running.ask (·.isDirectory (Octets.text path)) : Running Bool)
  match node with
  | .link _ =>
    if manner.asksTargets then
      match ← lookUp manner false path with
      | .ok node => return ⟨name, node, leads⟩
      | .error error =>
        complain false [about "cannot access " path, error.description]
        return ⟨name, .link [], leads⟩
    else return ⟨name, node, leads⟩
  | _ => return ⟨name, node, leads⟩

/-- Writes entries. In columns a name without quotation marks is moved by a blank where one of the names
that were looked up has them. -/
def writeEntries (manner : Manner) (page : Page) (names : List Text) (entries : List Entry) :
    Reporting Unit :=
  let aligned :=
    manner.style = .forShell && page.lineWidth ≠ 0 &&
      (manner.layout = .downColumns || manner.layout = .acrossColumns) &&
      names.any fun name => manner.writtenName name != name
  let items := entries.map fun entry =>
    let name := manner.writtenName entry.name
    let lead := if aligned && name == entry.name then [' '] else []
    let shown := lead ++ name ++ entry.mark manner.marks
    (⟨shown, Entry.widthOf shown⟩ : ListingItem)
  write (Listing.text page manner.layout items)

def childPath (directory name : Text) : Text :=
  let trimmed := (directory.reverse.dropWhile (· == '/')).reverse
  if trimmed.isEmpty then directory ++ name else trimmed ++ '/' :: name

/-- Lists a directory, and what is in the directories of it if that is asked for, to a depth. `above`
are the directories that are being listed. -/
def listDirectory (manner : Manner) (page : Page) (isOperand withHeading : Bool) :
    (depth : Nat) → (above : List Location) → (path : Text) → Reporting Unit
  | 0, _, _ => pure ()
  | depth + 1, above, path => do
    let found ← (Running.ask (fun files =>
      (files.status (Octets.text path)).bind fun (location, node) =>
        if node = .directory then .ok (location, files.children location)
        else .error .notDirectory) : Running (Except HostError (Location × List (Name × Node))))
    match found with
    | .error error => complain isOperand [about "cannot open directory " path, error.description]
    | .ok (location, children) =>
      if manner.recursive && above.contains location then
        complain true [Quoting.quotedBeforeColon path, "not listing already-listed directory".toList]
      else
        if manner.recursive || withHeading then
          if (← get).headed then write ['\n']
          modify fun progress => { progress with headed := true }
          write (manner.heading path)
        let names := ((['.'], Node.directory) :: (['.', '.'], Node.directory) ::
          children.reverse.map fun (name, node) => (Octets.ofText name.text, node))
        let members ← (names.filter (manner.lists ·.1)).mapM fun (name, node) =>
          memberOf manner path name node
        let members := inOrder manner members
        writeEntries manner page (members.map (·.name)) members
        if manner.recursive then
          for member in members do
            if member.node = .directory && member.name ≠ ['.'] && member.name ≠ ['.', '.'] then
              listDirectory manner page false true depth (location :: above)
                (childPath path member.name)

def depthLimit : Nat := 2048

def listOperands (manner : Manner) (page : Page) (operands : List Text) : Reporting Unit := do
  let entries ←
    if operands.isEmpty then pure [⟨['.'], .directory, true⟩]
    else operands.filterMapM (operand? manner)
  let entries := inOrder manner entries
  let opens (entry : Entry) : Bool := !manner.itself && entry.node = .directory
  let files := entries.filter (!opens ·)
  let directories := entries.filter opens
  writeEntries manner page operands files
  if !files.isEmpty && !directories.isEmpty then write ['\n']
  let withHeading := !files.isEmpty || 1 < operands.length || 1 < directories.length
  for directory in directories do
    listDirectory manner page true withHeading depthLimit [] directory.name

def measure? (text : Text) : Option Nat :=
  match Numeral.read? none text with
  | some ⟨false, number, []⟩ => some (if number < Numeral.wordLimit / 2 then number else 0)
  | _ => none

def pageOf (manner : Manner) (environment : Bindings Text Text) : Except Text Page :=
  let fromEnvironment (name : String) (standard : Nat) : Nat :=
    ((environment.get? name.toList).bind measure?).getD standard
  let asked (wording : String) (value? : Option Text) (standard : Nat) : Except Text Nat :=
    match value? with
    | none => .ok standard
    | some value =>
      match measure? value with
      | some number => .ok number
      | none => .error (wording.toList ++ Quoting.quoted value)
  match asked "invalid line width: " manner.lineWidth? (fromEnvironment "COLUMNS" 80),
    asked "invalid tab size: " manner.tabWidth? (fromEnvironment "TABSIZE" 8) with
  | .ok lineWidth, .ok tabWidth => .ok ⟨lineWidth, tabWidth, manner.lineEnd⟩
  | .error complaint, _ | _, .error complaint => .error complaint

def program : Program :=
  Options.withRules rules 2 fun options => do
    let manner := options.options.foldl Manner.withOption .plain
    match pageOf manner (← read).environment with
    | .error complaint =>
      Running.complain [complaint]
      return .exited 2
    | .ok page =>
      let (_, progress) ← (listOperands manner page options.operands).run ⟨[], 0, false⟩
      let octets := progress.written.reverse.flatten
      if !octets.isEmpty then Running.print octets
      Running.finish 2 (.exited progress.fault)

end LineScript.Programs.Ls
