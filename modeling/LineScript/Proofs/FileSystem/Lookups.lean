import LineScript.FileSystem.Calls
import LineScript.Proofs.FileSystem.Tree

/-!
# Lookups in two parts

A lookup finds the directory that holds the last entry of a path and then looks at that entry. What it
finds stays found as long as nothing goes. So where the question for a link itself finds nothing, a
wish for a file can only be met by a free name in that directory.
-/

namespace LineScript

set_option autoImplicit false

/-! ## Paths that go one name further -/

namespace Path

theorem parts_ne_nil (path : Path) : parts path ≠ [] := by
  cases path with
  | nil => exact List.cons_ne_nil _ _
  | cons c rest =>
    rw [parts]
    split
    · exact List.cons_ne_nil _ _
    · split <;> exact List.cons_ne_nil _ _

theorem parts_append_slash (first second : Path) :
    parts (first ++ '/' :: second) = parts first ++ parts second := by
  induction first with
  | nil => simp [parts]
  | cons c rest ih =>
    rw [List.cons_append, parts, parts, ih]
    by_cases slash : c = '/'
    · rw [if_pos slash, if_pos slash, List.cons_append]
    · rw [if_neg slash, if_neg slash]
      obtain ⟨part, others, spelled⟩ := List.exists_cons_of_ne_nil (parts_ne_nil rest)
      rw [spelled]
      rfl

theorem parts_of_not_mem_slash {text : Text} (plain : '/' ∉ text) : parts text = [text] := by
  induction text with
  | nil => rfl
  | cons c rest ih =>
    rw [List.mem_cons, not_or] at plain
    rw [parts, if_neg (Ne.symm plain.1), ih plain.2]

end Path

namespace Name

theorem is_absolute_text (name : Name) : Path.isAbsolute name.text = false := by
  obtain ⟨c, rest, spelled⟩ := List.exists_cons_of_ne_nil name.text_ne_nil
  have plain := name.isEntryName.2.1
  rw [spelled, List.mem_cons, not_or] at plain
  rw [spelled, Path.isAbsolute, List.head?_cons, beq_eq_false_iff_ne]
  intro same
  injection same with same
  exact plain.1 same.symm

theorem of_part?_text (name : Name) : Component.ofPart? name.text = some (.entry name) := by
  obtain ⟨-, -, notHere, notUp⟩ := name.isEntryName
  rw [Component.ofPart?, if_neg notHere, if_neg notUp, of_text?_text]
  rfl

theorem get_last?_text (path : Path) (name : Name) :
    ((path ++ name.text).getLast? == some '/') = false := by
  rw [List.getLast?_append_of_ne_nil _ name.text_ne_nil, beq_eq_false_iff_ne]
  intro slash
  exact name.isEntryName.2.1 (List.mem_of_getLast? slash)

end Name

theorem Route.of_path_join {path : Path} (inside : path ≠ []) (name : Name) :
    Route.ofPath (Path.join path name.text) =
      ⟨Path.isAbsolute path, (Route.ofPath path).components ++ [.entry name], false⟩ := by
  have absolute : ∀ rest, Path.isAbsolute (path ++ rest) = Path.isAbsolute path := by
    intro rest
    rw [Path.isAbsolute, List.head?_append_of_ne_nil _ inside, Path.isAbsolute]
  have nameParts := Path.parts_of_not_mem_slash name.isEntryName.2.1
  have occupied : path.isEmpty = false := List.isEmpty_eq_false_iff.mpr inside
  rw [Path.join, if_neg (by rw [name.is_absolute_text]; exact Bool.false_ne_true), occupied,
    Bool.false_or]
  by_cases slash : (path.getLast? == some '/') = true
  · rw [if_pos slash]
    obtain ⟨start, rfl⟩ := List.getLast?_eq_some_iff.mp (eq_of_beq slash)
    have extended : start ++ ['/'] ++ name.text = start ++ '/' :: name.text := by simp
    have ended : Path.parts (start ++ ['/']) = Path.parts start ++ [[]] :=
      Path.parts_append_slash start []
    have blank : Component.ofPart? [] = none := by decide
    rw [Route.ofPath, absolute, Name.get_last?_text, extended, Path.parts_append_slash, nameParts,
      Route.ofPath, ended]
    simp [List.filterMap_append, name.of_part?_text, blank]
  · rw [if_neg slash]
    have extended : path ++ '/' :: name.text = path ++ ['/'] ++ name.text := by simp
    rw [Route.ofPath, absolute, extended, Name.get_last?_text, ← extended, Path.parts_append_slash,
      nameParts, Route.ofPath]
    simp [List.filterMap_append, name.of_part?_text]

theorem Route.of_path_text (name : Name) :
    Route.ofPath name.text = ⟨false, [.entry name], false⟩ := by
  have last := Name.get_last?_text [] name
  rw [List.nil_append] at last
  rw [Route.ofPath, name.is_absolute_text, Path.parts_of_not_mem_slash name.isEntryName.2.1, last]
  simp [name.of_part?_text]

namespace FileSystem

variable {files : FileSystem} {path : Path} {directory location : Location} {name : Name}
  {slash : Bool} {request : Request} {error : HostError}

/-! ## The directory and the last entry -/

theorem follow_entry_of_more (files : FileSystem) (direct : request.stepwise = false) (links : Nat)
    (slash : Bool) (directory : Location) (name : Name) {rest : List Component} (more : rest ≠ []) :
    files.follow request links slash directory (.entry name :: rest) =
      if name.isTooLong then .error .nameTooLong
      else
        match files.get? (directory ++ [name]) with
        | none => .error .noSuchEntry
        | some .directory => files.follow request links slash (directory ++ [name]) rest
        | some (.link target) =>
          if target.isEmpty then .error .noSuchEntry
          else
            match links with
            | 0 => .error .linkLoop
            | links + 1 =>
              files.follow request links slash
                (if (Route.ofPath target).fromRoot then [] else directory)
                ((Route.ofPath target).components ++ rest)
        | some _ => .error .notDirectory := by
  have goesOn : rest.isEmpty = false := List.isEmpty_eq_false_iff.mpr more
  have step := Eq.refl (files.follow request links slash directory (.entry name :: rest))
  conv_rhs at step => rw [follow]
  simp only [goesOn, direct, Bool.false_and, Bool.or_false, Bool.false_eq_true, if_false] at step
  exact step

theorem follow_entry (files : FileSystem) (direct : request.stepwise = false)
    (asks : request.creates = false) (links : Nat) (slash : Bool) (directory : Location)
    (name : Name) (rest : List Component) :
    files.follow request links slash directory (.entry name :: rest) =
      if name.isTooLong then .error .nameTooLong
      else
        match files.get? (directory ++ [name]) with
        | none =>
          if rest.isEmpty && files.get? directory == some .directory then
            .ok (.vacant directory name)
          else .error .noSuchEntry
        | some .directory => files.follow request links slash (directory ++ [name]) rest
        | some (.link target) =>
          if rest.isEmpty && !slash && !request.followsLast then
            .ok (.present (directory ++ [name]) (.link target))
          else if target.isEmpty then .error .noSuchEntry
          else
            match links with
            | 0 => .error .linkLoop
            | links + 1 =>
              files.follow request links
                (slash || rest.isEmpty && (Route.ofPath target).endsInSlash)
                (if (Route.ofPath target).fromRoot then [] else directory)
                ((Route.ofPath target).components ++ rest)
        | some node =>
          if rest.isEmpty && !slash then .ok (.present (directory ++ [name]) node)
          else .error .notDirectory := by
  have step := Eq.refl (files.follow request links slash directory (.entry name :: rest))
  conv_rhs at step => rw [follow]
  simp only [direct, asks, Bool.and_false, Bool.false_and, Bool.or_false, Bool.false_eq_true,
    if_false] at step
  exact step

theorem follow_destination_entry (files : FileSystem) (links : Nat) (directory : Location)
    (name : Name) (rest : List Component) :
    files.follow .destination links true directory (.entry name :: rest) =
      if name.isTooLong then .error .nameTooLong
      else
        match files.get? (directory ++ [name]) with
        | none =>
          if rest.isEmpty && files.get? directory == some .directory then
            .ok (.vacant directory name)
          else .error .noSuchEntry
        | some .directory => files.follow .destination links true (directory ++ [name]) rest
        | some (.link target) =>
          if target.isEmpty then .error .noSuchEntry
          else
            match links with
            | 0 => .error .linkLoop
            | links + 1 =>
              files.follow .destination links true
                (if (Route.ofPath target).fromRoot then [] else directory)
                ((Route.ofPath target).components ++ rest)
        | some _ => .error .notDirectory := by
  have step := @follow_entry .destination files rfl rfl links true directory name rest
  simp only [Bool.not_true, Bool.and_false, Bool.false_and, Bool.false_eq_true, if_false,
    Bool.true_or] at step
  exact step

/-- A lookup of several components looks for a directory first and goes on from there, with the links
that are left. -/
theorem exists_follow_append (files : FileSystem) (direct : request.stepwise = false) (slash : Bool)
    {rest : List Component} (more : rest ≠ []) (links : Nat) (directory : Location)
    (components : List Component) :
    ∃ left, files.follow request links slash directory (components ++ rest) =
      match files.follow .destination links true directory components with
      | .ok (.present middle _) => files.follow request left slash middle rest
      | .ok (.vacant _ _) => .error .noSuchEntry
      | .error error => .error error := by
  -- A link puts its own components in front and costs one of the links that are left.
  induction links using Nat.strongRecOn generalizing directory components with
  | ind links fewer =>
    induction components generalizing directory with
    | nil =>
      refine ⟨links, ?_⟩
      rw [List.nil_append, follow]
    | cons component components ih =>
      cases component with
      | here =>
        rw [List.cons_append, follow, follow]
        exact ih directory
      | up =>
        rw [List.cons_append, follow, follow]
        exact ih directory.dropLast
      | entry name =>
        have goesOn : components ++ rest ≠ [] := List.append_ne_nil_of_right_ne_nil _ more
        rw [List.cons_append, follow_entry_of_more files direct links slash directory name goesOn,
          follow_destination_entry]
        by_cases long : name.isTooLong = true
        · rw [if_pos long, if_pos long]
          exact ⟨0, rfl⟩
        · rw [if_neg long, if_neg long]
          rcases files.get? (directory ++ [name]) with _ | _ | _ | target | device
          · dsimp only
            by_cases vacant : (components.isEmpty && files.get? directory == some .directory) = true
            · rw [if_pos vacant]
              exact ⟨0, rfl⟩
            · rw [if_neg vacant]
              exact ⟨0, rfl⟩
          · exact ih (directory ++ [name])
          · exact ⟨0, rfl⟩
          · dsimp only
            by_cases blank : target.isEmpty = true
            · rw [if_pos blank, if_pos blank]
              exact ⟨0, rfl⟩
            · rw [if_neg blank, if_neg blank]
              cases links with
              | zero => exact ⟨0, rfl⟩
              | succ links =>
                dsimp only
                rw [← List.append_assoc]
                exact fewer links (Nat.lt_succ_self links) _ _
          · exact ⟨0, rfl⟩

theorem follow_last_of_free (direct : request.stepwise = false) {links : Nat} {arrival : Arrival}
    (free : files.get? (directory ++ [name]) = none)
    (arrived : files.follow request links slash directory [.entry name] = .ok arrival) :
    arrival = .vacant directory name ∧ files.get? directory = some .directory := by
  rw [follow, free] at arrived
  simp only [direct, List.isEmpty_nil, Bool.true_and, Bool.false_and, Bool.or_false] at arrived
  split at arrived
  · cases arrived
  · split at arrived
    · cases arrived
    · split at arrived
      · rename_i above
        cases arrived
        exact ⟨rfl, eq_of_beq above⟩
      · cases arrived

/-- A question for a link itself only finds nothing in its last step at a free name, or where a slash
asks for a directory and there is none. -/
theorem free_of_follow_last {links : Nat} (short : name.isTooLong = false)
    (absent : ∀ location node, files.follow .linkItself links slash directory [.entry name] ≠
      .ok (.present location node)) :
    files.get? (directory ++ [name]) = none ∨
      slash = true ∧ files.get? (directory ++ [name]) ≠ some .directory := by
  have step := Eq.refl (files.follow .linkItself links slash directory [.entry name])
  conv_rhs at step => rw [follow]
  simp only [Request.linkItself, short, List.isEmpty_nil, Bool.true_and, Bool.false_and,
    Bool.or_false, Bool.and_false, Bool.not_false, Bool.and_true, Bool.false_eq_true, if_false]
    at step
  cases standing : files.get? (directory ++ [name]) with
  | none => exact .inl rfl
  | some node =>
    rw [standing] at step
    right
    cases slash with
    | true =>
      refine ⟨rfl, ?_⟩
      rintro same
      cases same
      rw [follow] at step
      exact absurd step (absent _ _)
    | false =>
      cases node with
      | directory =>
        rw [follow] at step
        exact absurd step (absent _ _)
      | file | link | device => exact absurd step (absent _ _)

theorem follow_last_of_is_too_long (files : FileSystem) (request : Request) (links : Nat)
    (slash : Bool) (directory : Location) (long : name.isTooLong = true) :
    ∃ error, files.follow request links slash directory [.entry name] = .error error := by
  rw [follow]
  simp only [long, Bool.true_or, if_true]
  split
  · exact ⟨_, rfl⟩
  · exact ⟨_, rfl⟩

/-- How all lookups of one path begin: with the directory of the entry that the path ends in, or they
fail before it, or they end in a directory without looking at an entry. -/
inductive Approach (files : FileSystem) (path : Path) : Prop where
  | entry (directory : Location) (name : Name) (slash : Bool)
    (parent : files.locateParent path = .ok (directory, .entry name slash))
    (short : name.isTooLong = false)
    (lookups : ∀ request : Request, request.stepwise = false →
      ∃ left, files.locate request path = files.follow request left slash directory [.entry name])
  | fails
    (noParent : ∀ directory name slash,
      files.locateParent path ≠ .ok (directory, .entry name slash))
    (lookups : ∀ request : Request, request.stepwise = false →
      ∃ error, files.locate request path = .error error)
  | directory
    (noParent : ∀ directory name slash,
      files.locateParent path ≠ .ok (directory, .entry name slash))
    (lookups : ∀ request : Request, request.stepwise = false →
      ∃ location, files.locate request path = .ok (.present location .directory))

theorem locate_of_accepted (files : FileSystem) (request : Request)
    (accepted : refusal? path = none) :
    files.locate request path =
      files.follow request linkLimit (Route.ofPath path).endsInSlash
        (files.startOf (Route.ofPath path)) (Route.ofPath path).components := by
  rw [locate, accepted]

/-- The approach of a path whose last component is looked at from the directory `middle`. -/
theorem approach_of_last {component : Component} {middle : Location}
    (parent : files.locateParent path =
      match component with
      | .here => .ok (middle, .here)
      | .up => .ok (middle, .up)
      | .entry name =>
        if name.isTooLong then .error .nameTooLong else .ok (middle, .entry name slash))
    (whole : ∀ request : Request, request.stepwise = false →
      ∃ left, files.locate request path = files.follow request left slash middle [component]) :
    files.Approach path := by
  cases component with
  | here =>
    apply Approach.directory
    · intro directory name slash same
      rw [parent] at same
      cases same
    · intro request direct
      obtain ⟨left, found⟩ := whole request direct
      rw [follow, follow] at found
      exact ⟨middle, found⟩
  | up =>
    apply Approach.directory
    · intro directory name slash same
      rw [parent] at same
      cases same
    · intro request direct
      obtain ⟨left, found⟩ := whole request direct
      rw [follow, follow] at found
      exact ⟨middle.dropLast, found⟩
  | entry name =>
    dsimp only at parent
    by_cases long : name.isTooLong = true
    · rw [if_pos long] at parent
      apply Approach.fails
      · intro directory name slash same
        rw [parent] at same
        cases same
      · intro request direct
        obtain ⟨left, found⟩ := whole request direct
        obtain ⟨error, failed⟩ := files.follow_last_of_is_too_long request left slash middle long
        exact ⟨error, found.trans failed⟩
    · rw [if_neg long] at parent
      exact .entry middle name slash parent (Bool.eq_false_iff.mpr long) whole

theorem approach (files : FileSystem) (path : Path) : files.Approach path := by
  cases accepted : refusal? path with
  | some error =>
    apply Approach.fails
    · intro directory name slash same
      rw [locateParent, accepted] at same
      cases same
    · intro request _
      rw [locate, accepted]
      exact ⟨error, rfl⟩
  | none =>
    have parent := Eq.refl (files.locateParent path)
    conv_rhs at parent => rw [locateParent, accepted]
    have lookup := fun request => locate_of_accepted files request accepted
    generalize Route.ofPath path = route at parent lookup
    dsimp only at parent
    cases last : route.components.getLast? with
    | none =>
      have bare := List.getLast?_eq_none_iff.mp last
      rw [bare, List.dropLast_nil, follow] at parent
      apply Approach.directory
      · intro directory name slash same
        rw [parent] at same
        cases same
      · intro request _
        refine ⟨files.startOf route, ?_⟩
        rw [lookup, bare, follow]
    | some component =>
      have whole := fun (request : Request) (direct : request.stepwise = false) =>
        files.exists_follow_append direct route.endsInSlash (List.cons_ne_nil component [])
          linkLimit (files.startOf route) route.components.dropLast
      simp only [List.dropLast_append_getLast? component last, ← lookup] at whole
      rw [last] at parent
      generalize files.follow .destination linkLimit true (files.startOf route)
        route.components.dropLast = walked at parent whole
      -- What follows the directory of the last component is only looked at if there is one.
      rcases walked with error | ⟨middle, node⟩ | ⟨middle, missing⟩
      · apply Approach.fails
        · intro directory name slash same
          rw [parent] at same
          cases same
        · intro request direct
          obtain ⟨left, found⟩ := whole request direct
          exact ⟨error, found⟩
      · apply approach_of_last _ whole
        rw [parent]
        cases component <;> rfl
      · apply Approach.fails
        · intro directory name slash same
          rw [parent] at same
          cases same
        · intro request direct
          obtain ⟨left, found⟩ := whole request direct
          exact ⟨.noSuchEntry, found⟩

/-! ## Absent entries -/

/-- Nothing stands at a path. A link stands there even if it leads nowhere. -/
def IsAbsent (files : FileSystem) (path : Path) : Prop :=
  ∀ location node, files.locate .linkItself path ≠ .ok (.present location node)

theorem is_absent_of_link_status (failed : files.linkStatus path = .error error) :
    files.IsAbsent path := by
  intro location node found
  rw [linkStatus, locateEntry, found] at failed
  cases failed

/-- The name that an absent path ends in is free, unless a slash asks for a directory there and
something else stands in its place. -/
theorem IsAbsent.free_or_slash (absent : files.IsAbsent path)
    (parent : files.locateParent path = .ok (directory, .entry name slash)) :
    files.get? (directory ++ [name]) = none ∨
      slash = true ∧ files.get? (directory ++ [name]) ≠ some .directory := by
  rcases files.approach path with ⟨_, _, _, parent', short, lookups⟩ | ⟨noParent, _⟩ | ⟨noParent, _⟩
  · rw [parent] at parent'
    cases parent'
    obtain ⟨left, lookup⟩ := lookups .linkItself rfl
    have missed : ∀ location node, files.follow .linkItself left slash directory [.entry name] ≠
        .ok (.present location node) := by
      rw [← lookup]
      exact absent
    exact free_of_follow_last short missed
  · exact absurd parent (noParent _ _ _)
  · exact absurd parent (noParent _ _ _)

/-- A wish for a file at an absent path can only be met by a free name in a directory. -/
theorem IsAbsent.locate_file_to_write {arrival : Arrival} (absent : files.IsAbsent path)
    (arrived : files.locate .fileToWrite path = .ok arrival) :
    ∃ directory name slash, files.locateParent path = .ok (directory, .entry name slash) ∧
      files.get? (directory ++ [name]) = none ∧ files.get? directory = some .directory ∧
      arrival = .vacant directory name := by
  rcases files.approach path with ⟨directory, name, slash, parent, _, lookups⟩ | ⟨_, lookups⟩ |
    ⟨_, lookups⟩
  · obtain ⟨left, lookup⟩ := lookups .fileToWrite rfl
    rw [lookup] at arrived
    rcases absent.free_or_slash parent with free | ⟨rfl, -⟩
    · obtain ⟨arrival_eq, above⟩ := follow_last_of_free rfl free arrived
      exact ⟨directory, name, slash, parent, free, above, arrival_eq⟩
    · rw [follow] at arrived
      cases arrived
  · obtain ⟨error, failed⟩ := lookups .fileToWrite rfl
    rw [failed] at arrived
    cases arrived
  · obtain ⟨location, found⟩ := lookups .linkItself rfl
    exact absurd found (absent location .directory)

/-! ## Lookups while nothing goes -/

/-- All that stands in one file system stands in another as well. -/
structure IsKeptBy (before after : FileSystem) : Prop where
  workingDirectory_eq : after.workingDirectory = before.workingDirectory
  get?_eq : ∀ location node, before.get? location = some node → after.get? location = some node

theorem IsKeptBy.follow {before after : FileSystem} (kept : before.IsKeptBy after)
    (direct : request.stepwise = false) (asks : request.creates = false) {node : Node} (links : Nat)
    (slash : Bool) (directory : Location) (components : List Component)
    (found : before.follow request links slash directory components =
      .ok (.present location node)) :
    after.follow request links slash directory components = .ok (.present location node) := by
  induction links using Nat.strongRecOn generalizing slash directory components with
  | ind links fewer =>
    induction components generalizing directory with
    | nil =>
      rw [FileSystem.follow] at found ⊢
      exact found
    | cons component components ih =>
      cases component with
      | here =>
        rw [FileSystem.follow] at found ⊢
        exact ih directory found
      | up =>
        rw [FileSystem.follow] at found ⊢
        exact ih directory.dropLast found
      | entry name =>
        rw [follow_entry _ direct asks] at found ⊢
        by_cases long : name.isTooLong = true
        · rw [if_pos long] at found
          cases found
        · rw [if_neg long] at found ⊢
          cases standing : before.get? (directory ++ [name]) with
          | none =>
            rw [standing] at found
            dsimp only at found
            split at found <;> cases found
          | some node =>
            rw [kept.get?_eq _ _ standing]
            rw [standing] at found
            cases node with
            | directory => exact ih (directory ++ [name]) found
            | file | device => exact found
            | link target =>
              dsimp only at found ⊢
              by_cases stops : (components.isEmpty && !slash && !request.followsLast) = true
              · rw [if_pos stops] at found ⊢
                exact found
              · rw [if_neg stops] at found ⊢
                by_cases blank : target.isEmpty = true
                · rw [if_pos blank] at found
                  cases found
                · rw [if_neg blank] at found ⊢
                  cases links with
                  | zero => cases found
                  | succ links => exact fewer links (Nat.lt_succ_self links) _ _ _ found

theorem locate_parent_eq_entry_iff :
    files.locateParent path = .ok (directory, .entry name slash) ↔
      refusal? path = none ∧ name.isTooLong = false ∧ (Route.ofPath path).endsInSlash = slash ∧
        ∃ components node, (Route.ofPath path).components = components ++ [.entry name] ∧
          files.follow .destination linkLimit true (files.startOf (Route.ofPath path)) components =
            .ok (.present directory node) := by
  constructor
  · intro found
    unfold locateParent at found
    cases accepted : refusal? path with
    | some error =>
      rw [accepted] at found
      cases found
    | none =>
      rw [accepted] at found
      dsimp only at found
      split at found
      · cases found
      · cases found
      · rename_i node walked
        split at found
        · cases found
        · cases found
        · cases found
        · rename_i other last
          split at found
          · cases found
          · rename_i short
            cases found
            have split_eq := List.dropLast_append_getLast? _ last
            exact ⟨rfl, Bool.eq_false_iff.mpr short, rfl, _, node, split_eq.symm, walked⟩
  · rintro ⟨accepted, short, rfl, components, node, split_eq, walked⟩
    rw [locateParent, accepted]
    dsimp only
    rw [split_eq, List.dropLast_concat, walked, List.getLast?_concat]
    dsimp only
    rw [short, if_neg Bool.false_ne_true]

section Kept

variable {before after : FileSystem}

theorem IsKeptBy.start_of_eq (kept : before.IsKeptBy after) (route : Route) :
    after.startOf route = before.startOf route := by
  rw [startOf, startOf, kept.workingDirectory_eq]

theorem IsKeptBy.locate_parent (kept : before.IsKeptBy after)
    (parent : before.locateParent path = .ok (directory, .entry name slash)) :
    after.locateParent path = .ok (directory, .entry name slash) := by
  rw [locate_parent_eq_entry_iff] at parent ⊢
  obtain ⟨accepted, short, slash_eq, components, node, split_eq, walked⟩ := parent
  rw [kept.start_of_eq]
  exact ⟨accepted, short, slash_eq, components, node, split_eq,
    kept.follow rfl rfl _ _ _ _ walked⟩

/-- A path leads to a directory at `location`, all links followed. -/
def LeadsTo (files : FileSystem) (path : Path) (location : Location) : Prop :=
  refusal? path = none ∧ ∃ node,
    files.follow .destination linkLimit true (files.startOf (Route.ofPath path))
      (Route.ofPath path).components = .ok (.present location node)

theorem LeadsTo.of_is_kept_by (leads : before.LeadsTo path location)
    (kept : before.IsKeptBy after) : after.LeadsTo path location := by
  obtain ⟨accepted, node, found⟩ := leads
  refine ⟨accepted, node, ?_⟩
  rw [kept.start_of_eq]
  exact kept.follow rfl rfl _ _ _ _ found

end Kept

theorem leads_to_of_directory (parent : files.locateParent path = .ok (directory, .entry name slash))
    (standing : files.get? (directory ++ [name]) = some .directory) :
    files.LeadsTo path (directory ++ [name]) := by
  rw [locate_parent_eq_entry_iff] at parent
  obtain ⟨accepted, short, -, components, node, split_eq, walked⟩ := parent
  obtain ⟨left, whole⟩ := @exists_follow_append .destination files rfl true _
    (List.cons_ne_nil (.entry name) []) linkLimit (files.startOf (Route.ofPath path)) components
  rw [walked] at whole
  dsimp only at whole
  rw [follow_destination_entry, short, if_neg Bool.false_ne_true, standing] at whole
  dsimp only at whole
  rw [follow, ← split_eq] at whole
  exact ⟨accepted, .directory, whole⟩

theorem LeadsTo.ne_nil (leads : files.LeadsTo path location) : path ≠ [] := by
  rintro rfl
  cases leads.1

/-- A lookup of a name after a path looks at that name in the directory that the path leads to. -/
theorem LeadsTo.locate_join (leads : files.LeadsTo path location) (request : Request)
    (direct : request.stepwise = false)
    (accepted : refusal? (Path.join path name.text) = none) :
    ∃ left, files.locate request (Path.join path name.text) =
      files.follow request left false location [.entry name] := by
  obtain ⟨left, whole⟩ := files.exists_follow_append direct false
    (List.cons_ne_nil (.entry name) []) linkLimit (files.startOf (Route.ofPath path))
    (Route.ofPath path).components
  obtain ⟨node, walked⟩ := leads.2
  rw [walked] at whole
  refine ⟨left, ?_⟩
  rw [locate_of_accepted _ _ accepted, Route.of_path_join leads.ne_nil]
  exact whole

/-- The parent of a name after a path is the directory that the path leads to. -/
theorem LeadsTo.locate_parent_join {arrival : Location × LastStep} (leads : files.LeadsTo path location)
    (name : Name) (found : files.locateParent (Path.join path name.text) = .ok arrival) :
    arrival = (location, .entry name false) := by
  have inside := leads.ne_nil
  obtain ⟨accepted, node, walked⟩ := leads
  unfold locateParent at found
  rw [Route.of_path_join inside] at found
  have start_eq : files.startOf
      ⟨Path.isAbsolute path, (Route.ofPath path).components ++ [.entry name], false⟩ =
        files.startOf (Route.ofPath path) := rfl
  split at found
  · cases found
  · dsimp only at found
    rw [List.dropLast_concat, start_eq, walked, List.getLast?_concat] at found
    dsimp only at found
    split at found
    · cases found
    · cases found
      rfl

/-- A free name in the directory that a path leads to is absent as the end of a longer path. -/
theorem LeadsTo.is_absent_join (leads : files.LeadsTo path location)
    (free : files.get? (location ++ [name]) = none) :
    files.IsAbsent (Path.join path name.text) := by
  intro arrival standing found
  cases accepted : refusal? (Path.join path name.text) with
  | some error =>
    rw [locate, accepted] at found
    cases found
  | none =>
    obtain ⟨left, lookup⟩ := leads.locate_join .linkItself rfl accepted
    cases (follow_last_of_free rfl free (lookup.symm.trans found)).1

end FileSystem

end LineScript
