import Mathlib.Data.List.Forall2
import LineScript.Proofs.Engine.Commands
import LineScript.Proofs.Session.Home
import LineScript.Proofs.Text.Words

/-!
# The words of a command

A command text is cut into its longest runs of characters that are not white space. Each run becomes one
word of the command, and only a `~` at the start of an argument is replaced. So, without a home, how the
words are kept apart makes no difference.
-/

namespace LineScript

set_option autoImplicit false

namespace Text

variable {c : Char} {word rest text : Text} {place : Nat}

/-! ## Runs -/

/-- A run of characters that are not white space stands at a place of a text and cannot be prolonged, to
neither side. -/
def IsRunAt (text : Text) (place : Nat) (run : Text) : Prop :=
  ∃ before behind, text = before ++ (run ++ behind) ∧ before.length = place ∧ IsWord run ∧
    endsWith (!isWhiteSpace ·) before = false ∧ beginsWith (!isWhiteSpace ·) behind = false

/-- The longest runs of a text that begins at the place `start`, with the places where they begin. -/
def runs (start : Nat) : Text → List (Nat × Text)
  | [] => []
  | c :: rest =>
    if isWhiteSpace c then runs (start + 1) rest
    else
      let more := rest.takeWhile (!isWhiteSpace ·)
      (start, c :: more) :: runs (start + 1 + more.length) (rest.dropWhile (!isWhiteSpace ·))
termination_by text => text.length
decreasing_by
  · simp
  · have := (List.dropWhile_suffix (l := rest) (!isWhiteSpace ·)).length_le
    simp only [List.length_cons]
    omega

theorem runs_white_space (start : Nat) (rest : Text) (blank : isWhiteSpace c = true) :
    runs start (c :: rest) = runs (start + 1) rest := by
  rw [runs, if_pos blank]

theorem is_word_cons_take_while (solid : isWhiteSpace c = false) (rest : Text) :
    IsWord (c :: rest.takeWhile (!isWhiteSpace ·)) := by
  refine ⟨by simp, ?_⟩
  rw [List.forall_mem_cons]
  exact ⟨solid, solid_of_mem_take_while⟩

theorem IsWord.runs_append (isWord : IsWord word)
    (ends : beginsWith (!isWhiteSpace ·) rest = false) (start : Nat) :
    runs start (word ++ rest) = (start, word) :: runs (start + word.length) rest := by
  obtain ⟨c, more, rfl⟩ := List.exists_cons_of_ne_nil isWord.1
  obtain ⟨solid, solidMore⟩ := List.forall_mem_cons.mp isWord.2
  have inside : ∀ d ∈ more, (!isWhiteSpace d) = true := by simpa using solidMore
  obtain ⟨taken, dropped⟩ := take_while_drop_while_iff.mpr ⟨inside, rfl, ends⟩
  rw [List.cons_append, runs, if_neg (by simp [solid])]
  dsimp only
  rw [taken, dropped, List.length_cons, Nat.add_assoc, Nat.add_comm 1]

/-- A text is built from its end by putting a blank, or a run that cannot be prolonged, before it. -/
theorem run_induction {motive : Text → Prop} (nil : motive [])
    (blank : ∀ c rest, isWhiteSpace c = true → motive rest → motive (c :: rest))
    (run : ∀ word rest, IsWord word → beginsWith (!isWhiteSpace ·) rest = false → motive rest →
      motive (word ++ rest)) (text : Text) : motive text := by
  have all : ∀ _start : Nat, motive text := by
    intro start
    induction start, text using runs.induct with
    | case1 => exact nil
    | case2 start c rest white ih => exact blank c rest white ih
    | case3 start c rest other more ih =>
        have isWord := is_word_cons_take_while (by simpa using other) rest
        have built := run _ _ isWord (begins_with_drop_while _ rest) ih
        rwa [List.cons_append, List.takeWhile_append_dropWhile] at built
  exact all 0

theorem map_runs (start : Nat) (text : Text) : (runs start text).map (·.2) = words text := by
  induction text using run_induction generalizing start with
  | nil => rw [runs]; rfl
  | blank c rest white ih =>
    rw [runs_white_space start rest white, ih, words_cons_white_space rest white]
  | run word rest isWord ends ih =>
      rw [isWord.runs_append ends, List.map_cons, ih, isWord.words_append ends]

theorem le_of_mem_runs {start : Nat} (mem : (place, word) ∈ runs start text) : start ≤ place := by
  induction text using run_induction generalizing start with
  | nil =>
      rw [runs] at mem
      cases mem
  | blank c rest white ih =>
      rw [runs_white_space start rest white] at mem
      have := ih mem
      omega
  | run first rest isWord ends ih =>
      rw [isWord.runs_append ends, List.mem_cons] at mem
      rcases mem with same | later
      · cases same
        exact Nat.le_refl _
      · have := ih later
        omega

theorem pairwise_runs (start : Nat) (text : Text) : (runs start text).Pairwise (·.1 < ·.1) := by
  induction text using run_induction generalizing start with
  | nil =>
      rw [runs]
      exact .nil
  | blank c rest white ih =>
      rw [runs_white_space start rest white]
      exact ih _
  | run word rest isWord ends ih =>
      rw [isWord.runs_append ends, List.pairwise_cons]
      refine ⟨?_, ih _⟩
      intro later mem
      have positive := List.length_pos_iff.mpr isWord.1
      have := le_of_mem_runs mem
      omega

theorem is_run_at_white_space_iff (blank : isWhiteSpace c = true) :
    IsRunAt (c :: rest) place word ↔ ∃ offset, place = offset + 1 ∧ IsRunAt rest offset word := by
  constructor
  · rintro ⟨before, behind, split, rfl, isWord, opens, closes⟩
    cases before with
    | nil =>
        obtain ⟨d, more, rfl⟩ := List.exists_cons_of_ne_nil isWord.1
        have solid := isWord.2 d List.mem_cons_self
        rw [← (List.cons.inj split).1, blank] at solid
        cases solid
    | cons d before =>
        refine ⟨before.length, rfl, before, behind, (List.cons.inj split).2, rfl, isWord, ?_, closes⟩
        by_cases empty : before = []
        · rw [empty, ends_with_nil]
        · rwa [← List.singleton_append, ends_with_append _ empty] at opens
  · rintro ⟨offset, rfl, before, behind, rfl, rfl, isWord, opens, closes⟩
    refine ⟨c :: before, behind, rfl, rfl, isWord, ?_, closes⟩
    by_cases empty : before = []
    · simp [empty, endsWith, blank]
    · rwa [← List.singleton_append, ends_with_append _ empty]

theorem IsWord.eq_of_append_eq {other behind : Text} (isWord : IsWord word) (isOther : IsWord other)
    (ends : beginsWith (!isWhiteSpace ·) rest = false)
    (closes : beginsWith (!isWhiteSpace ·) behind = false) (same : word ++ rest = other ++ behind) :
    word = other := by
  have inside : ∀ {run : Text}, IsWord run → ∀ c ∈ run, (!isWhiteSpace c) = true := by
    intro run isRun c member
    simp [isRun.2 c member]
  have first := take_while_drop_while_iff.mpr ⟨inside isWord, rfl, ends⟩
  have second := take_while_drop_while_iff.mpr ⟨inside isOther, same, closes⟩
  exact first.1.symm.trans second.1

theorem IsWord.not_ends_with_prefix {before : Text} (isWord : IsWord word) (start : before <+: word)
    (opens : endsWith (!isWhiteSpace ·) before = false) : before = [] := by
  cases last : before.getLast? with
  | none => exact List.getLast?_eq_none_iff.mp last
  | some c =>
      have solid := isWord.2 c (start.subset (List.mem_of_getLast? last))
      simp [endsWith, last, solid] at opens

theorem is_run_at_append_iff {first : Text} (isFirst : IsWord first)
    (ends : beginsWith (!isWhiteSpace ·) rest = false) :
    IsRunAt (first ++ rest) place word ↔
      place = 0 ∧ word = first ∨ ∃ offset, place = first.length + offset ∧ IsRunAt rest offset word := by
  constructor
  · rintro ⟨before, behind, split, rfl, isWord, opens, closes⟩
    rcases List.append_eq_append_iff.mp split with ⟨later, rfl, rest_eq⟩ | ⟨inner, first_eq, same⟩
    · right
      refine ⟨later.length, List.length_append, later, behind, rest_eq, rfl, isWord, ?_, closes⟩
      by_cases empty : later = []
      · rw [empty, ends_with_nil]
      · rwa [ends_with_append _ empty] at opens
    · have empty := isFirst.not_ends_with_prefix ⟨inner, first_eq.symm⟩ opens
      subst empty
      rw [List.nil_append] at first_eq
      subst first_eq
      exact .inl ⟨rfl, isWord.eq_of_append_eq isFirst closes ends same⟩
  · rintro (⟨rfl, rfl⟩ | ⟨offset, rfl, before, behind, rfl, rfl, isWord, opens, closes⟩)
    · exact ⟨[], rest, rfl, rfl, isFirst, rfl, ends⟩
    · refine ⟨first ++ before, behind, (List.append_assoc _ _ _).symm, List.length_append, isWord, ?_,
        closes⟩
      by_cases empty : before = []
      · -- A run directly behind the first one would prolong it.
        obtain ⟨c, more, rfl⟩ := List.exists_cons_of_ne_nil isWord.1
        simp [empty, isWord.2 c List.mem_cons_self] at ends
      · rwa [ends_with_append _ empty]

theorem not_is_run_at_nil : ¬ IsRunAt [] place word := by
  rintro ⟨before, behind, split, -, isWord, -⟩
  exact isWord.1 (List.append_eq_nil_iff.mp (List.append_eq_nil_iff.mp split.symm).2).1

theorem mem_runs_iff {start : Nat} :
    (place, word) ∈ runs start text ↔ ∃ offset, place = start + offset ∧ IsRunAt text offset word := by
  induction text using run_induction generalizing start with
  | nil =>
      rw [runs]
      simp [not_is_run_at_nil]
  | blank c rest white ih =>
      rw [runs_white_space start rest white, ih]
      simp only [is_run_at_white_space_iff white]
      constructor
      · rintro ⟨offset, rfl, isRun⟩
        exact ⟨offset + 1, by omega, offset, rfl, isRun⟩
      · rintro ⟨-, rfl, offset, rfl, isRun⟩
        exact ⟨offset, by omega, isRun⟩
  | run first rest isFirst ends ih =>
      rw [isFirst.runs_append ends, List.mem_cons, Prod.mk.injEq, ih]
      simp only [is_run_at_append_iff isFirst ends]
      constructor
      · rintro (⟨rfl, rfl⟩ | ⟨offset, rfl, isRun⟩)
        · exact ⟨0, rfl, .inl ⟨rfl, rfl⟩⟩
        · exact ⟨first.length + offset, by omega, .inr ⟨offset, rfl, isRun⟩⟩
      · rintro ⟨-, rfl, ⟨rfl, rfl⟩ | ⟨offset, rfl, isRun⟩⟩
        · exact .inl ⟨rfl, rfl⟩
        · exact .inr ⟨offset, by omega, isRun⟩

/-! ## Words kept apart -/

/-- Words in their order with white space between neighbours. -/
inductive IsSpaced : List Text → Text → Prop where
  | nil : IsSpaced [] []
  | single (word : Text) : IsSpaced [word] word
  | cons (word gap : Text) {next : Text} {others : List Text} {text : Text} (nonempty : gap ≠ [])
    (blank : ∀ c ∈ gap, isWhiteSpace c = true) (rest : IsSpaced (next :: others) text) :
    IsSpaced (word :: next :: others) (word ++ (gap ++ text))

theorem words_blank_append {gap : Text} (blank : ∀ c ∈ gap, isWhiteSpace c = true) (text : Text) :
    words (gap ++ text) = words text := by
  induction gap with
  | nil => rfl
  | cons c gap ih =>
      obtain ⟨first, others⟩ := List.forall_mem_cons.mp blank
      rw [List.cons_append, words_cons_white_space _ first, ih others]

theorem words_append_blank {gap : Text} (blank : ∀ c ∈ gap, isWhiteSpace c = true) (text : Text) :
    words (text ++ gap) = words text := by
  cases gap with
  | nil => rw [List.append_nil]
  | cons c gap =>
      obtain ⟨first, others⟩ := List.forall_mem_cons.mp blank
      have wordless := words_blank_append others []
      rw [List.append_nil] at wordless
      rw [words_append_white_space text gap first, wordless]
      exact List.append_nil _

theorem IsSpaced.words_eq {list : List Text} (spaced : IsSpaced list text)
    (areWords : ∀ word ∈ list, IsWord word) : words text = list := by
  induction spaced with
  | nil => rfl
  | single word => exact (areWords word List.mem_cons_self).words_eq
  | cons word gap nonempty blank _ ih =>
      obtain ⟨isWord, areOthers⟩ := List.forall_mem_cons.mp areWords
      obtain ⟨c, more, rfl⟩ := List.exists_cons_of_ne_nil nonempty
      obtain ⟨first, others⟩ := List.forall_mem_cons.mp blank
      rw [List.cons_append, words_append_white_space word _ first, words_blank_append others,
        ih areOthers, isWord.words_eq, List.singleton_append]

theorem is_spaced_join {gap : Text} (nonempty : gap ≠ []) (blank : ∀ c ∈ gap, isWhiteSpace c = true)
    (list : List Text) : IsSpaced list (join gap list) := by
  induction list with
  | nil => exact .nil
  | cons word others ih =>
      cases others with
      | nil => exact .single word
      | cons next others =>
          rw [join, List.append_assoc]
          exact .cons word gap nonempty blank ih

theorem words_eq_nil_iff : words text = [] ↔ ∀ c ∈ text, isWhiteSpace c = true := by
  constructor
  · intro wordless
    induction text using run_induction with
    | nil => exact List.forall_mem_nil _
    | blank c rest white ih =>
        rw [words_cons_white_space rest white] at wordless
        exact List.forall_mem_cons.mpr ⟨white, ih wordless⟩
    | run word rest isWord ends ih =>
        rw [isWord.words_append ends] at wordless
        cases wordless
  · intro blank
    have wordless := words_blank_append blank []
    rwa [List.append_nil] at wordless

end Text

namespace Command

open Engine

variable {session : Session} {text : Text}

/-- A word as an argument: the home stands for a `~` at its start, if a home is known. -/
inductive IsExpanded (session : Session) : Text → Text → Prop where
  | home (home rest : Text) (known : session.home = some home) :
    IsExpanded session ('~' :: rest) (home ++ rest)
  | same (word : Text) (plain : session.home = none ∨ word.head? ≠ some '~') :
    IsExpanded session word word

theorem is_expanded_expand_home (session : Session) (word : Text) :
    IsExpanded session word (session.expandHome word) := by
  by_cases tilde : word.head? = some '~'
  · obtain ⟨rest, rfl⟩ := List.head?_eq_some_iff.mp tilde
    cases known : session.home with
    | none =>
        rw [Session.expand_home_of_unknown known]
        exact .same _ (.inl known)
    | some home =>
        rw [Session.expand_home_tilde known]
        exact .home home rest known
  · rw [Session.expand_home_eq_self tilde]
    exact .same word (.inr tilde)

theorem of_text?_eq_none_iff :
    ofText? session text = none ↔ ∀ c ∈ text, Text.isWhiteSpace c = true := by
  rw [← Text.words_eq_nil_iff, ofText?]
  split
  · rename_i wordless
    simp [wordless]
  · rename_i worded
    simp [worded]

theorem of_text?_eq_some_iff {command : Command} :
    ofText? session text = some command ↔ ∃ arguments, Text.words text = command.program :: arguments ∧
      command.arguments = arguments.map session.expandHome := by
  obtain ⟨program, expanded⟩ := command
  rw [ofText?]
  split
  · rename_i wordless
    simp [wordless]
  · rename_i worded
    simp [worded, eq_comm]

theorem of_text?_congr {other : Text} (same : Text.words text = Text.words other) :
    ofText? session text = ofText? session other := by
  rw [ofText?, same, ofText?]

theorem words_eq_of_unknown (unknown : session.home = none) {command : Command}
    (cut : ofText? session text = some command) :
    Text.words text = command.program :: command.arguments := by
  obtain ⟨arguments, words_eq, expanded⟩ := of_text?_eq_some_iff.mp cut
  have kept : arguments.map session.expandHome = arguments :=
    (List.map_congr_left fun _ _ => Session.expand_home_of_unknown unknown).trans (List.map_id' _)
  rw [words_eq, expanded, kept]

theorem of_text?_of_is_spaced (unknown : session.home = none) {command : Command}
    (cut : ofText? session text = some command) {spelled : Text}
    (spaced : Text.IsSpaced (command.program :: command.arguments) spelled) :
    ofText? session spelled = some command := by
  have words_eq := words_eq_of_unknown unknown cut
  rw [← cut]
  apply of_text?_congr
  rw [words_eq]
  apply spaced.words_eq
  intro word member
  rw [← words_eq] at member
  exact Text.is_word_of_mem_words member

/-- The words of a command are, in order, the runs of its text that cannot be prolonged. -/
theorem exists_runs {command : Command} (cut : ofText? session text = some command) :
    ∃ place others, ((place, command.program) :: others).Pairwise (·.1 < ·.1) ∧
      (∀ start run, (start, run) ∈ (place, command.program) :: others ↔ Text.IsRunAt text start run) ∧
      List.Forall₂ (fun run argument => IsExpanded session run.2 argument) others
        command.arguments := by
  obtain ⟨arguments, words_eq, expanded⟩ := of_text?_eq_some_iff.mp cut
  have written := Text.map_runs 0 text
  have increasing := Text.pairwise_runs 0 text
  have all : ∀ start run, (start, run) ∈ Text.runs 0 text ↔ Text.IsRunAt text start run := by
    intro start run
    simp [Text.mem_runs_iff]
  rw [words_eq] at written
  obtain ⟨⟨place, program⟩, others, runs_eq, program_eq, arguments_eq⟩ :=
    List.map_eq_cons_iff.mp written
  dsimp only at program_eq
  rw [runs_eq, program_eq] at increasing all
  refine ⟨place, others, increasing, all, ?_⟩
  rw [expanded, ← arguments_eq, List.map_map, List.forall₂_map_right_iff, List.forall₂_same]
  exact fun run _ => is_expanded_expand_home session run.2

theorem resolve_command_fails_iff {machine : Machine} {token : Token} {fault : RunFault} :
    ((resolveCommand token).run machine).1 = .error fault ↔
      fault = .command (machine.session.resolve token) .noWords ∧
        ∀ c ∈ machine.session.resolve token, Text.isWhiteSpace c = true := by
  rw [run_resolve_command, ← @of_text?_eq_none_iff machine.session]
  dsimp only
  split
  · rename_i cut
    simp [cut]
  · rename_i wordless
    simp [wordless, eq_comm]

/-- A text is cut into its longest runs without white space, and fails to make a command only if it has
none. The first run is the program, and the others are the arguments once a `~` before them is expanded.
Without a home the words can be put together again with any white space between them, and white space at
the ends of a text never matters. -/
theorem splitting_keeps_every_word (session : Session) (text : Text) :
    (ofText? session text = none ↔ ∀ c ∈ text, Text.isWhiteSpace c = true) ∧
    (∀ command, ofText? session text = some command →
      ∃ place others, ((place, command.program) :: others).Pairwise (·.1 < ·.1) ∧
        (∀ start run, (start, run) ∈ (place, command.program) :: others ↔
          Text.IsRunAt text start run) ∧
        List.Forall₂ (fun run argument => IsExpanded session run.2 argument) others
          command.arguments) ∧
    (session.home = none → ∀ command, ofText? session text = some command →
      (∀ gap : Text, gap ≠ [] → (∀ c ∈ gap, Text.isWhiteSpace c = true) →
        ofText? session (Text.join gap (command.program :: command.arguments)) = some command) ∧
      ∀ spelled, Text.IsSpaced (command.program :: command.arguments) spelled →
        ofText? session spelled = some command) ∧
    (∀ before behind : Text, (∀ c ∈ before, Text.isWhiteSpace c = true) →
      (∀ c ∈ behind, Text.isWhiteSpace c = true) →
        ofText? session (before ++ (text ++ behind)) = ofText? session text) ∧
    (∀ (machine : Machine) (token : Token) (fault : RunFault), machine.session = session →
      session.resolve token = text → (((resolveCommand token).run machine).1 = .error fault ↔
        fault = .command text .noWords ∧ ∀ c ∈ text, Text.isWhiteSpace c = true)) ∧
    CommandObstacle.noWords.message = "empty command".toList := by
  refine ⟨of_text?_eq_none_iff, fun command cut => exists_runs cut, ?_, ?_, ?_, rfl⟩
  · intro unknown command cut
    constructor
    · intro gap nonempty blank
      exact of_text?_of_is_spaced unknown cut (Text.is_spaced_join nonempty blank _)
    · exact fun spelled spaced => of_text?_of_is_spaced unknown cut spaced
  · intro before behind blankBefore blankBehind
    apply of_text?_congr
    rw [Text.words_blank_append blankBefore, Text.words_append_blank blankBehind]
  · rintro machine token fault rfl rfl
    exact resolve_command_fails_iff

end Command

end LineScript
