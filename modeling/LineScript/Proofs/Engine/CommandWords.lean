import LineScript.Proofs.Engine.Atomicity
import LineScript.Proofs.Session.Home
import LineScript.Proofs.Text.Words

/-!
# The home directory in the words of a command

The home takes the place of a `~` twice: at the start of a command text before the text is cut, and at
the start of every argument after that. The arguments are safe. At the start of the text the home stays
inside its word exactly when it makes a word with what follows the `~`, so a home with white space is
cut, and an empty home can be lost.
-/

namespace LineScript

set_option autoImplicit false

variable {session : Session} {home text : Text}

def Session.withHome (session : Session) (home : Text) : Session := { session with home := some home }

def Machine.withHome (machine : Machine) (home : Text) : Machine :=
  { machine with session := machine.session.withHome home }

theorem Session.resolve_with_home (session : Session) (home : Text) (token : Token) :
    (session.withHome home).resolve token =
      (session.withHome home).expandHome (Text.unquote (session.denotation token)) := by
  have denoted : Session.denotation (session.withHome home) token = session.denotation token := by
    unfold denotation
    cases token.kind <;> rfl
  rw [resolve, denoted]

/-- Put in the place of the `~` that a text begins with, a home makes a word with the characters up to
the next white space. -/
def StaysWhole (home text : Text) : Prop :=
  ∀ rest, text = '~' :: rest → Text.IsWord (home ++ rest.takeWhile (!Text.isWhiteSpace ·))

/-! ## One home -/

namespace Command

/-- The command of a text that is cut before any `~` is expanded. The program keeps a `~` before which
the text has white space. -/
def wordByWord? (session : Session) (text : Text) : Option Command :=
  match Text.words text with
  | [] => none
  | program :: arguments =>
    some ⟨if text.head? = some '~' then session.expandHome program else program,
      arguments.map session.expandHome⟩

theorem of_text?_eq_word_by_word? (other : text.head? ≠ some '~') :
    ofText? session (session.expandHome text) = wordByWord? session text := by
  rw [Session.expand_home_eq_self other, ofText?, wordByWord?]
  cases Text.words text <;> simp [other]

theorem word_by_word?_tilde (known : session.home = some home) (rest : Text) :
    wordByWord? session ('~' :: rest) =
      some ⟨home ++ rest.takeWhile (!Text.isWhiteSpace ·),
        (Text.words (rest.dropWhile (!Text.isWhiteSpace ·))).map session.expandHome⟩ := by
  have isWord : Text.IsWord ('~' :: rest.takeWhile (!Text.isWhiteSpace ·)) := by
    refine ⟨by simp, ?_⟩
    rw [List.forall_mem_cons]
    exact ⟨by decide, Text.solid_of_mem_take_while⟩
  have cut := isWord.words_append (Text.begins_with_drop_while (!Text.isWhiteSpace ·) rest)
  rw [List.cons_append, List.takeWhile_append_dropWhile] at cut
  rw [wordByWord?, cut]
  simp [Session.expand_home_tilde known]

theorem of_text?_expand_home_iff (known : session.home = some home) :
    ofText? session (session.expandHome text) = wordByWord? session text ↔ StaysWhole home text := by
  by_cases tilde : text.head? = some '~'
  · obtain ⟨rest, rfl⟩ := List.head?_eq_some_iff.mp tilde
    have split : home ++ rest = (home ++ rest.takeWhile (!Text.isWhiteSpace ·)) ++
        rest.dropWhile (!Text.isWhiteSpace ·) := by
      rw [List.append_assoc, List.takeWhile_append_dropWhile]
    rw [word_by_word?_tilde known, Session.expand_home_tilde known, ofText?]
    constructor
    · -- The program is then the home with what follows it, and a program is a word.
      intro same other other_eq
      obtain rfl : rest = other := (List.cons.inj other_eq).2
      cases cut : Text.words (home ++ rest) with
      | nil => simp [cut] at same
      | cons program arguments =>
          have program_eq : program = home ++ rest.takeWhile (!Text.isWhiteSpace ·) := by
            rw [cut] at same
            exact congrArg Command.program (Option.some.inj same)
          rw [← program_eq]
          exact Text.is_word_of_mem_words (cut ▸ List.mem_cons_self)
    · intro whole
      have isWord := whole rest rfl
      have cut := isWord.words_append (Text.begins_with_drop_while (!Text.isWhiteSpace ·) rest)
      rw [split, cut]
  · -- Without a `~` at the start the home is not put in before the text is cut.
    have vacuous : StaysWhole home text := by
      intro rest text_eq
      rw [text_eq] at tilde
      exact absurd rfl tilde
    exact iff_of_true (of_text?_eq_word_by_word? tilde) vacuous

end Command

/-! ## Two homes -/

/-- Words of a text, and the words that two homes make of them: each word is the same with both, or it
begins with a `~` for which the whole home stands. -/
inductive CutAlike (first second : Text) : List Text → List Text → List Text → Prop where
  | nil : CutAlike first second [] [] []
  | same (word : Text) {words firsts seconds : List Text}
    (rest : CutAlike first second words firsts seconds) :
    CutAlike first second (word :: words) (word :: firsts) (word :: seconds)
  | home (after : Text) {words firsts seconds : List Text}
    (rest : CutAlike first second words firsts seconds) :
    CutAlike first second (('~' :: after) :: words) ((first ++ after) :: firsts)
      ((second ++ after) :: seconds)

section Alike

variable {first second word : Text} {words firsts seconds : List Text}

theorem CutAlike.length_eq (alike : CutAlike first second words firsts seconds) :
    firsts.length = words.length ∧ seconds.length = words.length := by
  induction alike with
  | nil => exact ⟨rfl, rfl⟩
  | same word _ ih => simpa using ih
  | home after _ ih => simpa using ih

theorem CutAlike.cons_expand_home (session : Session) (word : Text)
    (rest : CutAlike first second words firsts seconds) :
    CutAlike first second (word :: words) ((session.withHome first).expandHome word :: firsts)
      ((session.withHome second).expandHome word :: seconds) := by
  by_cases tilde : word.head? = some '~'
  · obtain ⟨after, rfl⟩ := List.head?_eq_some_iff.mp tilde
    exact .home after rest
  · rw [Session.expand_home_eq_self tilde, Session.expand_home_eq_self tilde]
    exact .same word rest

theorem cut_alike_map (session : Session) (words : List Text) :
    CutAlike first second words (words.map (session.withHome first).expandHome)
      (words.map (session.withHome second).expandHome) := by
  induction words with
  | nil => exact .nil
  | cons word rest ih => exact ih.cons_expand_home session word

/-- Cut before any `~` is expanded, a text has the same words with every home. -/
theorem Command.cut_alike_word_by_word? (session : Session) (first second text : Text) :
    (wordByWord? (session.withHome first) text = none ∧
        wordByWord? (session.withHome second) text = none) ∨
      ∃ former latter, wordByWord? (session.withHome first) text = some former ∧
        wordByWord? (session.withHome second) text = some latter ∧
        CutAlike first second (Text.words text) (former.program :: former.arguments)
          (latter.program :: latter.arguments) := by
  unfold wordByWord?
  cases Text.words text with
  | nil => exact .inl ⟨rfl, rfl⟩
  | cons program arguments =>
      have rest : CutAlike first second arguments _ _ := cut_alike_map session arguments
      refine .inr ⟨_, _, rfl, rfl, ?_⟩
      by_cases tilde : text.head? = some '~'
      · rw [if_pos tilde, if_pos tilde]
        exact rest.cons_expand_home session program
      · rw [if_neg tilde, if_neg tilde]
        exact .same program rest

end Alike

namespace Engine

theorem run_resolve_command_to_option (machine : Machine) (token : Token) (home : Text) :
    ((resolveCommand token).run (machine.withHome home)).1.toOption =
      Command.ofText? (machine.session.withHome home)
        ((machine.session.withHome home).expandHome
          (Text.unquote (machine.session.denotation token))) := by
  have resolved := machine.session.resolve_with_home home token
  rw [run_resolve_command, ← resolved]
  change _ = Command.ofText? (machine.withHome home).session
    ((machine.withHome home).session.resolve token)
  cases Command.ofText? (machine.withHome home).session
    ((machine.withHome home).session.resolve token) with
  | none => rfl
  | some command => rfl

/-- The command that is read from a token is cut as its text is, with the home inside the words that
begin with a `~`, exactly when the home stays whole at the start of the text. With any two homes that do
there is a command with both or with neither, and the two commands have the same words apart from the
homes in them. -/
theorem home_stays_inside_words (machine : Machine) (token : Token) :
    let text := Text.unquote (machine.session.denotation token)
    let read (home : Text) := ((resolveCommand token).run (machine.withHome home)).1.toOption
    (∀ home, read home = Command.wordByWord? (machine.session.withHome home) text ↔
      StaysWhole home text) ∧
    ∀ first second, StaysWhole first text → StaysWhole second text →
      (read first = none ∧ read second = none) ∨
      ∃ former latter, read first = some former ∧ read second = some latter ∧
        former.arguments.length = latter.arguments.length ∧
        CutAlike first second (Text.words text) (former.program :: former.arguments)
          (latter.program :: latter.arguments) := by
  intro text read
  have exact_iff : ∀ home, read home = Command.wordByWord? (machine.session.withHome home) text ↔
      StaysWhole home text := by
    intro home
    have known : (machine.session.withHome home).home = some home := rfl
    have reads : read home = Command.ofText? (machine.session.withHome home)
        ((machine.session.withHome home).expandHome text) :=
      run_resolve_command_to_option machine token home
    rw [reads]
    exact Command.of_text?_expand_home_iff known
  refine ⟨exact_iff, ?_⟩
  intro first second firstWhole secondWhole
  rw [(exact_iff first).mpr firstWhole, (exact_iff second).mpr secondWhole]
  rcases Command.cut_alike_word_by_word? machine.session first second text with
    none | ⟨former, latter, firstCut, secondCut, alike⟩
  · exact .inl none
  · have lengths := alike.length_eq
    have same : (former.program :: former.arguments).length =
        (latter.program :: latter.arguments).length := lengths.1.trans lengths.2.symm
    exact .inr ⟨former, latter, firstCut, secondCut, Nat.succ.inj same, alike⟩

/-- An empty home stays whole before a slash, and it makes the argument `~` an empty word. -/
theorem home_stays_inside_words_when_empty :
    let token : Token := ⟨.quoted, "\"~/say ~\"".toList⟩
    let machine := Machine.start (.start ['/'] none) ⟨[], []⟩ none
    let read (home : Text) := ((resolveCommand token).run (machine.withHome home)).1.toOption
    StaysWhole "/h".toList "~/say ~".toList ∧ StaysWhole [] "~/say ~".toList ∧
      read "/h".toList = some ⟨"/h/say".toList, ["/h".toList]⟩ ∧
      read [] = some ⟨"/say".toList, [[]]⟩ ∧
      CutAlike "/h".toList [] ["~/say".toList, "~".toList] ["/h/say".toList, "/h".toList]
        ["/say".toList, []] := by
  intro token machine read
  have longWhole : StaysWhole "/h".toList "~/say ~".toList := by
    intro rest text_eq
    rw [← (List.cons.inj text_eq).2]
    exact Text.is_word_of_mem_words (by decide : _ ∈ Text.words "/h/say".toList)
  have emptyWhole : StaysWhole [] "~/say ~".toList := by
    intro rest text_eq
    rw [← (List.cons.inj text_eq).2]
    exact Text.is_word_of_mem_words (by decide : _ ∈ Text.words "/say".toList)
  have firstRead : read "/h".toList = some ⟨"/h/say".toList, ["/h".toList]⟩ := by decide
  have secondRead : read [] = some ⟨"/say".toList, [[]]⟩ := by decide
  refine ⟨longWhole, emptyWhole, firstRead, secondRead, ?_⟩
  rcases (home_stays_inside_words machine token).2 _ _ longWhole emptyWhole with
    ⟨none, -⟩ | ⟨former, latter, formerRead, latterRead, -, alike⟩
  · cases firstRead.symm.trans none
  · cases firstRead.symm.trans formerRead
    cases secondRead.symm.trans latterRead
    exact alike

/-- A home with a blank is cut at the start of a command: the program is another one, and there is one
more argument. -/
theorem home_with_blank_is_cut :
    let token : Token := ⟨.quoted, "\"~/say\"".toList⟩
    let machine := Machine.start (.start ['/'] none) ⟨[], []⟩ none
    let read (home : Text) := ((resolveCommand token).run (machine.withHome home)).1.toOption
    let requests (home : Text) := ((execute onceSuccessful ⟨1, .execute token none, []⟩).run
      (machine.withHome home)).2.transcript.calls
    requests "/h".toList = [.launch ⟨⟨"/h/say".toList, []⟩, ['/']⟩] ∧
      requests "/my tools".toList = [.launch ⟨⟨"/my".toList, ["tools/say".toList]⟩, ['/']⟩] ∧
      ¬ ∀ (first second : Text) (former latter : Command), read first = some former →
        read second = some latter → former.arguments.length = latter.arguments.length := by
  intro token machine read requests
  have whole : read "/h".toList = some ⟨"/h/say".toList, []⟩ := by decide
  have cut : read "/my tools".toList = some ⟨"/my".toList, ["tools/say".toList]⟩ := by decide
  refine ⟨by decide, by decide, ?_⟩
  intro alike
  cases alike _ _ _ _ whole cut

end Engine

end LineScript
