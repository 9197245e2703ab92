import LineScript.Proofs.Engine.Atomicity
import LineScript.Proofs.Engine.Effects
import LineScript.Proofs.Script.Display
import LineScript.Proofs.Session.Variables

/-!
# Literals through variables

What `echo` prints depends on nothing but the texts that its tokens print as. So a literal prints the
same through a variable as in its place. As a value it is the same unless it is quoted and has escapes;
and a reference that is bound to a variable stays a text.
-/

namespace LineScript

set_option autoImplicit false

/-- Two machines whose outputs hold the same bytes and take the same number of further ones. -/
structure Machine.SameOutput (first second : Machine) : Prop where
  room_eq : first.room = second.room
  output_eq : first.output = second.output

/-- Two runs with the same result that leave the same output. -/
def SameRun (first second : Except RunFault Unit × Machine) : Prop :=
  first.1 = second.1 ∧ first.2.SameOutput second.2

open LineScript.Action

section Same

variable {first second : Machine} {action other : Action Unit} {next otherNext : Unit → Action Unit}

theorem Machine.SameOutput.record_events (same : first.SameOutput second) (events others : List Event) :
    (first.recordEvents events).SameOutput (second.recordEvents others) := by
  constructor
  · rw [room_record_events, room_record_events, same.room_eq]
  · rw [output_record_events, output_record_events, same.output_eq]

theorem Machine.SameOutput.write (same : first.SameOutput second) (text : Text) :
    SameRun ((write text).run first) ((write text).run second) := by
  have output_eq := same.output_eq
  rw [Action.write, run_write_bytes, run_write_bytes, same.room_eq]
  cases unlimited : second.room with
  | none =>
      refine ⟨rfl, ?_, ?_⟩
      · exact same.room_eq
      · rw [output_record_output, output_record_output, output_eq]
  | some room =>
      refine ⟨rfl, rfl, ?_⟩
      have firstOutput := first.output_record_output ((Utf8.encode text).take room)
      have secondOutput := second.output_record_output ((Utf8.encode text).take room)
      exact firstOutput.trans ((congrArg (· ++ _) output_eq).trans secondOutput.symm)

theorem SameRun.bind (same : SameRun (action.run first) (other.run second))
    (nextSame : ∀ middle otherMiddle : Machine, middle.SameOutput otherMiddle →
      SameRun ((next ()).run middle) ((otherNext ()).run otherMiddle)) :
    SameRun ((action >>= next).run first) ((other >>= otherNext).run second) := by
  rw [run_bind, run_bind]
  generalize action.run first = ran at same ⊢
  generalize other.run second = otherRan at same ⊢
  rcases ran with ⟨fault | answer, middle⟩
  · rcases otherRan with ⟨otherFault | otherAnswer, otherMiddle⟩
    · exact same
    · cases same.1
  · rcases otherRan with ⟨otherFault | otherAnswer, otherMiddle⟩
    · cases same.1
    · exact nextSame middle otherMiddle same.2

end Same

namespace Engine

/-! ## What `echo` prints -/

section Echo

variable {programs : Programs} {instruction other : Instruction} {arguments others : List Token}

theorem run_perform_echo (programs : Programs) (arguments : List Token) (machine : Machine) :
    (perform programs (.echo arguments)).run machine =
      (write (Text.join [' '] (arguments.map machine.session.echoed) ++ ['\n'])).run
        (machine.recordEvents (unboundEvents machine.session arguments)) := by
  rw [perform, run_bind, run_report_unbound]
  dsimp only
  rw [run_bind, run_session]
  dsimp only
  rw [Machine.session_record_events]

theorem execute_echo_alike (echoes : instruction.operation = .echo arguments)
    (otherEchoes : other.operation = .echo others) (machine : Machine)
    (alike : arguments.map machine.session.echoed = others.map machine.session.echoed) :
    ((execute programs instruction).run machine).1 = ((execute programs other).run machine).1 ∧
      ((execute programs instruction).run machine).2.output =
        ((execute programs other).run machine).2.output := by
  have start : machine.SameOutput machine := ⟨rfl, rfl⟩
  have told : (announced machine instruction).SameOutput (announced machine other) :=
    start.record_events _ _
  have line : SameRun ((perform programs instruction.operation).run (announced machine instruction))
      ((perform programs other.operation).run (announced machine other)) := by
    rw [echoes, otherEchoes, run_perform_echo, run_perform_echo]
    have session_eq : (announced machine instruction).session = machine.session :=
      machine.session_record_events _
    have otherSession_eq : (announced machine other).session = machine.session :=
      machine.session_record_events _
    rw [session_eq, otherSession_eq, alike]
    exact (told.record_events _ _).write _
  have whole : SameRun ((execute programs instruction).run machine)
      ((execute programs other).run machine) := by
    rw [run_execute, run_execute]
    apply line.bind
    intro middle otherMiddle same
    exact same.write ['\n']
  exact ⟨whole.1, whole.2.output_eq⟩

end Echo

/-! ## After `set` -/

section Set

variable {programs : Programs} {name : Text} {token : Token}

theorem session_execute_set (number : Nat) (parameters : List Token) (machine : Machine) :
    ((execute programs ⟨number, .set name token, parameters⟩).run machine).2.session =
      machine.session.setVariable name (Text.trimMarks '"' token.text) := by
  rw [run_execute, run_bind, perform, run_update_session]
  dsimp only
  rw [write_keeps_session ['\n'], announced, Machine.session_record_events]

end Set

/-- After a token is bound to a variable with `set`, a reference to the variable prints as the token
does, in any place of any `echo`, unless the token is a reference itself. Its value is that of the
token exactly when the token is not quoted or the text inside its quotes is not changed by reading
escapes, none of its pairs being one. A reference that is bound is the value as it is written. -/
theorem literal_passes_through_variable (programs : Programs) (number : Nat) (parameters : List Token)
    (machine : Machine) {line name : Text} {token : Token} (read : token ∈ Token.scan line)
    (referable : Token.HasShape ⟨.variable, '$' :: name⟩) :
    let after := ((execute programs ⟨number, .set name token, parameters⟩).run machine).2
    let reference : Token := ⟨.variable, '$' :: name⟩
    (token.kind ≠ .variable →
      (∀ (before later : List Token) (referring literal : Instruction),
        referring.operation = .echo (before ++ reference :: later) →
        literal.operation = .echo (before ++ token :: later) →
        ((execute programs referring).run after).1 = ((execute programs literal).run after).1 ∧
          ((execute programs referring).run after).2.output =
            ((execute programs literal).run after).2.output) ∧
      (after.session.resolve reference = after.session.resolve token ↔
        token.kind = .word ∨ token.kind = .group ∨
          ∃ inside, token = ⟨.quoted, '"' :: inside ++ ['"']⟩ ∧ Text.unescape inside = inside) ∧
      ∀ inside, token = ⟨.quoted, '"' :: inside ++ ['"']⟩ →
        (Text.unescape inside = inside ↔
          ∀ letter ∈ Text.pairLetters inside, letter ∉ ['n', 't', 'r', '0', '\\', '\''])) ∧
    (token.kind = .variable → after.session.resolve reference = token.text) := by
  have shape := (Token.shape_of_mem_scan read).1
  have bound := @session_execute_set programs name token number parameters machine
  have holds := machine.session.lookup_set_variable (Text.trimMarks '"' token.text) referable
  dsimp only
  rw [bound]
  constructor
  · intro literal
    refine ⟨?_, ?_, ?_⟩
    · intro before later referring inPlace refers shows
      apply execute_echo_alike refers shows
      rw [bound]
      have same := Session.echoed_reference holds literal
      simp only [List.map_append, List.map_cons, same]
    · exact Session.resolve_reference_iff holds shape literal
    · intro inside quoted
      rw [quoted] at shape
      exact Text.unescape_eq_self_iff_of_quoteless shape.quote_not_mem_inside
  · exact Session.resolve_reference_of_variable holds shape

/-- The escape is what makes the difference: the `~` is expanded in both places. -/
theorem literal_passes_through_variable_with_escape :
    let programs := onceSuccessful
    let token : Token := ⟨.quoted, "\"~\\n\"".toList⟩
    let reference : Token := ⟨.variable, ['$', 'x']⟩
    let machine := Machine.start (.start ['/'] (some ['/', 'h'])) ⟨[], []⟩ none
    let after := ((execute programs ⟨1, .set ['x'] token, []⟩).run machine).2
    token ∈ Token.scan token.text ∧ reference.HasShape ∧
      ((execute programs ⟨2, .echo [reference], []⟩).run after).2.output =
        ((execute programs ⟨2, .echo [token], []⟩).run after).2.output ∧
      after.session.resolve reference = "/h\\n".toList ∧
      after.session.resolve token = "/h\n".toList ∧
      after.session.resolve reference ≠ after.session.resolve token := by
  intro programs token reference machine after
  have quoted : token.HasShape := .quoted ['~', '\\', 'n'] (by decide)
  have read : token ∈ Token.scan token.text := by
    have scanned : Token.scan (token.text ++ []) = token :: Token.scan [] :=
      Token.scan_token quoted trivial
    rw [List.append_nil] at scanned
    simp [scanned]
  have letter : Text.isAlphanumeric 'x' = true := Text.is_alphanumeric_of_ascii (by decide)
  have accepted : isNameChar 'x' = true := by simp [isNameChar, letter]
  have shape : reference.HasShape := .reference ['x'] (by decide) (by simpa using accepted)
  obtain ⟨literal, -⟩ := literal_passes_through_variable programs 1 [] machine read shape
  obtain ⟨alike, same, pairs⟩ := literal (by decide)
  have printed := alike [] [] ⟨2, .echo [reference], []⟩ ⟨2, .echo [token], []⟩ rfl rfl
  refine ⟨read, shape, printed.2, rfl, rfl, ?_⟩
  intro equal
  rcases same.mp equal with word | group | ⟨inside, token_eq, unchanged⟩
  · cases word
  · cases group
  · have text_eq := congrArg Token.text token_eq
    have inside_eq : ['~', '\\', 'n'] = inside := List.append_cancel_right (List.cons.inj text_eq).2
    rw [← inside_eq] at unchanged
    cases unchanged

end Engine

end LineScript
