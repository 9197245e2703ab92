import LineScript.Proofs.Engine.Quiet

/-!
# Truncation

A run into an output with little room is the run into an output without a limit, cut at the first
byte that does not fit. Every action built from quiet actions and writes has this property.
-/

namespace LineScript

set_option autoImplicit false

variable {α β : Type}

/-- How a run from `before` with `room` bytes left compares with the run without a limit: what the
latter wrote fits and the runs differ in nothing but the room, or the former stopped at the byte that
did not fit. -/
inductive Truncated (before : Machine) (room : Nat) :
    Except RunFault α × Machine → Except RunFault α × Machine → Prop where
  | fits (written : List UInt8) {result : Except RunFault α} {after : Machine}
    (fits : written.length ≤ room) (other : result ≠ .error .outputFull)
    (unlimited : after.room = none) (output_eq : after.output = before.output ++ written) :
    Truncated before room (result, after) (result, after.withRoom (some (room - written.length)))
  | full (written : List UInt8) {result : Except RunFault α} {after cut : Machine}
    (full : room < written.length) (other : result ≠ .error .outputFull)
    (unlimited : after.room = none) (output_eq : after.output = before.output ++ written)
    (cut_output_eq : cut.output = before.output ++ written.take room)
    (cut_session_eq : cut.session = after.session) :
    Truncated before room (result, after) (.error .outputFull, cut)

namespace Truncated

variable {before middle : Machine} {room : Nat} {whole limited : Except RunFault α × Machine}

/-- A comparison that starts after `earlier` was written also holds from before it. -/
theorem extend {earlier : List UInt8} (fits : earlier.length ≤ room)
    (output_eq : middle.output = before.output ++ earlier)
    (truncated : Truncated middle (room - earlier.length) whole limited) :
    Truncated before room whole limited := by
  cases truncated with
  | fits written writtenFits other unlimited written_eq =>
    rw [output_eq, List.append_assoc] at written_eq
    have left : room - earlier.length - written.length = room - (earlier ++ written).length := by
      rw [List.length_append, Nat.sub_add_eq]
    rw [left]
    apply Truncated.fits (earlier ++ written) _ other unlimited written_eq
    rw [List.length_append]
    omega
  | full written full other unlimited written_eq cut_eq cut_session_eq =>
    rw [output_eq, List.append_assoc] at written_eq cut_eq
    apply Truncated.full (earlier ++ written) _ other unlimited written_eq _ cut_session_eq
    · rw [List.length_append]
      omega
    · rw [cut_eq, List.take_append, List.take_of_length_le fits]

theorem unlimited_output (truncated : Truncated before room whole limited) :
    ∃ written, whole.2.output = before.output ++ written := by
  cases truncated with
  | fits written _ _ _ output_eq => exact ⟨written, output_eq⟩
  | full written _ _ _ output_eq => exact ⟨written, output_eq⟩

theorem unlimited_room (truncated : Truncated before room whole limited) :
    whole.2.room = none := by
  cases truncated with
  | fits _ _ _ unlimited => exact unlimited
  | full _ _ _ unlimited => exact unlimited

theorem unlimited_ne_output_full (truncated : Truncated before room whole limited) :
    whole.1 ≠ .error .outputFull := by
  cases truncated with
  | fits _ _ other => exact other
  | full _ _ other => exact other

end Truncated

namespace Action

/-- An action whose runs into outputs with a limit are truncated runs. -/
def Truncates (action : Action α) : Prop :=
  ∀ machine room, Truncated machine room (action.run (machine.withRoom none))
    (action.run (machine.withRoom (some room)))

/-- An action that leaves the session alone, whether it succeeds or not. -/
def KeepsSession (action : Action α) : Prop :=
  ∀ machine, (action.run machine).2.session = machine.session

theorem IsQuiet.truncates {action : Action α} (quiet : IsQuiet action) : Truncates action := by
  intro machine room
  rw [quiet.run_withRoom machine none, quiet.run_withRoom machine (some room)]
  apply Truncated.fits []
  · exact Nat.zero_le room
  · exact quiet.ne_outputFull machine
  · rfl
  · rw [Machine.output_with_room, List.append_nil]
    exact quiet.output_eq machine

theorem update_session_truncates (update : Session → Session) : Truncates (updateSession update) := by
  intro machine room
  apply Truncated.fits []
  · exact Nat.zero_le room
  · exact nofun
  · rfl
  · exact (List.append_nil machine.output).symm

theorem write_truncates (text : Text) : Truncates (write text) := by
  intro machine room
  have whole := run_write_bytes (Utf8.encode text) (machine.withRoom none)
  have limited := run_write_bytes (Utf8.encode text) (machine.withRoom (some room))
  rw [write, whole, limited]
  by_cases full : room < (Utf8.encode text).length
  · simp only [Machine.withRoom, full, if_true]
    apply Truncated.full (Utf8.encode text) full
    · exact nofun
    · rfl
    · exact machine.output_record_output _
    · exact machine.output_record_output _
    · rfl
  · simp only [Machine.withRoom, full, if_false]
    have fits : (Utf8.encode text).length ≤ room := Nat.le_of_not_lt full
    rw [List.take_of_length_le fits]
    apply Truncated.fits (Utf8.encode text) fits
    · exact nofun
    · rfl
    · exact machine.output_record_output _

theorem write_keeps_session (text : Text) : KeepsSession (write text) := by
  intro machine
  rw [write, run_write_bytes]
  cases machine.room with
  | none => rfl
  | some room => rfl

theorem KeepsSession.bind {first : Action α} {next : α → Action β} (keeps : KeepsSession first)
    (nextKeeps : ∀ answer, KeepsSession (next answer)) : KeepsSession (first >>= next) := by
  intro machine
  have kept := keeps machine
  rw [run_bind]
  generalize first.run machine = ran at kept ⊢
  rcases ran with ⟨fault | answer, middle⟩
  · exact kept
  · exact (nextKeeps answer middle).trans kept

theorem KeepsSession.for_m {entries : List α} {body : α → Action Unit}
    (keeps : ∀ entry, KeepsSession (body entry)) : KeepsSession (entries.forM body) := by
  induction entries with
  | nil => exact fun _ => rfl
  | cons entry rest ih => exact KeepsSession.bind (keeps entry) fun _ => ih

theorem Truncates.bind {first : Action α} {next : α → Action β} (truncates : Truncates first)
    (nextTruncates : ∀ answer, Truncates (next answer))
    (nextKeeps : ∀ answer, KeepsSession (next answer)) : Truncates (first >>= next) := by
  intro machine room
  have cut := truncates machine room
  rw [run_bind, run_bind]
  generalize first.run (machine.withRoom none) = whole at cut ⊢
  generalize first.run (machine.withRoom (some room)) = limited at cut ⊢
  cases cut with
  | @fits written result after fits other unlimited output_eq =>
    cases result with
    | error fault =>
      exact Truncated.fits written fits (error_ne_output_full β other) unlimited output_eq
    | ok answer =>
      have later := nextTruncates answer after (room - written.length)
      have already : after.withRoom none = after := by rw [← unlimited, Machine.with_room_self]
      rw [already] at later
      exact later.extend fits output_eq
  | @full written result after cut full other unlimited output_eq cut_output_eq cut_session_eq =>
    cases result with
    | error fault =>
      exact Truncated.full written full (error_ne_output_full β other) unlimited output_eq
        cut_output_eq cut_session_eq
    | ok answer =>
      -- The limited run is over, so the rest of the unlimited one only has to keep the session.
      have later := nextTruncates answer after 0
      have already : after.withRoom none = after := by rw [← unlimited, Machine.with_room_self]
      rw [already] at later
      obtain ⟨rest, rest_eq⟩ := later.unlimited_output
      rw [output_eq, List.append_assoc] at rest_eq
      apply Truncated.full (written ++ rest) _ later.unlimited_ne_output_full later.unlimited_room
        rest_eq
      · rw [cut_output_eq, List.take_append_of_le_length (Nat.le_of_lt full)]
      · rw [cut_session_eq, nextKeeps answer after]
      · rw [List.length_append]
        omega

theorem IsQuiet.bind_truncates {first : Action α} {next : α → Action β} (quiet : IsQuiet first)
    (nextTruncates : ∀ answer, Truncates (next answer)) : Truncates (first >>= next) := by
  intro machine room
  have output_eq := quiet.output_eq machine
  have other := quiet.ne_outputFull machine
  rw [run_bind, run_bind, quiet.run_withRoom machine none, quiet.run_withRoom machine (some room)]
  generalize first.run machine = ran at output_eq other
  have fits : ([] : List UInt8).length ≤ room := Nat.zero_le room
  have written : ran.2.output = machine.output ++ [] := by rw [List.append_nil, output_eq]
  rcases ran with ⟨fault | answer, middle⟩
  · exact Truncated.fits [] fits (error_ne_output_full β other) rfl written
  · exact (nextTruncates answer middle room).extend fits written

theorem Truncates.session_eq {action : Action α} (truncates : Truncates action)
    (machine : Machine) :
    (action.run machine).2.session = (action.run (machine.withRoom none)).2.session := by
  cases limit : machine.room with
  | none => rw [← limit, Machine.with_room_self]
  | some room =>
    have cut := truncates machine room
    rw [← limit, Machine.with_room_self] at cut
    generalize action.run machine = limited, action.run (machine.withRoom none) = whole at cut ⊢
    cases cut with
    | fits => rfl
    | full _ _ _ _ _ _ session_eq => exact session_eq

theorem Truncates.session_of_output_full {action : Action α} (truncates : Truncates action)
    {machine after : Machine} (stopped : action.run machine = (.error .outputFull, after)) :
    after.session = (action.run (machine.withRoom none)).2.session := by
  rw [← truncates.session_eq machine, stopped]

theorem Truncates.for_m {entries : List α} {body : α → Action Unit}
    (truncates : ∀ entry, Truncates (body entry)) (keeps : ∀ entry, KeepsSession (body entry)) :
    Truncates (entries.forM body) := by
  induction entries with
  | nil => exact (IsQuiet.pure ()).truncates
  | cons entry rest ih =>
    exact Truncates.bind (truncates entry) (fun _ => ih) fun _ => KeepsSession.for_m keeps

end Action

end LineScript
