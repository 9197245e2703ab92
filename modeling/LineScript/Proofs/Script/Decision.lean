import Mathlib.Data.List.Basic
import LineScript.Instruction

/-!
# What tokens make

Any tokens whatever, on any line, make an instruction or are refused for one of three reasons. The
main statement says for each reason exactly which tokens are refused for it and what the fault says,
and which instruction the other tokens make. It also says that the parameters may as well be taken one
after another: once their number has been compared with what the keyword requires, none is ever missed.
-/

namespace LineScript

set_option autoImplicit false

variable {source : Text} {line : Nat} {tokens parameters : List Token} {keyword : Keyword}
  {operation : Operation}

namespace Token

variable {token : Token}

/-- A group token whose text begins with the bracket pair. -/
def IsGroupMark (token : Token) : Prop := token.kind = .group ∧ ['[', ']'] <+: token.text

theorem group_name?_eq_some_iff {name : Text} :
    token.groupName? = some name ↔ token.kind = .group ∧ token.text = '[' :: ']' :: name := by
  unfold groupName?
  split
  · rename_i found kind spelled
    simp [kind, spelled]
  · rename_i other
    simp only [reduceCtorEq, false_iff]
    rintro ⟨kind, spelled⟩
    exact other name kind spelled

theorem group_name?_eq_none_iff : token.groupName? = none ↔ ¬ token.IsGroupMark := by
  rw [Option.eq_none_iff_forall_ne_some]
  constructor
  · rintro missing ⟨kind, name, spelled⟩
    exact missing name (group_name?_eq_some_iff.mpr ⟨kind, spelled.symm⟩)
  · intro other name found
    obtain ⟨kind, spelled⟩ := group_name?_eq_some_iff.mp found
    exact other ⟨kind, name, spelled.symm⟩

end Token

namespace Keyword

/-- How many parameters have a place in the operation; there is no bound for `echo`. -/
def places? : Keyword → Option Nat
  | echo => none
  | createFile | makeDirectory | changeDirectory | remove => some 1
  | execute | set | copy | move | read | write | append | find | each => some 2

/-- Which parameter has to be a group, counted from zero. -/
def groupPlace? : Keyword → Option Nat
  | find => some 1
  | each => some 0
  | _ => none

theorem name_ne_nil (keyword : Keyword) : keyword.name ≠ [] := by
  cases keyword <;> exact List.cons_ne_nil _ _

theorem required_parameters_le_places {places : Nat} (bounded : keyword.places? = some places) :
    keyword.requiredParameters ≤ places := by
  cases keyword <;> cases bounded <;> decide

theorem group_place?_lt {place : Nat} (grouped : keyword.groupPlace? = some place) :
    place < keyword.requiredParameters := by
  cases keyword <;> cases grouped <;> decide

theorem of_name?_eq_some_iff {name : Text} : ofName? name = some keyword ↔ keyword.name = name :=
  ⟨name_of_of_name?, fun same => same ▸ of_name?_name keyword⟩

theorem of_name?_eq_none_iff {name : Text} : ofName? name = none ↔ name ∉ all.map Keyword.name := by
  simp [ofName?]

end Keyword

namespace Operation

/-- The parameters stand in the places of the operation, from the first on. -/
def IsPlacedFrom (parameters : List Token) : Operation → Prop
  | .echo arguments => parameters = arguments
  | .execute value target | .read value target =>
      parameters[0]? = some value ∧ parameters[1]?.map Token.bindingName = target
  | .set name value =>
      parameters[0]?.map Token.bindingName = some name ∧ parameters[1]? = some value
  | .createFile path | .makeDirectory path | .changeDirectory path | .remove path =>
      parameters[0]? = some path
  | .copy first second | .move first second | .write first second | .append first second =>
      parameters[0]? = some first ∧ parameters[1]? = some second
  | .find pattern group =>
      parameters[0]? = some pattern ∧
        parameters[1]? = some ⟨.group, '[' :: ']' :: group⟩
  | .each group command =>
      parameters[0]? = some ⟨.group, '[' :: ']' :: group⟩ ∧ parameters[1]? = some command

theorem map_group_parameter_eq_ok_iff {token : Token} {make : Text → Operation} :
    (groupParameter token).map make = .ok operation ↔
      ∃ group, make group = operation ∧ token = ⟨.group, '[' :: ']' :: group⟩ := by
  have named : ∀ group, token = ⟨.group, '[' :: ']' :: group⟩ ↔ token.groupName? = some group := by
    intro group
    rw [Token.group_name?_eq_some_iff]
    obtain ⟨kind, text⟩ := token
    rw [Token.mk.injEq]
  simp only [named]
  unfold groupParameter
  cases token.groupName? <;> simp [Except.map]

theorem map_group_parameter_eq_error_iff {token : Token} {make : Text → Operation} {misfit : Misfit} :
    (groupParameter token).map make = .error misfit ↔
      .notGroup token = misfit ∧ ¬ token.IsGroupMark := by
  rw [← Token.group_name?_eq_none_iff]
  unfold groupParameter
  cases token.groupName? <;> simp [Except.map]

theorem keyword_of_of_parameters (built : ofParameters keyword parameters = .ok operation) :
    operation.keyword = keyword := by
  unfold ofParameters at built
  split at built
  -- the two operations with a group; the others are made of their parameters as they are
  case h_13 =>
    obtain ⟨group, rfl, -⟩ := map_group_parameter_eq_ok_iff.mp built
    rfl
  case h_14 =>
    obtain ⟨group, rfl, -⟩ := map_group_parameter_eq_ok_iff.mp built
    rfl
  all_goals cases built <;> rfl

theorem of_parameters_eq_too_few_iff :
    ofParameters keyword parameters = .error .tooFew ↔
      parameters.length < keyword.requiredParameters := by
  obtain _ | ⟨first, _ | ⟨second, others⟩⟩ := parameters
  all_goals
    cases keyword <;>
      simp [ofParameters, Keyword.requiredParameters, map_group_parameter_eq_error_iff]

theorem of_parameters_eq_not_group_iff {found : Token} :
    ofParameters keyword parameters = .error (.notGroup found) ↔
      keyword.requiredParameters ≤ parameters.length ∧
        ∃ place, keyword.groupPlace? = some place ∧ parameters[place]? = some found ∧
          ¬ found.IsGroupMark := by
  obtain _ | ⟨first, _ | ⟨second, others⟩⟩ := parameters
  all_goals
    cases keyword <;>
      simp +contextual [ofParameters, Keyword.requiredParameters, Keyword.groupPlace?,
        map_group_parameter_eq_error_iff]

theorem of_parameters_keyword_eq_ok_iff :
    ofParameters operation.keyword parameters = .ok operation ↔
      operation.keyword.requiredParameters ≤ parameters.length ∧
        operation.IsPlacedFrom parameters := by
  obtain _ | ⟨first, _ | ⟨second, others⟩⟩ := parameters
  all_goals
    cases operation <;>
      simp [ofParameters, Keyword.requiredParameters, Operation.keyword, IsPlacedFrom,
        map_group_parameter_eq_ok_iff, and_comm]

theorem of_parameters_take {places : Nat} (bounded : keyword.places? = some places)
    (parameters : List Token) :
    ofParameters keyword (parameters.take places) = ofParameters keyword parameters := by
  cases keyword <;> cases bounded <;> obtain _ | ⟨first, _ | ⟨second, others⟩⟩ := parameters <;> rfl

end Operation

/-! ## Parameters taken one after another -/

/-- A reading that takes parameters from the front of those that are left. -/
abbrev ParameterReading := StateT (List Token) (Except Misfit)

namespace ParameterReading

/-- The next parameter. It is missed if none is left. -/
def next : ParameterReading Token
  | [] => .error .tooFew
  | parameter :: others => .ok (parameter, others)

/-- The group that the next parameter has to be. -/
def nextGroup : ParameterReading Text
  | [] => .error .tooFew
  | parameter :: others => (Operation.groupParameter parameter).map (·, others)

/-- The name that the next parameter binds, if one is left. -/
def nextBinding? : ParameterReading (Option Text)
  | [] => .ok (none, [])
  | parameter :: others => .ok (some parameter.bindingName, others)

def remaining : ParameterReading (List Token) := fun parameters => .ok (parameters, [])

/-- The readings of all operations under their names, each filling its places in the order in which they
are written. -/
def readings : List (Text × ParameterReading Operation) :=
  [(Keyword.name .echo, do return .echo (← remaining)),
    (Keyword.name .execute, do return .execute (← next) (← nextBinding?)),
    (Keyword.name .set, do return .set (← next).bindingName (← next)),
    (Keyword.name .createFile, do return .createFile (← next)),
    (Keyword.name .makeDirectory, do return .makeDirectory (← next)),
    (Keyword.name .changeDirectory, do return .changeDirectory (← next)),
    (Keyword.name .remove, do return .remove (← next)),
    (Keyword.name .copy, do return .copy (← next) (← next)),
    (Keyword.name .move, do return .move (← next) (← next)),
    (Keyword.name .read, do return .read (← next) (← nextBinding?)),
    (Keyword.name .write, do return .write (← next) (← next)),
    (Keyword.name .append, do return .append (← next) (← next)),
    (Keyword.name .find, do return .find (← next) (← nextGroup)),
    (Keyword.name .each, do return .each (← nextGroup) (← next))]

variable {first second : Token} {others : List Token}

theorem run_find : StateT.run' (do return .find (← next) (← nextGroup) : ParameterReading Operation)
    (first :: second :: others) = (Operation.groupParameter second).map (.find first) := by
  simp only [StateT.run'_eq, StateT.run_bind]
  change Except.map _ (Except.bind (Except.map _ (Operation.groupParameter second)) _) = _
  cases Operation.groupParameter second <;> rfl

theorem run_each : StateT.run' (do return .each (← nextGroup) (← next) : ParameterReading Operation)
    (first :: second :: others) = (Operation.groupParameter first).map (.each · second) := by
  simp only [StateT.run'_eq, StateT.run_bind]
  change Except.map _ (Except.bind (Except.map _ (Operation.groupParameter first)) _) = _
  cases Operation.groupParameter first <;> rfl

/-- Every name of the table has a reading. If there are as many parameters as the table requires, it
fills the same places as all of them together do. -/
theorem exists_reading (keyword : Keyword) :
    ∃ reading, readings.lookup keyword.name = some reading ∧
      ∀ parameters : List Token, keyword.requiredParameters ≤ parameters.length →
        reading.run' parameters = Operation.ofParameters keyword parameters := by
  cases keyword
  all_goals
    refine ⟨_, rfl, fun parameters enough => ?_⟩
    obtain _ | ⟨first, _ | ⟨second, others⟩⟩ := parameters
  case find.cons.cons => exact run_find
  case each.cons.cons => exact run_each
  all_goals simp [Keyword.requiredParameters] at enough <;> rfl

end ParameterReading

namespace Instruction

/-- What tokens make if their number is compared with what the keyword requires first and the
parameters are taken one after another only then. What would come of a keyword without a reading, and of
a parameter that is missed all the same, is left open. -/
def ofTokensInTurn (unread missed : Except Script.Fault Instruction) (source : Text) (line : Nat)
    (tokens : List Token) : Except Script.Fault Instruction :=
  match Keyword.ofName? (leadingName tokens) with
  | none => .error (.unknownOperation (leadingName tokens) line (Script.excerpt source line))
  | some keyword =>
    if tokens.length < keyword.requiredTokens then
      .error (.missingParameters keyword line (keyword.requiredTokens - 1) (tokens.length - 1)
        (Script.excerpt source line))
    else
      match ParameterReading.readings.lookup (leadingName tokens) with
      | none => unread
      | some reading =>
        match reading.run' tokens.tail with
        | .ok operation => .ok ⟨line, operation, tokens.tail⟩
        | .error .tooFew => missed
        | .error (.notGroup found) => .error (.groupExpected keyword line found.text)

theorem of_tokens_of_unknown (unknown : leadingName tokens ∉ Keyword.all.map Keyword.name) :
    ofTokens source line tokens =
      .error (.unknownOperation (leadingName tokens) line (Script.excerpt source line)) := by
  rw [ofTokens, Keyword.of_name?_eq_none_iff.mpr unknown]

/-- The fault of a line whose parameters do not fit its keyword. -/
def misfitFault (source : Text) (line : Nat) (keyword : Keyword) (supplied : Nat) :
    Misfit → Script.Fault
  | .tooFew =>
      .missingParameters keyword line keyword.requiredParameters supplied (Script.excerpt source line)
  | .notGroup found => .groupExpected keyword line found.text

section Named

variable (named : keyword.name = leadingName tokens)

include named

theorem of_tokens_eq_ok_iff_of_named {instruction : Instruction} :
    ofTokens source line tokens = .ok instruction ↔
      ∃ operation, Operation.ofParameters keyword tokens.tail = .ok operation ∧
        instruction = ⟨line, operation, tokens.tail⟩ := by
  rw [ofTokens, Keyword.of_name?_eq_some_iff.mpr named]
  dsimp only
  rcases Operation.ofParameters keyword tokens.tail with (_ | _) | _ <;> simp [eq_comm]

theorem of_tokens_eq_error_iff_of_named {fault : Script.Fault} :
    ofTokens source line tokens = .error fault ↔
      ∃ misfit, Operation.ofParameters keyword tokens.tail = .error misfit ∧
        fault = misfitFault source line keyword tokens.tail.length misfit := by
  rw [ofTokens, Keyword.of_name?_eq_some_iff.mpr named, List.length_tail]
  dsimp only
  rcases Operation.ofParameters keyword tokens.tail with (_ | _) | _ <;> simp [misfitFault, eq_comm]

theorem length_of_named : tokens.length = tokens.tail.length + 1 := by
  cases tokens with
  | nil => exact absurd named (Keyword.name_ne_nil keyword)
  | cons first others => rfl

/-- The minima of tokens and of parameters are the same condition on tokens that begin with a keyword. -/
theorem required_tokens_le_iff_of_named :
    keyword.requiredTokens ≤ tokens.length ↔
      keyword.requiredParameters ≤ tokens.tail.length := by
  rw [length_of_named named, Keyword.requiredTokens]
  exact Nat.add_le_add_iff_right

end Named

theorem exists_named (listed : leadingName tokens ∈ Keyword.all.map Keyword.name) :
    ∃ keyword : Keyword, keyword.name = leadingName tokens := by
  obtain ⟨keyword, -, named⟩ := List.mem_map.mp listed
  exact ⟨keyword, named⟩

theorem exists_named_of_not_unknown {result : Except Script.Fault Instruction}
    (built : ofTokens source line tokens = result)
    (known : ∀ name number excerpt, result ≠ .error (.unknownOperation name number excerpt)) :
    ∃ keyword : Keyword, keyword.name = leadingName tokens := by
  by_cases listed : leadingName tokens ∈ Keyword.all.map Keyword.name
  · exact exists_named listed
  · rw [of_tokens_of_unknown listed] at built
    exact absurd built.symm (known _ _ _)

theorem of_tokens_eq_unknown_operation_iff {name excerpt : Text} {number : Nat} :
    ofTokens source line tokens = .error (.unknownOperation name number excerpt) ↔
      name = leadingName tokens ∧ number = line ∧ excerpt = Script.excerpt source line ∧
        name ∉ Keyword.all.map Keyword.name := by
  constructor
  · intro refused
    by_cases listed : leadingName tokens ∈ Keyword.all.map Keyword.name
    · obtain ⟨keyword, named⟩ := exists_named listed
      obtain ⟨misfit, -, same⟩ := (of_tokens_eq_error_iff_of_named named).mp refused
      cases misfit <;> cases same
    · rw [of_tokens_of_unknown listed] at refused
      cases refused
      exact ⟨rfl, rfl, rfl, listed⟩
  · rintro ⟨rfl, rfl, rfl, unlisted⟩
    exact of_tokens_of_unknown unlisted

theorem of_tokens_eq_missing_parameters_iff {number required supplied : Nat} {excerpt : Text} :
    ofTokens source line tokens =
        .error (.missingParameters keyword number required supplied excerpt) ↔
      keyword.name = leadingName tokens ∧ tokens.length < keyword.requiredTokens ∧ number = line ∧
        required = keyword.requiredTokens - 1 ∧ supplied = tokens.length - 1 ∧ supplied < required ∧
        excerpt = Script.excerpt source line := by
  constructor
  · intro refused
    obtain ⟨other, named⟩ := exists_named_of_not_unknown refused (by simp)
    have enough_iff := required_tokens_le_iff_of_named named
    obtain ⟨misfit, misfits, same⟩ := (of_tokens_eq_error_iff_of_named named).mp refused
    cases misfit with
    | notGroup found => cases same
    | tooFew =>
        cases same
        have few := Operation.of_parameters_eq_too_few_iff.mp misfits
        exact ⟨named, by omega, rfl, rfl, List.length_tail, few, rfl⟩
  · rintro ⟨named, few, rfl, rfl, rfl, -, rfl⟩
    have enough_iff := required_tokens_le_iff_of_named named
    refine (of_tokens_eq_error_iff_of_named named).mpr ⟨.tooFew, ?_, ?_⟩
    · exact Operation.of_parameters_eq_too_few_iff.mpr (by omega)
    · rw [misfitFault, List.length_tail]
      rfl

theorem of_tokens_eq_group_expected_iff {number : Nat} {found : Text} :
    ofTokens source line tokens = .error (.groupExpected keyword number found) ↔
      keyword.name = leadingName tokens ∧ keyword.requiredTokens ≤ tokens.length ∧ number = line ∧
        ∃ place token, keyword.groupPlace? = some place ∧ tokens.tail[place]? = some token ∧
          ¬ token.IsGroupMark ∧ found = token.text := by
  constructor
  · intro refused
    obtain ⟨other, named⟩ := exists_named_of_not_unknown refused (by simp)
    obtain ⟨misfit, misfits, same⟩ := (of_tokens_eq_error_iff_of_named named).mp refused
    cases misfit with
    | tooFew => cases same
    | notGroup token =>
        cases same
        obtain ⟨enough, place, grouped, standing, ungrouped⟩ :=
          Operation.of_parameters_eq_not_group_iff.mp misfits
        exact ⟨named, (required_tokens_le_iff_of_named named).mpr enough, rfl, place, token, grouped,
          standing, ungrouped, rfl⟩
  · rintro ⟨named, enough, rfl, place, token, grouped, standing, ungrouped, rfl⟩
    refine (of_tokens_eq_error_iff_of_named named).mpr ⟨.notGroup token, ?_, rfl⟩
    exact Operation.of_parameters_eq_not_group_iff.mpr
      ⟨(required_tokens_le_iff_of_named named).mp enough, place, grouped, standing, ungrouped⟩

theorem of_tokens_eq_ok_iff {instruction : Instruction} :
    ofTokens source line tokens = .ok instruction ↔
      instruction.operation.keyword.name = leadingName tokens ∧
        instruction.operation.keyword.requiredTokens ≤ tokens.length ∧ instruction.line = line ∧
        instruction.parameters = tokens.tail ∧ instruction.operation.IsPlacedFrom tokens.tail := by
  constructor
  · intro built
    obtain ⟨keyword, named⟩ := exists_named_of_not_unknown built (by simp)
    obtain ⟨operation, fits, rfl⟩ := (of_tokens_eq_ok_iff_of_named named).mp built
    have keyword_eq := Operation.keyword_of_of_parameters fits
    subst keyword_eq
    obtain ⟨enough, placed⟩ := Operation.of_parameters_keyword_eq_ok_iff.mp fits
    exact ⟨named, (required_tokens_le_iff_of_named named).mpr enough, rfl, rfl, placed⟩
  · obtain ⟨number, operation, written⟩ := instruction
    rintro ⟨named, enough, rfl, rfl, placed⟩
    refine (of_tokens_eq_ok_iff_of_named named).mpr ⟨operation, ?_, rfl⟩
    exact Operation.of_parameters_keyword_eq_ok_iff.mpr
      ⟨(required_tokens_le_iff_of_named named).mp enough, placed⟩

/-- Tokens are accepted exactly when they are a keyword and as many parameters as it requires, the one
that has to be a group being one. -/
theorem exists_of_tokens_eq_ok_iff :
    (∃ instruction, ofTokens source line tokens = .ok instruction) ↔
      ∃ keyword : Keyword, keyword.name = leadingName tokens ∧
        keyword.requiredTokens ≤ tokens.length ∧
        ∀ place, keyword.groupPlace? = some place →
          ∃ mark, tokens.tail[place]? = some mark ∧ mark.IsGroupMark := by
  constructor
  · rintro ⟨instruction, built⟩
    obtain ⟨named, enough, -⟩ := of_tokens_eq_ok_iff.mp built
    refine ⟨_, named, enough, fun place grouped => ?_⟩
    have inside : place < tokens.tail.length := by
      have low := Keyword.group_place?_lt grouped
      exact Nat.lt_of_lt_of_le low ((required_tokens_le_iff_of_named named).mp enough)
    have standing := List.getElem?_eq_getElem inside
    refine ⟨_, standing, ?_⟩
    by_contra ungrouped
    have refused : ofTokens source line tokens = .error (.groupExpected _ line _) :=
      of_tokens_eq_group_expected_iff.mpr
        ⟨named, enough, rfl, place, _, grouped, standing, ungrouped, rfl⟩
    rw [built] at refused
    cases refused
  · rintro ⟨keyword, named, enough, marked⟩
    cases built : ofTokens source line tokens with
    | ok instruction => exact ⟨instruction, rfl⟩
    | error fault =>
        exfalso
        cases fault with
        | unknownOperation name number excerpt =>
            obtain ⟨rfl, -, -, unlisted⟩ := of_tokens_eq_unknown_operation_iff.mp built
            exact unlisted (List.mem_map.mpr ⟨keyword, Keyword.mem_all keyword, named⟩)
        | missingParameters other number required supplied excerpt =>
            obtain ⟨otherNamed, few, -⟩ := of_tokens_eq_missing_parameters_iff.mp built
            have same := Keyword.name_injective (otherNamed.trans named.symm)
            subst same
            omega
        | groupExpected other number found =>
            obtain ⟨otherNamed, -, -, place, token, grouped, standing, ungrouped, -⟩ :=
              of_tokens_eq_group_expected_iff.mp built
            have same := Keyword.name_injective (otherNamed.trans named.symm)
            subst same
            obtain ⟨mark, found, isMark⟩ := marked place grouped
            rw [standing] at found
            cases found
            exact ungrouped isMark

theorem map_operation_of_tokens (named : keyword.name = leadingName tokens) :
    (ofTokens source line tokens).map (·.operation) =
      (Operation.ofParameters keyword tokens.tail).mapError
        (misfitFault source line keyword tokens.tail.length) := by
  cases fits : Operation.ofParameters keyword tokens.tail with
  | ok operation =>
      rw [(of_tokens_eq_ok_iff_of_named named).mpr ⟨operation, fits, rfl⟩]
      rfl
  | error misfit =>
      rw [(of_tokens_eq_error_iff_of_named named).mpr ⟨misfit, fits, rfl⟩]
      rfl

theorem map_operation_of_tokens_take {places : Nat} (named : keyword.name = leadingName tokens)
    (bounded : keyword.places? = some places) :
    (ofTokens source line (tokens.take (places + 1))).map (·.operation) =
      (ofTokens source line tokens).map (·.operation) := by
  have namedTaken : keyword.name = leadingName (tokens.take (places + 1)) := by
    cases tokens with
    | nil => exact named
    | cons first others => exact named
  have tail_eq : (tokens.take (places + 1)).tail = tokens.tail.take places := by
    cases tokens with
    | nil => rw [List.take_nil, List.tail_nil, List.take_nil]
    | cons first others => rfl
  rw [map_operation_of_tokens namedTaken, map_operation_of_tokens named, tail_eq,
    Operation.of_parameters_take bounded]
  cases fits : Operation.ofParameters keyword tokens.tail with
  | ok operation => rfl
  | error misfit =>
      cases misfit with
      | notGroup found => rfl
      | tooFew =>
          -- the fault tells how many parameters there are, which are too few to be cut
          have few := Operation.of_parameters_eq_too_few_iff.mp fits
          have bound := Keyword.required_parameters_le_places bounded
          rw [List.take_of_length_le (by omega)]

/-- Once the number of tokens has been compared with the table, a reading is always found and never
misses a parameter. -/
theorem of_tokens_in_turn_eq (unread missed : Except Script.Fault Instruction) (source : Text)
    (line : Nat) (tokens : List Token) :
    ofTokensInTurn unread missed source line tokens = ofTokens source line tokens := by
  by_cases listed : leadingName tokens ∈ Keyword.all.map Keyword.name
  · obtain ⟨keyword, named⟩ := exists_named listed
    obtain ⟨reading, chosen, reads⟩ := ParameterReading.exists_reading keyword
    rw [ofTokensInTurn, Keyword.of_name?_eq_some_iff.mpr named, ← named, chosen]
    dsimp only
    split
    · rename_i few
      have less : tokens.length - 1 < keyword.requiredTokens - 1 := by
        have length_eq := length_of_named named
        omega
      exact (of_tokens_eq_missing_parameters_iff.mpr ⟨named, few, rfl, rfl, rfl, less, rfl⟩).symm
    · rename_i enough
      have enoughParameters : keyword.requiredParameters ≤ tokens.tail.length :=
        (required_tokens_le_iff_of_named named).mp (Nat.le_of_not_lt enough)
      rw [reads tokens.tail enoughParameters]
      cases fits : Operation.ofParameters keyword tokens.tail with
      | ok operation => exact ((of_tokens_eq_ok_iff_of_named named).mpr ⟨operation, fits, rfl⟩).symm
      | error misfit =>
          cases misfit with
          | tooFew =>
              have few := Operation.of_parameters_eq_too_few_iff.mp fits
              omega
          | notGroup found =>
              exact ((of_tokens_eq_error_iff_of_named named).mpr ⟨.notGroup found, fits, rfl⟩).symm
  · rw [ofTokensInTurn, Keyword.of_name?_eq_none_iff.mpr listed, of_tokens_of_unknown listed]

/-- The tokens of a line decide what it makes. It is refused as an unknown operation when its first token
is no keyword; as too short when it has fewer tokens than the table requires of its keyword, both numbers
being told less the keyword; and for want of a group when the parameter in the place of a group is no
group mark. Otherwise it makes the instruction of its keyword, with all its parameters and with the first
of them in the places of the operation, and parameters beyond these places do not matter. It is the same
if the parameters are taken one after another by the reading under the name, whatever would come of a
name without a reading or of a parameter that is missed: neither occurs. -/
theorem tokens_decide_instruction (source : Text) (line : Nat) (tokens : List Token) :
    (∀ name number excerpt,
      ofTokens source line tokens = .error (.unknownOperation name number excerpt) ↔
        name = leadingName tokens ∧ number = line ∧ excerpt = Script.excerpt source line ∧
          name ∉ Keyword.all.map Keyword.name) ∧
    (∀ keyword number required supplied excerpt,
      ofTokens source line tokens =
          .error (.missingParameters keyword number required supplied excerpt) ↔
        keyword.name = leadingName tokens ∧ tokens.length < keyword.requiredTokens ∧ number = line ∧
          required = keyword.requiredTokens - 1 ∧ supplied = tokens.length - 1 ∧
          supplied < required ∧ excerpt = Script.excerpt source line) ∧
    (∀ keyword number found,
      ofTokens source line tokens = .error (.groupExpected keyword number found) ↔
        keyword.name = leadingName tokens ∧ keyword.requiredTokens ≤ tokens.length ∧ number = line ∧
          ∃ place token, keyword.groupPlace? = some place ∧ tokens.tail[place]? = some token ∧
            ¬ token.IsGroupMark ∧ found = token.text) ∧
    (∀ instruction,
      ofTokens source line tokens = .ok instruction ↔
        instruction.operation.keyword.name = leadingName tokens ∧
          instruction.operation.keyword.requiredTokens ≤ tokens.length ∧ instruction.line = line ∧
          instruction.parameters = tokens.tail ∧ instruction.operation.IsPlacedFrom tokens.tail) ∧
    ((∃ instruction, ofTokens source line tokens = .ok instruction) ↔
      ∃ keyword : Keyword, keyword.name = leadingName tokens ∧
        keyword.requiredTokens ≤ tokens.length ∧
        ∀ place, keyword.groupPlace? = some place →
          ∃ mark, tokens.tail[place]? = some mark ∧ mark.IsGroupMark) ∧
    (∀ (keyword : Keyword) (places : Nat), keyword.name = leadingName tokens →
      keyword.places? = some places →
        (ofTokens source line (tokens.take (places + 1))).map (·.operation) =
          (ofTokens source line tokens).map (·.operation)) ∧
    ∀ unread missed, ofTokensInTurn unread missed source line tokens = ofTokens source line tokens := by
  refine ⟨?_, ?_, ?_, ?_, exists_of_tokens_eq_ok_iff, ?_, ?_⟩
  · exact fun name number excerpt => of_tokens_eq_unknown_operation_iff
  · exact fun keyword number required supplied excerpt => of_tokens_eq_missing_parameters_iff
  · exact fun keyword number found => of_tokens_eq_group_expected_iff
  · exact fun instruction => of_tokens_eq_ok_iff
  · exact fun keyword places named bounded => map_operation_of_tokens_take named bounded
  · exact fun unread missed => of_tokens_in_turn_eq unread missed source line tokens

/-- Tokens that no line has: the keyword in a quoted token without quotes, and a group without a name.
They make an instruction, which the fourth token does not influence. -/
theorem tokens_decide_instruction_of_unreadable_tokens :
    let tokens : List Token :=
      [⟨.quoted, ['e', 'a', 'c', 'h']⟩, ⟨.group, ['[', ']']⟩, ⟨.word, ['x']⟩, ⟨.word, []⟩]
    Keyword.each.name = leadingName tokens ∧ Keyword.each.places? = some 2 ∧
      ofTokens [] 7 tokens = .ok ⟨7, .each [] ⟨.word, ['x']⟩, tokens.tail⟩ ∧
      (ofTokens [] 7 (tokens.take 3)).map (·.operation) =
        (ofTokens [] 7 tokens).map (·.operation) := by
  intro tokens
  obtain ⟨-, -, -, accepted_iff, -, taken, -⟩ := tokens_decide_instruction [] 7 tokens
  refine ⟨rfl, rfl, (accepted_iff _).mpr ⟨rfl, by decide, rfl, rfl, rfl, rfl⟩, ?_⟩
  exact taken .each 2 rfl rfl

end Instruction

end LineScript
