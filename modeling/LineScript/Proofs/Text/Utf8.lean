import LineScript.Proofs.Text.ByteOrder

/-!
# Bytes and characters

The decoder and the encoder are inverse to each other: the bytes that decode to a text are the bytes
of that text and no others. Both directions rest on one relation, which says of the bytes after the
first one which character they complete.
-/

namespace LineScript.Utf8

set_option autoImplicit false

/-- The bytes end a sequence that has begun, and the whole sequence stands for the character. -/
def Completes : Pending → List UInt8 → Char → Prop
  | _, [], _ => False
  | pending, byte :: rest, c =>
    (pending.low ≤ byte ∧ byte ≤ pending.high) ∧
      let bits := pending.bits * 0x40 + byte.toNat % 0x40
      if pending.missing ≤ 1 then rest = [] ∧ c = Char.ofNat bits
      else Completes ⟨bits, pending.missing - 1, 0x80, 0xBF⟩ rest c

variable {byte : UInt8} {bytes rest : List UInt8} {c : Char} {pending : Pending}
  {items : List (Option Char)} {text : Text}

theorem scalars_append_of_completes (completes : Completes pending bytes c) (later : List UInt8) :
    scalars (some pending) (bytes ++ later) = some c :: scalars none later := by
  induction bytes generalizing pending with
  | nil => exact completes.elim
  | cons byte rest ih =>
    obtain ⟨inside, completes⟩ := completes
    dsimp only at completes
    rw [List.cons_append, scalars, if_pos inside]
    dsimp only
    by_cases single : pending.missing ≤ 1
    · rw [if_pos single] at completes ⊢
      obtain ⟨rfl, rfl⟩ := completes
      rfl
    · rw [if_neg single] at completes ⊢
      exact ih completes

theorem exists_completes_of_scalars (read : scalars (some pending) bytes = some c :: items) :
    ∃ first later, bytes = first ++ later ∧ Completes pending first c ∧
      scalars none later = items := by
  induction bytes generalizing pending with
  | nil =>
    rw [scalars] at read
    cases read
  | cons byte rest ih =>
    rw [scalars] at read
    by_cases inside : pending.low ≤ byte ∧ byte ≤ pending.high
    · rw [if_pos inside] at read
      dsimp only at read
      by_cases single : pending.missing ≤ 1
      · rw [if_pos single] at read
        cases read
        exact ⟨[byte], rest, rfl, ⟨inside, by simp [single]⟩, rfl⟩
      · rw [if_neg single] at read
        obtain ⟨first, later, rfl, completes, read⟩ := ih read
        exact ⟨byte :: first, later, rfl, ⟨inside, by simpa [single] using completes⟩, read⟩
    · rw [if_neg inside] at read
      -- A byte out of range ends an ill-formed part.
      split at read <;> cases read

/-! ## First bytes -/

theorem lead_of_two (low : 0xC2 ≤ byte.toNat) (high : byte.toNat < 0xE0) :
    lead byte = .opening ⟨byte.toNat - 0xC0, 1, 0x80, 0xBF⟩ := by
  simp only [lead]
  rw [if_neg (by omega), if_neg (by omega), if_pos high]

theorem lead_of_three (low : 0xE0 ≤ byte.toNat) (high : byte.toNat < 0xF0) :
    lead byte = .opening ⟨byte.toNat - 0xE0, 2, if byte.toNat = 0xE0 then 0xA0 else 0x80,
      if byte.toNat = 0xED then 0x9F else 0xBF⟩ := by
  simp only [lead]
  rw [if_neg (by omega), if_neg (by omega), if_neg (by omega)]
  split_ifs <;> simp_all

theorem lead_of_four (low : 0xF0 ≤ byte.toNat) (high : byte.toNat < 0xF5) :
    lead byte = .opening ⟨byte.toNat - 0xF0, 3, if byte.toNat = 0xF0 then 0x90 else 0x80,
      if byte.toNat = 0xF4 then 0x8F else 0xBF⟩ := by
  simp only [lead]
  rw [if_neg (by omega), if_neg (by omega), if_neg (by omega), if_neg (by omega), if_neg (by omega),
    if_neg (by omega)]
  split_ifs <;> simp_all
  omega

theorem to_nat_of_nat_byte (byte : UInt8) : (Char.ofNat byte.toNat).toNat = byte.toNat := by
  have small := byte.toNat_lt
  have valid : Nat.isValidChar byte.toNat := Or.inl (by omega)
  rw [Char.ofNat, dif_pos valid]
  rfl

theorem lead_eq_scalar_iff : lead byte = .scalar c ↔ byte.toNat < 0x80 ∧ c.toNat = byte.toNat := by
  simp only [lead]
  constructor
  · intro same
    split_ifs at same with one
    obtain rfl := Lead.scalar.inj same
    exact ⟨one, to_nat_of_nat_byte byte⟩
  · rintro ⟨one, same⟩
    rw [if_pos one, ← same, Char.ofNat_toNat]

theorem range_of_opening (opens : lead byte = .opening pending) :
    0xC2 ≤ byte.toNat ∧ byte.toNat < 0xE0 ∨ 0xE0 ≤ byte.toNat ∧ byte.toNat < 0xF0 ∨
      0xF0 ≤ byte.toNat ∧ byte.toNat < 0xF5 := by
  simp only [lead] at opens
  split_ifs at opens <;> omega

/-! ## Characters -/

theorem completes_last {bits : Nat} {low high : UInt8} :
    Completes ⟨bits, 1, low, high⟩ bytes c ↔
      ∃ byte, bytes = [byte] ∧ (low ≤ byte ∧ byte ≤ high) ∧
        c = Char.ofNat (bits * 0x40 + byte.toNat % 0x40) := by
  cases bytes <;> simp [Completes]
  tauto

theorem completes_more {bits missing : Nat} {low high : UInt8} :
    Completes ⟨bits, missing + 2, low, high⟩ bytes c ↔
      ∃ byte rest, bytes = byte :: rest ∧ (low ≤ byte ∧ byte ≤ high) ∧
        Completes ⟨bits * 0x40 + byte.toNat % 0x40, missing + 1, 0x80, 0xBF⟩ rest c := by
  cases bytes <;> simp [Completes]

theorem to_nat_of_nat {code : Nat} (valid : code < 0xD800 ∨ 0xDFFF < code ∧ code < 0x110000) :
    (Char.ofNat code).toNat = code := by
  rw [Char.ofNat, dif_pos valid]
  rfl

theorem encode_char_of_completes (opens : lead byte = .opening pending)
    (completes : Completes pending rest c) : encodeChar c = byte :: rest := by
  rcases range_of_opening opens with ⟨low, high⟩ | ⟨low, high⟩ | ⟨low, high⟩
  · obtain rfl := Lead.opening.inj ((lead_of_two low high).symm.trans opens)
    obtain ⟨second, rfl, inside, value⟩ := completes_last.mp completes
    simp only [UInt8.le_iff_toNat_le, UInt8.reduceToNat] at inside
    have code : c.toNat = (byte.toNat - 0xC0) * 0x40 + second.toNat % 0x40 := by
      rw [value]
      exact to_nat_of_nat (by omega)
    simp only [encodeChar]
    rw [if_neg (by omega), if_pos (by omega)]
    simp only [List.cons.injEq, and_true, ← UInt8.toNat_inj, to_nat_continuation, UInt8.toNat_ofNat']
    omega
  · obtain rfl := Lead.opening.inj ((lead_of_three low high).symm.trans opens)
    obtain ⟨second, rest, rfl, inside, completes⟩ := completes_more.mp completes
    obtain ⟨third, rfl, insideThird, value⟩ := completes_last.mp completes
    simp only [UInt8.le_iff_toNat_le, apply_ite UInt8.toNat, UInt8.reduceToNat]
      at inside insideThird
    have code : c.toNat = ((byte.toNat - 0xE0) * 0x40 + second.toNat % 0x40) * 0x40 +
        third.toNat % 0x40 := by
      rw [value]
      exact to_nat_of_nat (by split_ifs at inside <;> omega)
    have range : 0x800 ≤ c.toNat ∧ c.toNat < 0x10000 := by
      split_ifs at inside <;> omega
    simp only [encodeChar]
    rw [if_neg (by omega), if_neg (by omega), if_pos range.2]
    simp only [List.cons.injEq, and_true, ← UInt8.toNat_inj, to_nat_continuation, UInt8.toNat_ofNat']
    split_ifs at inside <;> omega
  · obtain rfl := Lead.opening.inj ((lead_of_four low high).symm.trans opens)
    obtain ⟨second, rest, rfl, inside, completes⟩ := completes_more.mp completes
    obtain ⟨third, rest, rfl, insideThird, completes⟩ := completes_more.mp completes
    obtain ⟨fourth, rfl, insideFourth, value⟩ := completes_last.mp completes
    simp only [UInt8.le_iff_toNat_le, apply_ite UInt8.toNat, UInt8.reduceToNat]
      at inside insideThird insideFourth
    have code : c.toNat = (((byte.toNat - 0xF0) * 0x40 + second.toNat % 0x40) * 0x40 +
        third.toNat % 0x40) * 0x40 + fourth.toNat % 0x40 := by
      rw [value]
      exact to_nat_of_nat (by split_ifs at inside <;> omega)
    have range : 0x10000 ≤ c.toNat ∧ c.toNat < 0x110000 := by
      split_ifs at inside <;> omega
    simp only [encodeChar]
    rw [if_neg (by omega), if_neg (by omega), if_neg (by omega)]
    simp only [List.cons.injEq, and_true, ← UInt8.toNat_inj, to_nat_continuation, UInt8.toNat_ofNat']
    split_ifs at inside <;> omega

theorem encode_char_cases (c : Char) :
    (∃ byte, encodeChar c = [byte] ∧ lead byte = .scalar c) ∨
      ∃ byte rest pending, encodeChar c = byte :: rest ∧ lead byte = .opening pending ∧
        Completes pending rest c := by
  have valid : c.toNat < 0xD800 ∨ 0xDFFF < c.toNat ∧ c.toNat < 0x110000 := c.valid
  have value : ∀ code, c.toNat = code → c = Char.ofNat code := by
    rintro _ rfl
    exact (Char.ofNat_toNat c).symm
  simp only [encodeChar]
  split_ifs with one two three
  · left
    refine ⟨_, rfl, lead_eq_scalar_iff.mpr ?_⟩
    rw [UInt8.toNat_ofNat']
    omega
  · right
    have first := UInt8.toNat_ofNat_of_lt' (show 0xC0 + c.toNat / 0x40 < 2 ^ 8 by omega)
    refine ⟨_, _, _, rfl, lead_of_two (by omega) (by omega), completes_last.mpr ⟨_, rfl, ?_⟩⟩
    simp only [first, UInt8.le_iff_toNat_le, to_nat_continuation, UInt8.reduceToNat]
    exact ⟨by omega, value _ (by omega)⟩
  · right
    have first := UInt8.toNat_ofNat_of_lt' (show 0xE0 + c.toNat / 0x1000 < 2 ^ 8 by omega)
    refine ⟨_, _, _, rfl, lead_of_three (by omega) (by omega),
      completes_more.mpr ⟨_, _, rfl, ?_, completes_last.mpr ⟨_, rfl, ?_⟩⟩⟩ <;>
      simp only [first, UInt8.le_iff_toNat_le, to_nat_continuation, apply_ite UInt8.toNat,
        UInt8.reduceToNat]
    · split_ifs <;> omega
    · exact ⟨by omega, value _ (by omega)⟩
  · right
    have first := UInt8.toNat_ofNat_of_lt' (show 0xF0 + c.toNat / 0x40000 < 2 ^ 8 by omega)
    refine ⟨_, _, _, rfl, lead_of_four (by omega) (by omega), completes_more.mpr ⟨_, _, rfl, ?_,
      completes_more.mpr ⟨_, _, rfl, ?_, completes_last.mpr ⟨_, rfl, ?_⟩⟩⟩⟩ <;>
      simp only [first, UInt8.le_iff_toNat_le, to_nat_continuation, apply_ite UInt8.toNat,
        UInt8.reduceToNat]
    · split_ifs <;> omega
    · omega
    · exact ⟨by omega, value _ (by omega)⟩

/-! ## Texts -/

theorem encode_cons (c : Char) (text : Text) : encode (c :: text) = encodeChar c ++ encode text :=
  List.flatMap_cons

theorem scalars_encode_char_append (c : Char) (later : List UInt8) :
    scalars none (encodeChar c ++ later) = some c :: scalars none later := by
  rcases encode_char_cases c with
    ⟨byte, spelled, scalar⟩ | ⟨byte, rest, pending, spelled, opens, completes⟩
  · rw [spelled, List.cons_append, scalars, scalar, List.nil_append]
  · rw [spelled, List.cons_append, scalars, opens]
    exact scalars_append_of_completes completes later

theorem scalars_encode (text : Text) : scalars none (encode text) = text.map some := by
  induction text with
  | nil => rw [encode_nil, scalars, List.map_nil]
  | cons c text ih => rw [encode_cons, scalars_encode_char_append, ih, List.map_cons]

theorem exists_encode_char_append (read : scalars none bytes = some c :: items) :
    ∃ later, bytes = encodeChar c ++ later ∧ scalars none later = items := by
  cases bytes with
  | nil =>
    rw [scalars] at read
    cases read
  | cons byte rest =>
    rw [scalars] at read
    cases first : lead byte with
    | scalar d =>
      simp only [first, List.cons.injEq, Option.some.injEq] at read
      obtain ⟨rfl, read⟩ := read
      refine ⟨rest, ?_, read⟩
      obtain ⟨one, code⟩ := lead_eq_scalar_iff.mp first
      simp only [encodeChar]
      rw [code, if_pos one, UInt8.ofNat_toNat]
      rfl
    | opening pending =>
      simp only [first] at read
      obtain ⟨bytes, later, rfl, completes, read⟩ := exists_completes_of_scalars read
      exact ⟨later, by rw [encode_char_of_completes first completes, List.cons_append], read⟩
    | illFormed =>
      simp only [first] at read
      cases read

theorem scalars_ne_nil {start : Option Pending} (something : start ≠ none ∨ bytes ≠ []) :
    scalars start bytes ≠ [] := by
  fun_induction scalars start bytes <;> simp_all

theorem eq_encode_of_scalars (read : scalars none bytes = text.map some) : bytes = encode text := by
  induction text generalizing bytes with
  | nil =>
    by_contra something
    exact scalars_ne_nil (.inr something) read
  | cons c text ih =>
    obtain ⟨later, rfl, others⟩ := exists_encode_char_append read
    rw [encode_cons, ← ih others]

theorem map_m_id_eq_some_iff {items : List (Option Char)} :
    items.mapM id = some text ↔ items = text.map some := by
  induction items generalizing text with
  | nil => cases text <;> simp
  | cons item items ih =>
    simp only [List.mapM_cons, Option.bind_eq_bind, Option.bind_eq_some_iff, id_eq, ih]
    cases text <;> simp [pure, and_comm]

theorem decode?_eq_some_iff : decode? bytes = some text ↔ bytes = encode text := by
  rw [decode?, map_m_id_eq_some_iff]
  constructor
  · exact eq_encode_of_scalars
  · rintro rfl
    exact scalars_encode text

@[simp] theorem decode?_encode (text : Text) : decode? (encode text) = some text :=
  decode?_eq_some_iff.mpr rfl

theorem encode_inj {first second : Text} : encode first = encode second ↔ first = second := by
  constructor
  · intro same
    simpa using congrArg decode? same
  · rintro rfl
    rfl

end LineScript.Utf8
