import PocketCalc.Text.Utf8

/-!
# Reading encoded texts

The bytes that encode a text are decoded to that text.  A character is encoded
by a first byte with its leading bits and by bytes with six bits each, and the
code point under way gets these bits in turn.  The range of the second byte
leaves out the code points that have shorter forms or are no characters, so a
character is always within it.
-/

namespace PocketCalc

namespace Utf8

/-! ## First bytes -/

section FirstByte

variable
  {byte : UInt8}
  {lead : Nat}

/-- The first byte of a character of two bytes. -/
theorem begin?_two
    (value : byte.toNat = lead + 0xC0)
    (low : 2 ≤ lead)
    (high : lead < 32)
    (position : Nat) :
    begin? position byte =
      some
        { first := byte
          position := position
          seen := 1
          missing := 1
          low := 0x80
          high := 0xBF
          code := lead } := by
  simp [begin?, UInt8.lt_iff_toNat_lt, value]
  omega

/-- The first byte of a character of three bytes. -/
theorem begin?_three
    (value : byte.toNat = lead + 0xE0)
    (high : lead < 16)
    (position : Nat) :
    begin? position byte =
      some
        { first := byte
          position := position
          seen := 1
          missing := 2
          low := if lead = 0 then 0xA0 else 0x80
          high := if lead = 13 then 0x9F else 0xBF
          code := lead } := by
  simp [begin?, UInt8.lt_iff_toNat_lt, ← UInt8.toNat_inj, value]
  grind

/-- The first byte of a character of four bytes. -/
theorem begin?_four
    (value : byte.toNat = lead + 0xF0)
    (high : lead ≤ 4)
    (position : Nat) :
    begin? position byte =
      some
        { first := byte
          position := position
          seen := 1
          missing := 3
          low := if lead = 0 then 0x90 else 0x80
          high := if lead = 4 then 0x8F else 0xBF
          code := lead } := by
  simp [begin?, UInt8.lt_iff_toNat_lt, ← UInt8.toNat_inj, value]
  grind

end FirstByte

/-! ## Following bytes -/

theorem toNat_ofNat_of_lt
    {value : Nat}
    (small : value < 256) :
    (UInt8.ofNat value).toNat = value := by
  rw [UInt8.toNat_ofNat', Nat.mod_eq_of_lt small]

section FollowingByte

variable
  {pending : Pending}
  {bits : Nat}

theorem decodeFrom_last
    (missing : pending.missing = 1)
    (low : pending.low = 0x80)
    (high : pending.high = 0xBF)
    (few : bits < 64)
    (position : Nat)
    (rest : List UInt8) :
    decodeFrom position (some pending) (UInt8.ofNat (bits + 0x80) :: rest) =
      (decodeFrom (position + 1) none rest).map
        (Char.ofNat (pending.code * 64 + bits) :: ·) := by
  have value := toNat_ofNat_of_lt (show bits + 0x80 < 256 by omega)
  rw [decodeFrom, if_pos, missing, if_pos (Nat.le_refl 1), value,
    Nat.add_sub_cancel]
  rw [UInt8.le_iff_toNat_le, UInt8.le_iff_toNat_le, value, low, high]
  constructor
  · exact Nat.le_add_left 0x80 bits
  · exact Nat.add_le_add_right (Nat.le_of_lt_succ few) 0x80

theorem decodeFrom_next
    (missing : 1 < pending.missing)
    (few : bits < 64)
    (low : pending.low.toNat ≤ bits + 0x80)
    (high : bits + 0x80 ≤ pending.high.toNat)
    (position : Nat)
    (rest : List UInt8) :
    decodeFrom position (some pending) (UInt8.ofNat (bits + 0x80) :: rest) =
      decodeFrom (position + 1)
        (some
          { pending with
            seen := pending.seen + 1
            missing := pending.missing - 1
            low := 0x80
            high := 0xBF
            code := pending.code * 64 + bits })
        rest := by
  have value := toNat_ofNat_of_lt (show bits + 0x80 < 256 by omega)
  rw [decodeFrom, if_pos, if_neg (Nat.not_le_of_lt missing), value,
    Nat.add_sub_cancel]
  rw [UInt8.le_iff_toNat_le, UInt8.le_iff_toNat_le, value]
  exact ⟨low, high⟩

end FollowingByte

/-! ## Characters -/

section Character

variable
  {value : Nat}
  {pending : Pending}
  {byte : UInt8}

theorem decodeFrom_first
    {position : Nat}
    (begun : begin? position byte = some pending)
    (long : 0x80 ≤ byte.toNat)
    (rest : List UInt8) :
    decodeFrom position none (byte :: rest) =
      decodeFrom (position + 1) (some pending) rest := by
  rw [decodeFrom, if_neg, begun]
  rw [UInt8.lt_iff_toNat_lt]
  exact Nat.not_lt_of_le long

theorem decodeFrom_one
    (high : value ≤ 0x7F)
    (position : Nat)
    (rest : List UInt8) :
    decodeFrom position none (UInt8.ofNat value :: rest) =
      (decodeFrom (position + 1) none rest).map (Char.ofNat value :: ·) := by
  have first := toNat_ofNat_of_lt (show value < 256 by omega)
  rw [decodeFrom, if_pos, first]
  rw [UInt8.lt_iff_toNat_lt, first]
  exact Nat.lt_succ_of_le high

theorem decodeFrom_two
    (low : 0x7F < value)
    (high : value ≤ 0x7FF)
    (position : Nat)
    (rest : List UInt8) :
    decodeFrom position none
        (UInt8.ofNat (value / 64 % 32 + 0xC0) ::
          UInt8.ofNat (value % 64 + 0x80) :: rest) =
      (decodeFrom (position + 2) none rest).map (Char.ofNat value :: ·) := by
  have first :=
    toNat_ofNat_of_lt (show value / 64 % 32 + 0xC0 < 256 by omega)
  have begun := begin?_two first (by omega) (by omega) position
  have code : value / 64 % 32 * 64 + value % 64 = value := by omega
  rw [decodeFrom_first begun (by omega),
    decodeFrom_last rfl rfl rfl (by omega), code]

theorem decodeFrom_three
    (valid : value.isValidChar)
    (low : 0x7FF < value)
    (high : value ≤ 0xFFFF)
    (position : Nat)
    (rest : List UInt8) :
    decodeFrom position none
        (UInt8.ofNat (value / 4096 % 16 + 0xE0) ::
          UInt8.ofNat (value / 64 % 64 + 0x80) ::
            UInt8.ofNat (value % 64 + 0x80) :: rest) =
      (decodeFrom (position + 3) none rest).map (Char.ofNat value :: ·) := by
  have first :=
    toNat_ofNat_of_lt (show value / 4096 % 16 + 0xE0 < 256 by omega)
  have begun := begin?_three first (by omega) position
  have code :
      (value / 4096 % 16 * 64 + value / 64 % 64) * 64 + value % 64 =
        value := by
    omega
  rw [decodeFrom_first begun (by omega),
    decodeFrom_next (Nat.lt_succ_self 1) (by omega),
    decodeFrom_last rfl rfl rfl (by omega), code]
  · dsimp only
    split
    · show 0xA0 ≤ value / 64 % 64 + 0x80
      omega
    · exact Nat.le_add_left 0x80 _
  · dsimp only
    split
    · rw [Nat.isValidChar] at valid
      show value / 64 % 64 + 0x80 ≤ 0x9F
      omega
    · show value / 64 % 64 + 0x80 ≤ 0xBF
      omega

theorem decodeFrom_four
    (valid : value.isValidChar)
    (low : 0xFFFF < value)
    (position : Nat)
    (rest : List UInt8) :
    decodeFrom position none
        (UInt8.ofNat (value / 262144 % 8 + 0xF0) ::
          UInt8.ofNat (value / 4096 % 64 + 0x80) ::
            UInt8.ofNat (value / 64 % 64 + 0x80) ::
              UInt8.ofNat (value % 64 + 0x80) :: rest) =
      (decodeFrom (position + 4) none rest).map (Char.ofNat value :: ·) := by
  rw [Nat.isValidChar] at valid
  have first :=
    toNat_ofNat_of_lt (show value / 262144 % 8 + 0xF0 < 256 by omega)
  have begun := begin?_four first (by omega) position
  have code :
      ((value / 262144 % 8 * 64 + value / 4096 % 64) * 64 +
          value / 64 % 64) * 64 + value % 64 =
        value := by
    omega
  rw [decodeFrom_first begun (by omega),
    decodeFrom_next (show 1 < 3 by decide) (by omega),
    decodeFrom_next (Nat.lt_succ_self 1) (by omega),
    decodeFrom_last rfl rfl rfl (by omega), code]
  · exact Nat.le_add_left 0x80 _
  · show value / 64 % 64 + 0x80 ≤ 0xBF
    omega
  · dsimp only
    split
    · show 0x90 ≤ value / 4096 % 64 + 0x80
      omega
    · exact Nat.le_add_left 0x80 _
  · dsimp only
    split
    · show value / 4096 % 64 + 0x80 ≤ 0x8F
      omega
    · show value / 4096 % 64 + 0x80 ≤ 0xBF
      omega

end Character

/-- The bytes of a character are decoded to it. -/
theorem exists_decodeFrom_utf8EncodeChar
    (character : Char)
    (position : Nat)
    (rest : List UInt8) :
    ∃ next,
      decodeFrom position none (String.utf8EncodeChar character ++ rest) =
        (decodeFrom next none rest).map (character :: ·) := by
  have valid : character.toNat.isValidChar := character.valid
  have code : character.val.toNat = character.toNat := rfl
  suffices decoded :
      ∃ next,
        decodeFrom position none (String.utf8EncodeChar character ++ rest) =
          (decodeFrom next none rest).map
            (Char.ofNat character.toNat :: ·) by
    rw [Char.ofNat_toNat] at decoded
    exact decoded
  rw [String.utf8EncodeChar, code]
  by_cases one : character.toNat ≤ 0x7F
  · rw [if_pos one]
    exact ⟨_, decodeFrom_one one position rest⟩
  · rw [if_neg one]
    by_cases two : character.toNat ≤ 0x7FF
    · rw [if_pos two]
      exact ⟨_, decodeFrom_two (Nat.lt_of_not_le one) two position rest⟩
    · rw [if_neg two]
      have long := Nat.lt_of_not_le two
      by_cases three : character.toNat ≤ 0xFFFF
      · rw [if_pos three]
        exact ⟨_, decodeFrom_three valid long three position rest⟩
      · rw [if_neg three]
        have longest := Nat.lt_of_not_le three
        exact ⟨_, decodeFrom_four valid longest position rest⟩

/-- An encoded text is decoded to the text. -/
theorem decode_encode (text : Text) : decode (encode text) = .ok text := by
  have anywhere :
      ∀ position, decodeFrom position none (encode text) = .ok text := by
    induction text with
    | nil =>
        intro position
        rfl
    | cons character rest ih =>
        intro position
        rcases exists_decodeFrom_utf8EncodeChar character position
            (encode rest) with
          ⟨next, decoded⟩
        rw [encode, List.flatMap_cons]
        rw [encode] at decoded
        rw [decoded, ← encode, ih]
        rfl
  exact anywhere 0

end Utf8

end PocketCalc
