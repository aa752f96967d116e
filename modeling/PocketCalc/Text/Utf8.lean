import PocketCalc.Text.Basic

/-!
# Reading UTF-8

Bytes are decoded by a machine that holds the character under way.  The first
byte of a character fixes how many bytes continue it and which values the next
one may have, so overlong forms, surrogates and code points beyond the last one
are refused at the first byte that makes them so.

A fault names the longest run of bytes that could still have begun a
character, and why no character came of it.
-/

namespace PocketCalc

namespace Utf8

/-- Why bytes are not the form of a character. -/
inductive FaultReason where
  /-- No character begins with the byte. -/
  | startByte
  /-- The character under way cannot go on with the next byte. -/
  | continuationByte
  /-- The bytes end within a character. -/
  | endOfData
deriving DecidableEq

/-- The faulty bytes: the first one, where it stands, and how many there are. -/
structure Fault where
  first : UInt8
  position : Nat
  length : Nat
  reason : FaultReason
deriving DecidableEq

namespace FaultReason

/-- The wording of a reason. -/
def message : FaultReason → String
  | .startByte => "invalid start byte"
  | .continuationByte => "invalid continuation byte"
  | .endOfData => "unexpected end of data"

end FaultReason

/--
A character under way: its first byte and where that stands, the bytes seen and
still to come, the range of the next byte, and the code point so far.
-/
structure Pending where
  first : UInt8
  position : Nat
  seen : Nat
  missing : Nat
  low : UInt8
  high : UInt8
  code : Nat
deriving DecidableEq

namespace Pending

/-- The fault of a character that does not come to its end. -/
def fault (pending : Pending) (reason : FaultReason) : Fault where
  first := pending.first
  position := pending.position
  length := pending.seen
  reason := reason

end Pending

/-- The character under way after a first byte that is not the whole of one. -/
def begin? (position : Nat) (byte : UInt8) : Option Pending :=
  let begun (missing : Nat) (low high : UInt8) (leading : Nat) : Option Pending :=
    some
      { first := byte
        position := position
        seen := 1
        missing := missing
        low := low
        high := high
        code := byte.toNat - leading }
  if byte < 0xC2 then none
  else if byte < 0xE0 then begun 1 0x80 0xBF 0xC0
  else if byte = 0xE0 then begun 2 0xA0 0xBF 0xE0
  else if byte = 0xED then begun 2 0x80 0x9F 0xE0
  else if byte < 0xF0 then begun 2 0x80 0xBF 0xE0
  else if byte = 0xF0 then begun 3 0x90 0xBF 0xF0
  else if byte < 0xF4 then begun 3 0x80 0xBF 0xF0
  else if byte = 0xF4 then begun 3 0x80 0x8F 0xF0
  else none

/--
Decode bytes from a position on, with a character under way or none.
-/
def decodeFrom (position : Nat) : Option Pending → List UInt8 → Except Fault Text
  | none, [] => .ok []
  | some pending, [] => .error (pending.fault .endOfData)
  | none, byte :: rest =>
      if byte < 0x80 then
        (decodeFrom (position + 1) none rest).map (Char.ofNat byte.toNat :: ·)
      else
        match begin? position byte with
        | none =>
            .error
              { first := byte
                position := position
                length := 1
                reason := .startByte }
        | some pending => decodeFrom (position + 1) (some pending) rest
  | some pending, byte :: rest =>
      if pending.low ≤ byte ∧ byte ≤ pending.high then
        let code := pending.code * 64 + (byte.toNat - 0x80)
        if pending.missing ≤ 1 then
          (decodeFrom (position + 1) none rest).map (Char.ofNat code :: ·)
        else
          decodeFrom (position + 1)
            (some
              { pending with
                seen := pending.seen + 1
                missing := pending.missing - 1
                low := 0x80
                high := 0xBF
                code := code })
            rest
      else
        .error (pending.fault .continuationByte)

/-- The text that bytes encode. -/
def decode (bytes : List UInt8) : Except Fault Text :=
  decodeFrom 0 none bytes

/-- The bytes that encode a text. -/
def encode (text : Text) : List UInt8 :=
  text.flatMap String.utf8EncodeChar

namespace Fault

/-- The wording of a fault: the byte itself if it is one, otherwise the range. -/
def message (fault : Fault) : Text :=
  let place : Text :=
    if fault.length = 1 then
      "byte 0x" ++
        List.leftpad 2 '0' (Nat.toDigits 16 fault.first.toNat) ++
        " in position " ++ Text.numeral fault.position
    else
      "bytes in position " ++ Text.numeral fault.position ++ ['-'] ++
        Text.numeral (fault.position + fault.length - 1)
  "'utf-8' codec can't decode " ++ place ++ ": " ++ fault.reason.message.toList

end Fault

end Utf8

end PocketCalc
