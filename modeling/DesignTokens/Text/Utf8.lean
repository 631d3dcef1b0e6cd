import DesignTokens.Text.Hex

/-!
# UTF-8 decoding

Decoding stops at the first byte that rules the text out. The fault names that
byte, the bytes of the unfinished character before it, and the reason.
-/

namespace DesignTokens.Text

/-- Why a byte sequence is not UTF-8. -/
inductive Utf8Reason where
  | invalidStart
  | invalidContinuation
  | unexpectedEnd
  deriving DecidableEq, Repr

/-- The bytes `offset` to `offset + size - 1` cannot be decoded. -/
structure Utf8Fault where
  offset : Nat
  size : Nat
  firstByte : UInt8
  reason : Utf8Reason
  deriving DecidableEq, Repr

namespace Utf8Reason

/-- The wording of a reason. -/
def text : Utf8Reason → String
  | .invalidStart => "invalid start byte"
  | .invalidContinuation => "invalid continuation byte"
  | .unexpectedEnd => "unexpected end of data"

end Utf8Reason

namespace Utf8Fault

/-- The wording of a fault. -/
def message (fault : Utf8Fault) : String :=
  let place :=
    if fault.size == 1 then
      "byte 0x" ++ String.ofList (hexDigits 2 fault.firstByte.toNat) ++
        " in position " ++ toString fault.offset
    else
      "bytes in position " ++ toString fault.offset ++ "-" ++
        toString (fault.offset + fault.size - 1)
  "'utf-8' codec can't decode " ++ place ++ ": " ++ fault.reason.text

end Utf8Fault

/-- The shape that a first byte announces: the number of bytes after it, the least
and the greatest second byte, and the bits that it contributes itself. -/
def utf8Lead (b : Nat) : Option (Nat × Nat × Nat × Nat) :=
  if b < 0x80 then some (0, 0x80, 0xBF, b)
  else if b < 0xC2 then none
  else if b < 0xE0 then some (1, 0x80, 0xBF, b - 0xC0)
  else if b = 0xE0 then some (2, 0xA0, 0xBF, 0)
  else if b = 0xED then some (2, 0x80, 0x9F, 13)
  else if b < 0xF0 then some (2, 0x80, 0xBF, b - 0xE0)
  else if b = 0xF0 then some (3, 0x90, 0xBF, 0)
  else if b < 0xF4 then some (3, 0x80, 0xBF, b - 0xF0)
  else if b = 0xF4 then some (3, 0x80, 0x8F, 4)
  else none

/-- Whether a byte is the continuation that may stand `place` bytes after the first. -/
def utf8Continues (low high place b : Nat) : Bool :=
  if place = 1 then low ≤ b && b ≤ high else 0x80 ≤ b && b ≤ 0xBF

/-- The position of the decoder between two bytes of one character. -/
structure Utf8Partial where
  start : Nat
  firstByte : UInt8
  owed : Nat
  seen : Nat
  low : Nat
  high : Nat
  bits : Nat

/-- Decode from byte `offset` on, inside the character `pending` if there is one. -/
def utf8From (offset : Nat) (pending : Option Utf8Partial) :
    List UInt8 → Except Utf8Fault (List Char)
  | [] =>
    match pending with
    | none => .ok []
    | some p => .error ⟨p.start, offset - p.start, p.firstByte, .unexpectedEnd⟩
  | b :: rest =>
    match pending with
    | none =>
      match utf8Lead b.toNat with
      | none => .error ⟨offset, 1, b, .invalidStart⟩
      | some (0, _, _, bits) =>
        (utf8From (offset + 1) none rest).map (Char.ofNat bits :: ·)
      | some (owed, low, high, bits) =>
        utf8From (offset + 1) (some ⟨offset, b, owed, 1, low, high, bits⟩) rest
    | some p =>
      if utf8Continues p.low p.high p.seen b.toNat then
        let bits := p.bits * 64 + (b.toNat - 0x80)
        if p.owed = 1 then
          (utf8From (offset + 1) none rest).map (Char.ofNat bits :: ·)
        else
          utf8From (offset + 1)
            (some { p with owed := p.owed - 1, seen := p.seen + 1, bits := bits }) rest
      else .error ⟨p.start, p.seen, p.firstByte, .invalidContinuation⟩

/-- The characters that a byte sequence encodes. -/
def decodeUtf8 (bytes : List UInt8) : Except Utf8Fault (List Char) :=
  utf8From 0 none bytes

/-- The mark that a file may start with, as bytes. -/
def byteOrderMark : List UInt8 := [0xEF, 0xBB, 0xBF]

/-- Decode a file that may start with one byte order mark, which is dropped and
not counted. A file that ends inside the mark holds no text. -/
def decodeMarkedUtf8 (bytes : List UInt8) : Except Utf8Fault (List Char) :=
  match bytes with
  | 0xEF :: 0xBB :: 0xBF :: rest => decodeUtf8 rest
  | [] => .ok []
  | [0xEF] => .ok []
  | [0xEF, 0xBB] => .ok []
  | _ => decodeUtf8 bytes

@[simp] theorem decodeUtf8_nil : decodeUtf8 [] = .ok [] := rfl

end DesignTokens.Text
