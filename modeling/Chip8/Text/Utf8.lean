import Chip8.Text.Radix

/-!
# Text in bytes

`decodeUtf8` turns the bytes of a text file into a text, or says where they stop being one.  A
character takes one to four bytes; the first byte says how many, and the second one is restricted
further where a character could otherwise be written in two ways or be no character at all.

What stands at the end of the data and lacks only further bytes is reported apart, as data of its
own that starts at position zero.
-/

namespace Chip8.Text

/-- Where and why bytes are no text: a first and a last byte position, and the byte at the first. -/
inductive Utf8Error where
  | invalidStart (byte : UInt8) (position : Nat)
  | invalidContinuation (byte : UInt8) (position last : Nat)
  | unexpectedEnd (byte : UInt8) (last : Nat)
  deriving DecidableEq, Repr

namespace Utf8Error

/-- The bytes that an error is about. -/
def place (byte : UInt8) (first last : Nat) : String :=
  if first = last then
    "byte " ++ HexForm.byte.write byte.toNat ++ s!" in position {first}"
  else s!"bytes in position {first}-{last}"

/-- The wording of an error. -/
def message : Utf8Error → String
  | invalidStart byte p => "'utf-8' codec can't decode " ++ place byte p p ++ ": invalid start byte"
  | invalidContinuation byte p last =>
    "'utf-8' codec can't decode " ++ place byte p last ++ ": invalid continuation byte"
  | unexpectedEnd byte last =>
    "'utf-8' codec can't decode " ++ place byte 0 last ++ ": unexpected end of data"

end Utf8Error

/-- The shape of a character that starts with a byte: how many bytes follow, the smallest and the
greatest second byte, and the value of the first one. -/
structure Lead where
  count : Nat
  low : Nat
  high : Nat
  value : Nat

/-- The shape that a first byte announces. -/
def leadOf? (b : Nat) : Option Lead :=
  if b < 0x80 then some ⟨0, 0, 0, b⟩
  else if b < 0xC2 then none
  else if b < 0xE0 then some ⟨1, 0x80, 0xBF, b - 0xC0⟩
  else if b < 0xF0 then
    some ⟨2, if b = 0xE0 then 0xA0 else 0x80, if b = 0xED then 0x9F else 0xBF, b - 0xE0⟩
  else if b < 0xF5 then
    some ⟨3, if b = 0xF0 then 0x90 else 0x80, if b = 0xF4 then 0x8F else 0xBF, b - 0xF0⟩
  else none

/-- The value of the bytes that follow a first byte, or how many of them there are before one that
does not belong, and whether that is because the data ends. -/
def continuation (low high value : Nat) : Nat → List UInt8 → Except (Nat × Bool) (Nat × List UInt8)
  | 0, bs => .ok (value, bs)
  | _ + 1, [] => .error (0, true)
  | n + 1, b :: bs =>
    if low ≤ b.toNat ∧ b.toNat ≤ high then
      match continuation 0x80 0xBF (64 * value + (b.toNat - 0x80)) n bs with
      | .ok r => .ok r
      | .error (k, ended) => .error (k + 1, ended)
    else .error (0, false)

/-- The characters of bytes, of which there are no more than the bound says. -/
def decodeFrom (position : Nat) : Nat → List UInt8 → Except Utf8Error (List Char)
  | 0, _ => .ok []
  | _, [] => .ok []
  | bound + 1, b :: bs =>
    match leadOf? b.toNat with
    | none => .error (.invalidStart b position)
    | some lead =>
      match continuation lead.low lead.high lead.value lead.count bs with
      | .error (k, true) => .error (.unexpectedEnd b k)
      | .error (k, false) => .error (.invalidContinuation b position (position + k))
      | .ok (value, rest) => do
        let others ← decodeFrom (position + 1 + lead.count) bound rest
        return Char.ofNat value :: others

/-- The text that bytes spell. -/
def decodeUtf8 (bytes : Array UInt8) : Except Utf8Error String :=
  String.ofList <$> decodeFrom 0 bytes.size bytes.toList

end Chip8.Text
