import FrameScript.Text.Basic

/-!
# UTF-8

`decode` reads bytes as UTF-8 and refuses the first ill-formed sequence, naming its place, its
length and the reason. A byte that cannot begin a character is refused alone; a sequence that
breaks off is refused up to the byte that does not continue it. A byte order mark at the
beginning is dropped and not counted.
-/

namespace FrameScript.Utf8

/-- Why a sequence of bytes is no character. -/
inductive Reason where
  | badStart
  | badContinuation
  | truncated
  deriving DecidableEq

/-- An ill-formed sequence: where it begins, how long it is and its first byte. -/
structure Fault where
  position : Nat
  length : Nat
  byte : Nat
  reason : Reason
  deriving DecidableEq

/-- A character begun: its first byte, the bytes read, the bytes that are missing, the range of
the next byte and the bits so far. -/
structure Pending where
  first : Nat
  used : Nat
  missing : Nat
  low : Nat
  high : Nat
  bits : Nat

/-- What a first byte above U+007F announces. The range of the second byte excludes overlong
forms, surrogates and code points past U+10FFFF. -/
def begin? (b : Nat) : Option Pending :=
  if 0xC2 ≤ b && b ≤ 0xDF then some ⟨b, 1, 1, 0x80, 0xBF, b - 0xC0⟩
  else if b = 0xE0 then some ⟨b, 1, 2, 0xA0, 0xBF, 0⟩
  else if b = 0xED then some ⟨b, 1, 2, 0x80, 0x9F, 0xD⟩
  else if 0xE1 ≤ b && b ≤ 0xEF then some ⟨b, 1, 2, 0x80, 0xBF, b - 0xE0⟩
  else if b = 0xF0 then some ⟨b, 1, 3, 0x90, 0xBF, 0⟩
  else if 0xF1 ≤ b && b ≤ 0xF3 then some ⟨b, 1, 3, 0x80, 0xBF, b - 0xF0⟩
  else if b = 0xF4 then some ⟨b, 1, 3, 0x80, 0x8F, 4⟩
  else none

/-- The characters of the bytes from position `at` on, after the characters `done` (the last
first) and the character begun, if any. -/
def decodeFrom (pos : Nat) (done : Text) : Option Pending → List UInt8 → Except Fault Text
  | none, [] => .ok done.reverse
  | some p, [] => .error ⟨pos - p.used, p.used, p.first, .truncated⟩
  | none, b :: bytes =>
    if b.toNat < 0x80 then decodeFrom (pos + 1) (Char.ofNat b.toNat :: done) none bytes
    else
      match begin? b.toNat with
      | some p => decodeFrom (pos + 1) done (some p) bytes
      | none => .error ⟨pos, 1, b.toNat, .badStart⟩
  | some p, b :: bytes =>
    if p.low ≤ b.toNat && b.toNat ≤ p.high then
      let bits := p.bits * 0x40 + (b.toNat - 0x80)
      if p.missing ≤ 1 then decodeFrom (pos + 1) (Char.ofNat bits :: done) none bytes
      else decodeFrom (pos + 1) done
        (some ⟨p.first, p.used + 1, p.missing - 1, 0x80, 0xBF, bits⟩) bytes
    else .error ⟨pos - p.used, p.used, p.first, .badContinuation⟩

/-- The bytes after the byte order mark; a mark cut off by the end counts as a mark. -/
def dropMark : List UInt8 → List UInt8
  | 0xEF :: 0xBB :: 0xBF :: bytes => bytes
  | [0xEF, 0xBB] => []
  | [0xEF] => []
  | bytes => bytes

/-- The text that the bytes encode. -/
def decode (bytes : List UInt8) : Except Fault Text :=
  decodeFrom 0 [] none (dropMark bytes)

/-- The value of a hexadecimal digit. -/
def hexDigit (c : Char) : Nat :=
  if c.isDigit then c.toNat - 0x30 else c.toLower.toNat - 0x57

/-- The bytes that are written as two hexadecimal digits each, as hosts hand over what is no text. -/
def bytesOfHex : Text → List UInt8
  | a :: b :: rest => (hexDigit a * 16 + hexDigit b).toUInt8 :: bytesOfHex rest
  | _ => []

/-- A byte as two hexadecimal digits. -/
def byteText (b : Nat) : String :=
  String.ofList [Nat.digitChar (b / 16), Nat.digitChar (b % 16)]

/-- The wording of a reason. -/
def Reason.message : Reason → String
  | badStart => "invalid start byte"
  | badContinuation => "invalid continuation byte"
  | truncated => "unexpected end of data"

/-- The wording of a fault, with the byte if it is one and the places if they are several. -/
def Fault.message (f : Fault) : String :=
  let reason := f.reason.message
  if f.length = 1 then
    s!"'utf-8' codec can't decode byte 0x{byteText f.byte} in position {f.position}: {reason}"
  else
    let last := f.position + f.length - 1
    s!"'utf-8' codec can't decode bytes in position {f.position}-{last}: {reason}"

end FrameScript.Utf8
