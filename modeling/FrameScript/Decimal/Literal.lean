import FrameScript.Decimal.Shortest
import FrameScript.Text.Numeral

/-!
# Decimal literals

The number that a decimal with an optional point and an optional power of ten writes: the nearest
binary fraction, infinite if the decimal is too large. Two words write what no decimal can. Scripts
have no such numbers; they are read for hosts that are handed times as texts.
-/

namespace FrameScript.Decimal

/-- A decimal below this power of ten rounds to zero, and so does any with a lower one. -/
def leastPower : Int := -330

/-- A decimal of this power of ten or more is infinite. -/
def greatestPower : Int := 310

/-- The number nearest to `m * 10 ^ e`. -/
def ofScientific (m : Nat) (e : Int) : Float :=
  let power := ((Text.ofNat m).length : Int) + e
  if m = 0 ∨ power < leastPower then Binary.nearest 0 1
  else if greatestPower < power then Binary.infinity
  else Binary.nearest (shift m 1 e).1 (shift m 1 e).2

/-- Digits as a list of their values, if there are only digits. -/
def readDigits (s : Text) : Option (List Nat) :=
  if s.all Char.isDigit then some (s.filterMap Text.digit?) else none

/-- A power of ten behind its mark; without any it is zero. -/
def readPower : Text → Option Int
  | [] => some 0
  | _ :: '-' :: s => (readDigits s).map fun digits => -(Numeral.ofDigits digits : Int)
  | _ :: '+' :: s => (readDigits s).map fun digits => (Numeral.ofDigits digits : Int)
  | _ :: s => (readDigits s).map fun digits => (Numeral.ofDigits digits : Int)

/-- The mark before a power of ten. -/
def isPowerMark (c : Char) : Bool :=
  c == 'e' || c == 'E'

/-- A decimal without a sign. -/
def readUnsigned (s : Text) : Option Float := do
  let mantissa := s.takeWhile (!isPowerMark ·)
  let fraction := (mantissa.dropWhile (· ≠ '.')).drop 1
  let digits ← readDigits (mantissa.takeWhile (· ≠ '.') ++ fraction)
  let power ← readPower (s.dropWhile (!isPowerMark ·))
  pure (ofScientific (Numeral.ofDigits digits) (power - (fraction.length : Int)))

/-- The numbers that are written as words. -/
def words : List (Text × Float) := [
  ("Infinity".toList, Binary.infinity), ("NaN".toList, 0 / 0)]

/-- A decimal or a word, with an optional minus sign. -/
def read : Text → Option Float
  | '-' :: s => (read s).map (-·)
  | s => (words.lookup s).or (readUnsigned s)

end FrameScript.Decimal
