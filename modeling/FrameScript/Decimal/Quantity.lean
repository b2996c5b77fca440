import FrameScript.Decimal.Shortest

/-!
# Quantities

A quantity is a whole number or a binary fraction, and keeps which of the two it is: whole numbers
are written without a point.
-/

namespace FrameScript

/-- A whole number or a binary fraction. -/
inductive Quantity where
  | whole (n : Int)
  | real (x : Float)

namespace Quantity

/-- The quantity as a binary fraction, unless it is a whole number too large for that. -/
def toFloat? : Quantity → Option Float
  | whole n => let x := Binary.nearestInt n; if x.isInf then none else some x
  | real x => some x

/-- The largest binary fraction that is not above a quantity of zero or more. -/
def lowerFloat : Quantity → Float
  | whole n => Binary.atMost n.toNat
  | real x => x

/-- Zero or less. -/
def isZeroOrLess : Quantity → Bool
  | whole n => n ≤ 0
  | real x => x ≤ 0

/-- The quantity as a text, with as few digits as tell it. -/
def text : Quantity → Text
  | whole n => Text.ofInt n
  | real x => Decimal.shortest x

/-- The quantity rounded to so many decimals. -/
def roundTo (places : Nat) : Quantity → Quantity
  | whole n => whole n
  | real x => real (Decimal.roundTo places x)

end Quantity

end FrameScript
