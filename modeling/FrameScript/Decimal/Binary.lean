/-!
# Binary fractions

A binary64 number as what it stands for: a sign, a whole significand and a power of two. The
printers of this folder work on it in exact arithmetic.
-/

namespace FrameScript

/-- What a binary64 number stands for. -/
inductive Binary where
  | finite (negative : Bool) (significand : Nat) (exponent : Int)
  | infinite (negative : Bool)
  | undefined

namespace Binary

/-- The exponent of the smallest numbers. -/
def leastExponent : Int := -1074

/-- The significand of a power of two that is not among the smallest numbers. -/
def leadingBit : Nat := Nat.pow 2 52

/-- What a number stands for, read off its bits. -/
def ofFloat (x : Float) : Binary :=
  let bits := x.toBits.toNat
  let negative : Bool := bits / Nat.pow 2 63 = 1
  let field : Nat := bits / leadingBit % Nat.pow 2 11
  let fraction := bits % leadingBit
  if field = 2047 then if fraction = 0 then infinite negative else undefined
  else if field = 0 then finite negative fraction leastExponent
  else finite negative (leadingBit + fraction) (leastExponent + ((field - 1 : Nat) : Int))

/-- Numerator and denominator of `m * 2 ^ e`. -/
def ratio (m : Nat) (e : Int) : Nat × Nat :=
  match e with
  | .ofNat n => (m * Nat.pow 2 n, 1)
  | .negSucc n => (m, Nat.pow 2 (n + 1))

end Binary

end FrameScript
