import FrameScript.Decimal.Binary

/-!
# Nearest binary fractions

The binary64 number that a quotient of whole numbers is rounded to: the nearest one, a tie going to
the even significand, or the largest one that is not above it. The quotient is taken in units of
the power of two that leaves 53 bits of it, or of the smallest numbers if it is among them, and
then only whole numbers are rounded; `roundDiv_near` says that a rounded quotient is at most half
a unit off.
-/

namespace FrameScript.Binary

/-- The quotient rounded to the nearest whole number, a tie to the even one. -/
def roundDiv (num den : Nat) : Nat :=
  let q := num / den
  let r := num % den
  if 2 * r < den then q
  else if den < 2 * r then q + 1
  else if q % 2 = 0 then q else q + 1

theorem roundDiv_near (num : Nat) {den : Nat} (h : 0 < den) :
    2 * num ≤ 2 * (roundDiv num den * den) + den ∧
      2 * (roundDiv num den * den) ≤ 2 * num + den := by
  have hd := Nat.div_add_mod num den
  have hm := Nat.mod_lt num h
  have he : (num / den + 1) * den = num / den * den + den := by rw [Nat.add_mul, Nat.one_mul]
  have hc : den * (num / den) = num / den * den := Nat.mul_comm _ _
  unfold roundDiv
  simp only
  split
  · omega
  · split
    · omega
    · split <;> omega

/-- The largest `t` with `2 ^ t ≤ num / den`. -/
def magnitude (num den : Nat) : Int :=
  let guess : Int := (num.log2 : Int) - (den.log2 : Int)
  let power := ratio 1 guess
  if power.1 * den ≤ num * power.2 then guess else guess - 1

/-- The field of the exponent that no finite number has. -/
def infiniteField : Nat := 2047

/-- The number `m * 2 ^ e`, infinite if it is too large. Here `m` is at most `2 ^ 53`, and at least
`2 ^ 52` unless `e` is the exponent of the smallest numbers; a leading bit then carries over into
the field of the exponent. -/
def assemble (m : Nat) (e : Int) : Float :=
  .ofBits
    (min ((e - leastExponent).toNat * leadingBit + m) (infiniteField * leadingBit)).toUInt64

/-- The number that is too large to be told. -/
def infinity : Float :=
  .ofBits (infiniteField * leadingBit).toUInt64

/-- The number that `num / den` is rounded to, where `round` rounds a quotient to a whole
number. -/
def ofQuotient (round : Nat → Nat → Nat) (num den : Nat) : Float :=
  if num = 0 then assemble 0 leastExponent
  else
    let e := max (magnitude num den - 52) leastExponent
    let unit := ratio 1 e
    assemble (round (num * unit.2) (den * unit.1)) e

/-- The number nearest to `num / den`. -/
def nearest (num den : Nat) : Float :=
  ofQuotient roundDiv num den

/-- The number nearest to a whole number. -/
def nearestInt (n : Int) : Float :=
  let x := nearest n.natAbs 1
  if n < 0 then -x else x

/-- The largest number that is not above the whole number `n`. -/
def atMost (n : Nat) : Float :=
  ofQuotient (· / ·) n 1

end FrameScript.Binary
