import FrameScript.Decimal.Fixed

/-!
# Shortest decimals

The decimal with the fewest digits that reads back as the same number and, of those, the nearest
to it. `digits?` tries the two neighbours of the value on the grid of numbers with `count` digits,
and `shortest` takes the first count for which one of them lies in the range of reals that round
to the number. The ends of the range belong to it when the significand is even.

Numbers from a ten-thousandth up to ten to the sixteenth are written by position, others with an
exponent of at least two digits.
-/

namespace FrameScript.Decimal

/-- A decimal: the digits of a whole number, and how many of them stand before the point (fewer
than none if zeros follow the point). -/
structure Digits where
  digits : Text
  point : Int

/-- Numerator and denominator of `(num / den) * 10 ^ e`. -/
def shift (num den : Nat) (e : Int) : Nat × Nat :=
  match e with
  | .ofNat n => (num * Nat.pow 10 n, den)
  | .negSucc n => (num, den * Nat.pow 10 (n + 1))

/-- Whether `a / b ≤ c / d`, or `<` unless `closed`. -/
def below (closed : Bool) (a b c d : Nat) : Bool :=
  if closed then a * d ≤ c * b else a * d < c * b

/-- The least `p` such that the value lies below `10 ^ p`. -/
def magnitude (num den : Nat) : Int :=
  let guess : Int := ((Text.ofNat num).length : Int) - ((Text.ofNat den).length : Int)
  let power := shift 1 1 guess
  if power.1 * den ≤ num * power.2 then guess + 1 else guess

/-- The digits without zeros at their end. -/
def dropZeros (s : Text) : Text :=
  (s.reverse.dropWhile (· == '0')).reverse

/-- The nearest decimal with at most `count` digits that rounds to `m * 2 ^ e`, if there is one.
`p` is the magnitude of the value. -/
def digits? (m : Nat) (e : Int) (p : Int) (count : Nat) : Option Digits :=
  let v := Binary.ratio m e
  let scale := (count : Int) - p
  let here := shift v.1 v.2 scale
  let low := here.1 / here.2
  let narrow := m = Binary.leadingBit ∧ e ≠ Binary.leastExponent
  let first := Binary.ratio (4 * m - (if narrow then 1 else 2)) (e - 2)
  let last := Binary.ratio (4 * m + 2) (e - 2)
  let closed := m % 2 = 0
  let fits (c : Nat) : Bool :=
    let w := shift c 1 (-scale)
    below closed first.1 first.2 w.1 w.2 && below closed w.1 w.2 last.1 last.2
  let rest := here.1 % here.2
  let nearest :=
    if 2 * rest < here.2 then [low, low + 1]
    else if here.2 < 2 * rest then [low + 1, low]
    else if low % 2 = 0 then [low, low + 1] else [low + 1, low]
  (nearest.find? fits).map fun c =>
    let s := Text.ofNat c
    ⟨dropZeros s, p + ((s.length : Int) - (count : Int))⟩

/-- The shortest decimal of `m * 2 ^ e`; seventeen digits are always enough. -/
def shortestDigits (m : Nat) (e : Int) : Digits :=
  let v := Binary.ratio m e
  let p := magnitude v.1 v.2
  ((List.range 17).findSome? fun n => digits? m e p (n + 1)).getD ⟨['0'], 1⟩

/-- Digits with a point among them, or a power of ten after them. -/
def Digits.text (d : Digits) : Text :=
  let n := d.digits.length
  if d.point ≤ -4 ∨ 16 < d.point then
    let e := d.point - 1
    let size := Text.ofNat e.natAbs
    d.digits.take 1 ++ (if n = 1 then [] else '.' :: d.digits.drop 1)
      ++ 'e' :: (if e < 0 then '-' else '+') :: List.replicate (2 - size.length) '0' ++ size
  else if d.point ≤ 0 then
    '0' :: '.' :: List.replicate d.point.natAbs '0' ++ d.digits
  else
    let whole := d.point.toNat
    if n ≤ whole then d.digits ++ List.replicate (whole - n) '0' ++ ['.', '0']
    else d.digits.take whole ++ '.' :: d.digits.drop whole

/-- The shortest decimal of a number. -/
def shortest (x : Float) : Text :=
  match Binary.ofFloat x with
  | .finite negative m e =>
    let body := if m = 0 then ['0', '.', '0'] else (shortestDigits m e).text
    if negative then '-' :: body else body
  | .infinite negative => if negative then "-inf".toList else "inf".toList
  | .undefined => "nan".toList

end FrameScript.Decimal
