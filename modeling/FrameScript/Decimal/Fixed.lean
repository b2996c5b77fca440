import FrameScript.Decimal.Nearest
import FrameScript.Text.Basic

/-!
# Fixed decimals

A number with a fixed count of decimals: the exact value rounded to the nearest, a tie to the even
neighbour.
-/

namespace FrameScript.Decimal

/-- The value times a power of ten, rounded to a whole number. -/
def scaled (places m : Nat) (e : Int) : Nat :=
  let v := Binary.ratio m e
  Binary.roundDiv (v.1 * Nat.pow 10 places) v.2

/-- A whole number of units, each the last of `places` decimals, as a text. -/
def pointed (places n : Nat) : Text :=
  let whole := Text.ofNat (n / Nat.pow 10 places)
  if places = 0 then whole
  else
    let rest := Text.ofNat (n % Nat.pow 10 places)
    whole ++ '.' :: List.replicate (places - rest.length) '0' ++ rest

/-- A number with so many decimals, for hosts that show times and places. What rounds to zero has no
sign. -/
def fixed (places : Nat) (x : Float) : Text :=
  match Binary.ofFloat x with
  | .finite negative m e =>
    let n := scaled places m e
    if negative && n ≠ 0 then '-' :: pointed places n else pointed places n
  | .infinite negative => if negative then "-inf".toList else "inf".toList
  | .undefined => "nan".toList

/-- The whole part of a number, unless that is infinite or undefined. -/
def truncate? (x : Float) : Option Int :=
  match Binary.ofFloat x with
  | .finite negative m e =>
    let v := Binary.ratio m e
    let n : Int := (v.1 / v.2 : Nat)
    some (if negative then -n else n)
  | _ => none

/-- The number nearest to `x` rounded to so many decimals. -/
def roundTo (places : Nat) (x : Float) : Float :=
  match Binary.ofFloat x with
  | .finite negative m e =>
    let y := Binary.nearest (scaled places m e) (Nat.pow 10 places)
    if negative then -y else y
  | _ => x

end FrameScript.Decimal
