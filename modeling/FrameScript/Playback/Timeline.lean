/-!
# Timelines

Playing needs little of time: to add and subtract spans, to scale them, and to compare. Clocks
that run count in binary fractions; whoever reasons about playing may count exactly.
-/

namespace FrameScript

/-- Points and spans of time. -/
class Timeline (τ : Type) extends Add τ, Sub τ, Mul τ, Div τ where
  ofNat : Nat → τ
  isBefore : τ → τ → Bool

namespace Timeline

instance : Timeline Float where
  ofNat := Float.ofNat
  isBefore a b := a < b

variable {τ : Type} [Timeline τ]

/-- The later of two, and the first if neither is before the other. -/
def later (a b : τ) : τ :=
  if isBefore a b then b else a

/-- Thousandths as units. -/
def ofMillis (t : τ) : τ :=
  t / ofNat 1000

/-- Units as thousandths. -/
def toMillis (t : τ) : τ :=
  t * ofNat 1000

end Timeline

end FrameScript
