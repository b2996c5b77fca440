/-!
# Texts

A text is the list of its characters, so that readers and printers recurse on it directly.
`after?` reads a fixed beginning, and `after?_eq_some_iff` says that it cuts off just that.
-/

namespace FrameScript

/-- A text: the list of its characters. -/
abbrev Text := List Char

namespace Text

/-- What follows `lead`, if the text begins with `lead`. -/
def after? : (lead s : Text) → Option Text
  | [], s => some s
  | _ :: _, [] => none
  | a :: lead, b :: s => if a = b then after? lead s else none

theorem after?_eq_some_iff {lead s r : Text} : after? lead s = some r ↔ s = lead ++ r := by
  induction lead generalizing s with
  | nil => simp [after?]
  | cons a lead ih =>
    cases s with
    | nil => simp [after?]
    | cons b s =>
      by_cases h : a = b
      · simp [after?, h, ih]
      · simp [after?, h, Ne.symm h]

/-- The pieces one after the other, with `sep` between neighbours. -/
def join (sep : Text) : List Text → Text
  | [] => []
  | [s] => s
  | s :: rest => s ++ sep ++ join sep rest

/-- One more character at the beginning of the first piece. -/
def extendFirst (c : Char) : List Text → List Text
  | [] => [[c]]
  | s :: rest => (c :: s) :: rest

/-- The pieces between the occurrences of `mark`; there is always at least one. -/
def split (mark : Char) : Text → List Text
  | [] => [[]]
  | c :: s => if c = mark then [] :: split mark s else extendFirst c (split mark s)

/-- The decimal digits of a number. -/
def ofNat (n : Nat) : Text :=
  Nat.toDigits 10 n

/-- The decimal digits of a number, after a minus sign if it is negative. -/
def ofInt : Int → Text
  | .ofNat n => ofNat n
  | .negSucc n => '-' :: ofNat (n + 1)

/-- Whether `s` comes before `t` or equals it, by the code points of their characters. -/
def le : (s t : Text) → Bool
  | [], _ => true
  | _ :: _, [] => false
  | a :: s, b :: t => if a = b then le s t else a.toNat ≤ b.toNat

/-- Blanks on the left up to a width of `width`. -/
def padLeft (width : Nat) (s : Text) : Text :=
  List.replicate (width - s.length) ' ' ++ s

/-- The bytes that a text takes in UTF-8. -/
def byteCount (s : Text) : Nat :=
  s.foldl (fun n c => n + c.utf8Size) 0

/-- The last line of a text. -/
def lastLine (s : Text) : Text :=
  (s.reverse.takeWhile (· ≠ '\n')).reverse

/-- Whether a code point lies in one of the ranges, both ends included. -/
def inRanges (ranges : List (Nat × Nat)) (n : Nat) : Bool :=
  ranges.any fun r => r.1 ≤ n && n ≤ r.2

end Text

end FrameScript
