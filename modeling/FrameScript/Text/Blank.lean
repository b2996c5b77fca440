import FrameScript.Text.Basic

/-!
# Blanks

The white space of Unicode, together with the four information separators U+001C to U+001F.
`trim` and its two halves take blanks off the ends of a text; `trimLeft_append` and
`blank_of_trimLeft` below say that the left half takes off the blanks it meets and no more.
-/

namespace FrameScript.Text

/-- Blanks, as ranges with both ends included, in ascending order. -/
def blankRanges : List (Nat × Nat) := [
  (0x9, 0xD), (0x1C, 0x20), (0x85, 0x85), (0xA0, 0xA0), (0x1680, 0x1680), (0x2000, 0x200A),
  (0x2028, 0x2029), (0x202F, 0x202F), (0x205F, 0x205F), (0x3000, 0x3000)]

/-- A blank: a space, a tab, a line break or another separator. -/
def isBlank (c : Char) : Bool :=
  inRanges blankRanges c.toNat

/-- The text without the blanks at its beginning. -/
def trimLeft (s : Text) : Text :=
  s.dropWhile isBlank

/-- The text without the blanks at its end. -/
def trimRight : Text → Text
  | [] => []
  | c :: s =>
    match trimRight s with
    | [] => if isBlank c then [] else [c]
    | t => c :: t

/-- The text without the blanks at either end. -/
def trim (s : Text) : Text :=
  trimRight (trimLeft s)

/-- Nothing but blanks. -/
def allBlank (s : Text) : Bool :=
  s.all isBlank

/-- Taking blanks off the left loses blanks only. -/
theorem trimLeft_append (s : Text) : s.takeWhile isBlank ++ trimLeft s = s :=
  List.takeWhile_append_dropWhile

/-- What is left on the left begins with no blank. -/
theorem blank_of_trimLeft {s t : Text} {c : Char} (h : trimLeft s = c :: t) :
    isBlank c = false := by
  induction s with
  | nil => simp [trimLeft] at h
  | cons d s ih =>
    by_cases hd : isBlank d
    · exact ih (by simpa [trimLeft, List.dropWhile_cons, hd] using h)
    · have hc : d :: s = c :: t := by simpa [trimLeft, List.dropWhile_cons, hd] using h
      obtain ⟨rfl, -⟩ := List.cons.inj hc
      simpa using hd

/-- A text is its trimmed form followed by blanks. -/
theorem exists_trimRight_append (s : Text) :
    ∃ w, s = trimRight s ++ w ∧ allBlank w = true := by
  induction s with
  | nil => exact ⟨[], rfl, rfl⟩
  | cons c s ih =>
    obtain ⟨w, hs, hw⟩ := ih
    unfold trimRight
    split
    · rename_i h
      rw [h] at hs
      split
      · rename_i hc
        exact ⟨c :: s, rfl, by simp_all [allBlank]⟩
      · exact ⟨s, rfl, by simp_all⟩
    · exact ⟨w, by rw [List.cons_append, ← hs], hw⟩

end FrameScript.Text
