import FrameScript.Text.Basic

/-!
# Lines

A line ends at a line break: line feed, carriage return (alone or before a line feed), vertical
tab, form feed, one of the separators U+001C to U+001E, next line, line separator or paragraph
separator. A break at the very end of a text opens no further line.
-/

namespace FrameScript.Text

/-- A character that ends a line. -/
def isBreak (c : Char) : Bool :=
  (0xA ≤ c.toNat && c.toNat ≤ 0xD) || (0x1C ≤ c.toNat && c.toNat ≤ 0x1E) || c.toNat == 0x85
    || c.toNat == 0x2028 || c.toNat == 0x2029

/-- The lines of a text, without their breaks. -/
def lines : Text → List Text
  | [] => []
  | '\r' :: '\n' :: s => [] :: lines s
  | c :: s => if isBreak c then [] :: lines s else extendFirst c (lines s)

/-- Line feeds in place of the other two customary line ends. -/
def unifyBreaks : Text → Text
  | [] => []
  | '\r' :: '\n' :: s => '\n' :: unifyBreaks s
  | '\r' :: s => '\n' :: unifyBreaks s
  | c :: s => c :: unifyBreaks s

/-- No line holds a break. -/
theorem isBreak_of_mem_lines {s line : Text} (hl : line ∈ lines s) :
    ∀ c ∈ line, isBreak c = false := by
  fun_induction lines s generalizing line with
  | case1 => simp at hl
  | case2 s ih =>
    rcases List.mem_cons.1 hl with rfl | h
    · simp
    · exact ih h
  | case3 c s _ hc ih =>
    rcases List.mem_cons.1 hl with rfl | h
    · simp
    · exact ih h
  | case4 c s _ hc ih =>
    cases hs : lines s with
    | nil =>
      rw [hs] at hl
      simp_all [extendFirst]
    | cons first rest =>
      rw [hs] at hl ih
      simp only [extendFirst, List.mem_cons] at hl
      rcases hl with rfl | h
      · intro d hd
        rcases List.mem_cons.1 hd with rfl | hd
        · simpa using hc
        · exact ih List.mem_cons_self d hd
      · exact ih (List.mem_cons_of_mem _ h)

end FrameScript.Text
