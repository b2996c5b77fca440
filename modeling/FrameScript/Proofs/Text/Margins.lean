import FrameScript.Script.Line
import FrameScript.Text.Alphanumeric
import FrameScript.Text.Lines

/-!
# Margins

A text without a blank at either end is trimmed. Measuring a trimmed line finds no indentation and
takes nothing off it; all it does is to put spaces for tabs. Letters and numbers are never blanks,
and every line break is one.

## Results

* `isWord_of_isBlank`, `isBlank_of_isBreak`: blanks are no word characters, and breaks are blanks.
* `lines_append_break`: the first line of a text ends at its first break, so that lines without
  breaks can be written down (`lines_unlines`).
* `measure_of_trimmed`: a trimmed line is measured as it stands, apart from its tabs.
* `content_between`: what stands between blanks is the content of the line.
-/

namespace FrameScript

namespace Text

variable {s t : Text} {c : Char}

/-! ## Blanks, breaks and word characters -/

/-- The code points of the blanks. -/
def blankCodes : List Nat :=
  blankRanges.flatMap fun r => List.range' r.1 (r.2 + 1 - r.1)

theorem mem_blankCodes (h : isBlank c = true) : c.toNat ∈ blankCodes := by
  obtain ⟨r, hr, hc⟩ := List.any_eq_true.mp h
  rw [Bool.and_eq_true, decide_eq_true_iff, decide_eq_true_iff] at hc
  exact List.mem_flatMap.mpr ⟨r, hr, List.mem_range'_1.mpr ⟨hc.1, by omega⟩⟩

/-- **Blanks are no word characters.** -/
theorem isWord_of_isBlank (h : isBlank c = true) : isWord c = false := by
  have hcodes : ∀ n ∈ blankCodes, isWord (Char.ofNat n) = false := by decide +kernel
  have hc := hcodes _ (mem_blankCodes h)
  rwa [Char.ofNat_toNat] at hc

/-- **Breaks are blanks.** -/
theorem isBlank_of_isBreak (h : isBreak c = true) : isBlank c = true := by
  simp only [isBreak, Bool.or_eq_true, Bool.and_eq_true, decide_eq_true_iff, beq_iff_eq] at h
  simp only [isBlank, inRanges, blankRanges, List.any_cons, Bool.or_eq_true, Bool.and_eq_true,
    decide_eq_true_iff]
  omega

/-! ## Lines -/

theorem unbroken_of_any (h : s.any isBreak = false) : ∀ c ∈ s, isBreak c = false :=
  fun c hc => Bool.eq_false_iff.mpr (List.any_eq_false.mp h c hc)

theorem lines_cons (hc : isBreak c = false) (s : Text) :
    lines (c :: s) = extendFirst c (lines s) := by
  have hreturn : c ≠ '\r' := by
    rintro rfl
    cases hc
  rw [lines, if_neg (Bool.eq_false_iff.mp hc)]
  exact fun _ he _ => hreturn he

/-- **The first line of a text ends at its first break.** -/
theorem lines_append_break (h : ∀ c ∈ s, isBreak c = false) (t : Text) :
    lines (s ++ '\n' :: t) = s :: lines t := by
  induction s with
  | nil => simp [lines, isBreak]
  | cons c s ih =>
    obtain ⟨hc, hs⟩ := List.forall_mem_cons.mp h
    rw [List.cons_append, lines_cons hc, ih hs]
    rfl

theorem lines_of_unbroken (hne : s ≠ []) (h : ∀ c ∈ s, isBreak c = false) : lines s = [s] := by
  induction s with
  | nil => exact absurd rfl hne
  | cons c s ih =>
    obtain ⟨hc, hs⟩ := List.forall_mem_cons.mp h
    rw [lines_cons hc]
    cases s with
    | nil => rw [lines, extendFirst]
    | cons d s => rw [ih (List.cons_ne_nil d s) hs, extendFirst]

/-- The text of some lines, each of which ends in a line feed. -/
def unlines (raws : List Text) : Text :=
  raws.flatMap fun raw => raw ++ ['\n']

/-- **Lines without breaks can be written down.** -/
theorem lines_unlines {raws : List Text} (h : ∀ raw ∈ raws, ∀ c ∈ raw, isBreak c = false) :
    lines (unlines raws) = raws := by
  induction raws with
  | nil => rfl
  | cons raw raws ih =>
    obtain ⟨hraw, hraws⟩ := List.forall_mem_cons.mp h
    have hcons : unlines (raw :: raws) = raw ++ '\n' :: unlines raws := by
      simp [unlines]
    rw [hcons, lines_append_break hraw, ih hraws]

/-- Some lines of a text may be replaced by others without breaks. -/
theorem exists_replaced {text : Text} {front old back middle : List Text}
    (h : lines text = front ++ (old ++ back))
    (hmiddle : ∀ raw ∈ middle, ∀ c ∈ raw, isBreak c = false) :
    ∃ replaced, lines replaced = front ++ (middle ++ back) := by
  have hunbroken : ∀ raw ∈ front ++ (old ++ back), ∀ c ∈ raw, isBreak c = false :=
    fun raw hm => isBreak_of_mem_lines (h ▸ hm)
  refine ⟨_, lines_unlines fun raw hm => ?_⟩
  rcases List.mem_append.mp hm with hm | hm
  · exact hunbroken raw (List.mem_append_left _ hm)
  rcases List.mem_append.mp hm with hm | hm
  · exact hmiddle raw hm
  · exact hunbroken raw (List.mem_append_right _ (List.mem_append_right _ hm))

/-! ## Trimmed texts -/

/-- No blank stands at either end of the text. -/
structure Trimmed (s : Text) : Prop where
  head : ∀ c ∈ s.head?, isBlank c = false
  last : ∀ c ∈ s.getLast?, isBlank c = false

theorem trimmed_iff_any :
    Trimmed s ↔ s.head?.any isBlank = false ∧ s.getLast?.any isBlank = false := by
  rw [Option.any_eq_false, Option.any_eq_false]
  exact ⟨fun h => ⟨h.head, h.last⟩, fun h => ⟨h.1, h.2⟩⟩

theorem trimLeft_eq_self (h : ∀ c ∈ s.head?, isBlank c = false) :
    s.takeWhile isBlank = [] ∧ trimLeft s = s := by
  cases s with
  | nil => exact ⟨rfl, rfl⟩
  | cons c s =>
    have hc := h c rfl
    exact ⟨List.takeWhile_cons_of_neg (Bool.eq_false_iff.mp hc),
      List.dropWhile_cons_of_neg (Bool.eq_false_iff.mp hc)⟩

theorem trimRight_cons (c : Char) (s : Text) :
    trimRight (c :: s) =
      if trimRight s = [] then if isBlank c then [] else [c] else c :: trimRight s := by
  rw [trimRight]
  split
  · rename_i h
    rw [if_pos h]
  · rename_i t h
    rw [if_neg h]

/-- **Nothing is taken off the right of a text if and only if it does not end in a blank.** -/
theorem trimRight_eq_self_iff : trimRight s = s ↔ ∀ c ∈ s.getLast?, isBlank c = false := by
  induction s with
  | nil => simp [trimRight]
  | cons c s ih =>
    rw [trimRight_cons]
    cases s with
    | nil => cases hc : isBlank c <;> simp [trimRight, hc]
    | cons d s =>
      rw [List.getLast?_cons_cons, ← ih]
      by_cases hs : trimRight (d :: s) = []
      · rw [if_pos hs, hs]
        cases hc : isBlank c <;> simp
      · rw [if_neg hs, List.cons.injEq]
        exact and_iff_right rfl

theorem trimRight_of_blank (h : ∀ c ∈ s, isBlank c = true) : trimRight s = [] := by
  induction s with
  | nil => rfl
  | cons c s ih =>
    obtain ⟨hc, hs⟩ := List.forall_mem_cons.mp h
    rw [trimRight_cons, if_pos (ih hs), if_pos hc]

/-- **Blanks at the end do not matter** to what is left on the right. -/
theorem trimRight_append_blank (h : ∀ c ∈ t, isBlank c = true) (s : Text) :
    trimRight (s ++ t) = trimRight s := by
  induction s with
  | nil => exact trimRight_of_blank h
  | cons c s ih => rw [List.cons_append, trimRight_cons, ih, trimRight_cons]

/-- What is left on the right ends in no blank. -/
theorem not_blank_of_trimRight (s : Text) : ∀ c ∈ (trimRight s).getLast?, isBlank c = false := by
  obtain ⟨w, hs, hw⟩ := exists_trimRight_append s
  rw [← trimRight_eq_self_iff, ← trimRight_append_blank (List.all_eq_true.mp hw), ← hs]

/-- Only blanks are taken off a text of which nothing is left. -/
theorem blank_of_trim_eq_nil (h : trim s = []) : ∀ c ∈ s, isBlank c = true := by
  intro c hc
  rw [← trimLeft_append s] at hc
  rcases List.mem_append.mp hc with hc | hc
  · exact List.all_eq_true.mp List.all_takeWhile c hc
  · obtain ⟨w, hw, hblank⟩ := exists_trimRight_append (trimLeft s)
    have hnothing : trimRight (trimLeft s) = [] := h
    rw [hw, hnothing, List.nil_append] at hc
    exact List.all_eq_true.mp hblank c hc

end Text

namespace Line

open Text

variable {raw : Text} {c : Char}

theorem expandTabs_eq_self (h : '\t' ∉ raw) : expandTabs raw = raw := by
  induction raw with
  | nil => rfl
  | cons c raw ih =>
    obtain ⟨hc, hraw⟩ := List.ne_and_not_mem_of_not_mem_cons h
    rw [expandTabs, List.flatMap_cons, if_neg (Ne.symm hc)]
    exact congrArg (c :: ·) (ih hraw)

/-- No tab is left. -/
theorem not_mem_expandTabs : '\t' ∉ expandTabs raw := by
  intro h
  obtain ⟨c, -, hc⟩ := List.mem_flatMap.mp h
  split at hc
  · exact absurd (List.eq_of_mem_replicate hc) (by decide)
  · rename_i htab
    exact htab (List.mem_singleton.mp hc).symm

theorem expandTabs_append (raw more : Text) :
    expandTabs (raw ++ more) = expandTabs raw ++ expandTabs more :=
  List.flatMap_append

theorem expandTabs_singleton (hc : isBlank c = false) : expandTabs [c] = [c] := by
  refine expandTabs_eq_self fun h => ?_
  rw [← List.mem_singleton.mp h] at hc
  cases hc

theorem head?_expandTabs (h : ∀ c ∈ raw.head?, isBlank c = false) :
    (expandTabs raw).head? = raw.head? := by
  cases raw with
  | nil => rfl
  | cons c raw =>
    rw [← List.singleton_append, expandTabs_append, expandTabs_singleton (h c rfl)]
    rfl

theorem getLast?_expandTabs (h : ∀ c ∈ raw.getLast?, isBlank c = false) :
    (expandTabs raw).getLast? = raw.getLast? := by
  rcases List.eq_nil_or_concat raw with rfl | ⟨rest, c, rfl⟩
  · rfl
  · rw [List.concat_eq_append] at h ⊢
    rw [expandTabs_append, expandTabs_singleton (h c List.getLast?_concat), List.getLast?_concat,
      List.getLast?_concat]

/-- **A trimmed line is measured as it stands, apart from its tabs.** -/
theorem measure_of_trimmed (number : Nat) (h : Trimmed raw) :
    measure number raw = ⟨number, 0, expandTabs raw⟩ := by
  obtain ⟨htake, htrim⟩ := trimLeft_eq_self ((head?_expandTabs h.head).symm ▸ h.head)
  have hlast := trimRight_eq_self_iff.mpr ((getLast?_expandTabs h.last).symm ▸ h.last)
  rw [measure, htake, htrim, hlast]
  rfl

/-- Blanks stay blanks. -/
theorem blank_expandTabs (h : ∀ c ∈ raw, isBlank c = true) :
    ∀ c ∈ expandTabs raw, isBlank c = true := by
  intro c hc
  obtain ⟨d, hd, hc⟩ := List.mem_flatMap.mp hc
  split at hc
  · rw [List.eq_of_mem_replicate hc]
    decide
  · rw [List.mem_singleton.mp hc]
    exact h d hd

/-- **What stands between blanks is the content of the line.** -/
theorem content_between {before word after : Text} (number : Nat)
    (hbefore : ∀ c ∈ before, isBlank c = true) (hafter : ∀ c ∈ after, isBlank c = true)
    (hword : Trimmed word) (hne : word ≠ []) (htab : '\t' ∉ word) :
    (measure number (before ++ (word ++ after))).content = word := by
  have hexpand : expandTabs (before ++ (word ++ after)) =
      expandTabs before ++ (word ++ expandTabs after) := by
    rw [expandTabs_append, expandTabs_append, expandTabs_eq_self htab]
  have hhead : ∀ c ∈ (word ++ expandTabs after).head?, isBlank c = false := by
    cases word with
    | nil => exact absurd rfl hne
    | cons first word => exact hword.head
  have hleft : trimLeft (expandTabs (before ++ (word ++ after))) = word ++ expandTabs after := by
    rw [hexpand, trimLeft, List.dropWhile_append_of_pos (blank_expandTabs hbefore)]
    exact (trimLeft_eq_self hhead).2
  rw [measure, hleft]
  exact (trimRight_append_blank (blank_expandTabs hafter) word).trans
    (trimRight_eq_self_iff.mpr hword.last)

end Line

end FrameScript
