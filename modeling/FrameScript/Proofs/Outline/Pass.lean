import FrameScript.Proofs.Nesting
import FrameScript.Proofs.Outline.Errors

/-!
# Marking in one pass

An outline is a tree, and marking walks it. The same marks are found without the tree by a reader
who goes down the lines once and remembers the repetitions that are open where it stands: a line
ends those that are deeper than itself, and each that ends adds as many frames as its rounds make.

To this reader a line with an error beside it is as good as an empty one. A line that is too deep
ends nothing. One that asks for something that is not to be had does end repetitions; but what
stands below it is either an error too, or not deeper than it and ends them as well.

## Results

* `passAll_build`: **one pass finds the marks of the outline**, and as many frames.
* `pass_cases`: what a line does to a reader: nothing, an error, or what its level and the
  repetitions around that level tell.
* `passAll_spare`: **lines with an error beside them can be emptied**, and all other marks stay.
-/

namespace FrameScript

/-! ## Emptying lines -/

namespace Mark

/-- An error stands beside the line. -/
def isError (mark : Mark) : Bool :=
  mark.kind = .error

/-- The mark of a line that is emptied if there is an error beside it. -/
def emptied (mark : Mark) : Mark :=
  if mark.isError then ⟨mark.number, .blank, none⟩ else mark

/-- The line beside which the mark stands, emptied if there is an error. -/
def spare (mark : Mark) (raw : Text) : Text :=
  if mark.isError then [] else raw

theorem isError_emptied (mark : Mark) : mark.emptied.isError = false := by
  cases h : mark.isError with
  | true => rw [emptied, if_pos h, isError]; rfl
  | false => rwa [emptied, h, if_neg Bool.false_ne_true]

theorem emptied_of_not_error {mark : Mark} (h : mark.isError = false) : mark.emptied = mark :=
  if_neg (Bool.eq_false_iff.mp h)

theorem isError_ofSkipped (line : Line) : (ofSkipped line).isError = false := by
  unfold isError ofSkipped
  split <;> rfl

end Mark

namespace Outline

/-! ## Where a reader stands -/

/-- A repetition that has begun: how many frames are before its body, and how often it runs. -/
structure Round where
  before : Nat
  count : Nat

/-- Where a reader stands: the repetitions that are open, innermost first, and how many frames there
are so far if every one of them ran once only. -/
structure Standing where
  rounds : List Round
  position : Nat

namespace Standing

/-- The level at which the reader stands. -/
def level (s : Standing) : Nat :=
  s.rounds.length

/-- The end of the repetitions that are deeper than `level`. -/
def closeTo (level : Nat) : List Round → (position : Nat) → Standing
  | [], position => ⟨[], position⟩
  | r :: rounds, position =>
    if level ≤ rounds.length then
      closeTo level rounds (r.before + r.count * (position - r.before))
    else ⟨r :: rounds, position⟩

/-- Where the reader stands when the repetitions that are deeper than `level` have ended. -/
def rise (level : Nat) (s : Standing) : Standing :=
  closeTo level s.rounds s.position

variable {s t : Standing} {level level' : Nat}

theorem rise_of_le (h : s.level ≤ level) : s.rise level = s := by
  obtain ⟨rounds, position⟩ := s
  cases rounds with
  | nil => rfl
  | cons r rounds =>
    change rounds.length + 1 ≤ level at h
    exact if_neg (by omega)

theorem rise_cons {r : Round} {rounds : List Round} {position : Nat} (h : level ≤ rounds.length) :
    rise level ⟨r :: rounds, position⟩ =
      rise level ⟨rounds, r.before + r.count * (position - r.before)⟩ :=
  if_pos h

/-- The reader rises to the level, unless it stands higher. -/
theorem level_rise (level : Nat) (s : Standing) : (s.rise level).level = min level s.level := by
  obtain ⟨rounds, position⟩ := s
  induction rounds generalizing position with
  | nil => exact (Nat.min_zero level).symm
  | cons r rounds ih =>
    by_cases h : level ≤ rounds.length
    · rw [rise_cons h, ih]
      simp only [Standing.level, List.length_cons]
      omega
    · have hlow : (⟨r :: rounds, position⟩ : Standing).level ≤ level := Nat.lt_of_not_le h
      rw [rise_of_le hlow, Nat.min_eq_right hlow]

/-- To rise in two steps is to rise at once. -/
theorem rise_rise (h : level' ≤ level) (s : Standing) :
    (s.rise level).rise level' = s.rise level' := by
  obtain ⟨rounds, position⟩ := s
  induction rounds generalizing position with
  | nil => rfl
  | cons r rounds ih =>
    by_cases hl : level ≤ rounds.length
    · rw [rise_cons hl, ih, rise_cons (Nat.le_trans h hl)]
    · have hlow : (⟨r :: rounds, position⟩ : Standing).level ≤ level := Nat.lt_of_not_le hl
      rw [rise_of_le hlow]

end Standing

/-! ## One line -/

variable {size : Text → Option Nat}

/-- The mark of a line at `level`, and where it leaves a reader who has risen to that level. -/
def enter (size : Text → Option Nat) (s : Standing) (level : Nat) (line : Line) :
    Mark × Standing :=
  match opening level line with
  | .nothing item =>
    (Mark.ofItem size s.position line item,
      { s with position := s.position + item.size (knownSize size) })
  | .repetition count =>
    (⟨line.number, .loop, none⟩, { s with rounds := ⟨s.position, count⟩ :: s.rounds })

/-- The mark of a line, and where it leaves the reader. A line that says nothing, or is too deep,
leaves the reader where it is. -/
def pass (size : Text → Option Nat) (s : Standing) (line : Line) : Mark × Standing :=
  if line.isSkipped then (Mark.ofSkipped line, s)
  else
    match line.level? with
    | none => (⟨line.number, .error, none⟩, s)
    | some level =>
      if s.level < level then (⟨line.number, .error, none⟩, s)
      else enter size (s.rise level) level line

/-- The marks of lines, and where they leave the reader. -/
def passAll (size : Text → Option Nat) (s : Standing) : List Line → List Mark × Standing
  | [] => ([], s)
  | line :: rest =>
    let first := pass size s line
    let later := passAll size first.2 rest
    (first.1 :: later.1, later.2)

variable {s t : Standing} {line : Line} {lines : List Line} {level position : Nat}

theorem passAll_append (s : Standing) (front back : List Line) :
    passAll size s (front ++ back) =
      ((passAll size s front).1 ++ (passAll size (passAll size s front).2 back).1,
        (passAll size (passAll size s front).2 back).2) := by
  induction front generalizing s with
  | nil => rfl
  | cons line front ih => rw [List.cons_append, passAll, ih]; rfl

theorem pass_of_skipped (h : line.isSkipped = true) : pass size s line = (Mark.ofSkipped line, s) :=
  if_pos h

theorem pass_of_level (hs : line.isSkipped = false) (hl : line.level? = some level)
    (h : level ≤ s.level) : pass size s line = enter size (s.rise level) level line := by
  rw [pass, if_neg (Bool.eq_false_iff.mp hs), hl]
  exact if_neg (Nat.not_lt.mpr h)

/-- A line of no level, or of one that is too deep, is an error and leaves the reader where it
is. -/
theorem pass_of_stray (hs : line.isSkipped = false) (h : ∀ level ∈ line.level?, s.level < level) :
    pass size s line = (⟨line.number, .error, none⟩, s) := by
  rw [pass, if_neg (Bool.eq_false_iff.mp hs)]
  cases hl : line.level? with
  | none => rfl
  | some level => exact if_pos (h level hl)

/-- A line with an error beside it has no other mark, and makes no frame. -/
theorem ofItem_of_error {item : Item}
    (h : (Mark.ofItem size position line item).isError = true) :
    Mark.ofItem size position line item = ⟨line.number, .error, none⟩ ∧
      item.size (knownSize size) = 0 := by
  cases item with
  | skip =>
    rw [Mark.ofItem, Mark.isError_ofSkipped] at h
    cases h
  | data => cases h
  | inclusion target =>
    cases ht : size target with
    | none => simp [Mark.ofItem, Item.size, knownSize, ht]
    | some n =>
      rw [Mark.ofItem, ht] at h
      cases h
  | bad misfit => exact ⟨rfl, rfl⟩

theorem enter_of_error (h : (enter size s level line).1.isError = true) :
    enter size s level line = (⟨line.number, .error, none⟩, s) := by
  unfold enter at h ⊢
  cases ho : opening level line with
  | nothing item =>
    rw [ho] at h
    obtain ⟨hmark, hsize⟩ := ofItem_of_error h
    simp only [hmark, hsize, Nat.add_zero]
  | repetition count =>
    rw [ho] at h
    cases h

/-- **What a line does to a reader**: it says nothing; or there is an error beside it, and the
reader has risen at most; or it does the same to every reader for whom the same repetitions are open
at the reader's level. -/
theorem pass_cases (size : Text → Option Nat) (s : Standing) (line : Line) :
    line.isSkipped = true ∨
      ((pass size s line).1 = ⟨line.number, .error, none⟩ ∧
        ∃ level ≤ s.level, (pass size s line).2 = s.rise level) ∨
      ((pass size s line).1.isError = false ∧
        ∀ t : Standing, t.rise s.level = s → pass size t line = pass size s line) := by
  cases hs : line.isSkipped with
  | true => exact Or.inl rfl
  | false =>
    refine Or.inr ?_
    by_cases hstray : ∀ level ∈ line.level?, s.level < level
    · rw [pass_of_stray hs hstray]
      exact Or.inl ⟨rfl, s.level, Nat.le_refl _, (Standing.rise_of_le (Nat.le_refl _)).symm⟩
    · obtain ⟨level, hl, hle⟩ : ∃ level, line.level? = some level ∧ level ≤ s.level := by
        simpa using hstray
      rw [pass_of_level hs hl hle]
      cases he : (enter size (s.rise level) level line).1.isError with
      | true =>
        rw [enter_of_error he]
        exact Or.inl ⟨rfl, level, hle, rfl⟩
      | false =>
        refine Or.inr ⟨rfl, fun t ht => ?_⟩
        have hlevel : s.level ≤ t.level := by
          rw [← ht, Standing.level_rise]
          exact Nat.min_le_right _ _
        rw [pass_of_level hs hl (Nat.le_trans hle hlevel), ← Standing.rise_rise hle t, ht]

/-! ## One pass finds the marks -/

/-- A line that ends a body says something, at a level that is not deeper. -/
theorem level_of_not_inside (h : ¬ isInside level line = true) :
    line.isSkipped = false ∧ ∃ n, line.level? = some n ∧ n ≤ level := by
  rw [isInside, Bool.or_eq_true, not_or, Bool.not_eq_true] at h
  refine ⟨h.1, ?_⟩
  cases hl : line.level? with
  | none => simp [hl] at h
  | some n => exact ⟨n, rfl, by simpa [hl] using h.2⟩

/-- No line that says something is at a level above `level`. -/
def Deep (level : Nat) (lines : List Line) : Prop :=
  ∀ line ∈ lines, line.isSkipped = false → ∀ n ∈ line.level?, level ≤ n

theorem Deep.of_cons {rest : List Line} (h : Deep level (line :: rest)) : Deep level rest :=
  fun l hl => h l (List.mem_cons_of_mem _ hl)

theorem Deep.mono {more : List Line} (h : Deep level more) (hsub : lines ⊆ more) :
    Deep level lines :=
  fun l hl => h l (hsub hl)

/-- What is inside a body is deeper. -/
theorem deep_of_inside (h : ∀ line ∈ lines, isInside level line = true) :
    Deep (level + 1) lines := by
  intro line hm hs n hn
  have hin := h line hm
  rw [isInside, hs, Bool.false_or, Option.mem_def.mp hn] at hin
  exact of_decide_eq_true hin

/-- Readers for whom the same repetitions are open at a level go on alike after a body that is
deeper. -/
theorem passAll_of_ended (size : Text → Option Nat) (hdeep : Deep level lines)
    (hhead : ∀ line ∈ lines.head?, ¬ isInside level line = true) (ht : t.rise level = s)
    (hl : s.level = level) :
    (passAll size t lines).1 = (passAll size s lines).1 ∧
      (passAll size t lines).2.rise level = (passAll size s lines).2.rise level := by
  subst hl
  cases lines with
  | nil => exact ⟨rfl, by rw [passAll, passAll, ht, Standing.rise_of_le (Nat.le_refl _)]⟩
  | cons line rest =>
    obtain ⟨hs, n, hn, hle⟩ := level_of_not_inside (hhead line rfl)
    obtain rfl : n = s.level := Nat.le_antisymm hle (hdeep line List.mem_cons_self hs n hn)
    have hlevel : s.level ≤ t.level := by
      have hmin := Standing.level_rise s.level t
      rw [ht] at hmin
      omega
    have hpass : pass size t line = pass size s line := by
      rw [pass_of_level hs hn hlevel, pass_of_level hs hn (Nat.le_refl _), ht,
        Standing.rise_of_le (Nat.le_refl _)]
    rw [passAll, passAll, hpass]
    exact ⟨rfl, rfl⟩

/-- A line that opens nothing is passed as the outline has it. -/
theorem pass_of_nothing {item : Item} (ho : opening s.level line = .nothing item)
    (hdeep : line.isSkipped = false → ∀ n ∈ line.level?, s.level ≤ n) :
    pass size s line =
      (Mark.ofItem size s.position line item,
        ⟨s.rounds, s.position + item.size (knownSize size)⟩) := by
  cases hs : line.isSkipped with
  | true =>
    rw [opening_of_skipped hs] at ho
    cases ho
    exact pass_of_skipped hs
  | false =>
    by_cases hl : line.level? = some s.level
    · rw [pass_of_level hs hl (Nat.le_refl _), Standing.rise_of_le (Nat.le_refl _), enter, ho]
    · rw [opening_of_stray hs hl] at ho
      cases ho
      refine pass_of_stray hs fun n hn => Nat.lt_of_le_of_ne (hdeep hs n hn) fun he => hl ?_
      rw [he, Option.mem_def.mp hn]

/-- A line that opens a repetition is at the level where the reader stands. -/
theorem pass_of_repetition {count : Nat} (ho : opening s.level line = .repetition count) :
    pass size s line =
      (⟨line.number, .loop, none⟩, ⟨⟨s.position, count⟩ :: s.rounds, s.position⟩) := by
  cases hs : line.isSkipped with
  | true =>
    rw [opening_of_skipped hs] at ho
    cases ho
  | false =>
    by_cases hl : line.level? = some s.level
    · rw [pass_of_level hs hl (Nat.le_refl _), Standing.rise_of_le (Nat.le_refl _), enter, ho]
    · rw [opening_of_stray hs hl] at ho
      cases ho

/-- Where the body of a repetition ends, its frames count as often as it runs. -/
theorem rise_of_body {r : Round} {u : Standing}
    (h : u.rise (s.level + 1) = ⟨r :: s.rounds, position⟩) :
    u.rise s.level = ⟨s.rounds, r.before + r.count * (position - r.before)⟩ := by
  have hlevel : s.level ≤ s.rounds.length := Nat.le_refl _
  rw [← Standing.rise_rise (Nat.le_succ s.level) u, h, Standing.rise_cons hlevel]
  exact Standing.rise_of_le (Nat.le_refl _)

/-- **One pass finds the marks of the outline**, and when the repetitions that it has opened have
ended, there are as many frames. -/
theorem passAll_build (s : Standing) (lines : List Line) (h : Deep s.level lines) :
    (passAll size s lines).1 = ((build s.level lines).markList size s.position).1 ∧
      (passAll size s lines).2.rise s.level =
        ⟨s.rounds, ((build s.level lines).markList size s.position).2⟩ := by
  generalize hl : s.level = level at h ⊢
  induction level, lines using body_induction generalizing s with
  | nil level =>
    rw [build]
    exact ⟨rfl, Standing.rise_of_le (Nat.le_of_eq hl)⟩
  | nothing level line rest item ho ih =>
    subst hl
    rw [build_cons, passAll, ho, pass_of_nothing ho (h line List.mem_cons_self)]
    obtain ⟨hmarks, hlast⟩ :=
      ih ⟨s.rounds, s.position + item.size (knownSize size)⟩ rfl h.of_cons
    exact ⟨congrArg _ hmarks, hlast⟩
  | repetition level line rest count ho ihb ihn =>
    subst hl
    rw [build_cons, passAll, ho, pass_of_repetition ho]
    -- The body comes first. Repetitions that it opens may still be open where it ends.
    have hdrop := h.of_cons.mono (List.dropWhile_sublist (isInside s.level)).subset
    have hbody := ihb ⟨⟨s.position, count⟩ :: s.rounds, s.position⟩ rfl
      (deep_of_inside fun _ => List.mem_takeWhile_imp)
    have hnext := ihn ⟨s.rounds, s.position + count * (((build (s.level + 1)
      (rest.takeWhile (isInside s.level))).markList size s.position).2 - s.position)⟩ rfl hdrop
    have hended := passAll_of_ended size hdrop (head_of_dropWhile _ rest)
      (rise_of_body hbody.2) rfl
    rw [← List.takeWhile_append_dropWhile (p := isInside s.level) (l := rest), passAll_append]
    simp only [List.takeWhile_append_dropWhile, markList]
    exact ⟨congrArg _ (congrArg₂ _ hbody.1 (hended.1.trans hnext.1)), hended.2.trans hnext.2⟩

/-! ## Lines with an error beside them -/

/-- The line beside which the mark stands, measured anew if it is emptied. -/
def spareLine (mark : Mark) (line : Line) : Line :=
  if mark.isError then Line.measure line.number [] else line

/-- **Lines with an error beside them can be emptied**: a reader for whom the same repetitions are
open gives the marks that were there, and blank ones for the errors. -/
theorem passAll_spare (lines : List Line) (ht : t.rise s.level = s) :
    (passAll size t (List.zipWith spareLine (passAll size s lines).1 lines)).1 =
      (passAll size s lines).1.map Mark.emptied := by
  induction lines generalizing s t with
  | nil => rfl
  | cons line rest ih =>
    rw [passAll, List.zipWith_cons_cons, passAll, List.map_cons]
    rcases pass_cases size s line with hs | ⟨hmark, level, hle, hrise⟩ | ⟨hmark, hsame⟩
    · have hclean := Mark.isError_ofSkipped line
      rw [pass_of_skipped hs, spareLine, hclean, if_neg Bool.false_ne_true, pass_of_skipped hs,
        Mark.emptied_of_not_error hclean]
      exact congrArg _ (ih ht)
    · have hblank : (Line.measure line.number []).isSkipped = true := rfl
      have hspare : spareLine (⟨line.number, .error, none⟩ : Mark) line =
          Line.measure line.number [] := rfl
      have ht' : t.rise (s.rise level).level = s.rise level := by
        rw [Standing.level_rise, Nat.min_eq_left hle, ← Standing.rise_rise hle t, ht]
      rw [hmark, hrise, hspare, pass_of_skipped hblank]
      exact congrArg _ (ih ht')
    · rw [spareLine, hmark, if_neg Bool.false_ne_true, hsame t ht, Mark.emptied_of_not_error hmark]
      exact congrArg _ (ih (Standing.rise_of_le (Nat.le_refl _)))

end Outline

end FrameScript
