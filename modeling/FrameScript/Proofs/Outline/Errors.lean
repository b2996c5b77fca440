import FrameScript.Proofs.Outline.Counting
import FrameScript.Proofs.Outline.Numbering

/-!
# Errors beside the lines of an outline

Counting ends at the first line that it cannot count; marking shows an error beside such a line and
goes on. Where the two agree in the scripts that have a number, an outline is counted if and only if
it is marked without an error, and the marks have then gone past as many frames as are counted.

How many frames there are after the last line shows in the mark of a line of data that is added
there. An outline is built downwards from its first line, so that a line at the level of the
outline, added after the last, stands at the end of it (`concat`).

## Results

* `exists_error_iff`: an error stands beside a line if its step is one of error.
* `marked_without_error_iff`: **an outline is marked without an error if and only if it is
  counted.**
* `build_concat`: a line of data at the level of the outline ends it.
* `marked_concat_data`: **the mark of a line of data at the end is the count and one more.**
-/

namespace FrameScript

/-- A line of data at the first column. -/
structure Line.IsOuterData (line : Line) : Prop where
  indent : line.indent = 0
  said : line.isSkipped = false
  data : Directive.read line.content = .data

theorem Line.IsOuterData.level {line : Line} (h : line.IsOuterData) : line.level? = some 0 := by
  rw [level?, h.indent]
  rfl

namespace Outline

variable {size : Text → Option Nat} {count shown : Text → Except Failure (Option Nat)}
  {o : Outline} {position : Nat} {line : Line} {item : Item}

/-! ## Where errors are shown -/

/-- An error is shown at the step: the line does not fit, or includes a script without a count. -/
def Step.Errs (size : Text → Option Nat) : Step → Prop
  | .leaf _ (.inclusion target) => size target = none
  | .leaf _ (.bad _) => True
  | _ => False

theorem kind_ofItem_eq_error_iff :
    (Mark.ofItem size position line item).kind = .error ↔ (Step.leaf line item).Errs size := by
  cases item with
  | skip =>
    change (if line.content.isEmpty then Mark.Kind.blank else .comment) = .error ↔ False
    split <;> simp
  | data => simp [Mark.ofItem, Step.Errs]
  | inclusion target => cases h : size target <;> simp [Mark.ofItem, Step.Errs, h]
  | bad misfit => simp [Mark.ofItem, Step.Errs]

/-- **An error stands beside a line if its step is one of error**, wherever the outline begins. -/
theorem exists_error_iff :
    (∃ mark ∈ (o.markList size position).1, mark.kind = .error) ↔
      ∃ step ∈ o.steps, step.Errs size := by
  induction o generalizing position with
  | nil => simp [markList, steps]
  | leaf line item next ih =>
    simp only [markList, steps, List.mem_cons, or_and_right, exists_or, exists_eq_left,
      kind_ofItem_eq_error_iff, ih]
  | loop line n body next ihb ihn =>
    have hmark : ¬ (Mark.mk line.number .loop none).kind = .error := by simp
    have henter : ¬ (Step.enter line n).Errs size := id
    have hleave : ¬ (Step.leave n).Errs size := id
    simp only [markList, steps, List.mem_append, List.mem_cons, or_and_right, exists_or,
      exists_eq_left, ihb, ihn, hmark, henter, hleave, false_or, List.cons_append]

/-- Counting passes a step if and only if marking passes it and shows no error there. -/
theorem stop_eq_none_iff (h : ∀ target n, count target = .ok (some n) ↔ shown target = .ok (some n))
    (step : Step) :
    step.stop count = none ↔ step.fault shown = none ∧ ¬ step.Errs (shownCount shown) := by
  match step with
  | .leaf _ .skip | .leaf _ .data | .enter _ _ | .leave _ =>
    simp [Step.stop, Step.fault, Step.Errs]
  | .leaf _ (.bad (.longCount _)) | .leaf _ (.bad .stray) | .leaf _ (.bad (.badCount _)) =>
    simp [Step.stop, Step.fault, Step.Errs]
  | .leaf line (.inclusion target) =>
    constructor
    · intro hs
      have hn := (h target _).mp (number_of_stop_eq_none hs)
      simp [Step.fault, Step.Errs, shownCount, hn]
    · rintro ⟨hf, he⟩
      cases hn : shown target with
      | error failure => simp [Step.fault, hn] at hf
      | ok number =>
        cases number with
        | none => simp [Step.Errs, shownCount, hn] at he
        | some n => exact stop_inclusion_of_number ((h target n).mpr hn)

theorem counted_iff_passed :
    (∃ n, o.counted count = .ok (some n)) ↔ o.steps.findSome? (Step.stop count) = none := by
  constructor
  · rintro ⟨n, hn⟩
    cases hs : o.steps.findSome? (Step.stop count) with
    | none => rfl
    | some outcome =>
      obtain ⟨step, -, hstep⟩ := List.exists_of_findSome?_eq_some hs
      rw [counted_of_some hs] at hn
      exact absurd (hn ▸ hstep) (stop_ne_number step n)
  · exact fun hs => ⟨_, counted_of_none hs⟩

/-- **An outline is marked without an error if and only if it is counted.** -/
theorem marked_without_error_iff
    (h : ∀ target n, count target = .ok (some n) ↔ shown target = .ok (some n)) (position : Nat) :
    (∃ marks, o.marked shown position = .ok marks ∧ ∀ mark ∈ marks.1, mark.kind ≠ .error) ↔
      ∃ n, o.counted count = .ok (some n) := by
  rw [counted_iff_passed, List.findSome?_eq_none_iff]
  constructor
  · rintro ⟨marks, hm, hclean⟩ step hstep
    cases hf : o.steps.findSome? (Step.fault shown) with
    | some failure =>
      rw [marked_of_some hf] at hm
      cases hm
    | none =>
      obtain rfl := Except.ok.inj ((marked_of_none hf).symm.trans hm)
      have hpass := List.findSome?_eq_none_iff.mp hf step hstep
      refine (stop_eq_none_iff h step).mpr ⟨hpass, fun he => ?_⟩
      obtain ⟨mark, hmark, hkind⟩ := exists_error_iff.mpr ⟨step, hstep, he⟩
      exact hclean mark hmark hkind
  · intro hs
    have hpass := fun step hstep => (stop_eq_none_iff h step).mp (hs step hstep)
    refine ⟨_, marked_of_none (List.findSome?_eq_none_iff.mpr fun step hstep =>
      (hpass step hstep).1), fun mark hmark hkind => ?_⟩
    obtain ⟨step, hstep, he⟩ := exists_error_iff.mp ⟨mark, hmark, hkind⟩
    exact (hpass step hstep).2 he

/-! ## One more line -/

/-- The outline with one more line at its end that opens no body. -/
def concat : Outline → Line → Item → Outline
  | nil, line, item => leaf line item nil
  | leaf first start next, line, item => leaf first start (next.concat line item)
  | loop first n body next, line, item => loop first n body (next.concat line item)

theorem steps_concat (o : Outline) (line : Line) (item : Item) :
    (o.concat line item).steps = o.steps ++ [.leaf line item] := by
  induction o with
  | nil => rfl
  | leaf first start next ih => rw [concat, steps, ih, steps, List.cons_append]
  | loop first n body next _ ih =>
    rw [concat, steps, ih, steps, List.cons_append, List.append_assoc, List.cons_append]

theorem markList_concat (o : Outline) (line : Line) (item : Item) (position : Nat) :
    (o.concat line item).markList size position =
      ((o.markList size position).1 ++ [Mark.ofItem size (o.markList size position).2 line item],
        (o.markList size position).2 + item.size (knownSize size)) := by
  induction o generalizing position with
  | nil => rfl
  | leaf first start next ih => rw [concat, markList, ih, markList, List.cons_append]
  | loop first n body next _ ih =>
    rw [concat, markList, ih, markList, List.append_assoc]

/-- What stops at the last of a list stops there or before. -/
theorem takeWhile_concat {α : Type} {p : α → Bool} {a : α} (ha : ¬ p a = true) (l : List α) :
    (l ++ [a]).takeWhile p = l.takeWhile p ∧ (l ++ [a]).dropWhile p = l.dropWhile p ++ [a] := by
  induction l with
  | nil => simp [ha]
  | cons b l ih => by_cases hb : p b = true <;> simp [hb, ih.1, ih.2]

/-- **A line of data at the level of the outline ends it**, even after repetitions: it is inside
none of them. -/
theorem build_concat {level : Nat} (lines : List Line) (hs : line.isSkipped = false)
    (hl : line.level? = some level) (hd : Directive.read line.content = .data) :
    build level (lines ++ [line]) = (build level lines).concat line .data := by
  have hout : ¬ isInside level line = true := by simp [isInside, hs, hl]
  -- Only a repetition that can be read splits the lines after it, and its body ends before the new
  -- line.
  fun_induction build level lines with
  | case1 => simp [build, hs, hl, hd, concat]
  | case7 level first rest hskip hlevel text hread n hn ihb ihn =>
    obtain ⟨htake, hdrop⟩ := takeWhile_concat hout rest
    simp [build, hskip, hlevel, hread, hn, htake, hdrop, concat, ihn hl hout]
  | _ => simp_all [build, concat]

/-- **The mark of a line of data at the end is the count and one more.** -/
theorem marked_concat_data (line : Line)
    (h : ∀ target n, count target = .ok (some n) ↔ shown target = .ok (some n)) {n : Nat}
    (hn : o.counted count = .ok (some n)) :
    ∃ marks, o.marked shown 0 = .ok (marks, n) ∧
      (o.concat line .data).marked shown 0 =
        .ok (marks ++ [⟨line.number, .data, some (n + 1)⟩], n + 1) := by
  have hpassed := counted_iff_passed.mp ⟨n, hn⟩
  have hpass := List.findSome?_eq_none_iff.mp hpassed
  have hfault : o.steps.findSome? (Step.fault shown) = none :=
    List.findSome?_eq_none_iff.mpr fun step hstep =>
      ((stop_eq_none_iff h step).mp (hpass step hstep)).1
  have hlast : (o.markList (shownCount shown) 0).2 = n := by
    rw [last_of_markList, Nat.zero_add]
    rw [counted_of_none hpassed] at hn
    rw [← Option.some.inj (Except.ok.inj hn)]
    refine total_congr fun line target hstep => ?_
    have htarget := (h target _).mp (number_of_stop_eq_none (hpass _ hstep))
    rw [knownSize, shownCount, htarget]
    rfl
  refine ⟨(o.markList (shownCount shown) 0).1, ?_, ?_⟩
  · rw [marked_of_none hfault, ← hlast]
  · have hend : (o.concat line .data).steps.findSome? (Step.fault shown) = none := by
      rw [steps_concat, List.findSome?_append, hfault]
      rfl
    rw [marked_of_none hend, markList_concat, hlast]
    rfl

end Outline

end FrameScript
