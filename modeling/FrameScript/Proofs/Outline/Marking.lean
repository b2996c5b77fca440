import FrameScript.Proofs.Outline.Steps
import FrameScript.Proofs.Reading

/-!
# Marking an outline

The marks of an outline in one formula. Marking goes on after lines that do not fit and ends only
where a script that is included, or a count of too many digits, fails it; if nothing does, the marks
are a plain function of the outline (`markList`) over the counts of the included scripts.

`gives_marks`: marking in a changing world gives what the formula says.
-/

namespace FrameScript

/-- The mark of a line that opens no body and comes after `position` frames. -/
def Mark.ofItem (size : Text → Option Nat) (position : Nat) (line : Line) : Item → Mark
  | .skip => ofSkipped line
  | .data => ⟨line.number, .data, some (position + 1)⟩
  | .inclusion target =>
    match size target with
    | none => ⟨line.number, .error, none⟩
    | some n => ⟨line.number, .inclusion, some n⟩
  | .bad _ => ⟨line.number, .error, none⟩

namespace Outline

open Reading

variable {count : Text → Except Failure (Option Nat)}

/-- What fails the marking at a step, if anything does. -/
def Step.fault (count : Text → Except Failure (Option Nat)) : Step → Option Failure
  | .leaf _ (.inclusion target) =>
    match count target with
    | .error failure => some failure
    | .ok _ => none
  | .leaf _ (.bad (.longCount digits)) => some (.longNumeral digits)
  | _ => none

/-- How many frames an included script adds; none if it cannot be counted. -/
def knownSize (size : Text → Option Nat) (target : Text) : Nat :=
  (size target).getD 0

/-- The marks of an outline that begins after `position` frames, and how many frames there are
after it. -/
def markList (size : Text → Option Nat) : (position : Nat) → Outline → List Mark × Nat
  | position, nil => ([], position)
  | position, leaf line item next =>
    let rest := markList size (position + item.size (knownSize size)) next
    (Mark.ofItem size position line item :: rest.1, rest.2)
  | position, loop line count body next =>
    let inner := markList size position body
    let rest := markList size (position + count * (inner.2 - position)) next
    (⟨line.number, .loop, none⟩ :: inner.1 ++ rest.1, rest.2)

/-- The count that is shown for an included script, if there is one. -/
def shownCount (count : Text → Except Failure (Option Nat)) (target : Text) : Option Nat :=
  match count target with
  | .ok shown => shown
  | .error _ => none

/-- The marks of an outline, or what failed them. -/
def marked (count : Text → Except Failure (Option Nat)) (position : Nat) (o : Outline) :
    Except Failure (List Mark × Nat) :=
  match o.steps.findSome? (Step.fault count) with
  | some failure => .error failure
  | none => .ok (o.markList (shownCount count) position)

theorem marked_of_none {position : Nat} {o : Outline}
    (h : o.steps.findSome? (Step.fault count) = none) :
    o.marked count position = .ok (o.markList (shownCount count) position) := by
  rw [marked, h]

theorem marked_of_some {position : Nat} {o : Outline} {failure : Failure}
    (h : o.steps.findSome? (Step.fault count) = some failure) :
    o.marked count position = .error failure := by
  rw [marked, h]

theorem marked_leaf {position : Nat} {line : Line} {item : Item} {next : Outline}
    (h : (Step.leaf line item).fault count = none) :
    (leaf line item next).marked count position =
      (next.marked count (position + item.size (knownSize (shownCount count)))).map fun rest =>
        (Mark.ofItem (shownCount count) position line item :: rest.1, rest.2) := by
  rw [marked, marked, steps, List.findSome?_cons, h]
  cases next.steps.findSome? (Step.fault count) <;> rfl

theorem marked_leaf_of_some {position : Nat} {line : Line} {item : Item} {next : Outline}
    {failure : Failure} (h : (Step.leaf line item).fault count = some failure) :
    (leaf line item next).marked count position = .error failure := by
  rw [marked, steps, List.findSome?_cons, h]

theorem marked_loop_of_some {position : Nat} {line : Line} {n : Nat} {body next : Outline}
    {failure : Failure} (h : body.steps.findSome? (Step.fault count) = some failure) :
    (loop line n body next).marked count position = .error failure := by
  have henter : (Step.enter line n).fault count = none := rfl
  refine marked_of_some ?_
  rw [steps, List.findSome?_cons, henter]
  simp only [List.findSome?_append, h, Option.some_or]

theorem marked_loop_of_none {position : Nat} {line : Line} {n : Nat} {body next : Outline}
    (h : body.steps.findSome? (Step.fault count) = none) :
    (loop line n body next).marked count position =
      (next.marked count
        (position + n * ((body.markList (shownCount count) position).2 - position))).map fun rest =>
          (⟨line.number, .loop, none⟩ ::
            (body.markList (shownCount count) position).1 ++ rest.1, rest.2) := by
  have henter : (Step.enter line n).fault count = none := rfl
  have hleave : (Step.leave n).fault count = none := rfl
  rw [marked, marked, steps, List.findSome?_cons, henter]
  simp only [List.findSome?_append, h, Option.none_or, List.findSome?_cons, hleave]
  cases next.steps.findSome? (Step.fault count) <;> rfl

section Changing

variable {σ : Type} {P : σ → Prop} {included : Text → EStateM Failure σ (Option Nat)}
  {body next : Outline} {line : Line}

/-- A line that includes a script is marked with its count, and without one if it has none. -/
theorem gives_marks_inclusion {position : Nat} {target : Text}
    (ht : Gives P (included target) (count target) P)
    (hn : ∀ position, Gives P (marks included position next) (next.marked count position) P) :
    Gives P (marks included position (leaf line (.inclusion target) next))
      ((leaf line (.inclusion target) next).marked count position) P := by
  cases hc : count target with
  | error failure =>
    have hf : (Step.leaf line (.inclusion target)).fault count = some failure := by
      simp only [Step.fault, hc]
    rw [hc] at ht
    rw [marked_leaf_of_some hf]
    exact gives_bind_error ht
  | ok shown =>
    have hshown : shownCount count target = shown := by rw [shownCount, hc]
    rw [hc] at ht
    rw [marked_leaf (by simp only [Step.fault, hc])]
    simp only [Mark.ofItem, Item.size, knownSize, hshown]
    cases shown with
    | none => exact gives_bind_ok ht (gives_map _ (hn position))
    | some n => exact gives_bind_ok ht (gives_map _ (hn (position + n)))

/-- **Marking gives what the formula says**, if each included script is counted so. -/
theorem gives_marks {o : Outline} (position : Nat)
    (h : ∀ target, Gives P (included target) (count target) P) :
    Gives P (marks included position o) (o.marked count position) P := by
  induction o generalizing position with
  | nil => exact gives_pure ([], position)
  | leaf line item next ih =>
    cases item with
    | skip =>
      rw [marked_leaf rfl]
      exact gives_map _ (ih position)
    | data =>
      rw [marked_leaf rfl]
      exact gives_map _ (ih (position + 1))
    | inclusion target => exact gives_marks_inclusion (h target) ih
    | bad misfit =>
      cases misfit with
      | longCount digits => exact gives_throw (Failure.longNumeral digits)
      | stray =>
        rw [marked_leaf rfl]
        exact gives_map _ (ih position)
      | badCount text =>
        rw [marked_leaf rfl]
        exact gives_map _ (ih position)
  | loop line n body next ihb ihn =>
    have hbody := ihb position
    cases hs : body.steps.findSome? (Step.fault count) with
    | some failure =>
      rw [marked_of_some hs] at hbody
      rw [marked_loop_of_some hs]
      exact gives_bind_error hbody
    | none =>
      rw [marked_of_none hs] at hbody
      rw [marked_loop_of_none hs]
      exact gives_bind_ok hbody (gives_map _ (ihn _))

end Changing

end Outline

end FrameScript
