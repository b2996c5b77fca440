import FrameScript.Proofs.Outline.Counting

/-!
# Unrolling an outline

The frames of an outline in one formula: the first step that faults decides, and if none does, the
frames are those of the lines, one after the other, with the bodies of repetitions copied.
`unrolled` is that formula, over plain functions that tell the frame of a line of data and the
frames of the scripts that are included.

## Results

* `gives_frames`: unrolling in a changing world gives what the formula says, as long as the scripts
  that the outline includes are unrolled so.
* `unrolled_congr`: the formula depends on the scripts that are included only.
* `length_unroll`: there are as many frames as `Outline.total` says.
-/

namespace FrameScript

namespace Outline

open Reading

variable {source : Option Text} {data : Line → Except Failure Frame}
  {included other : Line → Text → Except Failure (List Frame)}

/-- The failure with which the unrolling ends at a step, if it does. -/
def Step.halt (source : Option Text) (data : Line → Except Failure Frame)
    (included : Line → Text → Except Failure (List Frame)) : Step → Option Failure
  | .leaf _ .skip => none
  | .leaf line .data =>
    match data line with
    | .ok _ => none
    | .error failure => some failure
  | .leaf line (.inclusion target) =>
    match included line target with
    | .ok _ => none
    | .error failure => some failure
  | .leaf line (.bad misfit) => some (misfitFailure source line misfit)
  | .enter _ _ => none
  | .leave count => if repeatLimit < count then some .hugeRepeat else none

/-- The frames that a line makes that opens no body. -/
def Item.frames (data : Line → Except Failure Frame)
    (included : Line → Text → Except Failure (List Frame)) (line : Line) : Item → List Frame
  | .data => (data line).toOption.toList
  | .inclusion target => (included line target).toOption.getD []
  | _ => []

/-- The frames that an outline makes if nothing in it faults. -/
def unroll (data : Line → Except Failure Frame)
    (included : Line → Text → Except Failure (List Frame)) : Outline → List Frame
  | nil => []
  | leaf line item next => Item.frames data included line item ++ unroll data included next
  | loop _ count body next =>
    copies count (unroll data included body) ++ unroll data included next

/-- The frames of an outline, or the failure of the first step that faults. -/
def unrolled (source : Option Text) (data : Line → Except Failure Frame)
    (included : Line → Text → Except Failure (List Frame)) (o : Outline) :
    Except Failure (List Frame) :=
  match o.steps.findSome? (Step.halt source data included) with
  | some failure => .error failure
  | none => .ok (o.unroll data included)

/-! ## Single steps -/

theorem halt_data_of_ok {line : Line} {frame : Frame} (h : data line = .ok frame) :
    (Step.leaf line .data).halt source data included = none := by
  simp only [Step.halt, h]

theorem halt_data_of_error {line : Line} {failure : Failure} (h : data line = .error failure) :
    (Step.leaf line .data).halt source data included = some failure := by
  simp only [Step.halt, h]

theorem halt_inclusion_of_ok {line : Line} {target : Text} {frames : List Frame}
    (h : included line target = .ok frames) :
    (Step.leaf line (.inclusion target)).halt source data included = none := by
  simp only [Step.halt, h]

theorem halt_inclusion_of_error {line : Line} {target : Text} {failure : Failure}
    (h : included line target = .error failure) :
    (Step.leaf line (.inclusion target)).halt source data included = some failure := by
  simp only [Step.halt, h]

theorem halt_leave_of_lt {n : Nat} (h : repeatLimit < n) :
    (Step.leave n).halt source data included = some .hugeRepeat :=
  if_pos h

theorem halt_leave_of_le {n : Nat} (h : n ≤ repeatLimit) :
    (Step.leave n).halt source data included = none :=
  if_neg (Nat.not_lt.mpr h)

theorem ok_of_halt_data {line : Line}
    (h : (Step.leaf line .data).halt source data included = none) :
    ∃ frame, data line = .ok frame := by
  cases hf : data line with
  | ok frame => exact ⟨frame, rfl⟩
  | error failure =>
    rw [halt_data_of_error hf] at h
    cases h

theorem ok_of_halt_inclusion {line : Line} {target : Text}
    (h : (Step.leaf line (.inclusion target)).halt source data included = none) :
    ∃ frames, included line target = .ok frames := by
  cases hf : included line target with
  | ok frames => exact ⟨frames, rfl⟩
  | error failure =>
    rw [halt_inclusion_of_error hf] at h
    cases h

/-- Steps other than inclusions fault or not whatever is included. -/
theorem halt_eq_of_ne_inclusion {step : Step}
    (h : ∀ line target, step ≠ .leaf line (.inclusion target)) :
    step.halt source data other = step.halt source data included := by
  match step with
  | .leaf line (.inclusion target) => exact absurd rfl (h line target)
  | .leaf _ .skip | .leaf _ .data | .leaf _ (.bad _) | .enter _ _ | .leave _ => rfl

/-! ## The formula along the outline -/

theorem unrolled_of_none {o : Outline}
    (h : o.steps.findSome? (Step.halt source data included) = none) :
    o.unrolled source data included = .ok (o.unroll data included) := by
  rw [unrolled, h]

theorem unrolled_of_some {o : Outline} {failure : Failure}
    (h : o.steps.findSome? (Step.halt source data included) = some failure) :
    o.unrolled source data included = .error failure := by
  rw [unrolled, h]

theorem findSome?_of_unrolled_ok {o : Outline} {frames : List Frame}
    (h : o.unrolled source data included = .ok frames) :
    o.steps.findSome? (Step.halt source data included) = none := by
  cases hf : o.steps.findSome? (Step.halt source data included) with
  | none => rfl
  | some failure =>
    rw [unrolled_of_some hf] at h
    cases h

theorem unrolled_leaf_of_some {line : Line} {item : Item} {next : Outline} {failure : Failure}
    (h : (Step.leaf line item).halt source data included = some failure) :
    (leaf line item next).unrolled source data included = .error failure := by
  refine unrolled_of_some ?_
  rw [steps, List.findSome?_cons, h]

theorem unrolled_leaf_of_none {line : Line} {item : Item} {next : Outline}
    (h : (Step.leaf line item).halt source data included = none) :
    (leaf line item next).unrolled source data included =
      (next.unrolled source data included).map (Item.frames data included line item ++ ·) := by
  unfold unrolled
  rw [steps, List.findSome?_cons, h]
  cases next.steps.findSome? (Step.halt source data included) <;> rfl

theorem unrolled_loop_of_error {line : Line} {n : Nat} {body next : Outline} {failure : Failure}
    (h : body.unrolled source data included = .error failure) :
    (loop line n body next).unrolled source data included = .error failure := by
  have henter : (Step.enter line n).halt source data included = none := rfl
  cases hb : body.steps.findSome? (Step.halt source data included) with
  | none =>
    rw [unrolled_of_none hb] at h
    cases h
  | some fault =>
    rw [unrolled_of_some hb] at h
    refine unrolled_of_some ?_
    rw [steps, List.findSome?_cons, henter]
    simp only [List.findSome?_append, hb, Option.some_or]
    rw [Except.error.inj h]

theorem unrolled_loop_of_ok {line : Line} {n : Nat} {body next : Outline} {block : List Frame}
    (h : body.unrolled source data included = .ok block) :
    (loop line n body next).unrolled source data included =
      if repeatLimit < n then .error .hugeRepeat
      else (next.unrolled source data included).map (copies n block ++ ·) := by
  have henter : (Step.enter line n).halt source data included = none := rfl
  have hb := findSome?_of_unrolled_ok h
  rw [unrolled_of_none hb] at h
  unfold unrolled
  rw [steps, List.findSome?_cons, henter]
  simp only [List.findSome?_append, hb, Option.none_or, List.findSome?_cons]
  by_cases hn : repeatLimit < n
  · rw [halt_leave_of_lt hn, if_pos hn]
  · rw [halt_leave_of_le (Nat.not_lt.mp hn), if_neg hn, unroll, Except.ok.inj h]
    cases next.steps.findSome? (Step.halt source data included) <;> rfl

/-! ## What the frames depend on -/

theorem unroll_congr {o : Outline}
    (h : ∀ line target, .leaf line (.inclusion target) ∈ o.steps →
      other line target = included line target) :
    o.unroll data other = o.unroll data included := by
  induction o with
  | nil => rfl
  | leaf line item next ih =>
    have hitem : Item.frames data other line item = Item.frames data included line item := by
      cases item with
      | inclusion target => rw [Item.frames, Item.frames, h line target List.mem_cons_self]
      | _ => rfl
    rw [unroll, unroll, hitem, ih fun l t ht => h l t (List.mem_cons_of_mem _ ht)]
  | loop line n body next ihb ihn =>
    have hbody := ihb fun l t ht => h l t (List.mem_cons_of_mem _ (List.mem_append_left _ ht))
    have hnext := ihn fun l t ht =>
      h l t (List.mem_cons_of_mem _ (List.mem_append_right _ (List.mem_cons_of_mem _ ht)))
    rw [unroll, unroll, hbody, hnext]

/-- **The frames depend on the scripts that are included only.** -/
theorem unrolled_congr {o : Outline}
    (h : ∀ line target, .leaf line (.inclusion target) ∈ o.steps →
      other line target = included line target) :
    o.unrolled source data other = o.unrolled source data included := by
  have hhalt : ∀ step ∈ upTo (Step.halt source data included) o.steps,
      step.halt source data other = step.halt source data included := by
    intro step hs
    by_cases hi : ∃ line target, step = .leaf line (.inclusion target)
    · obtain ⟨line, target, rfl⟩ := hi
      simp only [Step.halt, h line target (mem_of_mem_upTo hs)]
    · exact halt_eq_of_ne_inclusion fun line target he => hi ⟨line, target, he⟩
  rw [unrolled, unrolled, findSome?_congr_of_upTo hhalt, unroll_congr h]

theorem length_copies {α : Type} (n : Nat) (block : List α) :
    (copies n block).length = n * block.length := by
  unfold copies
  cases block with
  | nil => rfl
  | cons a block => simp

/-- **There are as many frames as the total says.** -/
theorem length_unroll {o : Outline} {size : Text → Nat}
    (hd : ∀ line, .leaf line .data ∈ o.steps → ∃ frame, data line = .ok frame)
    (hi : ∀ line target, .leaf line (.inclusion target) ∈ o.steps →
      ∃ frames, included line target = .ok frames ∧ frames.length = size target) :
    (o.unroll data included).length = o.total size := by
  induction o with
  | nil => rfl
  | leaf line item next ih =>
    have hitem : (Item.frames data included line item).length = item.size size := by
      cases item with
      | data =>
        obtain ⟨frame, hf⟩ := hd line List.mem_cons_self
        rw [Item.frames, hf]
        rfl
      | inclusion target =>
        obtain ⟨frames, hf, hl⟩ := hi line target List.mem_cons_self
        rw [Item.frames, hf]
        exact hl
      | _ => rfl
    rw [unroll, total, List.length_append, hitem,
      ih (fun l hl => hd l (List.mem_cons_of_mem _ hl))
        fun l t ht => hi l t (List.mem_cons_of_mem _ ht)]
  | loop line n body next ihb ihn =>
    have hbody := ihb (fun l hl => hd l (List.mem_cons_of_mem _ (List.mem_append_left _ hl)))
      fun l t ht => hi l t (List.mem_cons_of_mem _ (List.mem_append_left _ ht))
    have hnext := ihn
      (fun l hl =>
        hd l (List.mem_cons_of_mem _ (List.mem_append_right _ (List.mem_cons_of_mem _ hl))))
      fun l t ht =>
        hi l t (List.mem_cons_of_mem _ (List.mem_append_right _ (List.mem_cons_of_mem _ ht)))
    rw [unroll, total, List.length_append, length_copies, hbody, hnext]

/-! ## Unrolling in a changing world -/

section Changing

variable {σ : Type} {P : σ → Prop} {readData : Line → EStateM Failure σ Frame}
  {readIncluded : Line → Text → EStateM Failure σ (List Frame)} {body next : Outline} {line : Line}

/-- A line of data is read, and its frame stands before those of the lines after it. -/
theorem gives_frames_data (hd : Gives P (readData line) (data line) P)
    (hn : Gives P (next.frames source readData readIncluded)
      (next.unrolled source data included) P) :
    Gives P ((leaf line .data next).frames source readData readIncluded)
      ((leaf line .data next).unrolled source data included) P := by
  cases hf : data line with
  | ok frame =>
    rw [hf] at hd
    rw [unrolled_leaf_of_none (halt_data_of_ok hf), Item.frames, hf]
    exact gives_bind_ok hd (gives_map _ hn)
  | error failure =>
    rw [hf] at hd
    rw [unrolled_leaf_of_some (halt_data_of_error hf)]
    exact gives_bind_error hd

/-- The frames of a script that is included stand before those of the lines after it. -/
theorem gives_frames_inclusion {target : Text}
    (ht : Gives P (readIncluded line target) (included line target) P)
    (hn : Gives P (next.frames source readData readIncluded)
      (next.unrolled source data included) P) :
    Gives P ((leaf line (.inclusion target) next).frames source readData readIncluded)
      ((leaf line (.inclusion target) next).unrolled source data included) P := by
  cases hf : included line target with
  | ok frames =>
    rw [hf] at ht
    rw [unrolled_leaf_of_none (halt_inclusion_of_ok hf), Item.frames, hf]
    exact gives_bind_ok ht (gives_map _ hn)
  | error failure =>
    rw [hf] at ht
    rw [unrolled_leaf_of_some (halt_inclusion_of_error hf)]
    exact gives_bind_error ht

/-- A repetition unrolls its body, and only then asks whether the count is too large. -/
theorem gives_frames_loop {n : Nat}
    (hb : Gives P (body.frames source readData readIncluded)
      (body.unrolled source data included) P)
    (hn : Gives P (next.frames source readData readIncluded)
      (next.unrolled source data included) P) :
    Gives P ((loop line n body next).frames source readData readIncluded)
      ((loop line n body next).unrolled source data included) P := by
  unfold frames
  cases hf : body.unrolled source data included with
  | error failure =>
    rw [hf] at hb
    rw [unrolled_loop_of_error hf]
    exact gives_bind_error hb
  | ok block =>
    rw [hf] at hb
    rw [unrolled_loop_of_ok hf]
    refine gives_bind_ok hb ?_
    by_cases hlarge : repeatLimit < n
    · rw [if_pos hlarge, if_pos hlarge]
      exact gives_bind_error (gives_throw Failure.hugeRepeat)
    · rw [if_neg hlarge, if_neg hlarge]
      exact gives_map _ hn

/-- **Unrolling gives what the formula says**, if each script that is included is unrolled so. -/
theorem gives_frames {o : Outline} (hd : ∀ line, Gives P (readData line) (data line) P)
    (hi : ∀ line target, .leaf line (.inclusion target) ∈ o.steps →
      Gives P (readIncluded line target) (included line target) P) :
    Gives P (o.frames source readData readIncluded) (o.unrolled source data included) P := by
  induction o with
  | nil => exact gives_pure []
  | leaf line item next ih =>
    have hnext := ih fun l t ht => hi l t (List.mem_cons_of_mem _ ht)
    cases item with
    | skip =>
      have hskip : (leaf line .skip next).unrolled source data included =
          next.unrolled source data included := rfl
      rw [hskip]
      exact hnext
    | data => exact gives_frames_data (hd line) hnext
    | inclusion target => exact gives_frames_inclusion (hi line target List.mem_cons_self) hnext
    | bad misfit => exact gives_throw (misfitFailure source line misfit)
  | loop line n body next ihb ihn =>
    exact gives_frames_loop
      (ihb fun l t ht => hi l t (List.mem_cons_of_mem _ (List.mem_append_left _ ht)))
      (ihn fun l t ht =>
        hi l t (List.mem_cons_of_mem _ (List.mem_append_right _ (List.mem_cons_of_mem _ ht))))

end Changing

end Outline

end FrameScript
