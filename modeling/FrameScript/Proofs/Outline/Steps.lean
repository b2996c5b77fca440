import FrameScript.Script.Outline

/-!
# Outlines, step by step

An outline is read from its first line to its last. `Outline.steps` lists what a reader meets on
the way: lines that open no body, the beginnings of repetitions, and their ends. A reading that
gives up does so at its first step that is not acceptable, so that everything about giving up can
be said of the list of steps, and nesting matters for the result of a complete reading only.

## Results

* `lines_steps_build`: the steps of an outline that was built from lines have exactly these
  lines, in their order.
* `agrees_of_mem_steps_build`, `stepFor_of_fits`: each step says what its line asks for, and where
  every line fits each line makes the step that it asks for.
* `leave_mem_steps_iff`: the repetitions that end are those that begin.
* `findSome?_congr_of_upTo`: where a reading gives up depends on the steps that it reaches only.
-/

namespace FrameScript

/-- How many frames a line makes that opens no body. -/
def Item.size (size : Text → Nat) : Item → Nat
  | .data => 1
  | .inclusion target => size target
  | _ => 0

namespace Outline

/-- One step of reading an outline. -/
inductive Step where
  | leaf (line : Line) (item : Item)
  | enter (line : Line) (count : Nat)
  | leave (count : Nat)

/-- The steps of an outline, in the order in which they are read. -/
def steps : Outline → List Step
  | nil => []
  | leaf line item next => .leaf line item :: steps next
  | loop line count body next =>
    .enter line count :: (steps body ++ .leave count :: steps next)

/-! ## Steps and lines -/

/-- The line that a step is read from. -/
def Step.line? : Step → Option Line
  | .leaf line _ | .enter line _ => some line
  | .leave _ => none

/-- **No line is lost, and none is read twice.** -/
theorem lines_steps_build (level : Nat) (lines : List Line) :
    (build level lines).steps.filterMap Step.line? = lines := by
  fun_induction build level lines with
  | case7 level line rest hs hl text hd count hn ihb ihn =>
    have henter : Step.line? (.enter line count) = some line := rfl
    have hleave : Step.line? (.leave count) = none := rfl
    rw [steps, List.filterMap_cons_some henter, List.filterMap_append, ihb,
      List.filterMap_cons_none hleave, ihn, List.takeWhile_append_dropWhile]
  | _ => simp_all [steps, Step.line?]

/-- What a step says is what its line asks for. -/
def Step.Agrees : Step → Prop
  | .leaf line .skip => line.isSkipped = true
  | .leaf line .data => line.isSkipped = false ∧ Directive.read line.content = .data
  | .leaf line (.inclusion target) =>
    line.isSkipped = false ∧ Directive.read line.content = .inclusion target
  | .leaf line (.bad .stray) => line.isSkipped = false
  | .leaf line (.bad (.badCount text)) =>
    line.isSkipped = false ∧ Directive.read line.content = .repetition text ∧
      Numeral.readNat text = .other
  | .leaf line (.bad (.longCount digits)) =>
    line.isSkipped = false ∧ ∃ text, Directive.read line.content = .repetition text ∧
      Numeral.readNat text = .tooLong digits
  | .enter line count =>
    line.isSkipped = false ∧ ∃ text, Directive.read line.content = .repetition text ∧
      Numeral.readNat text = .value count
  | .leave _ => True

/-- **Each step says what its line asks for.** -/
theorem agrees_of_mem_steps_build {level : Nat} {lines : List Line} {step : Step}
    (h : step ∈ (build level lines).steps) : step.Agrees := by
  fun_induction build level lines with
  | case1 => simp [steps] at h
  | case7 level line rest hs hl text hd count hn ihb ihn =>
    rw [steps, List.mem_cons, List.mem_append, List.mem_cons] at h
    rcases h with rfl | h | rfl | h
    · exact ⟨Bool.eq_false_iff.mpr hs, text, hd, hn⟩
    · exact ihb h
    · trivial
    · exact ihn h
  | _ =>
    rw [steps, List.mem_cons] at h
    rcases h with rfl | h
    · simp_all [Step.Agrees]
    · simp_all

theorem line_of_mem_steps_build {level : Nat} {lines : List Line} {step : Step} {line : Line}
    (h : step ∈ (build level lines).steps) (hl : step.line? = some line) : line ∈ lines := by
  rw [← lines_steps_build level lines]
  exact List.mem_filterMap.mpr ⟨step, h, hl⟩

theorem exists_step_of_mem {level : Nat} {lines : List Line} {line : Line} (h : line ∈ lines) :
    ∃ step ∈ (build level lines).steps, step.line? = some line := by
  rw [← lines_steps_build level lines] at h
  exact List.mem_filterMap.mp h

/-- Every line of the outline fits. -/
def Fits (o : Outline) : Prop :=
  ∀ line misfit, .leaf line (.bad misfit) ∉ o.steps

/-- The step that a line makes which fits and says something. -/
def StepFor (o : Outline) (line : Line) : Directive → Prop
  | .data => .leaf line .data ∈ o.steps
  | .inclusion target => .leaf line (.inclusion target) ∈ o.steps
  | .repetition text => ∃ count, Numeral.readNat text = .value count ∧ .enter line count ∈ o.steps

/-- **Where every line fits, each line that says something makes the step that it asks for.** -/
theorem stepFor_of_fits {level : Nat} {lines : List Line} {line : Line}
    (hf : (build level lines).Fits) (hm : line ∈ lines) (hs : line.isSkipped = false) :
    (build level lines).StepFor line (Directive.read line.content) := by
  obtain ⟨step, hstep, hline⟩ : ∃ step ∈ (build level lines).steps, step.line? = some line :=
    exists_step_of_mem hm
  have hagrees := agrees_of_mem_steps_build hstep
  match step, hline, hagrees with
  | .leaf _ .skip, rfl, hskip => exact absurd hskip (Bool.eq_false_iff.mp hs)
  | .leaf _ .data, rfl, ⟨_, hd⟩ =>
    rw [hd]
    exact hstep
  | .leaf _ (.inclusion target), rfl, ⟨_, hd⟩ =>
    rw [hd]
    exact hstep
  | .leaf _ (.bad misfit), rfl, _ => exact absurd hstep (hf line misfit)
  | .enter _ count, rfl, ⟨_, text, hd, hn⟩ =>
    rw [hd]
    exact ⟨count, hn, hstep⟩

/-- **The repetitions that end are those that begin.** -/
theorem leave_mem_steps_iff {o : Outline} {count : Nat} :
    .leave count ∈ o.steps ↔ ∃ line, .enter line count ∈ o.steps := by
  induction o with
  | nil => simp [steps]
  | leaf line item next ih => simp [steps, ih]
  | loop line n body next ihb ihn =>
    simp only [steps, List.mem_cons, List.mem_append, reduceCtorEq, false_or, Step.leave.injEq,
      Step.enter.injEq, ihb, ihn]
    constructor
    · rintro (⟨l, h⟩ | rfl | ⟨l, h⟩)
      · exact ⟨l, Or.inr (Or.inl h)⟩
      · exact ⟨line, Or.inl ⟨rfl, rfl⟩⟩
      · exact ⟨l, Or.inr (Or.inr h)⟩
    · rintro ⟨l, ⟨-, rfl⟩ | h | h⟩
      · exact Or.inr (Or.inl rfl)
      · exact Or.inl ⟨l, h⟩
      · exact Or.inr (Or.inr ⟨l, h⟩)

/-! ## Giving up -/

section UpTo

variable {α β : Type} {f g : α → Option β}

/-- What is reached of a list by a reader who ends at the first member that `f` accepts. -/
def upTo (f : α → Option β) : List α → List α
  | [] => []
  | a :: rest => if (f a).isSome then [a] else a :: upTo f rest

theorem upTo_cons_of_none {a : α} {l : List α} (h : f a = none) :
    upTo f (a :: l) = a :: upTo f l := by
  rw [upTo, h]
  rfl

theorem upTo_cons_of_some {a : α} {l : List α} {b : β} (h : f a = some b) :
    upTo f (a :: l) = [a] := by
  rw [upTo, h]
  rfl

theorem mem_upTo_cons_self (f : α → Option β) (a : α) (l : List α) : a ∈ upTo f (a :: l) := by
  rw [upTo]
  split <;> exact List.mem_cons_self

theorem mem_of_mem_upTo {a : α} {l : List α} (h : a ∈ upTo f l) : a ∈ l := by
  induction l with
  | nil => exact h
  | cons b l ih =>
    rw [upTo] at h
    split at h
    · rw [List.mem_singleton.mp h]
      exact List.mem_cons_self
    · rcases List.mem_cons.mp h with rfl | h
      · exact List.mem_cons_self
      · exact List.mem_cons_of_mem _ (ih h)

/-- All of a list is reached if nothing in it is accepted. -/
theorem upTo_eq_self {l : List α} (h : l.findSome? f = none) : upTo f l = l := by
  induction l with
  | nil => rfl
  | cons a l ih =>
    have hf := List.findSome?_eq_none_iff.mp h
    rw [upTo_cons_of_none (hf a List.mem_cons_self),
      ih (List.findSome?_eq_none_iff.mpr fun b hb => hf b (List.mem_cons_of_mem _ hb))]

theorem mem_upTo_append_left {a : α} {l : List α} (m : List α) (h : a ∈ upTo f l) :
    a ∈ upTo f (l ++ m) := by
  induction l with
  | nil => exact absurd h List.not_mem_nil
  | cons b l ih =>
    rw [List.cons_append]
    cases hb : f b with
    | none =>
      rw [upTo_cons_of_none hb] at h ⊢
      rcases List.mem_cons.mp h with rfl | h
      · exact List.mem_cons_self
      · exact List.mem_cons_of_mem _ (ih h)
    | some c =>
      rw [upTo_cons_of_some hb] at h ⊢
      exact h

theorem mem_upTo_append_right {a : α} {l m : List α} (hl : l.findSome? f = none)
    (h : a ∈ upTo f m) : a ∈ upTo f (l ++ m) := by
  induction l with
  | nil => exact h
  | cons b l ih =>
    have hf := List.findSome?_eq_none_iff.mp hl
    rw [List.cons_append, upTo_cons_of_none (hf b List.mem_cons_self)]
    exact List.mem_cons_of_mem _
      (ih (List.findSome?_eq_none_iff.mpr fun c hc => hf c (List.mem_cons_of_mem _ hc)))

/-- What is reached and accepted is the first that is accepted. -/
theorem findSome?_eq_of_mem_upTo {a : α} {b : β} {l : List α} (h : a ∈ upTo f l)
    (hb : f a = some b) : l.findSome? f = some b := by
  induction l with
  | nil => exact absurd h List.not_mem_nil
  | cons c l ih =>
    rw [List.findSome?_cons]
    cases hc : f c with
    | none =>
      rw [upTo_cons_of_none hc] at h
      rcases List.mem_cons.mp h with rfl | h
      · rw [hc] at hb
        exact absurd hb (by simp)
      · exact ih h
    | some d =>
      rw [upTo_cons_of_some hc] at h
      rw [← List.mem_singleton.mp h, hb] at hc
      exact hc.symm

/-- **Where a reader ends depends on what is reached only.** -/
theorem findSome?_congr_of_upTo {l : List α} (h : ∀ a ∈ upTo f l, g a = f a) :
    l.findSome? g = l.findSome? f := by
  induction l with
  | nil => rfl
  | cons a l ih =>
    rw [List.findSome?_cons, List.findSome?_cons, h a (mem_upTo_cons_self f a l)]
    cases ha : f a with
    | none =>
      rw [upTo_cons_of_none ha] at h
      exact ih fun b hb => h b (List.mem_cons_of_mem _ hb)
    | some b => rfl

/-- What is reached stays in reach of a second reader who passes whatever the first one passes. -/
theorem mem_upTo_of_passes {a : α} {l : List α} (h : ∀ b ∈ upTo f l, f b = none → g b = none)
    (ha : a ∈ upTo f l) : a ∈ upTo g l := by
  induction l with
  | nil => exact ha
  | cons b l ih =>
    cases hb : f b with
    | none =>
      rw [upTo_cons_of_none hb] at h ha
      rw [upTo_cons_of_none (h b List.mem_cons_self hb)]
      rcases List.mem_cons.mp ha with rfl | ha
      · exact List.mem_cons_self
      · exact List.mem_cons_of_mem _ (ih (fun c hc => h c (List.mem_cons_of_mem _ hc)) ha)
    | some c =>
      rw [upTo_cons_of_some hb] at ha
      rw [List.mem_singleton.mp ha]
      exact mem_upTo_cons_self g b l

/-- A second reader ends with `b` who does so at something that the first one reaches, and who
does so or passes wherever the first one passes. -/
theorem findSome?_eq_of_passes {a : α} {b : β} {l : List α}
    (h : ∀ c ∈ upTo f l, f c = none → g c = none ∨ g c = some b) (ha : a ∈ upTo f l)
    (hb : g a = some b) : l.findSome? g = some b := by
  induction l with
  | nil => exact absurd ha List.not_mem_nil
  | cons c l ih =>
    rw [List.findSome?_cons]
    cases hc : f c with
    | none =>
      rw [upTo_cons_of_none hc] at h ha
      rcases h c List.mem_cons_self hc with hg | hg
      · rw [hg]
        rcases List.mem_cons.mp ha with rfl | ha
        · rw [hg] at hb
          cases hb
        · exact ih (fun d hd => h d (List.mem_cons_of_mem _ hd)) ha
      · rw [hg]
    | some d =>
      rw [upTo_cons_of_some hc] at ha
      rw [← List.mem_singleton.mp ha, hb]

end UpTo

end Outline

end FrameScript
