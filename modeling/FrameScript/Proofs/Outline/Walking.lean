import FrameScript.Proofs.Outline.Steps
import FrameScript.Proofs.Reading

/-!
# Walking along an outline

Whatever a reading makes of an outline, it changes the world step by step, from the first step to
the one that ends it. `walk` takes the steps of a list one after another until one of them fails or
says that it is the last. Unrolling, counting and marking each walk along the steps of the outline,
so that what happens to the world on the way can be told from the list, and nesting does not matter.

## Results

* `frames_walk`, `count?_walk`, `marks_walk`: **the three readings of an outline walk along its
  steps.**
* `runs_walk`: what each step keeps holds of the whole walk.
* `runs_walk_upTo`: a walk goes on up to the first step that ends it.
-/

namespace FrameScript

open Reading

namespace Reading

variable {ε σ α β : Type}

/-- Nothing comes after a failure. -/
@[simp] theorem throw_bind (e : ε) (f : α → EStateM ε σ β) :
    (throw e : EStateM ε σ α) >>= f = throw e :=
  rfl

@[simp] theorem map_throw (e : ε) (f : α → β) : f <$> (throw e : EStateM ε σ α) = throw e :=
  rfl

end Reading

namespace Outline

variable {ε σ : Type}

/-- Takes steps one after another until one of them fails or says that there is no going on, and
tells whether there was none that said so. -/
def walk (read : Step → EStateM ε σ Bool) : List Step → EStateM ε σ Bool
  | [] => pure true
  | step :: rest => do
    if ← read step then walk read rest else pure false

variable {read : Step → EStateM ε σ Bool}

theorem walk_append (steps later : List Step) :
    walk read (steps ++ later) =
      (walk read steps >>= fun goesOn => if goesOn then walk read later else pure false) := by
  induction steps with
  | nil => simp [walk]
  | cons step rest ih =>
    simp only [List.cons_append, walk, ih, bind_assoc]
    refine congrArg (read step >>= ·) (funext fun goesOn => ?_)
    cases goesOn <;> simp

theorem walk_concat {before : List Step} {step : Step} {s t u : σ}
    (hb : walk read before s = .ok true t) (hs : read step t = .ok true u) :
    walk read (before ++ [step]) s = .ok true u := by
  have hlast : walk read [step] t = .ok true u := by
    show EStateM.bind (read step) _ t = _
    unfold EStateM.bind
    rw [hs]
    rfl
  rw [walk_append, ← hlast]
  show EStateM.bind (walk read before) _ s = _
  unfold EStateM.bind
  rw [hb]
  rfl

/-! ## The readings of an outline -/

section Readings

variable {source : Option Text} {data : Line → EStateM Failure σ Frame}
  {included : Line → Text → EStateM Failure σ (List Frame)}
  {ask : Text → EStateM Failure σ (Option Nat)}

/-- What unrolling does at a step. -/
def Step.unrolling (source : Option Text) (data : Line → EStateM Failure σ Frame)
    (included : Line → Text → EStateM Failure σ (List Frame)) : Step → EStateM Failure σ Bool
  | .leaf line .data => do
    let _ ← data line
    pure true
  | .leaf line (.inclusion target) => do
    let _ ← included line target
    pure true
  | .leaf line (.bad misfit) => throw (misfitFailure source line misfit)
  | .leave count => do
    if repeatLimit < count then throw .hugeRepeat
    pure true
  | _ => pure true

/-- **Unrolling walks along the steps** and fails if it cannot go on. -/
theorem frames_walk (o : Outline) :
    (do let _ ← o.frames source data included
        pure true) = walk (Step.unrolling source data included) o.steps := by
  induction o with
  | nil => simp [frames, steps, walk]
  | leaf line item next ih =>
    cases item <;> simp [frames, steps, walk, Step.unrolling, ← ih]
  | loop line count body next ihb ihn =>
    simp only [frames, steps, walk, Step.unrolling, walk_append, ← ihb, ← ihn]
    by_cases hl : repeatLimit < count <;> simp [hl]

/-- What counting does at a step. -/
def Step.counting (ask : Text → EStateM Failure σ (Option Nat)) : Step → EStateM Failure σ Bool
  | .leaf _ (.inclusion target) => do
    let number ← ask target
    pure number.isSome
  | .leaf _ (.bad (.longCount digits)) => throw (.longNumeral digits)
  | .leaf _ (.bad _) => pure false
  | _ => pure true

/-- **Counting walks along the steps**, and has a count just if there is nothing that ends it. -/
theorem count?_walk (o : Outline) :
    (do let number ← o.count? ask
        pure number.isSome) = walk (Step.counting ask) o.steps := by
  induction o with
  | nil => simp [count?, steps, walk]
  | leaf line item next ih =>
    cases item with
    | skip => simp [count?, steps, walk, Step.counting, ← ih]
    | data => simp [count?, steps, walk, Step.counting, ← ih]
    | inclusion target =>
      simp only [count?, steps, walk, Step.counting, ← ih, bind_assoc, pure_bind]
      refine congrArg (ask target >>= ·) (funext fun number => ?_)
      cases number <;> simp
    | bad misfit => cases misfit <;> simp [count?, steps, walk, Step.counting]
  | loop line n body next ihb ihn =>
    simp only [count?, steps, walk, Step.counting, walk_append, ← ihb, ← ihn, bind_assoc, pure_bind,
      if_true]
    refine congrArg (body.count? ask >>= ·) (funext fun number => ?_)
    cases number <;> simp

/-- What marking does at a step. -/
def Step.marking (ask : Text → EStateM Failure σ (Option Nat)) : Step → EStateM Failure σ Bool
  | .leaf _ (.inclusion target) => do
    let _ ← ask target
    pure true
  | .leaf _ (.bad (.longCount digits)) => throw (.longNumeral digits)
  | _ => pure true

/-- **Marking walks along the steps**, all of them. -/
theorem marks_walk (o : Outline) (position : Nat) :
    (do let _ ← o.marks ask position
        pure true) = walk (Step.marking ask) o.steps := by
  induction o generalizing position with
  | nil => simp [marks, steps, walk]
  | leaf line item next ih =>
    cases item with
    | skip => simp [marks, steps, walk, Step.marking, ← ih position]
    | data => simp [marks, steps, walk, Step.marking, ← ih (position + 1)]
    | inclusion target =>
      simp only [marks, steps, walk, Step.marking, bind_assoc, pure_bind, if_true]
      refine congrArg (ask target >>= ·) (funext fun number => ?_)
      cases number with
      | none => simp [← ih position]
      | some n => simp [← ih (position + n)]
    | bad misfit => cases misfit <;> simp [marks, steps, walk, Step.marking, ← ih position]
  | loop line n body next ihb ihn =>
    simp only [marks, steps, walk, Step.marking, walk_append, ← ihb position, bind_assoc, pure_bind,
      if_true]
    refine congrArg (body.marks ask position >>= ·) (funext fun inner => ?_)
    simp [← ihn (position + n * (inner.2 - position))]

end Readings

/-! ## What holds on the way -/

section Invariant

variable {steps : List Step} {s : σ} {I : List Step → σ → Prop} {F : σ → Prop} {E : ε → σ → Prop}

/-- **An invariant of a walk** tells what holds after the steps that have been taken. If each step
keeps it, or ends the walk with `F` or in a failure with `E`, it holds after all of them unless the
walk ends so. -/
theorem runs_walk (h : I [] s)
    (hstep : ∀ before step after t, steps = before ++ step :: after → I before t →
      Runs (read step) t (fun goesOn u => if goesOn then I (before ++ [step]) u else F u) E) :
    Runs (walk read steps) s (fun goesOn u => if goesOn then I steps u else F u) E := by
  -- The steps that have been taken are counted up while those that are left are walked along.
  suffices hwalk : ∀ later before t, steps = before ++ later → I before t →
      Runs (walk read later) t (fun goesOn u => if goesOn then I steps u else F u) E from
    hwalk steps [] s rfl h
  intro later
  induction later with
  | nil =>
    intro before t he hi
    rw [he, List.append_nil]
    exact runs_pure (if_pos rfl ▸ hi)
  | cons step rest ih =>
    intro before t he hi
    refine runs_bind ((hstep before step rest t he hi).imp (fun goesOn u hu => ?_) fun _ _ => id)
    cases goesOn with
    | false => exact runs_pure hu
    | true => exact ih (before ++ [step]) u (by rw [he, List.append_assoc]; rfl) hu

/-- **A walk goes on up to the first step that ends it.** `ends` tells what ends the walk at a step,
depending on the world; a step that passes goes on passing in the worlds that come later. The walk
fails if a step fails after those before it have been taken. -/
theorem runs_walk_upTo {β : Type} {R : σ → σ → Prop} {C : ε → σ → Step → σ → Prop}
    (ends : σ → Step → Option β) (steps : List Step) (hrefl : R s s)
    (htrans : ∀ t u, R s t → R t u → R s u)
    (hpasses : ∀ t u step, R t u → ends t step = none → ends u step = none)
    (hstep : ∀ t step, R s t → Runs (read step) t
      (fun goesOn u => R t u ∧ (goesOn = true → ends u step = none))
      fun e u => R t u ∧ C e t step u) :
    Runs (walk read steps) s
      (fun goesOn u => R s u ∧ (goesOn = true → ∀ step ∈ steps, ends u step = none))
      fun e u => R s u ∧ ∃ before step after t, steps = before ++ step :: after ∧
        walk read before s = .ok true t ∧ read step t = .error e u ∧ C e t step u := by
  refine (runs_walk (I := fun passed u => R s u ∧ walk read passed s = .ok true u ∧
    ∀ step ∈ passed, ends u step = none) (F := R s)
    ⟨hrefl, rfl, fun _ hm => absurd hm List.not_mem_nil⟩ ?_).imp ?_ fun _ _ => id
  · rintro before step after t he ⟨ht, hwalk, hpassed⟩
    have hrun := hstep t step ht
    unfold Runs at hrun ⊢
    cases hs : read step t with
    | error e u =>
      rw [hs] at hrun
      exact ⟨htrans t u ht hrun.1, before, step, after, t, he, hwalk, hs, hrun.2⟩
    | ok goesOn u =>
      rw [hs] at hrun
      obtain ⟨hu, hnone⟩ := hrun
      cases goesOn with
      | false => exact htrans t u ht hu
      | true =>
        refine ⟨htrans t u ht hu, walk_concat hwalk hs, fun other hm => ?_⟩
        rcases List.mem_append.mp hm with hm | hm
        · exact hpasses t u other hu (hpassed other hm)
        · rw [List.mem_singleton.mp hm]
          exact hnone rfl
  · intro goesOn u hu
    cases goesOn with
    | false => exact ⟨hu, fun h => by cases h⟩
    | true => exact ⟨hu.1, fun _ => hu.2.2⟩

end Invariant

end Outline

end FrameScript
