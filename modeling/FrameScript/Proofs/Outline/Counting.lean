import FrameScript.Proofs.Outline.Steps
import FrameScript.Proofs.Reading

/-!
# Counting an outline

The count of an outline in one formula: the first step that stops the counting decides, and if none
does, the count is a sum with repetitions as factors. `counted` is that formula, over a plain
function that tells the counts of the scripts that are included.

## Results

* `gives_count?`: counting in a changing world gives what the formula says, as long as the scripts
  that are asked for are counted so. A script that stands after the step that stops is not asked
  for, and nothing is supposed of it.
* `counted_congr`, `counted_eq_none`: the formula depends on the scripts that are asked for only,
  and where the first of these that has no number has no count, neither has the outline.
-/

namespace FrameScript

namespace Outline

open Reading

variable {count other : Text → Except Failure (Option Nat)}

/-- With what the counting stops at a step, if it does. -/
def Step.stop (count : Text → Except Failure (Option Nat)) :
    Step → Option (Except Failure (Option Nat))
  | .leaf _ (.inclusion target) =>
    match count target with
    | .ok (some _) => none
    | outcome => some outcome
  | .leaf _ (.bad (.longCount digits)) => some (.error (.longNumeral digits))
  | .leaf _ (.bad _) => some (.ok none)
  | _ => none

/-- How many frames an outline makes when every included script makes `size`. -/
def total (size : Text → Nat) : Outline → Nat
  | nil => 0
  | leaf _ item next => item.size size + total size next
  | loop _ count body next => count * total size body + total size next

/-- The number that counting finds, and none if it finds no number. -/
def numberOf (count : Text → Except Failure (Option Nat)) (target : Text) : Nat :=
  match count target with
  | .ok (some n) => n
  | _ => 0

/-- The count of an outline: of the first step that stops, or else the total. -/
def counted (count : Text → Except Failure (Option Nat)) (o : Outline) :
    Except Failure (Option Nat) :=
  (o.steps.findSome? (Step.stop count)).getD (.ok (some (o.total (numberOf count))))

/-- The scripts that counting an outline asks for. -/
def Asks (count : Text → Except Failure (Option Nat)) (o : Outline) (target : Text) : Prop :=
  ∃ line, .leaf line (.inclusion target) ∈ upTo (Step.stop count) o.steps

/-! ## The formula along the outline -/

theorem numberOf_eq {target : Text} {n : Nat} (h : count target = .ok (some n)) :
    numberOf count target = n := by
  rw [numberOf, h]

theorem stop_inclusion_of_number {line : Line} {target : Text} {n : Nat}
    (h : count target = .ok (some n)) : (Step.leaf line (.inclusion target)).stop count = none := by
  simp only [Step.stop, h]

theorem stop_inclusion_of_none {line : Line} {target : Text} (h : count target = .ok none) :
    (Step.leaf line (.inclusion target)).stop count = some (.ok none) := by
  simp only [Step.stop, h]

theorem stop_inclusion_of_error {line : Line} {target : Text} {failure : Failure}
    (h : count target = .error failure) :
    (Step.leaf line (.inclusion target)).stop count = some (.error failure) := by
  simp only [Step.stop, h]

theorem number_of_stop_eq_none {line : Line} {target : Text}
    (h : (Step.leaf line (.inclusion target)).stop count = none) :
    count target = .ok (some (numberOf count target)) := by
  unfold numberOf
  match hc : count target with
  | .ok (some n) => rfl
  | .ok none =>
    rw [stop_inclusion_of_none hc] at h
    cases h
  | .error failure =>
    rw [stop_inclusion_of_error hc] at h
    cases h

/-- What stops the counting is no number. -/
theorem stop_ne_number (step : Step) (n : Nat) : step.stop count ≠ some (.ok (some n)) := by
  intro h
  unfold Step.stop at h
  split at h
  · split at h
    · cases h
    · rename_i hn
      exact absurd (Option.some.inj h) (hn n)
  all_goals cases h

theorem map_stop {step : Step} {outcome : Except Failure (Option Nat)} (f : Nat → Nat)
    (h : step.stop count = some outcome) : outcome.map (Option.map f) = outcome := by
  match outcome with
  | .error failure => rfl
  | .ok none => rfl
  | .ok (some n) => exact absurd h (stop_ne_number step n)

theorem counted_of_none {o : Outline} (h : o.steps.findSome? (Step.stop count) = none) :
    o.counted count = .ok (some (o.total (numberOf count))) := by
  rw [counted, h]
  rfl

theorem counted_of_some {o : Outline} {outcome : Except Failure (Option Nat)}
    (h : o.steps.findSome? (Step.stop count) = some outcome) : o.counted count = outcome := by
  rw [counted, h]
  rfl

/-- What is counted after something is mapped along with it. -/
theorem getD_map_findSome? (f : Nat → Nat) (l : List Step) (n : Nat) :
    ((l.findSome? (Step.stop count)).getD (.ok (some n))).map (Option.map f) =
      (l.findSome? (Step.stop count)).getD (.ok (some (f n))) := by
  cases h : l.findSome? (Step.stop count) with
  | none => rfl
  | some outcome =>
    obtain ⟨step, -, hs⟩ := List.exists_of_findSome?_eq_some h
    exact map_stop f hs

theorem counted_leaf_of_some {line : Line} {item : Item} {next : Outline}
    {outcome : Except Failure (Option Nat)}
    (h : (Step.leaf line item).stop count = some outcome) :
    (leaf line item next).counted count = outcome := by
  rw [counted, steps, List.findSome?_cons, h]
  rfl

theorem counted_leaf_of_none {line : Line} {item : Item} {next : Outline}
    (h : (Step.leaf line item).stop count = none) :
    (leaf line item next).counted count =
      (next.counted count).map (Option.map (item.size (numberOf count) + ·)) := by
  rw [counted, counted, getD_map_findSome?, steps, List.findSome?_cons, h]
  rfl

theorem counted_skip {line : Line} {next : Outline} :
    (leaf line .skip next).counted count = next.counted count := by
  have hadd : ((0 + ·) : Nat → Nat) = id := funext Nat.zero_add
  rw [counted_leaf_of_none rfl]
  unfold Item.size
  rw [hadd, Option.map_id]
  cases next.counted count <;> rfl

theorem counted_loop_of_some {line : Line} {n : Nat} {body next : Outline}
    {outcome : Except Failure (Option Nat)}
    (h : body.steps.findSome? (Step.stop count) = some outcome) :
    (loop line n body next).counted count = outcome := by
  have henter : (Step.enter line n).stop count = none := rfl
  rw [counted, steps, List.findSome?_cons, henter]
  simp only [List.findSome?_append, h]
  rfl

theorem counted_loop_of_none {line : Line} {n : Nat} {body next : Outline}
    (h : body.steps.findSome? (Step.stop count) = none) :
    (loop line n body next).counted count =
      (next.counted count).map (Option.map (n * body.total (numberOf count) + ·)) := by
  have henter : (Step.enter line n).stop count = none := rfl
  have hleave : (Step.leave n).stop count = none := rfl
  rw [counted, counted, getD_map_findSome?, steps, List.findSome?_cons, henter]
  simp only [List.findSome?_append, h, Option.none_or, List.findSome?_cons, hleave]
  rfl

/-- The count of a repetition, from those of its body and of what follows. -/
theorem counted_loop {line : Line} {n : Nat} {body next : Outline} :
    (loop line n body next).counted count =
      match body.counted count with
      | .ok (some b) => (next.counted count).map (Option.map (n * b + ·))
      | outcome => outcome := by
  cases hs : body.steps.findSome? (Step.stop count) with
  | none => rw [counted_loop_of_none hs, counted_of_none hs]
  | some outcome =>
    obtain ⟨step, -, hstep⟩ := List.exists_of_findSome?_eq_some hs
    rw [counted_loop_of_some hs, counted_of_some hs]
    match outcome with
    | .error failure => rfl
    | .ok none => rfl
    | .ok (some b) => exact absurd hstep (stop_ne_number step b)

/-! ## What the count depends on -/

theorem total_congr {size size' : Text → Nat} {o : Outline}
    (h : ∀ line target, .leaf line (.inclusion target) ∈ o.steps → size target = size' target) :
    o.total size = o.total size' := by
  induction o with
  | nil => rfl
  | leaf line item next ih =>
    have hitem : item.size size = item.size size' := by
      cases item with
      | inclusion target => exact h line target (List.mem_cons_self)
      | _ => rfl
    rw [total, total, hitem, ih fun l t ht => h l t (List.mem_cons_of_mem _ ht)]
  | loop line n body next ihb ihn =>
    have hbody := ihb fun l t ht => h l t (List.mem_cons_of_mem _ (List.mem_append_left _ ht))
    have hnext := ihn fun l t ht =>
      h l t (List.mem_cons_of_mem _ (List.mem_append_right _ (List.mem_cons_of_mem _ ht)))
    rw [total, total, hbody, hnext]

/-- Steps other than inclusions stop the counting or let it pass whatever is included. -/
theorem stop_eq_of_ne_inclusion {step : Step}
    (h : ∀ line target, step ≠ .leaf line (.inclusion target)) :
    step.stop other = step.stop count := by
  match step with
  | .leaf line (.inclusion target) => exact absurd rfl (h line target)
  | .leaf _ .skip | .leaf _ .data | .enter _ _ | .leave _ => rfl
  | .leaf _ (.bad (.longCount _)) | .leaf _ (.bad .stray) | .leaf _ (.bad (.badCount _)) => rfl

/-- **The count depends on the scripts that are asked for only.** -/
theorem counted_congr {o : Outline}
    (h : ∀ target, o.Asks count target → other target = count target) :
    o.counted other = o.counted count := by
  have hstop : ∀ step ∈ upTo (Step.stop count) o.steps, step.stop other = step.stop count := by
    intro step hs
    by_cases hi : ∃ line target, step = .leaf line (.inclusion target)
    · obtain ⟨line, target, rfl⟩ := hi
      simp only [Step.stop, h target ⟨line, hs⟩]
    · exact stop_eq_of_ne_inclusion fun line target he => hi ⟨line, target, he⟩
  rw [counted, counted, findSome?_congr_of_upTo hstop]
  cases hf : o.steps.findSome? (Step.stop count) with
  | some outcome => rfl
  | none =>
    rw [total_congr fun line target ht => ?_]
    rw [← upTo_eq_self hf] at ht
    rw [numberOf, h target ⟨line, ht⟩, numberOf]

/-- What is asked for is asked for as well by a count that agrees in the numbers. -/
theorem asks_of_numbers {o : Outline} {target : Text}
    (h : ∀ t n, o.Asks count t → count t = .ok (some n) → other t = .ok (some n))
    (ht : o.Asks count target) : o.Asks other target := by
  obtain ⟨line, ht⟩ := ht
  refine ⟨line, mem_upTo_of_passes (fun step hs hp => ?_) ht⟩
  by_cases hi : ∃ line target, step = .leaf line (.inclusion target)
  · obtain ⟨l, t, rfl⟩ := hi
    exact stop_inclusion_of_number (h t _ ⟨l, hs⟩ (number_of_stop_eq_none hp))
  · rw [stop_eq_of_ne_inclusion fun l t he => hi ⟨l, t, he⟩]
    exact hp

/-- **The first script without a count leaves the outline without one**, whatever the scripts
after it are. -/
theorem counted_eq_none {o : Outline} {target : Text}
    (h : ∀ t n, o.Asks count t → count t = .ok (some n) →
      other t = .ok (some n) ∨ other t = .ok none)
    (ht : o.Asks count target) (hn : other target = .ok none) : o.counted other = .ok none := by
  obtain ⟨line, ht⟩ := ht
  refine counted_of_some (findSome?_eq_of_passes (fun step hs hp => ?_) ht
    (stop_inclusion_of_none hn))
  by_cases hi : ∃ line target, step = .leaf line (.inclusion target)
  · obtain ⟨l, t, rfl⟩ := hi
    rcases h t _ ⟨l, hs⟩ (number_of_stop_eq_none hp) with hk | hk
    · exact Or.inl (stop_inclusion_of_number hk)
    · exact Or.inr (stop_inclusion_of_none hk)
  · rw [stop_eq_of_ne_inclusion fun l t he => hi ⟨l, t, he⟩]
    exact Or.inl hp

/-- Where an outline has a number, so has each script that it asks for. -/
theorem number_of_asks {o : Outline} {target : Text} {n : Nat}
    (h : o.counted count = .ok (some n)) (ht : o.Asks count target) :
    ∃ k, count target = .ok (some k) := by
  obtain ⟨line, ht⟩ := ht
  cases hs : (Step.leaf line (.inclusion target)).stop count with
  | none => exact ⟨_, number_of_stop_eq_none hs⟩
  | some outcome =>
    rw [counted_of_some (findSome?_eq_of_mem_upTo ht hs)] at h
    subst h
    exact absurd hs (stop_ne_number _ n)

/-! ## Counting in a changing world -/

section Changing

variable {σ : Type} {P : σ → Prop} {included : Text → EStateM Failure σ (Option Nat)}
  {body next : Outline} {line : Line}

/-- A line that includes a script asks for its count, and goes on if it is a number. -/
theorem gives_count?_inclusion {target : Text} (ht : Gives P (included target) (count target) P)
    (hn : (Step.leaf line (.inclusion target)).stop count = none →
      Gives P (count? included next) (next.counted count) P) :
    Gives P (count? included (leaf line (.inclusion target) next))
      ((leaf line (.inclusion target) next).counted count) P := by
  cases hc : count target with
  | error failure =>
    rw [hc] at ht
    rw [counted_leaf_of_some (stop_inclusion_of_error hc)]
    exact gives_bind_error ht
  | ok answer =>
    rw [hc] at ht
    cases answer with
    | none =>
      rw [counted_leaf_of_some (stop_inclusion_of_none hc)]
      exact gives_bind_ok ht (gives_pure none)
    | some n =>
      have hs : (Step.leaf line (.inclusion target)).stop count = none :=
        stop_inclusion_of_number hc
      rw [counted_leaf_of_none hs, Item.size, numberOf_eq hc]
      exact gives_bind_ok ht (gives_map _ (hn hs))

/-- A repetition counts its body once, and goes on if nothing in the body stops the counting. -/
theorem gives_count?_loop {n : Nat} (hb : Gives P (count? included body) (body.counted count) P)
    (hn : body.steps.findSome? (Step.stop count) = none →
      Gives P (count? included next) (next.counted count) P) :
    Gives P (count? included (loop line n body next))
      ((loop line n body next).counted count) P := by
  cases hs : body.steps.findSome? (Step.stop count) with
  | none =>
    rw [counted_loop_of_none hs]
    rw [counted_of_none hs] at hb
    exact gives_bind_ok hb (gives_map _ (hn hs))
  | some outcome =>
    rw [counted_loop_of_some hs]
    rw [counted_of_some hs] at hb
    cases outcome with
    | error failure => exact gives_bind_error hb
    | ok answer =>
      cases answer with
      | none => exact gives_bind_ok hb (gives_pure none)
      | some k =>
        obtain ⟨step, -, hk⟩ := List.exists_of_findSome?_eq_some hs
        exact absurd hk (stop_ne_number step k)

/-- **Counting gives what the formula says**, if each script that is asked for is counted so. -/
theorem gives_count? {o : Outline}
    (h : ∀ target, o.Asks count target → Gives P (included target) (count target) P) :
    Gives P (count? included o) (o.counted count) P := by
  induction o with
  | nil => exact gives_pure (some 0)
  | leaf line item next ih =>
    have hnext (hs : (Step.leaf line item).stop count = none) :
        Gives P (count? included next) (next.counted count) P := by
      refine ih fun target ⟨l, ht⟩ => h target ⟨l, ?_⟩
      rw [steps, upTo_cons_of_none hs]
      exact List.mem_cons_of_mem _ ht
    cases item with
    | skip =>
      rw [counted_skip]
      exact hnext rfl
    | data =>
      rw [counted_leaf_of_none rfl]
      exact gives_map _ (hnext rfl)
    | inclusion target =>
      exact gives_count?_inclusion (h target ⟨line, mem_upTo_cons_self _ _ _⟩) hnext
    | bad misfit =>
      cases misfit with
      | longCount digits => exact gives_throw (Failure.longNumeral digits)
      | stray => exact gives_pure none
      | badCount text => exact gives_pure none
  | loop line n body next ihb ihn =>
    refine gives_count?_loop (ihb fun target ⟨l, ht⟩ => h target ⟨l, ?_⟩)
      fun hs => ihn fun target ⟨l, ht⟩ => h target ⟨l, ?_⟩
    · rw [steps, upTo_cons_of_none rfl]
      exact List.mem_cons_of_mem _ (mem_upTo_append_left _ ht)
    · rw [steps, upTo_cons_of_none rfl]
      refine List.mem_cons_of_mem _ (mem_upTo_append_right hs ?_)
      rw [upTo_cons_of_none rfl]
      exact List.mem_cons_of_mem _ ht

end Changing

end Outline

end FrameScript
