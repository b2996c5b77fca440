import FrameScript.Proofs.Outline.Errors
import FrameScript.Proofs.Outline.Grammar

/-!
# Readers that follow the rules

Unrolling a body and counting it are two ways to read it by the rules of `Yields`: where unrolling
does not fail, the frames are the values, and where counting finds a number, it is the number of
values.

## Results

* `yields_iff_unrolled`: **what unrolling makes of a body is what the body yields.**
* `yields_iff_counted`: **what counting finds is how many values the body yields.**
-/

namespace FrameScript.Outline

variable {α : Type} {level : Nat} {lines : List Line}

/-! ## Unrolling -/

section Unrolling

variable {source : Option Text} {data : Line → Except Failure Frame}
  {included : Line → Text → Except Failure (List Frame)} {line : Line} {item : Item} {n : Nat}
  {body next : Outline} {frames : List Frame}

/-- The reader finds in a line and in an included script what unrolling finds, seen through `f`. -/
structure Reader.Follows (r : Reader α) (f : Frame → α) (data : Line → Except Failure Frame)
    (included : Line → Text → Except Failure (List Frame)) : Prop where
  data : ∀ line a, r.data line.content = some a ↔ ∃ frame, data line = .ok frame ∧ f frame = a
  included : ∀ line target b, r.included target = some b ↔
    ∃ frames, included line target = .ok frames ∧ frames.map f = b
  repeats : ∀ n, r.repeats n ↔ n ≤ repeatLimit

theorem unrolled_leaf_iff :
    (leaf line item next).unrolled source data included = .ok frames ↔
      (Step.leaf line item).halt source data included = none ∧
        ∃ rest, next.unrolled source data included = .ok rest ∧
          frames = Item.frames data included line item ++ rest := by
  cases hh : (Step.leaf line item).halt source data included with
  | some failure =>
    rw [unrolled_leaf_of_some hh]
    exact ⟨nofun, fun h => nomatch h.1⟩
  | none =>
    rw [unrolled_leaf_of_none hh]
    cases next.unrolled source data included with
    | error failure => exact ⟨nofun, fun ⟨_, _, hr, _⟩ => nomatch hr⟩
    | ok rest =>
      refine ⟨fun h => ⟨rfl, rest, rfl, (Except.ok.inj h).symm⟩, ?_⟩
      rintro ⟨-, rest', hr, rfl⟩
      rw [Except.ok.inj hr]
      rfl

theorem unrolled_loop_iff :
    (loop line n body next).unrolled source data included = .ok frames ↔
      n ≤ repeatLimit ∧ ∃ block rest, body.unrolled source data included = .ok block ∧
        next.unrolled source data included = .ok rest ∧ frames = copies n block ++ rest := by
  cases hb : body.unrolled source data included with
  | error failure =>
    rw [unrolled_loop_of_error hb]
    exact ⟨nofun, fun ⟨_, _, _, hblock, _⟩ => nomatch hblock⟩
  | ok block =>
    rw [unrolled_loop_of_ok hb]
    by_cases hn : repeatLimit < n
    · rw [if_pos hn]
      exact ⟨nofun, fun h => absurd h.1 (Nat.not_le.mpr hn)⟩
    · rw [if_neg hn]
      cases next.unrolled source data included with
      | error failure => exact ⟨nofun, fun ⟨_, _, _, _, hr, _⟩ => nomatch hr⟩
      | ok rest =>
        refine ⟨fun h => ⟨Nat.not_lt.mp hn, block, rest, rfl, rfl, (Except.ok.inj h).symm⟩, ?_⟩
        rintro ⟨-, block', rest', hblock, hr, rfl⟩
        rw [Except.ok.inj hblock, Except.ok.inj hr]
        rfl

/-- **What unrolling makes of a body is what the body yields.** -/
theorem yields_iff_unrolled {r : Reader α} {f : Frame → α} (hr : r.Follows f data included)
    (source : Option Text) {v : List α} :
    Yields r level lines v ↔
      ∃ frames, (build level lines).unrolled source data included = .ok frames ∧
        frames.map f = v := by
  induction level, lines using body_induction generalizing v with
  | nil level =>
    rw [build]
    constructor
    · intro h
      cases h
      exact ⟨[], rfl, rfl⟩
    · rintro ⟨frames, hframes, rfl⟩
      obtain rfl := Except.ok.inj hframes
      exact .nil
  | nothing level line rest item ho ih =>
    rw [yields_cons_iff, build_cons, ho]
    simp only [unrolled_leaf_iff]
    cases item with
    | skip =>
      refine ih.trans ⟨?_, ?_⟩
      · rintro ⟨frames, hframes, rfl⟩
        exact ⟨frames, ⟨rfl, frames, hframes, rfl⟩, rfl⟩
      · rintro ⟨all, ⟨-, frames, hframes, hall⟩, rfl⟩
        exact ⟨frames, hframes, congrArg _ hall.symm⟩
    | data =>
      constructor
      · rintro ⟨a, w, ha, hw, rfl⟩
        obtain ⟨frame, hframe, rfl⟩ := (hr.data line a).mp ha
        obtain ⟨frames, hframes, rfl⟩ := ih.mp hw
        refine ⟨frame :: frames, ⟨halt_data_of_ok hframe, frames, hframes, ?_⟩, rfl⟩
        rw [Item.frames, hframe]
        rfl
      · rintro ⟨-, ⟨hhalt, frames, hframes, rfl⟩, rfl⟩
        obtain ⟨frame, hframe⟩ := ok_of_halt_data hhalt
        refine ⟨f frame, frames.map f, (hr.data line _).mpr ⟨frame, hframe, rfl⟩,
          ih.mpr ⟨frames, hframes, rfl⟩, ?_⟩
        rw [Item.frames, hframe]
        rfl
    | inclusion target =>
      constructor
      · rintro ⟨b, w, hb, hw, rfl⟩
        obtain ⟨block, hblock, rfl⟩ := (hr.included line target b).mp hb
        obtain ⟨frames, hframes, rfl⟩ := ih.mp hw
        refine ⟨block ++ frames, ⟨halt_inclusion_of_ok hblock, frames, hframes, ?_⟩,
          List.map_append⟩
        rw [Item.frames, hblock]
        rfl
      · rintro ⟨-, ⟨hhalt, frames, hframes, rfl⟩, rfl⟩
        obtain ⟨block, hblock⟩ := ok_of_halt_inclusion hhalt
        refine ⟨block.map f, frames.map f, (hr.included line target _).mpr ⟨block, hblock, rfl⟩,
          ih.mpr ⟨frames, hframes, rfl⟩, ?_⟩
        rw [Item.frames, hblock, List.map_append]
        rfl
    | bad misfit =>
      refine ⟨False.elim, ?_⟩
      rintro ⟨-, ⟨hhalt, -⟩, -⟩
      cases hhalt
  | repetition level line rest count ho ihb ihn =>
    rw [yields_cons_iff, build_cons, ho]
    simp only [unrolled_loop_iff]
    constructor
    · rintro ⟨hcount, b, w, hb, hw, rfl⟩
      obtain ⟨block, hblock, rfl⟩ := ihb.mp hb
      obtain ⟨frames, hframes, rfl⟩ := ihn.mp hw
      refine ⟨copies count block ++ frames,
        ⟨(hr.repeats count).mp hcount, block, frames, hblock, hframes, rfl⟩, ?_⟩
      rw [List.map_append, map_copies]
    · rintro ⟨-, ⟨hcount, block, frames, hblock, hframes, rfl⟩, rfl⟩
      refine ⟨(hr.repeats count).mpr hcount, block.map f, frames.map f,
        ihb.mpr ⟨block, hblock, rfl⟩, ihn.mpr ⟨frames, hframes, rfl⟩, ?_⟩
      rw [List.map_append, map_copies]

end Unrolling

/-! ## Counting -/

section Counting

variable {count : Text → Except Failure (Option Nat)} {line : Line} {item : Item} {k n : Nat}
  {body next : Outline}

/-- As many values as the number says, if there is one. -/
def unitsOf : Except Failure (Option Nat) → Option (List Unit)
  | .ok (some n) => some (List.replicate n ())
  | _ => none

/-- The reader that only counts: every line of data has a value, and a script has as many as its
number says. -/
def Reader.counting (count : Text → Except Failure (Option Nat)) : Reader Unit where
  data _ := some ()
  included target := unitsOf (count target)
  repeats _ := True

theorem unitsOf_eq_some_iff {found : Except Failure (Option Nat)} {b : List Unit} :
    unitsOf found = some b ↔ found = .ok (some b.length) := by
  match found with
  | .error failure => exact ⟨nofun, nofun⟩
  | .ok none => exact ⟨nofun, nofun⟩
  | .ok (some n) =>
    constructor
    · intro h
      rw [← Option.some.inj h, List.length_replicate]
    · intro h
      rw [Option.some.inj (Except.ok.inj h)]
      exact congrArg some (List.ext_getElem List.length_replicate fun _ _ _ => rfl)

theorem counted_leaf_iff :
    (leaf line item next).counted count = .ok (some n) ↔
      (Step.leaf line item).stop count = none ∧
        ∃ m, next.counted count = .ok (some m) ∧ n = item.size (numberOf count) + m := by
  cases hs : (Step.leaf line item).stop count with
  | some outcome =>
    rw [counted_leaf_of_some hs]
    refine ⟨?_, fun h => nomatch h.1⟩
    rintro rfl
    exact absurd hs (stop_ne_number _ n)
  | none =>
    rw [counted_leaf_of_none hs]
    match next.counted count with
    | .error failure => exact ⟨nofun, fun ⟨_, _, hm, _⟩ => nomatch hm⟩
    | .ok none => exact ⟨nofun, fun ⟨_, _, hm, _⟩ => nomatch hm⟩
    | .ok (some m) =>
      refine ⟨fun h => ⟨rfl, m, rfl, (Option.some.inj (Except.ok.inj h)).symm⟩, ?_⟩
      rintro ⟨-, m', hm, rfl⟩
      rw [Option.some.inj (Except.ok.inj hm)]
      rfl

theorem counted_loop_iff :
    (loop line k body next).counted count = .ok (some n) ↔
      ∃ b m, body.counted count = .ok (some b) ∧ next.counted count = .ok (some m) ∧
        n = k * b + m := by
  rw [counted_loop]
  match body.counted count with
  | .error failure => exact ⟨nofun, fun ⟨_, _, hb, _⟩ => nomatch hb⟩
  | .ok none => exact ⟨nofun, fun ⟨_, _, hb, _⟩ => nomatch hb⟩
  | .ok (some b) =>
    match next.counted count with
    | .error failure => exact ⟨nofun, fun ⟨_, _, _, hm, _⟩ => nomatch hm⟩
    | .ok none => exact ⟨nofun, fun ⟨_, _, _, hm, _⟩ => nomatch hm⟩
    | .ok (some m) =>
      refine ⟨fun h => ⟨b, m, rfl, rfl, (Option.some.inj (Except.ok.inj h)).symm⟩, ?_⟩
      rintro ⟨b', m', hb, hm, rfl⟩
      rw [← Option.some.inj (Except.ok.inj hb), ← Option.some.inj (Except.ok.inj hm)]
      rfl

/-- **What counting finds is how many values the body yields.** -/
theorem yields_iff_counted {v : List Unit} :
    Yields (.counting count) level lines v ↔
      (build level lines).counted count = .ok (some v.length) := by
  have hunit {v w : List Unit} (h : v.length = w.length) : v = w :=
    List.ext_getElem h fun _ _ _ => rfl
  induction level, lines using body_induction generalizing v with
  | nil level =>
    rw [build]
    constructor
    · intro h
      cases h
      rfl
    · intro h
      rw [List.length_eq_zero_iff.mp (Option.some.inj (Except.ok.inj h)).symm]
      exact .nil
  | nothing level line rest item ho ih =>
    have hback {m : Nat} (h : (build level rest).counted count = .ok (some m)) :
        Yields (.counting count) level rest (List.replicate m ()) :=
      ih.mpr (by rw [List.length_replicate, h])
    rw [yields_cons_iff, build_cons, ho]
    simp only [counted_leaf_iff]
    cases item with
    | skip =>
      refine ih.trans ⟨fun h => ⟨rfl, v.length, h, (Nat.zero_add _).symm⟩, ?_⟩
      rintro ⟨-, m, hm, he⟩
      rw [hm, he.trans (Nat.zero_add m)]
    | data =>
      constructor
      · rintro ⟨a, w, -, hw, rfl⟩
        exact ⟨rfl, w.length, ih.mp hw, Nat.add_comm w.length 1⟩
      · rintro ⟨-, m, hm, he⟩
        refine ⟨(), List.replicate m (), rfl, hback hm, hunit ?_⟩
        rw [he, List.length_cons, List.length_replicate]
        exact Nat.add_comm 1 m
    | inclusion target =>
      constructor
      · rintro ⟨b, w, hb, hw, rfl⟩
        have hcount := unitsOf_eq_some_iff.mp hb
        refine ⟨stop_inclusion_of_number hcount, w.length, ih.mp hw, ?_⟩
        rw [List.length_append, Item.size, numberOf_eq hcount]
      · rintro ⟨hstop, m, hm, he⟩
        refine ⟨List.replicate (numberOf count target) (), List.replicate m (),
          unitsOf_eq_some_iff.mpr ?_, hback hm, hunit ?_⟩
        · rw [List.length_replicate, number_of_stop_eq_none hstop]
        · rw [he, List.length_append, List.length_replicate, List.length_replicate, Item.size]
    | bad misfit =>
      refine ⟨False.elim, ?_⟩
      rintro ⟨hstop, -⟩
      cases misfit <;> cases hstop
  | repetition level line rest k ho ihb ihn =>
    rw [yields_cons_iff, build_cons, ho]
    simp only [counted_loop_iff]
    constructor
    · rintro ⟨-, b, w, hb, hw, rfl⟩
      refine ⟨b.length, w.length, ihb.mp hb, ihn.mp hw, ?_⟩
      rw [List.length_append, length_copies]
    · rintro ⟨b, m, hb, hm, he⟩
      refine ⟨trivial, List.replicate b (), List.replicate m (),
        ihb.mpr (by rw [List.length_replicate, hb]), ihn.mpr (by rw [List.length_replicate, hm]),
        hunit ?_⟩
      rw [he, List.length_append, length_copies, List.length_replicate, List.length_replicate]

end Counting

end FrameScript.Outline
