import FrameScript.Proofs.Input.Compiling

/-!
# Moves that are left out

A compiler may leave out the move of a frame that has the place of the frame before. Another one,
with the same offset, makes every move. What the two do to a sequence of frames differs in nothing
that can be seen from outside: the mouse stands where a move that is left out would put it, however
long ago it got there and whether or not the move that brought it there was itself left out.

To see whether a frame repeats a place its compiler reads the coordinates of the frame before once
more. They can be read, because the frame before could be compiled, so nothing fails for it.

## Results

* `compile_cases`: what the two compilers make of one frame.
* `compileFrom_cases`: what they make of the frames that are left, from the same held state on.
* `suppress_unseen`: **leaving out repeated moves is not to be seen** in failures, in presses and
  releases, or in the preview.
-/

namespace FrameScript

/-- The delta does what the other one does, but may leave out its move. -/
def Delta.Spares (delta other : Delta) : Prop :=
  delta = { other with move := delta.move } ∧ (delta.move = other.move ∨ delta.move = .none)

namespace Compiler

variable {compiler : Compiler} {offset : Offset} {previous : Option Frame} {frame : Frame}
  {frames : List Frame} {draft : Draft} {held : Held} {failure : Failure} {deltas : List Delta}

/-! ## The frame before -/

/-- The coordinates of the frame before, if there is one, can be read. -/
def Readable (previous : Option Frame) : Prop :=
  ∀ frame, previous = some frame → ∀ (axis : Axis) value, frame.value? axis.name = some value →
    ∃ coordinate, readCoordinate axis.name value = .ok coordinate

/-- The mouse stands at the place of the frame before, if that has one. -/
def Stands (offset : Offset) (previous : Option Frame) (held : Held) : Prop :=
  ∀ frame place, previous = some frame → frame.place? = some place →
    held.mouse = some (offset.apply place.1 place.2)

theorem readable_none : Readable none :=
  fun _ h => (nomatch h)

theorem stands_none : Stands offset none held :=
  fun _ _ h => (nomatch h)

/-- An entry for an axis can only be added if it is a coordinate. -/
theorem exists_coordinate_of_add {after : Draft} {axis : Axis} {value : Text}
    (h : draft.add previous (axis.name, value) = .ok after) :
    ∃ coordinate, readCoordinate axis.name value = .ok coordinate := by
  unfold Draft.add at h
  rw [Axis.readKind_eq_iff.mpr rfl] at h
  cases hr : readCoordinate axis.name value with
  | ok coordinate => exact ⟨coordinate, rfl⟩
  | error failure =>
    cases axis <;>
    · simp only [Axis.kind, hr] at h
      cases h

/-- **A frame that could be compiled has coordinates that can be read.** -/
theorem readable_of_compile {delta : Delta} (h : compiler.compile frame previous = .ok delta) :
    Readable (some frame) := by
  intro p hp axis value hv
  obtain rfl := Option.some.inj hp
  obtain ⟨-, draft, ha, -⟩ := draft_of_compile h
  obtain ⟨before, after, hadd⟩ := exists_add_of_addAll ha (Frame.mem_entries_of_value? hv)
  exact exists_coordinate_of_add hadd

/-- Whether a frame repeats the place of one that can be read is never in doubt. -/
theorem exists_repeatsPlace (h : Readable previous) (x y : Int) :
    ∃ again, repeatsPlace previous x y = .ok again := by
  unfold repeatsPlace
  split
  · exact ⟨false, rfl⟩
  · rename_i frame
    split
    · rename_i valueX valueY hx hy
      obtain ⟨priorX, hreadX⟩ : ∃ prior, readCoordinate Field.mouseXName valueX = .ok prior :=
        h frame rfl .horizontal valueX hx
      obtain ⟨priorY, hreadY⟩ : ∃ prior, readCoordinate Field.mouseYName valueY = .ok prior :=
        h frame rfl .vertical valueY hy
      simp only [hreadX, hreadY]
      split
      · exact ⟨_, rfl⟩
      · exact ⟨false, rfl⟩
    · exact ⟨false, rfl⟩

/-! ## One frame -/

/-- The moves that the two compilers make: the same, or the one leaves out a move to the place of
the frame before. -/
theorem moveOf_cases (offset : Offset) (h : Readable previous) (draft : Draft) :
    ∃ move, moveOf ⟨offset, false⟩ previous draft = .ok move ∧
      (moveOf ⟨offset, true⟩ previous draft = .ok move ∨
        moveOf ⟨offset, true⟩ previous draft = .ok none ∧
          ∃ p place, previous = some p ∧ p.place? = some place ∧
            move = some (offset.apply place.1 place.2)) := by
  unfold moveOf
  cases draft.x with
  | none => exact ⟨none, rfl, Or.inl rfl⟩
  | some x =>
    cases draft.y with
    | none => exact ⟨none, rfl, Or.inl rfl⟩
    | some y =>
      refine ⟨some (offset.apply x y), rfl, ?_⟩
      obtain ⟨again, hagain⟩ := exists_repeatsPlace h x y
      simp only [if_true, hagain]
      cases again with
      | false => exact Or.inl rfl
      | true =>
        obtain ⟨p, hp, hplace⟩ := place_of_repeats hagain
        exact Or.inr ⟨rfl, p, (x, y), hp, hplace, rfl⟩

/-- **What the two compilers make of a frame**: they fail alike, or they make the same delta, or the
one leaves out a move to the place of the frame before. -/
theorem compile_cases (offset : Offset) (h : Readable previous) (frame : Frame) :
    (∃ failure, compile ⟨offset, true⟩ frame previous = .error failure ∧
      compile ⟨offset, false⟩ frame previous = .error failure) ∨
    ∃ delta, compile ⟨offset, false⟩ frame previous = .ok delta ∧
      (compile ⟨offset, true⟩ frame previous = .ok delta ∨
        compile ⟨offset, true⟩ frame previous = .ok { delta with move := none } ∧
          ∃ p place, previous = some p ∧ p.place? = some place ∧
            delta.move = some (offset.apply place.1 place.2)) := by
  unfold compile
  split
  · cases Draft.empty.addAll previous frame.entries with
    | error failure => exact Or.inl ⟨failure, rfl, rfl⟩
    | ok draft =>
      obtain ⟨move, hall, hmove⟩ := moveOf_cases offset h draft
      refine Or.inr ⟨{ draft.delta with move }, by simp only [hall]; rfl, ?_⟩
      rcases hmove with hsame | ⟨hnone, hplace⟩
      · exact Or.inl (by simp only [hsame]; rfl)
      · exact Or.inr ⟨by simp only [hnone]; rfl, hplace⟩
  · exact Or.inl ⟨_, rfl, rfl⟩

/-- After a frame that was compiled with every move the mouse stands at its place. -/
theorem stands_of_compile {delta : Delta}
    (h : compile ⟨offset, false⟩ frame previous = .ok delta) (hs : Stands offset previous held) :
    Stands offset (some frame) (held.run delta.events) := by
  intro p place hp hplace
  obtain rfl := Option.some.inj hp
  rw [Delta.mouse_run_events]
  rcases move_of_compile h with hm | ⟨hm, p, hp, hsame⟩
  · rw [hm, hplace]
    rfl
  · rw [hm, Option.none_or]
    exact hs p place hp (hsame.trans hplace)

/-- A move to where the mouse stands changes nothing. -/
theorem run_events_of_mouse {delta : Delta} {place : Int × Int} (hm : delta.move = some place)
    (hs : held.mouse = some place) :
    held.run { delta with move := none }.events = held.run delta.events := by
  have hstep : held.step (.move place.1 place.2) = held := by
    rw [Held.step, ← hs]
  have hevents : delta.events =
      .move place.1 place.2 :: { delta with move := none }.events := by
    simp [Delta.events, hm]
  rw [hevents, Held.run_cons, hstep]

/-! ## Sequences -/

/-- Compiling fails at the frame with the number `i`: those before it can be compiled. -/
inductive FailsAt (compiler : Compiler) (failure : Failure) :
    Option Frame → List Frame → Nat → Prop
  | here {previous : Option Frame} {frame : Frame} {rest : List Frame}
      (h : compiler.compile frame previous = .error failure) :
      FailsAt compiler failure previous (frame :: rest) 0
  | later {previous : Option Frame} {frame : Frame} {rest : List Frame} {delta : Delta} {i : Nat}
      (h : compiler.compile frame previous = .ok delta)
      (hrest : FailsAt compiler failure (some frame) rest i) :
      FailsAt compiler failure previous (frame :: rest) (i + 1)

/-- Where compiling fails at some frame the sequence cannot be compiled. -/
theorem FailsAt.compileFrom_eq {i : Nat} (h : compiler.FailsAt failure previous frames i) :
    compiler.compileFrom previous frames = .error failure := by
  induction h with
  | here h => rw [compileFrom, h]
  | later h _ ih =>
    rw [compileFrom, h]
    simp only [ih]
    rfl

/-- A frame that can be compiled comes before the others. -/
theorem compileFrom_cons_of_ok {delta : Delta} (h : compiler.compile frame previous = .ok delta)
    (hrest : compiler.compileFrom (some frame) frames = .ok deltas) :
    compiler.compileFrom previous (frame :: frames) = .ok (delta :: deltas) := by
  rw [compileFrom, h]
  simp only [hrest]
  rfl

/-- **What the two compilers make of the frames that are left**, when the mouse stands at the place
of the frame before: they fail at the same frame and alike, or their deltas differ in moves that are
left out, and lead through the same held states. -/
theorem compileFrom_cases (frames : List Frame) (hr : Readable previous)
    (hs : Stands offset previous held) :
    (∃ i failure, FailsAt ⟨offset, true⟩ failure previous frames i ∧
      FailsAt ⟨offset, false⟩ failure previous frames i) ∨
    ∃ deltas deltas', compileFrom ⟨offset, true⟩ previous frames = .ok deltas ∧
      compileFrom ⟨offset, false⟩ previous frames = .ok deltas' ∧
      List.Forall₂ Delta.Spares deltas deltas' ∧
      Delta.preview.go held deltas = Delta.preview.go held deltas' := by
  induction frames generalizing previous held with
  | nil => exact Or.inr ⟨[], [], rfl, rfl, .nil, rfl⟩
  | cons frame rest ih =>
    rcases compile_cases offset hr frame with ⟨failure, hon, hoff⟩ | ⟨delta, hoff, hon⟩
    · exact Or.inl ⟨0, failure, .here hon, .here hoff⟩
    · obtain ⟨spared, hspared, hspares, hrun⟩ : ∃ spared,
          compile ⟨offset, true⟩ frame previous = .ok spared ∧ spared.Spares delta ∧
            held.run spared.events = held.run delta.events := by
        rcases hon with hon | ⟨hon, p, place, hp, hplace, hmove⟩
        · exact ⟨delta, hon, ⟨rfl, Or.inl rfl⟩, rfl⟩
        · exact ⟨_, hon, ⟨rfl, Or.inr rfl⟩, run_events_of_mouse hmove (hs p place hp hplace)⟩
      rcases ih (readable_of_compile hoff) (stands_of_compile hoff hs) with
        ⟨i, failure, htrue, hfalse⟩ | ⟨deltas, deltas', htrue, hfalse, hall, hgo⟩
      · exact Or.inl ⟨i + 1, failure, .later hspared htrue, .later hoff hfalse⟩
      · refine Or.inr ⟨spared :: deltas, delta :: deltas', compileFrom_cons_of_ok hspared htrue,
          compileFrom_cons_of_ok hoff hfalse, .cons hspares hall, ?_⟩
        rw [Delta.preview.go, Delta.preview.go, hrun, hgo]

/-- **Leaving out repeated moves is not to be seen.** With the moves left out or with all of them, a
sequence of frames fails to compile at the same frame and for the same reason, or it can be compiled
both ways. Then each two deltas press and release the same, the move is the same or left out, and
the preview is the same: after every frame the same keys and buttons are held, and the mouse is at
the same place. -/
theorem suppress_unseen (offset : Offset) (frames : List Frame) :
    (∃ i failure, FailsAt ⟨offset, true⟩ failure none frames i ∧
      FailsAt ⟨offset, false⟩ failure none frames i ∧
      compileAll ⟨offset, true⟩ frames = .error failure ∧
      compileAll ⟨offset, false⟩ frames = .error failure) ∨
    ∃ deltas deltas', compileAll ⟨offset, true⟩ frames = .ok deltas ∧
      compileAll ⟨offset, false⟩ frames = .ok deltas' ∧
      List.Forall₂ Delta.Spares deltas deltas' ∧
      Delta.preview deltas = Delta.preview deltas' := by
  have hstart : Stands offset none .released := stands_none
  rcases compileFrom_cases frames readable_none hstart with ⟨i, failure, htrue, hfalse⟩ | hok
  · exact Or.inl ⟨i, failure, htrue, hfalse, htrue.compileFrom_eq, hfalse.compileFrom_eq⟩
  · exact Or.inr hok

/-- A place that is written with a further zero is the same place. -/
example : (compileAll ⟨⟨10, 0⟩, true⟩
    [⟨[(Field.mouseXName, ['1']), (Field.mouseYName, ['2'])], ⟨none, none⟩⟩,
      ⟨[(Field.mouseYName, ['0', '2']), (Field.mouseXName, ['1'])], ⟨none, none⟩⟩]).map
        (·.map Delta.move) = .ok [some (11, 2), none] := by
  rfl

end Compiler

end FrameScript
