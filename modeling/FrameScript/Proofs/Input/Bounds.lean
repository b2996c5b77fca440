import FrameScript.Proofs.Input.Sparing
import Mathlib.Order.Bounds.Basic

/-!
# The bounds of the mouse

The bounds are found axis by axis over all frames, the moves are made frame by frame where both axes
have a coordinate. Still every move of a sequence that can be compiled ends within the bounds,
shifted by the offset: where the mouse moves, a frame has both coordinates, and each bound is the
greatest coordinate of its axis, be all of them negative, or be there only one. If an axis has none,
then no frame has a place, and the mouse does not move.

## Results

* `Frame.isBound_concat`: what one more frame does to a bound.
* `exists_boundsWith`: the bounds of frames that can be read, as far as they go.
* `Compiler.mouseBounds_covers`: **the bounds cover every move.**
-/

namespace FrameScript

/-! ## Bounds of one axis -/

/-- The coordinates of frames along an axis. -/
def Frame.coordinates (axis : Axis) (frames : List Frame) : Set Int :=
  {c | ∃ frame ∈ frames, frame.along? axis = some c}

/-- The bound is the greatest of the coordinates, or there are none and there is no bound. -/
def Frame.IsBound (axis : Axis) (frames : List Frame) : Option Int → Prop
  | none => Frame.coordinates axis frames = ∅
  | some c => IsGreatest (Frame.coordinates axis frames) c

section Axis

variable {axis : Axis} {frame : Frame} {frames seen : List Frame} {bound : Option Int} {c : Int}

theorem Frame.coordinates_nil : Frame.coordinates axis [] = ∅ := by
  simp [Frame.coordinates]

theorem Frame.coordinates_concat :
    Frame.coordinates axis (frames ++ [frame]) =
      Frame.coordinates axis frames ∪ {c | frame.along? axis = some c} := by
  ext c
  simp [Frame.coordinates, or_and_right, exists_or]

theorem Frame.coordinates_eq_empty_iff :
    Frame.coordinates axis frames = ∅ ↔ ∀ frame ∈ frames, frame.along? axis = none := by
  simp only [Frame.coordinates, Set.eq_empty_iff_forall_notMem, Set.mem_ofPred_eq, not_exists,
    not_and, Option.eq_none_iff_forall_ne_some]
  exact ⟨fun h frame hf c => h c frame hf, fun h c frame hf => h frame hf c⟩

/-- **What one more frame does to a bound**: it raises it to the coordinate of the frame. -/
theorem Frame.isBound_concat (h : Frame.IsBound axis frames bound) :
    Frame.IsBound axis (frames ++ [frame]) (raiseBound bound (frame.along? axis)) := by
  cases hc : frame.along? axis with
  | none =>
    have hsame : Frame.coordinates axis (frames ++ [frame]) = Frame.coordinates axis frames := by
      simp [Frame.coordinates_concat, hc]
    cases bound with
    | none => exact hsame.trans h
    | some b =>
      show IsGreatest _ _
      rw [hsame]
      exact h
  | some c =>
    have hmore : Frame.coordinates axis (frames ++ [frame]) =
        insert c (Frame.coordinates axis frames) := by
      rw [Frame.coordinates_concat, hc, Set.insert_eq, Set.union_comm]
      congr 1
      ext d
      simp [eq_comm]
    cases bound with
    | none =>
      have hnone : Frame.coordinates axis frames = ∅ := h
      show IsGreatest _ _
      rw [hmore, hnone, insert_empty_eq]
      exact isGreatest_singleton
    | some b =>
      have hgreatest : IsGreatest (Frame.coordinates axis frames) b := h
      have hmax : (if b < c then c else b) = max c b := by
        rw [max_def]
        split <;> split <;> omega
      show IsGreatest _ _
      rw [hmore, hmax]
      exact hgreatest.insert c

end Axis

namespace Compiler

variable {compiler : Compiler} {previous : Option Frame} {frame : Frame} {frames seen : List Frame}
  {delta : Delta} {deltas : List Delta} {bound boundX boundY : Option Int}

/-! ## Bounds of frames that can be read -/

theorem boundWith_of_readable (h : Readable (some frame)) (axis : Axis) (bound : Option Int) :
    boundWith axis.name bound frame = .ok (raiseBound bound (frame.along? axis)) := by
  unfold boundWith Frame.along?
  cases hv : frame.value? axis.name with
  | none => cases bound <;> rfl
  | some value =>
    obtain ⟨coordinate, hread⟩ := h frame rfl axis value hv
    simp only [hread, Option.bind_some, (coordinate?_of_read hread).1]
    rfl

/-- **The bounds of frames that can be read**, when those of the frames before are known. -/
theorem exists_boundsWith (h : ∀ frame ∈ frames, Readable (some frame))
    (hx : Frame.IsBound .horizontal seen boundX) (hy : Frame.IsBound .vertical seen boundY) :
    ∃ x y, boundsWith boundX boundY frames = .ok (x, y) ∧
      Frame.IsBound .horizontal (seen ++ frames) x ∧
      Frame.IsBound .vertical (seen ++ frames) y := by
  induction frames generalizing seen boundX boundY with
  | nil =>
    rw [List.append_nil]
    exact ⟨boundX, boundY, rfl, hx, hy⟩
  | cons frame rest ih =>
    obtain ⟨hframe, hrest⟩ := List.forall_mem_cons.mp h
    obtain ⟨x, y, hbounds, hall⟩ := ih hrest (Frame.isBound_concat hx) (Frame.isBound_concat hy)
    have hfirst := boundWith_of_readable hframe .horizontal boundX
    have hsecond := boundWith_of_readable hframe .vertical boundY
    refine ⟨x, y, ?_, by simpa using hall⟩
    rw [boundsWith]
    simp only [Axis.name] at hfirst hsecond
    simp only [hfirst, hsecond, hbounds]

/-! ## Moves within the bounds -/

/-- Frames and deltas of a sequence that can be compiled belong together. -/
theorem compiled_of_compileFrom (h : compiler.compileFrom previous frames = .ok deltas) :
    (∀ frame ∈ frames, ∃ p delta, compiler.compile frame p = .ok delta) ∧
      ∀ delta ∈ deltas, ∃ frame ∈ frames, ∃ p, compiler.compile frame p = .ok delta := by
  induction frames generalizing previous deltas with
  | nil =>
    rw [← Except.ok.inj h]
    exact ⟨nofun, nofun⟩
  | cons frame rest ih =>
    obtain ⟨delta, later, hframe, hlater, rfl⟩ := compileFrom_cons_eq_ok h
    obtain ⟨hframes, hdeltas⟩ := ih hlater
    refine ⟨List.forall_mem_cons.mpr ⟨⟨previous, delta, hframe⟩, hframes⟩,
      List.forall_mem_cons.mpr ⟨⟨frame, List.mem_cons_self, previous, hframe⟩, fun d hd => ?_⟩⟩
    obtain ⟨f, hf, p, hc⟩ := hdeltas d hd
    exact ⟨f, List.mem_cons_of_mem _ hf, p, hc⟩

/-- A delta moves the mouse to the place of its frame, if at all. -/
theorem along?_of_move (h : compiler.compile frame previous = .ok delta) {target : Int × Int}
    (hm : delta.move = some target) :
    frame.along? .horizontal = some (target.1 - compiler.offset.x) ∧
      frame.along? .vertical = some (target.2 - compiler.offset.y) := by
  rcases move_of_compile h with hplace | ⟨hnone, -⟩
  · rw [hm] at hplace
    obtain ⟨⟨x, y⟩, hp, rfl⟩ := Option.map_eq_some_iff.mp hplace.symm
    unfold Frame.place? at hp
    split at hp
    · rename_i hx hy
      cases hp
      simp only [hx, hy, Offset.apply, Option.some.injEq]
      omega
    · cases hp
  · rw [hm] at hnone
    cases hnone

/-- Where a delta of a sequence moves the mouse, some frame has both coordinates. -/
theorem mem_coordinates_of_move (h : compiler.compileAll frames = .ok deltas)
    (hd : delta ∈ deltas) {target : Int × Int} (hm : delta.move = some target) :
    target.1 - compiler.offset.x ∈ Frame.coordinates .horizontal frames ∧
      target.2 - compiler.offset.y ∈ Frame.coordinates .vertical frames := by
  obtain ⟨frame, hf, previous, hc⟩ := (compiled_of_compileFrom h).2 delta hd
  obtain ⟨hx, hy⟩ := along?_of_move hc hm
  exact ⟨⟨frame, hf, hx⟩, frame, hf, hy⟩

/-- If an axis has no coordinates, then no delta of a sequence moves the mouse. -/
theorem move_eq_none_of_empty (h : compiler.compileAll frames = .ok deltas) (hd : delta ∈ deltas)
    {axis : Axis} (hempty : Frame.coordinates axis frames = ∅) : delta.move = none := by
  refine Option.eq_none_iff_forall_ne_some.mpr fun target hm => ?_
  obtain ⟨hx, hy⟩ := mem_coordinates_of_move h hd hm
  cases axis with
  | horizontal => exact Set.notMem_empty _ (hempty ▸ hx)
  | vertical => exact Set.notMem_empty _ (hempty ▸ hy)

/-- **The bounds of the mouse cover every move.** For frames that can be compiled, with any offset
and whether or not repeated moves are left out, the bounds can be found. There are none exactly if
along one of the axes no frame has a coordinate; otherwise each of the two is the greatest of the
coordinates that frames have along its axis. Wherever a delta moves the mouse there are bounds, and
without the offset the place is within them. -/
theorem mouseBounds_covers (h : compiler.compileAll frames = .ok deltas) :
    ∃ bounds, mouseBounds frames = .ok bounds ∧
      (bounds = none ↔ ∃ axis : Axis, ∀ frame ∈ frames, frame.along? axis = none) ∧
      (∀ x y, bounds = some (x, y) →
        IsGreatest {c | ∃ frame ∈ frames, frame.along? .horizontal = some c} x ∧
          IsGreatest {c | ∃ frame ∈ frames, frame.along? .vertical = some c} y) ∧
      ∀ delta ∈ deltas, ∀ target, delta.move = some target →
        ∃ x y, bounds = some (x, y) ∧ target.1 - compiler.offset.x ≤ x ∧
          target.2 - compiler.offset.y ≤ y := by
  have hreadable : ∀ frame ∈ frames, Readable (some frame) := by
    intro frame hf
    obtain ⟨previous, delta, hc⟩ := (compiled_of_compileFrom h).1 frame hf
    exact readable_of_compile hc
  have hnone (axis : Axis) : Frame.IsBound axis [] none := Frame.coordinates_nil
  obtain ⟨x, y, hbounds, hx, hy⟩ :=
    exists_boundsWith hreadable (hnone .horizontal) (hnone .vertical)
  rw [List.nil_append] at hx hy
  unfold mouseBounds
  rw [hbounds]
  cases x with
  | none =>
    have hempty : Frame.coordinates .horizontal frames = ∅ := hx
    refine ⟨none, rfl, iff_of_true rfl ⟨.horizontal, Frame.coordinates_eq_empty_iff.mp hempty⟩,
      nofun, fun delta hd target hm => ?_⟩
    rw [move_eq_none_of_empty h hd hempty] at hm
    cases hm
  | some x =>
    cases y with
    | none =>
      have hempty : Frame.coordinates .vertical frames = ∅ := hy
      refine ⟨none, rfl, iff_of_true rfl ⟨.vertical, Frame.coordinates_eq_empty_iff.mp hempty⟩,
        nofun, fun delta hd target hm => ?_⟩
      rw [move_eq_none_of_empty h hd hempty] at hm
      cases hm
    | some y =>
      have hgreatestX : IsGreatest (Frame.coordinates .horizontal frames) x := hx
      have hgreatestY : IsGreatest (Frame.coordinates .vertical frames) y := hy
      refine ⟨some (x, y), rfl, iff_of_false nofun ?_, ?_, fun delta hd target hm => ?_⟩
      · rintro ⟨axis, hnone⟩
        have hempty := Frame.coordinates_eq_empty_iff.mpr hnone
        cases axis with
        | horizontal => exact hgreatestX.nonempty.ne_empty hempty
        | vertical => exact hgreatestY.nonempty.ne_empty hempty
      · rintro _ _ ⟨rfl, rfl⟩
        exact ⟨hgreatestX, hgreatestY⟩
      · obtain ⟨hmemX, hmemY⟩ := mem_coordinates_of_move h hd hm
        exact ⟨x, y, rfl, hgreatestX.2 hmemX, hgreatestY.2 hmemY⟩

/-- Frames with a place, with one coordinate only, and with negative coordinates. -/
def oneSided : List Frame :=
  [⟨[(Field.mouseXName, ['-', '5']), (Field.mouseYName, ['.'])], ⟨none, none⟩⟩,
    ⟨[(Field.mouseXName, ['-', '7']), (Field.mouseYName, ['2'])], ⟨none, none⟩⟩,
    ⟨[(Field.mouseXName, ['_']), (Field.mouseYName, ['-', '1'])], ⟨none, none⟩⟩]

/-- The greatest coordinate of an axis may be negative, and belong to a frame without a place. -/
theorem mouseBounds_covers_oneSided :
    ∃ deltas, compileAll ⟨⟨10, 20⟩, true⟩ oneSided = .ok deltas ∧
      deltas.map Delta.move = [none, some (3, 22), none] ∧
      mouseBounds oneSided = .ok (some (-5, 2)) ∧
      ∀ delta ∈ deltas, ∀ target, delta.move = some target →
        target.1 - 10 ≤ -5 ∧ target.2 - 20 ≤ 2 := by
  let still : Delta := Delta.none
  have hcompile : compileAll ⟨⟨10, 20⟩, true⟩ oneSided =
      .ok [still, { still with move := some (3, 22) }, still] := by decide
  have hfound : mouseBounds oneSided = .ok (some (-5, 2)) := by decide
  obtain ⟨bounds, hbounds, -, -, hcovers⟩ := mouseBounds_covers hcompile
  obtain rfl := Except.ok.inj (hfound.symm.trans hbounds)
  refine ⟨_, hcompile, rfl, hfound, fun delta hd target hm => ?_⟩
  obtain ⟨x, y, hxy, hx, hy⟩ := hcovers delta hd target hm
  cases hxy
  exact ⟨hx, hy⟩

end Compiler

end FrameScript
