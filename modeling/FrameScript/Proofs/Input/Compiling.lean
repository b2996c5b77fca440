import FrameScript.Proofs.Input.Control

/-!
# What compiling a frame does

A frame that can be compiled has the fields of the frame before it. Its delta presses and releases
a control as the entries say that name it, and moves the mouse to its place, unless the move is left
out because the frame before it has the same place.

## Results

* `makes_iff_of_compile`: what a delta does to a control.
* `move_of_compile`: where a delta moves the mouse.
* `isSome_place?_iff`: which frames have a place.
* `names_of_compile`: which fields a frame has that can be compiled.
* `compile_eq_ok_iff`, `compileFrom_cons_eq_ok_iff`: what it takes for a frame, and for a sequence,
  to be compiled.
* `compileFrom_eq_ok_iff`, `compileFrom_eq_error_iff`: **a sequence is compiled as its frames are one
  by one**, up to the first that cannot be.
-/

namespace FrameScript

/-! ## Places -/

/-- An axis of the mouse. -/
inductive Axis where
  | horizontal
  | vertical
  deriving DecidableEq

/-- The name of the field of an axis. -/
def Axis.name : Axis → Text
  | horizontal => Field.mouseXName
  | vertical => Field.mouseYName

/-- What the name of the field of an axis means. -/
def Axis.kind : Axis → Field.Kind
  | horizontal => .mouseX
  | vertical => .mouseY

/-- The coordinate that a value writes, if it writes one. -/
def coordinate? (value : Text) : Option Int :=
  if inactiveValues.contains value then none
  else
    match Numeral.readInt value with
    | .value n => some n
    | _ => none

/-- The coordinate of a frame along an axis. -/
def Frame.along? (frame : Frame) (axis : Axis) : Option Int :=
  (frame.value? axis.name).bind coordinate?

/-- The place of a frame that has both coordinates. -/
def Frame.place? (frame : Frame) : Option (Int × Int) :=
  match frame.along? .horizontal, frame.along? .vertical with
  | some x, some y => some (x, y)
  | _, _ => none

theorem Axis.readKind_eq_iff {axis : Axis} {name : Text} :
    Field.readKind name = .ok axis.kind ↔ name = axis.name := by
  constructor
  · intro h
    unfold Field.readKind at h
    cases axis with
    | horizontal => grind [Axis.kind, Axis.name, Field.mouseXName]
    | vertical => grind [Axis.kind, Axis.name, Field.mouseYName]
  · rintro rfl
    cases axis <;> rfl

/-- A value that can be read as a coordinate writes it, and writes none only if it is inactive. -/
theorem coordinate?_of_read {field value : Text} {coordinate : Option Int}
    (h : readCoordinate field value = .ok coordinate) :
    coordinate? value = coordinate ∧ (coordinate = none → value ∈ inactiveValues) := by
  unfold readCoordinate at h
  unfold coordinate?
  by_cases hv : inactiveValues.contains value = true
  · rw [if_pos hv] at h ⊢
    exact ⟨Except.ok.inj h, fun _ => List.contains_iff_mem.mp hv⟩
  · rw [if_neg hv] at h ⊢
    cases hn : Numeral.readInt value with
    | value n =>
      rw [hn] at h
      obtain rfl := Except.ok.inj h
      exact ⟨rfl, fun hnone => by cases hnone⟩
    | tooLong digits =>
      rw [hn] at h
      cases h
    | other =>
      rw [hn] at h
      cases h

theorem coordinate?_eq_none_of_inactive {value : Text} (h : value ∈ inactiveValues) :
    coordinate? value = none :=
  if_pos (List.contains_iff_mem.mpr h)

/-! ## Drafts -/

/-- The delta makes the change of the control. -/
def Delta.Makes (delta : Delta) (control : Control) : Compiler.Change → Prop
  | .press => delta.Presses control
  | .release => delta.Releases control
  | .keep => False

/-- A delta does the same to a control wherever it moves the mouse. -/
theorem Delta.makes_withMove_iff {delta : Delta} {move : Option (Int × Int)} {control : Control}
    {change : Compiler.Change} :
    ({ delta with move := move } : Delta).Makes control change ↔ delta.Makes control change := by
  cases change <;> cases control <;> rfl

namespace Compiler

variable {compiler : Compiler} {previous : Option Frame} {frame : Frame} {draft draft' : Draft}
  {delta : Delta} {control : Control} {change : Change} {name value : Text}

/-- The coordinate of a draft along an axis. -/
def Draft.along (draft : Draft) : Axis → Option Int
  | .horizontal => draft.x
  | .vertical => draft.y

/-- The change that an entry makes of what it names. -/
def changeOf (previous : Option Frame) (entry : Text × Text) : Change :=
  Change.between (previous.bind (·.value? entry.1)) entry.2

theorem makes_none (hc : change ≠ .keep) : ¬Delta.none.Makes control change := by
  cases change with
  | keep => exact absurd rfl hc
  | press => cases control <;> exact CodeSet.not_mem_empty _
  | release => cases control <;> exact CodeSet.not_mem_empty _

/-- The draft with a coordinate along an axis. -/
def Draft.give (draft : Draft) (axis : Axis) (coordinate : Option Int) : Draft :=
  match axis with
  | .horizontal => { draft with x := coordinate }
  | .vertical => { draft with y := coordinate }

/-- The draft with the change of a control. -/
def Draft.make (draft : Draft) (control : Control) (made : Change) : Draft :=
  match control with
  | .key code => draft.key code made
  | .button code => draft.button code made

theorem makes_give_iff {axis : Axis} {coordinate : Option Int} :
    (draft.give axis coordinate).delta.Makes control change ↔
      draft.delta.Makes control change := by
  cases axis <;> rfl

theorem makes_make_iff {other : Control} {made : Change} (hc : change ≠ .keep) :
    (draft.make other made).delta.Makes control change ↔
      draft.delta.Makes control change ∨ control = other ∧ made = change := by
  cases change with
  | keep => exact absurd rfl hc
  | press =>
    cases other <;> cases made <;> cases control <;>
      simp [Draft.make, Draft.key, Draft.button, Delta.Makes, Delta.Presses, CodeSet.mem_insert,
        or_comm]
  | release =>
    cases other <;> cases made <;> cases control <;>
      simp [Draft.make, Draft.key, Draft.button, Delta.Makes, Delta.Releases, CodeSet.mem_insert,
        or_comm]

theorem along_give {axis other : Axis} {coordinate : Option Int} :
    (draft.give axis coordinate).along other =
      if axis = other then coordinate else draft.along other := by
  cases axis <;> cases other <;> rfl

theorem along_make {made : Change} {axis : Axis} :
    (draft.make control made).along axis = draft.along axis := by
  cases control <;> cases made <;> cases axis <;> rfl

theorem named?_eq_none_of_axis (axis : Axis) : Control.named? axis.name = none := by
  cases axis <;> rfl

/-- **What an entry can do**: it gives a coordinate, or it makes a change of a control. -/
theorem add_cases {entry : Text × Text} (h : draft.add previous entry = .ok draft') :
    (∃ axis : Axis, entry.1 = axis.name ∧ draft' = draft.give axis (coordinate? entry.2) ∧
        (coordinate? entry.2 = none → entry.2 ∈ inactiveValues)) ∨
      ∃ control, Control.named? entry.1 = some control ∧
        draft' = draft.make control (changeOf previous entry) := by
  have hcoordinate {axis : Axis} {give : Option Int → Draft}
      (hk : Field.readKind entry.1 = .ok axis.kind)
      (h : (readCoordinate entry.1 entry.2).map give = .ok draft')
      (hg : give = draft.give axis) :
      entry.1 = axis.name ∧ draft' = draft.give axis (coordinate? entry.2) ∧
        (coordinate? entry.2 = none → entry.2 ∈ inactiveValues) := by
    refine ⟨Axis.readKind_eq_iff.mp hk, ?_⟩
    cases hr : readCoordinate entry.1 entry.2 with
    | error failure =>
      rw [hr] at h
      cases h
    | ok coordinate =>
      rw [hr, hg] at h
      obtain ⟨hc, hnone⟩ := coordinate?_of_read hr
      rw [← Except.ok.inj h, hc]
      exact ⟨rfl, hnone⟩
  unfold Draft.add at h
  cases hk : Field.readKind entry.1 with
  | error failure =>
    rw [hk] at h
    cases h
  | ok kind =>
    cases kind with
    | mouseX =>
      simp only [hk] at h
      exact Or.inl ⟨.horizontal, hcoordinate hk h rfl⟩
    | mouseY =>
      simp only [hk] at h
      exact Or.inl ⟨.vertical, hcoordinate hk h rfl⟩
    | key code =>
      simp only [hk] at h
      exact Or.inr ⟨.key code, by rw [Control.named?, hk], (Except.ok.inj h).symm⟩
    | button number =>
      simp only [hk] at h
      exact Or.inr ⟨.button number, by rw [Control.named?, hk], (Except.ok.inj h).symm⟩

/-- What one more entry does to a control. -/
theorem makes_add_iff {entry : Text × Text} (h : draft.add previous entry = .ok draft')
    (hc : change ≠ .keep) :
    draft'.delta.Makes control change ↔ draft.delta.Makes control change ∨
      Control.named? entry.1 = some control ∧ changeOf previous entry = change := by
  rcases add_cases h with ⟨axis, hn, rfl, -⟩ | ⟨other, hn, rfl⟩
  · rw [makes_give_iff, hn, named?_eq_none_of_axis]
    simp
  · rw [makes_make_iff hc, hn]
    simp [eq_comm]

/-- What one more entry does to a coordinate. -/
theorem along_add {entry : Text × Text} {axis : Axis}
    (h : draft.add previous entry = .ok draft') :
    draft'.along axis = (([entry].lookup axis.name).map coordinate?).getD (draft.along axis) := by
  rcases add_cases h with ⟨other, hn, rfl, -⟩ | ⟨control, hn, rfl⟩
  · rw [along_give, List.lookup_cons, hn]
    cases axis <;> cases other <;> rfl
  · have hne : axis.name ≠ entry.1 := fun he => by
      rw [← he, named?_eq_none_of_axis] at hn
      cases hn
    rw [along_make, List.lookup_cons, beq_eq_false_iff_ne.mpr hne]
    rfl

/-- An entry for an axis that could be added has a coordinate if its value is active. -/
theorem inactive_of_add {entry : Text × Text} {axis : Axis}
    (h : draft.add previous entry = .ok draft') (ha : entry.1 = axis.name)
    (hn : coordinate? entry.2 = none) : entry.2 ∈ inactiveValues := by
  rcases add_cases h with ⟨-, -, -, hi⟩ | ⟨control, hc, -⟩
  · exact hi hn
  · rw [ha, named?_eq_none_of_axis] at hc
    cases hc

/-! ## Frames -/

/-- What the entries of a frame do to a control. -/
theorem makes_addAll_iff {entries : List (Text × Text)}
    (h : draft.addAll previous entries = .ok draft') (hc : change ≠ .keep) :
    draft'.delta.Makes control change ↔ draft.delta.Makes control change ∨
      ∃ entry ∈ entries, Control.named? entry.1 = some control ∧
        changeOf previous entry = change := by
  induction entries generalizing draft with
  | nil =>
    rw [← Except.ok.inj h]
    simp
  | cons entry rest ih =>
    unfold Draft.addAll at h
    cases ha : draft.add previous entry with
    | error failure =>
      rw [ha] at h
      cases h
    | ok next =>
      rw [ha] at h
      rw [ih h, makes_add_iff ha hc]
      simp [or_assoc]

/-- What the entries of a frame do to a coordinate. -/
theorem along_addAll {entries : List (Text × Text)} {axis : Axis}
    (h : draft.addAll previous entries = .ok draft') :
    draft'.along axis =
      ((entries.reverse.lookup axis.name).map coordinate?).getD (draft.along axis) := by
  induction entries generalizing draft with
  | nil =>
    rw [← Except.ok.inj h]
    rfl
  | cons entry rest ih =>
    unfold Draft.addAll at h
    cases ha : draft.add previous entry with
    | error failure =>
      rw [ha] at h
      cases h
    | ok next =>
      rw [ha] at h
      rw [ih h, along_add ha, List.reverse_cons, List.lookup_append]
      cases rest.reverse.lookup axis.name <;> rfl

/-- Each entry of a frame has been added to some draft. -/
theorem exists_add_of_addAll {entries : List (Text × Text)}
    (h : draft.addAll previous entries = .ok draft') {entry : Text × Text} (he : entry ∈ entries) :
    ∃ before after : Draft, before.add previous entry = .ok after := by
  induction entries generalizing draft with
  | nil => exact absurd he List.not_mem_nil
  | cons first rest ih =>
    unfold Draft.addAll at h
    cases ha : draft.add previous first with
    | error failure =>
      rw [ha] at h
      cases h
    | ok next =>
      rw [ha] at h
      rcases List.mem_cons.mp he with rfl | he
      · exact ⟨draft, next, ha⟩
      · exact ih h he

/-- What it takes for a frame to be compiled. -/
theorem draft_of_compile (h : compiler.compile frame previous = .ok delta) :
    (∀ p, previous = some p → frame.sameFields p = true) ∧
      ∃ draft, Draft.empty.addAll previous frame.entries = .ok draft ∧
        compiler.moveOf previous draft = .ok delta.move ∧
        delta = { draft.delta with move := delta.move } := by
  unfold compile at h
  split at h
  · rename_i hs
    refine ⟨fun p hp => ?_, ?_⟩
    · rw [hp] at hs
      exact hs
    · cases ha : Draft.empty.addAll previous frame.entries with
      | error failure =>
        rw [ha] at h
        cases h
      | ok draft =>
        simp only [ha] at h
        cases hm : compiler.moveOf previous draft with
        | error failure =>
          rw [hm] at h
          cases h
        | ok move =>
          rw [hm] at h
          rw [← Except.ok.inj h]
          exact ⟨draft, rfl, hm, rfl⟩
  · cases h

/-- What it takes for a frame to be compiled, and its delta. -/
theorem compile_eq_ok_iff :
    compiler.compile frame previous = .ok delta ↔
      (∀ p ∈ previous, frame.sameFields p = true) ∧
        ∃ draft, Draft.empty.addAll previous frame.entries = .ok draft ∧
          compiler.moveOf previous draft = .ok delta.move ∧
          delta = { draft.delta with move := delta.move } := by
  refine ⟨draft_of_compile, ?_⟩
  rintro ⟨hs, draft, ha, hm, hd⟩
  have hall : (previous.all fun p => frame.sameFields p) = true := by
    cases previous with
    | none => rfl
    | some p => exact hs p rfl
  rw [compile, if_pos hall]
  simp only [ha, hm]
  exact congrArg Except.ok hd.symm

/-- **A frame that can be compiled has the fields of the frame before it.** -/
theorem names_of_compile {p : Frame} (h : compiler.compile frame (some p) = .ok delta)
    (name : Text) : name ∈ frame.names ↔ name ∈ p.names :=
  Frame.sameFields_iff.mp ((draft_of_compile h).1 p rfl) name

/-- **What a delta does to a control.** -/
theorem makes_iff_of_compile (h : compiler.compile frame previous = .ok delta)
    (hc : change ≠ .keep) :
    delta.Makes control change ↔
      ∃ entry ∈ frame.naming control, changeOf previous entry = change := by
  obtain ⟨-, draft, ha, -, hd⟩ := draft_of_compile h
  rw [hd, Delta.makes_withMove_iff, makes_addAll_iff ha hc]
  simp only [Frame.mem_naming_iff, and_assoc]
  exact or_iff_right (makes_none hc)

/-- A delta presses only what the frame names. -/
theorem naming_ne_nil_of_presses (h : compiler.compile frame previous = .ok delta)
    (hp : delta.Presses control) : frame.naming control ≠ [] := by
  have hmakes : delta.Makes control .press := hp
  rw [makes_iff_of_compile h Change.noConfusion] at hmakes
  obtain ⟨entry, he, -⟩ := hmakes
  exact List.ne_nil_of_mem he

/-- What a delta does to a control that one field names. -/
theorem makes_iff_of_naming (h : compiler.compile frame previous = .ok delta)
    (hn : frame.naming control = [(name, value)]) (hc : change ≠ .keep) :
    delta.Makes control change ↔ changeOf previous (name, value) = change := by
  rw [makes_iff_of_compile h hc, hn]
  simp

/-- A frame that can be compiled has the coordinates whose values are active. -/
theorem isSome_along?_iff (h : compiler.compile frame previous = .ok delta) (axis : Axis) :
    (frame.along? axis).isSome = true ↔
      ∃ value, frame.value? axis.name = some value ∧ value ∉ inactiveValues := by
  obtain ⟨-, draft, ha, -⟩ := draft_of_compile h
  unfold Frame.along?
  cases hv : frame.value? axis.name with
  | none => simp
  | some value =>
    obtain ⟨before, after, hadd⟩ := exists_add_of_addAll ha (Frame.mem_entries_of_value? hv)
    rw [Option.bind_some, Option.isSome_iff_ne_none]
    constructor
    · exact fun hs => ⟨value, rfl, fun hi => hs (coordinate?_eq_none_of_inactive hi)⟩
    · rintro ⟨found, hf, hactive⟩ hn
      obtain rfl := Option.some.inj hf
      exact hactive (inactive_of_add hadd rfl hn)

/-- **A frame that can be compiled has a place** exactly if it has a value for both axes and both
are active. -/
theorem isSome_place?_iff (h : compiler.compile frame previous = .ok delta) :
    frame.place?.isSome = true ↔
      ∀ axis : Axis, ∃ value, frame.value? axis.name = some value ∧ value ∉ inactiveValues := by
  have hplace : frame.place?.isSome = true ↔ ∀ axis, (frame.along? axis).isSome = true := by
    unfold Frame.place?
    constructor
    · intro hs axis
      split at hs
      · rename_i x y hx hy
        cases axis with
        | horizontal => rw [hx]; rfl
        | vertical => rw [hy]; rfl
      · cases hs
    · intro hs
      obtain ⟨x, hx⟩ := Option.isSome_iff_exists.mp (hs .horizontal)
      obtain ⟨y, hy⟩ := Option.isSome_iff_exists.mp (hs .vertical)
      rw [hx, hy]
      rfl
  rw [hplace]
  exact forall_congr' (isSome_along?_iff h)

/-- The place that is left out is that of the frame before. -/
theorem place_of_repeats {x y : Int} (h : repeatsPlace previous x y = .ok true) :
    ∃ p, previous = some p ∧ p.place? = some (x, y) := by
  unfold repeatsPlace at h
  split at h
  · cases h
  · rename_i p
    refine ⟨p, rfl, ?_⟩
    split at h
    · rename_i valueX valueY hx hy
      split at h
      · cases h
      · rename_i priorX hreadX
        split at h
        · rename_i hpx
          cases hreadY : readCoordinate Field.mouseYName valueY with
          | error failure =>
            rw [hreadY] at h
            cases h
          | ok priorY =>
            rw [hreadY] at h
            have hpy : priorY = some y := of_decide_eq_true (Except.ok.inj h)
            have hax : p.along? .horizontal = some x := by
              rw [Frame.along?, Axis.name, hx, Option.bind_some, (coordinate?_of_read hreadX).1,
                hpx]
            have hay : p.along? .vertical = some y := by
              rw [Frame.along?, Axis.name, hy, Option.bind_some, (coordinate?_of_read hreadY).1,
                hpy]
            rw [Frame.place?, hax, hay]
        · cases h
    · cases h

/-- **Where a delta moves the mouse**: to the place of the frame, if it has one; such a move is left
out only if the frame before has the same place. -/
theorem move_of_compile (h : compiler.compile frame previous = .ok delta) :
    delta.move = frame.place?.map (fun place => compiler.offset.apply place.1 place.2) ∨
      delta.move = none ∧ ∃ p, previous = some p ∧ p.place? = frame.place? := by
  obtain ⟨-, draft, ha, hm, -⟩ := draft_of_compile h
  have halong (axis : Axis) : draft.along axis = frame.along? axis := by
    rw [along_addAll ha, Frame.along?, Frame.value?]
    cases frame.entries.reverse.lookup axis.name <;> cases axis <;> rfl
  have hx : draft.x = frame.along? .horizontal := halong .horizontal
  have hy : draft.y = frame.along? .vertical := halong .vertical
  unfold moveOf at hm
  rw [hx, hy] at hm
  split at hm
  · rename_i x y hax hay
    have hplace : frame.place? = some (x, y) := by rw [Frame.place?, hax, hay]
    rw [hplace]
    split at hm
    · cases hr : repeatsPlace previous x y with
      | error failure =>
        rw [hr] at hm
        cases hm
      | ok again =>
        rw [hr] at hm
        cases again with
        | true => exact Or.inr ⟨(Except.ok.inj hm).symm, place_of_repeats hr⟩
        | false => exact Or.inl (Except.ok.inj hm).symm
    · exact Or.inl (Except.ok.inj hm).symm
  · rename_i hnone
    have hplace : frame.place? = none := by
      unfold Frame.place?
      split
      · rename_i x y hax hay
        exact absurd hay (hnone x y hax)
      · rfl
    rw [hplace]
    exact Or.inl (Except.ok.inj hm).symm

/-! ## Sequences -/

/-- The deltas of frames: that of the first one, and those of the others after it. -/
theorem compileFrom_cons_eq_ok {frames : List Frame} {deltas : List Delta}
    (h : compiler.compileFrom previous (frame :: frames) = .ok deltas) :
    ∃ delta later, compiler.compile frame previous = .ok delta ∧
      compiler.compileFrom (some frame) frames = .ok later ∧ deltas = delta :: later := by
  unfold compileFrom at h
  cases hf : compiler.compile frame previous with
  | error failure =>
    rw [hf] at h
    cases h
  | ok delta =>
    simp only [hf] at h
    cases hrest : compiler.compileFrom (some frame) frames with
    | error failure =>
      rw [hrest] at h
      cases h
    | ok later =>
      rw [hrest] at h
      exact ⟨delta, later, rfl, rfl, (Except.ok.inj h).symm⟩

/-- The deltas of a sequence of frames. -/
theorem compileFrom_cons_eq_ok_iff {frames : List Frame} {deltas : List Delta} :
    compiler.compileFrom previous (frame :: frames) = .ok deltas ↔
      ∃ delta later, compiler.compile frame previous = .ok delta ∧
        compiler.compileFrom (some frame) frames = .ok later ∧ deltas = delta :: later := by
  refine ⟨compileFrom_cons_eq_ok, ?_⟩
  rintro ⟨delta, later, hf, hl, rfl⟩
  simp only [compileFrom, hf, hl]
  rfl

/-- **A sequence can be compiled if each of its frames can be** after the one before it, and its
deltas are theirs. -/
theorem compileFrom_eq_ok_iff {frames : List Frame} {deltas : List Delta} :
    compiler.compileFrom previous frames = .ok deltas ↔
      compiler.compileEach previous frames = deltas.map .ok := by
  induction frames generalizing previous deltas with
  | nil =>
    rw [compileFrom, compileEach, Except.ok.injEq, eq_comm, eq_comm (a := []), List.map_eq_nil_iff]
  | cons frame rest ih =>
    simp only [compileFrom_cons_eq_ok_iff, compileEach, ih]
    constructor
    · rintro ⟨delta, later, hf, hl, rfl⟩
      rw [hf, hl, List.map_cons]
    · intro h
      obtain ⟨delta, later, rfl, hf, hl⟩ := List.map_eq_cons_iff.mp h.symm
      exact ⟨delta, later, hf.symm, hl.symm, rfl⟩

/-- **A sequence that cannot be compiled fails as its first frame does** that cannot be compiled
after the one before it. -/
theorem compileFrom_eq_error_iff {frames : List Frame} {failure : Failure} :
    compiler.compileFrom previous frames = .error failure ↔
      ∃ (deltas : List Delta) (later : List (Except Failure Delta)),
        compiler.compileEach previous frames = deltas.map .ok ++ .error failure :: later := by
  induction frames generalizing previous with
  | nil =>
    refine iff_of_false (fun h => by cases h) ?_
    rintro ⟨deltas, later, h⟩
    cases deltas <;> cases h
  | cons frame rest ih =>
    rw [compileFrom, compileEach]
    cases compiler.compile frame previous with
    | error fault =>
      constructor
      · intro h
        obtain rfl := Except.error.inj h
        exact ⟨[], _, rfl⟩
      · rintro ⟨deltas, later, h⟩
        cases deltas with
        | nil => exact congrArg _ (Except.error.inj (List.cons.inj h).1)
        | cons delta deltas => cases (List.cons.inj h).1
    | ok delta =>
      have hmap : (compiler.compileFrom (some frame) rest).map (delta :: ·) = .error failure ↔
          compiler.compileFrom (some frame) rest = .error failure := by
        cases compiler.compileFrom (some frame) rest <;> simp [Except.map]
      refine hmap.trans (ih.trans ⟨?_, ?_⟩)
      · rintro ⟨deltas, later, h⟩
        exact ⟨delta :: deltas, later, by rw [h]; rfl⟩
      · rintro ⟨deltas, later, h⟩
        cases deltas with
        | nil => cases (List.cons.inj h).1
        | cons first deltas => exact ⟨deltas, later, (List.cons.inj h).2⟩

end Compiler

end FrameScript
