import FrameScript.Proofs.Input.Compiling

/-!
# The order of the fields

A frame is compiled entry by entry, but what comes of it does not depend on the order. An entry can
be read or not whatever stands before it, a field that is named once has one value, and the delta is
settled by what it does to each control and by where it moves the mouse. Of the frame before, only
the values of its fields are asked for. So two frames with the same entries in another order, after
frames with the same entries in another order, have the same delta, also where several names mean
one control; and if one of them cannot be compiled, neither can the other.

## Results

* `Frame.Rearranges.value?_eq`: the values of fields do not depend on the order.
* `exists_addAll_iff`: neither does it whether the entries can be read.
* `compile_iff_of_rearranges`: **a frame has the same delta in every order.**
* `compileAll_iff_of_rearranges`: so does a sequence of frames.
-/

namespace FrameScript

/-! ## Frames -/

namespace Frame

variable {frame other prior prior' : Frame} {name value : Text}

/-- The other frame has the entries of the frame, in whatever order. -/
def Rearranges (frame other : Frame) : Prop :=
  frame.entries.Perm other.entries

instance (frame other : Frame) : Decidable (frame.Rearranges other) :=
  inferInstanceAs (Decidable (frame.entries.Perm other.entries))

theorem value?_eq_some_iff (h : frame.NamesOnce) :
    frame.value? name = some value ↔ (name, value) ∈ frame.entries :=
  ⟨mem_entries_of_value?, value?_of_mem h⟩

namespace Rearranges

theorem symm (h : frame.Rearranges other) : other.Rearranges frame :=
  List.Perm.symm h

theorem names_perm (h : frame.Rearranges other) : frame.names.Perm other.names :=
  List.Perm.map Prod.fst h

theorem namesOnce (h : frame.Rearranges other) (ho : frame.NamesOnce) : other.NamesOnce :=
  h.names_perm.nodup_iff.mp ho

/-- **The values of fields do not depend on the order.** -/
theorem value?_eq (h : frame.Rearranges other) (ho : frame.NamesOnce) (name : Text) :
    other.value? name = frame.value? name := by
  refine Option.ext fun value => ?_
  rw [value?_eq_some_iff (h.namesOnce ho), value?_eq_some_iff ho]
  exact (List.Perm.mem_iff h).symm

theorem sameFields_iff (h : frame.Rearranges other) (hp : prior.Rearranges prior') :
    other.sameFields prior' = true ↔ frame.sameFields prior = true := by
  rw [Frame.sameFields_iff, Frame.sameFields_iff]
  exact forall_congr' fun _ => iff_congr h.names_perm.mem_iff.symm hp.names_perm.mem_iff.symm

end Rearranges

end Frame

/-- A delta is settled by what it does to each control and by where it moves the mouse. -/
theorem Delta.eq_of_makes {delta delta' : Delta} (hmove : delta.move = delta'.move)
    (h : ∀ control change, change ≠ .keep →
      (delta.Makes control change ↔ delta'.Makes control change)) : delta = delta' := by
  have hpress (control : Control) : delta.Presses control ↔ delta'.Presses control :=
    h control .press Compiler.Change.noConfusion
  have hrelease (control : Control) : delta.Releases control ↔ delta'.Releases control :=
    h control .release Compiler.Change.noConfusion
  obtain ⟨move, pressButtons, releaseButtons, pressKeys, releaseKeys⟩ := delta
  obtain ⟨move', pressButtons', releaseButtons', pressKeys', releaseKeys'⟩ := delta'
  obtain rfl : move = move' := hmove
  obtain rfl : pressButtons = pressButtons' := CodeSet.ext fun c => hpress (.button c)
  obtain rfl : releaseButtons = releaseButtons' := CodeSet.ext fun c => hrelease (.button c)
  obtain rfl : pressKeys = pressKeys' := CodeSet.ext fun c => hpress (.key c)
  obtain rfl : releaseKeys = releaseKeys' := CodeSet.ext fun c => hrelease (.key c)
  rfl

namespace Compiler

variable {compiler : Compiler} {previous previous' : Option Frame} {frame frame' : Frame}
  {draft draft' : Draft} {entry : Text × Text} {entries : List (Text × Text)} {delta : Delta}

/-! ## Entries -/

/-- The name of the entry means something, and if it is that of an axis, the value can be read as a
coordinate. -/
def IsReadable (entry : Text × Text) : Prop :=
  ∃ kind, Field.readKind entry.1 = .ok kind ∧
    ∀ axis : Axis, kind = axis.kind → ∃ coordinate, readCoordinate entry.1 entry.2 = .ok coordinate

/-- Whether an entry can be added does not depend on what has been found out before. -/
theorem exists_add_iff : (∃ after, draft.add previous entry = .ok after) ↔ IsReadable entry := by
  unfold Draft.add IsReadable
  cases Field.readKind entry.1 with
  | error failure => simp
  | ok kind =>
    have haxes (p : Axis → Prop) : (∀ axis, p axis) ↔ p .horizontal ∧ p .vertical :=
      ⟨fun h => ⟨h _, h _⟩, fun h axis => by cases axis; exacts [h.1, h.2]⟩
    cases kind <;> simp only [haxes, Axis.kind] <;>
      cases readCoordinate entry.1 entry.2 <;> simp [Except.map]

/-- **Whether the entries of a frame can be read does not depend on their order.** -/
theorem exists_addAll_iff :
    (∃ after, draft.addAll previous entries = .ok after) ↔ ∀ entry ∈ entries, IsReadable entry := by
  induction entries generalizing draft with
  | nil => exact ⟨fun _ _ he => absurd he List.not_mem_nil, fun _ => ⟨draft, rfl⟩⟩
  | cons entry rest ih =>
    have hentry : (∃ after, draft.add previous entry = .ok after) ↔ IsReadable entry :=
      exists_add_iff
    rw [List.forall_mem_cons, ← hentry]
    unfold Draft.addAll
    cases draft.add previous entry with
    | error failure => simp
    | ok next =>
      rw [ih]
      simp

/-! ## Frames -/

section Rearranged

variable (h : frame.Rearranges frame') (ho : frame.NamesOnce)
  (hp : Option.Rel Frame.Rearranges previous previous') (hpo : ∀ p ∈ previous, p.NamesOnce)

include hp hpo

/-- The values of the frame before do not depend on the order. -/
theorem prior_value?_eq (name : Text) :
    previous'.bind (·.value? name) = previous.bind (·.value? name) := by
  cases hp with
  | none => rfl
  | some hprior => exact hprior.value?_eq (hpo _ rfl) name

theorem repeatsPlace_of_rearranges (x y : Int) :
    repeatsPlace previous' x y = repeatsPlace previous x y := by
  cases hp with
  | none => rfl
  | some hprior => simp only [repeatsPlace, hprior.value?_eq (hpo _ rfl)]

include h ho

/-- What is found out about a frame is the same in every order. -/
theorem drafts_agree (ha : draft.addAll previous frame.entries = .ok draft')
    {other : Draft} (ha' : draft.addAll previous' frame'.entries = .ok other) :
    other.x = draft'.x ∧ other.y = draft'.y ∧ ∀ control change, change ≠ .keep →
      (draft'.delta.Makes control change ↔ other.delta.Makes control change) := by
  have halong (axis : Axis) : other.along axis = draft'.along axis := by
    rw [along_addAll ha, along_addAll ha']
    have hvalue := h.value?_eq ho axis.name
    unfold Frame.value? at hvalue
    rw [hvalue]
  refine ⟨halong .horizontal, halong .vertical, fun control change hc => ?_⟩
  rw [makes_addAll_iff ha hc, makes_addAll_iff ha' hc]
  simp only [changeOf, prior_value?_eq hp hpo, List.Perm.mem_iff h]

/-- A frame that can be compiled has the same delta in every order. -/
theorem compile_of_rearranges (hc : compiler.compile frame previous = .ok delta) :
    compiler.compile frame' previous' = .ok delta := by
  obtain ⟨hs, draft, ha, hm, hd⟩ := compile_eq_ok_iff.mp hc
  obtain ⟨draft', ha'⟩ : ∃ draft', Draft.empty.addAll previous' frame'.entries = .ok draft' :=
    exists_addAll_iff.mpr fun entry he =>
      exists_addAll_iff.mp ⟨draft, ha⟩ entry ((List.Perm.mem_iff h).mpr he)
  obtain ⟨hx, hy, hmakes⟩ := drafts_agree h ho hp hpo ha ha'
  refine compile_eq_ok_iff.mpr ⟨fun p' hp' => ?_, draft', ha', ?_, ?_⟩
  · cases hp with
    | none => cases hp'
    | some hprior =>
      obtain rfl := Option.some.inj hp'
      exact (h.sameFields_iff hprior).mpr (hs _ rfl)
  · rw [← hm, moveOf, moveOf, hx, hy]
    simp only [repeatsPlace_of_rearranges hp hpo]
  · rw [hd]
    refine Delta.eq_of_makes rfl fun control change hk => ?_
    rw [Delta.makes_withMove_iff, Delta.makes_withMove_iff]
    exact hmakes control change hk

end Rearranged

/-- **A frame has the same delta in every order** of its entries and of those of the frame before,
and if it cannot be compiled in one order, it cannot be compiled in another. -/
theorem compile_iff_of_rearranges (h : frame.Rearranges frame') (ho : frame.NamesOnce)
    (hp : Option.Rel Frame.Rearranges previous previous') (hpo : ∀ p ∈ previous, p.NamesOnce) :
    compiler.compile frame' previous' = .ok delta ↔
      compiler.compile frame previous = .ok delta := by
  refine ⟨fun hc => ?_, compile_of_rearranges h ho hp hpo⟩
  cases hp with
  | none =>
    exact compile_of_rearranges h.symm (h.namesOnce ho) .none (fun _ hm => nomatch hm) hc
  | some hprior =>
    refine compile_of_rearranges h.symm (h.namesOnce ho) (.some hprior.symm) (fun p hm => ?_) hc
    obtain rfl := Option.some.inj hm
    exact hprior.namesOnce (hpo _ rfl)

/-! ## Sequences -/

theorem compileFrom_iff_of_rearranges {frames frames' : List Frame} {deltas : List Delta}
    (h : List.Forall₂ Frame.Rearranges frames frames') (ho : ∀ f ∈ frames, f.NamesOnce)
    (hp : Option.Rel Frame.Rearranges previous previous') (hpo : ∀ p ∈ previous, p.NamesOnce) :
    compiler.compileFrom previous' frames' = .ok deltas ↔
      compiler.compileFrom previous frames = .ok deltas := by
  induction h generalizing previous previous' deltas with
  | nil => rfl
  | cons hf _ ih =>
    obtain ⟨hof, horest⟩ := List.forall_mem_cons.mp ho
    rw [compileFrom_cons_eq_ok_iff, compileFrom_cons_eq_ok_iff]
    simp only [compile_iff_of_rearranges hf hof hp hpo,
      ih horest (.some hf) fun p hm => Option.some.inj hm ▸ hof]

/-- **A sequence of frames has the same deltas in every order** of their entries. -/
theorem compileAll_iff_of_rearranges {frames frames' : List Frame} {deltas : List Delta}
    (h : List.Forall₂ Frame.Rearranges frames frames') (ho : ∀ f ∈ frames, f.NamesOnce) :
    compiler.compileAll frames' = .ok deltas ↔ compiler.compileAll frames = .ok deltas :=
  compileFrom_iff_of_rearranges h ho .none fun _ hm => nomatch hm

end Compiler

end FrameScript
