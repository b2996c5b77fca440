import FrameScript.Proofs.Input.Compiling
import FrameScript.Proofs.Script.Columns

/-!
# Controls that are pressed and released at once

A delta is meant to press a control or to release it, and not both. Each field of a frame asks for
one of the two at most, but several fields of a format may mean the same control: the key of a
letter has a capital and a small name, and the number of a button may begin with zeros. Where one
such field becomes active and another one becomes inactive, the delta has both.

## Results

* `Compiler.clashes_iff`: when a delta clashes over a control, in terms of the fields of the format.
* `Compiler.disjoint_iff_of_format`: **when no control is pressed and released at once**; always
  so without a frame before, and in formats of which the fields mean different controls.
* `Compiler.clashes_capitalSmall`: the capital and the small name of a key clash.
-/

namespace FrameScript

/-- The delta presses the control and releases it. -/
def Delta.Clashes (delta : Delta) (control : Control) : Prop :=
  delta.Presses control ∧ delta.Releases control

/-- What a field holds down, if it is no axis. -/
def Field.control? (field : Field) : Option Control :=
  match field.kind with
  | .key code => some (.key code)
  | .button number => some (.button number)
  | _ => none

/-- The field becomes active in the frame, or takes another active value. -/
def Frame.Activates (frame : Frame) (previous : Option Frame) (name : Text) : Prop :=
  ∃ value, frame.value? name = some value ∧ value ∉ inactiveValues ∧
    previous.bind (·.value? name) ≠ some value

/-- The field becomes inactive in the frame. -/
def Frame.Deactivates (frame : Frame) (previous : Option Frame) (name : Text) : Prop :=
  ∃ value, frame.value? name = some value ∧ value ∈ inactiveValues ∧
    isInactive (previous.bind (·.value? name)) = false

theorem Frame.not_deactivates_of_activates {frame : Frame} {previous : Option Frame} {name : Text}
    (h : frame.Activates previous name) : ¬frame.Deactivates previous name := by
  rintro ⟨value', hv', hi, -⟩
  obtain ⟨value, hv, hn, -⟩ := h
  rw [hv] at hv'
  exact hn (Option.some.inj hv' ▸ hi)

theorem Field.named?_eq_control? {source : Text} {place : Place} {format : Format} {field : Field}
    (h : Format.read source place = .ok format) (hf : field ∈ format.fields) :
    Control.named? field.name = field.control? := by
  unfold Control.named? Field.control?
  rw [Format.readKind_of_mem h hf]
  cases field.kind <;> rfl

namespace Compiler

/-! ## One field -/

section Change

variable {prior : Option Text} {value : Text}

theorem between_eq_press_iff :
    Change.between prior value = .press ↔ value ∉ inactiveValues ∧ prior ≠ some value := by
  have hv : isInactive (some value) = true ↔ value ∈ inactiveValues := List.contains_iff_mem
  unfold Change.between
  by_cases he : some value = prior
  · simp [he]
  · by_cases hi : value ∈ inactiveValues
    · rw [if_neg he, if_pos (hv.mpr hi)]
      split <;> simp [hi]
    · rw [if_neg he, if_neg (hv.not.mpr hi)]
      exact iff_of_true rfl ⟨hi, Ne.symm he⟩

theorem between_eq_release_iff :
    Change.between prior value = .release ↔
      value ∈ inactiveValues ∧ isInactive prior = false := by
  have hv : isInactive (some value) = true ↔ value ∈ inactiveValues := List.contains_iff_mem
  unfold Change.between
  by_cases he : some value = prior
  · rw [if_pos he, ← hv, he]
    simp
  · by_cases hi : value ∈ inactiveValues
    · rw [if_neg he, if_pos (hv.mpr hi)]
      cases isInactive prior <;> simp [hi]
    · rw [if_neg he, if_neg (hv.not.mpr hi)]
      simp [hi]

end Change

variable {compiler : Compiler} {frame : Frame} {previous : Option Frame} {delta : Delta}
  {control : Control}

/-- What a delta does to a control, in terms of the names that mean it. -/
theorem makes_iff_of_namesOnce (h : compiler.compile frame previous = .ok delta)
    (ho : frame.NamesOnce) (control : Control) {change : Change} (hc : change ≠ .keep) :
    delta.Makes control change ↔
      ∃ name ∈ frame.names, Control.named? name = some control ∧
        ∃ value, frame.value? name = some value ∧ changeOf previous (name, value) = change := by
  rw [makes_iff_of_compile h hc]
  constructor
  · rintro ⟨⟨name, value⟩, he, hchange⟩
    obtain ⟨hentry, hnamed⟩ := Frame.mem_naming_iff.mp he
    exact ⟨name, List.mem_map.mpr ⟨_, hentry, rfl⟩, hnamed, value,
      Frame.value?_of_mem ho hentry, hchange⟩
  · rintro ⟨name, -, hnamed, value, hv, hchange⟩
    exact ⟨(name, value), Frame.mem_naming_iff.mpr ⟨Frame.mem_entries_of_value? hv, hnamed⟩,
      hchange⟩

/-! ## Frames of a format -/

section Format

variable {source line : Text} {place at' : Place} {format : Format}

theorem exists_name_iff_field (hr : Format.read source place = .ok format)
    (hf : format.frame? at' line = some frame) {P : Text → Prop} :
    (∃ name ∈ frame.names, Control.named? name = some control ∧ P name) ↔
      ∃ f ∈ format.fields, f.control? = some control ∧ P f.name := by
  rw [Format.names_of_frame? hf, Format.names]
  constructor
  · rintro ⟨name, hm, hn, hp⟩
    obtain ⟨f, hfield, rfl⟩ := List.mem_map.mp hm
    exact ⟨f, hfield, Field.named?_eq_control? hr hfield ▸ hn, hp⟩
  · rintro ⟨f, hfield, hcontrol, hp⟩
    exact ⟨f.name, List.mem_map.mpr ⟨f, hfield, rfl⟩,
      (Field.named?_eq_control? hr hfield).trans hcontrol, hp⟩

/-- A delta presses a control for which some field becomes active. -/
theorem presses_iff_of_format (hr : Format.read source place = .ok format)
    (hf : format.frame? at' line = some frame)
    (h : compiler.compile frame previous = .ok delta) :
    delta.Presses control ↔
      ∃ f ∈ format.fields, f.control? = some control ∧ frame.Activates previous f.name := by
  have hc : Change.press ≠ .keep := Change.noConfusion
  have hmakes := makes_iff_of_namesOnce h (Format.namesOnce_of_frame? hr hf) control hc
  simp only [changeOf, between_eq_press_iff] at hmakes
  exact hmakes.trans (exists_name_iff_field hr hf)

/-- A delta releases a control for which some field becomes inactive. -/
theorem releases_iff_of_format (hr : Format.read source place = .ok format)
    (hf : format.frame? at' line = some frame)
    (h : compiler.compile frame previous = .ok delta) :
    delta.Releases control ↔
      ∃ f ∈ format.fields, f.control? = some control ∧ frame.Deactivates previous f.name := by
  have hc : Change.release ≠ .keep := Change.noConfusion
  have hmakes := makes_iff_of_namesOnce h (Format.namesOnce_of_frame? hr hf) control hc
  simp only [changeOf, between_eq_release_iff] at hmakes
  exact hmakes.trans (exists_name_iff_field hr hf)

/-- **When a delta clashes over a control**: one field that means it becomes active, and another
one becomes inactive. -/
theorem clashes_iff (hr : Format.read source place = .ok format)
    (hf : format.frame? at' line = some frame)
    (h : compiler.compile frame previous = .ok delta) :
    delta.Clashes control ↔
      ∃ f ∈ format.fields, ∃ g ∈ format.fields, f.control? = some control ∧
        g.control? = some control ∧ frame.Activates previous f.name ∧
        frame.Deactivates previous g.name := by
  rw [Delta.Clashes, presses_iff_of_format hr hf h, releases_iff_of_format hr hf h]
  constructor
  · rintro ⟨⟨f, hfm, hfc, hfa⟩, g, hgm, hgc, hgd⟩
    exact ⟨f, hfm, g, hgm, hfc, hgc, hfa, hgd⟩
  · rintro ⟨f, hfm, g, hgm, hfc, hgc, hfa, hgd⟩
    exact ⟨⟨f, hfm, hfc, hfa⟩, g, hgm, hgc, hgd⟩

/-- Without a frame before nothing is released. -/
theorem not_deactivates_none (name : Text) : ¬frame.Deactivates none name := by
  rintro ⟨value, -, -, hq⟩
  cases hq

/-- **When no control is pressed and released at once**, for a frame of a format that can be read,
with any values, after any frame or none: exactly if no two fields mean the same control of which
one becomes active and the other inactive. It is so for a frame that comes first, and it is always
so in a format of which the fields mean different controls. -/
theorem disjoint_iff_of_format (hr : Format.read source place = .ok format)
    (hf : format.frame? at' line = some frame)
    (h : compiler.compile frame previous = .ok delta) :
    ((∀ control, ¬delta.Clashes control) ↔
        ∀ f ∈ format.fields, ∀ g ∈ format.fields, f.control? ≠ none →
          f.control? = g.control? → frame.Activates previous f.name →
            ¬frame.Deactivates previous g.name) ∧
      (previous = none → ∀ control, ¬delta.Clashes control) ∧
      ((∀ f ∈ format.fields, ∀ g ∈ format.fields, f.control? ≠ none →
          f.control? = g.control? → f = g) → ∀ control, ¬delta.Clashes control) := by
  have hiff : (∀ control, ¬delta.Clashes control) ↔
      ∀ f ∈ format.fields, ∀ g ∈ format.fields, f.control? ≠ none →
        f.control? = g.control? → frame.Activates previous f.name →
          ¬frame.Deactivates previous g.name := by
    constructor
    · intro hnone f hfm g hgm hsome heq ha hd
      obtain ⟨control, hc⟩ := Option.ne_none_iff_exists'.mp hsome
      exact hnone control
        ((clashes_iff hr hf h).mpr ⟨f, hfm, g, hgm, hc, heq ▸ hc, ha, hd⟩)
    · intro hall control hclash
      obtain ⟨f, hfm, g, hgm, hfc, hgc, ha, hd⟩ := (clashes_iff hr hf h).mp hclash
      exact hall f hfm g hgm (by simp [hfc]) (hfc.trans hgc.symm) ha hd
  refine ⟨hiff, ?_, ?_⟩
  · rintro rfl
    exact hiff.mpr fun f _ g _ _ _ _ => not_deactivates_none g.name
  · intro hapart
    refine hiff.mpr fun f hfm g hgm hsome heq ha => ?_
    rw [← hapart f hfm g hgm hsome heq]
    exact Frame.not_deactivates_of_activates ha

end Format

/-- A format of two keys, with the codes that their names mean. -/
def twoKeys (first second : Text) (code other : Nat) : Format :=
  ⟨'<' :: first ++ "> <".toList ++ second ++ ['>'], [],
    [⟨⟨first, .key code⟩, [' ']⟩, ⟨⟨second, .key other⟩, []⟩]⟩

/-- A frame with two values. -/
def twoValues (first second value other : Text) : Frame :=
  ⟨[(first, value), (second, other)], ⟨none, none⟩⟩

/-- Two letters that change places: the one is released and the other pressed. -/
theorem disjoint_twoLetters :
    Format.read "<KA> <KB>".toList ⟨none, none⟩ = .ok (twoKeys ['K', 'A'] ['K', 'B'] 65 66) ∧
      Compiler.compile ⟨⟨0, 0⟩, true⟩ (twoValues ['K', 'A'] ['K', 'B'] ['.'] ['B'])
          (some (twoValues ['K', 'A'] ['K', 'B'] ['A'] ['.'])) =
        .ok ⟨none, .empty, .empty, .ofList [66], .ofList [65]⟩ ∧
      ∀ control,
        ¬(⟨none, .empty, .empty, .ofList [66], .ofList [65]⟩ : Delta).Clashes control := by
  have hread : Format.read "<KA> <KB>".toList ⟨none, none⟩ =
      .ok (twoKeys ['K', 'A'] ['K', 'B'] 65 66) := by decide +kernel
  have hframe : (twoKeys ['K', 'A'] ['K', 'B'] 65 66).frame? ⟨none, none⟩ ". B".toList =
      some (twoValues ['K', 'A'] ['K', 'B'] ['.'] ['B']) := by decide
  have hcompile : Compiler.compile ⟨⟨0, 0⟩, true⟩ (twoValues ['K', 'A'] ['K', 'B'] ['.'] ['B'])
      (some (twoValues ['K', 'A'] ['K', 'B'] ['A'] ['.'])) =
      .ok ⟨none, .empty, .empty, .ofList [66], .ofList [65]⟩ := by decide
  exact ⟨hread, hcompile, (disjoint_iff_of_format hread hframe hcompile).2.2 (by decide)⟩

/-- **The capital and the small name of a key clash.** A format may have both, and where one of them
becomes active while the other becomes inactive, the delta presses the key and releases it. -/
theorem clashes_capitalSmall :
    Format.read "<KA> <Ka>".toList ⟨none, none⟩ = .ok (twoKeys ['K', 'A'] ['K', 'a'] 65 65) ∧
      (twoKeys ['K', 'A'] ['K', 'a'] 65 65).frame? ⟨none, none⟩ ". a".toList =
        some (twoValues ['K', 'A'] ['K', 'a'] ['.'] ['a']) ∧
      (twoKeys ['K', 'A'] ['K', 'a'] 65 65).frame? ⟨none, none⟩ "A .".toList =
        some (twoValues ['K', 'A'] ['K', 'a'] ['A'] ['.']) ∧
      ∃ delta : Delta,
        Compiler.compile ⟨⟨0, 0⟩, true⟩ (twoValues ['K', 'A'] ['K', 'a'] ['A'] ['.'])
            (some (twoValues ['K', 'A'] ['K', 'a'] ['.'] ['a'])) = .ok delta ∧
          65 ∈ delta.pressKeys ∧ 65 ∈ delta.releaseKeys :=
  ⟨by decide +kernel, by decide, by decide,
    ⟨none, .empty, .empty, .ofList [65], .ofList [65]⟩, by decide, by decide, by decide⟩

end Compiler

end FrameScript
