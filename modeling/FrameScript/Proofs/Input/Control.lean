import FrameScript.Input.Compiler
import Mathlib.Data.List.Nodup

/-!
# Controls

A control is a key or a button. It is pressed and released by an event each, and no other event
touches it. `Frame.naming` collects the entries of a frame that name a control; several names may
mean the same one.

## Results

* `holds_run_of_unmentioned`, `holds_run_of_press`, `not_holds_run_of_release`: what a sequence of
  events does to a control of which it has no event, presses only, or releases only.
* `nodup_events`: no event occurs twice in a delta.
* `Frame.naming_eq_singleton_iff`: a frame without repeated names has one entry for a control
  exactly if one of its names means the control.
-/

namespace FrameScript

/-- What can be held down. -/
inductive Control where
  | key (code : Int)
  | button (code : Int)
  deriving DecidableEq

namespace Control

/-- The event that presses a control. -/
def press : Control → Event
  | key code => .pressKey code
  | button code => .pressButton code

/-- The event that releases a control. -/
def release : Control → Event
  | key code => .releaseKey code
  | button code => .releaseButton code

/-- The control that the name of a field means, if it means one. -/
def named? (name : Text) : Option Control :=
  match Field.readKind name with
  | .ok (.key code) => some (.key code)
  | .ok (.button number) => some (.button number)
  | _ => none

end Control

/-! ## Holding -/

namespace Held

variable {held : Held} {control : Control} {event : Event} {events : List Event}

/-- The control is down. -/
def Holds (held : Held) : Control → Prop
  | .key code => code ∈ held.keys
  | .button code => code ∈ held.buttons

instance (held : Held) (control : Control) : Decidable (held.Holds control) := by
  cases control with
  | key code => exact inferInstanceAs (Decidable (code ∈ held.keys))
  | button code => exact inferInstanceAs (Decidable (code ∈ held.buttons))

theorem not_holds_released (control : Control) : ¬released.Holds control := by
  cases control with
  | key code => exact CodeSet.not_mem_empty code
  | button code => exact CodeSet.not_mem_empty code

theorem holds_step_iff :
    (held.step event).Holds control ↔
      event = control.press ∨ held.Holds control ∧ event ≠ control.release := by
  cases event <;> cases control <;>
    simp [Holds, step, Control.press, Control.release, CodeSet.mem_insert, CodeSet.mem_erase,
      eq_comm]

theorem run_append (held : Held) (events later : List Event) :
    held.run (events ++ later) = (held.run events).run later :=
  List.foldl_append

theorem run_cons (held : Held) (event : Event) (events : List Event) :
    held.run (event :: events) = (held.step event).run events :=
  rfl

/-- What is down stays down until it is released. -/
theorem holds_run_of_not_released (h : held.Holds control) (hr : control.release ∉ events) :
    (held.run events).Holds control := by
  induction events generalizing held with
  | nil => exact h
  | cons event rest ih =>
    rw [List.mem_cons, not_or] at hr
    exact ih (holds_step_iff.mpr (Or.inr ⟨h, Ne.symm hr.1⟩)) hr.2

/-- What is down was down before or has been pressed. -/
theorem press_or_holds (h : (held.run events).Holds control) :
    control.press ∈ events ∨ held.Holds control := by
  induction events generalizing held with
  | nil => exact Or.inr h
  | cons event rest ih =>
    rcases ih h with hp | hs
    · exact Or.inl (List.mem_cons_of_mem _ hp)
    · rcases holds_step_iff.mp hs with rfl | ⟨hh, -⟩
      · exact Or.inl List.mem_cons_self
      · exact Or.inr hh

/-- **Events of other controls change nothing.** -/
theorem holds_run_of_unmentioned (hp : control.press ∉ events) (hr : control.release ∉ events) :
    (held.run events).Holds control ↔ held.Holds control :=
  ⟨fun h => (press_or_holds h).resolve_left hp, fun h => holds_run_of_not_released h hr⟩

/-- **A control that is pressed and not released is down.** -/
theorem holds_run_of_press (hp : control.press ∈ events) (hr : control.release ∉ events) :
    (held.run events).Holds control := by
  induction events generalizing held with
  | nil => exact absurd hp List.not_mem_nil
  | cons event rest ih =>
    rw [List.mem_cons, not_or] at hr
    rcases List.mem_cons.mp hp with rfl | hp
    · rw [run_cons]
      exact holds_run_of_not_released (holds_step_iff.mpr (Or.inl rfl)) hr.2
    · exact ih hp hr.2

/-- **A control that is released and not pressed is up.** -/
theorem not_holds_run_of_release (hr : control.release ∈ events) (hp : control.press ∉ events) :
    ¬(held.run events).Holds control := by
  induction events generalizing held with
  | nil => exact absurd hr List.not_mem_nil
  | cons event rest ih =>
    rw [List.mem_cons, not_or] at hp
    rcases List.mem_cons.mp hr with rfl | hr
    · rw [run_cons]
      intro h
      rcases press_or_holds h with hpress | hh
      · exact hp.2 hpress
      · rcases holds_step_iff.mp hh with he | ⟨-, he⟩
        · exact hp.1 he.symm
        · exact he rfl
    · exact ih hr hp.2

end Held

/-! ## Deltas -/

namespace Delta

variable {delta : Delta} {control : Control}

/-- The delta presses the control. -/
def Presses (delta : Delta) : Control → Prop
  | .key code => code ∈ delta.pressKeys
  | .button code => code ∈ delta.pressButtons

/-- The delta releases the control. -/
def Releases (delta : Delta) : Control → Prop
  | .key code => code ∈ delta.releaseKeys
  | .button code => code ∈ delta.releaseButtons

theorem press_mem_events_iff : control.press ∈ delta.events ↔ delta.Presses control := by
  cases control <;> simp [events, Control.press, Presses, CodeSet.mem_iff]

theorem release_mem_events_iff : control.release ∈ delta.events ↔ delta.Releases control := by
  cases control <;> simp [events, Control.release, Releases, CodeSet.mem_iff]

theorem nodup_map_codes (set : CodeSet) {f : Int → Event} (hf : Function.Injective f) :
    (set.codes.map f).Nodup :=
  List.pairwise_map.mpr (set.ascending.imp fun hlt he => Int.ne_of_lt hlt (hf he))

/-- No event occurs twice in a delta. -/
theorem nodup_events (delta : Delta) : delta.events.Nodup := by
  have hmove : (delta.move.map fun place => Event.move place.1 place.2).toList.Nodup := by
    cases delta.move with
    | none => exact List.nodup_nil
    | some place => exact List.nodup_singleton _
  have hpb := nodup_map_codes delta.pressButtons fun _ _ h => Event.pressButton.inj h
  have hrb := nodup_map_codes delta.releaseButtons fun _ _ h => Event.releaseButton.inj h
  have hpk := nodup_map_codes delta.pressKeys fun _ _ h => Event.pressKey.inj h
  have hrk := nodup_map_codes delta.releaseKeys fun _ _ h => Event.releaseKey.inj h
  refine (((hmove.append hpb ?_).append hrb ?_).append hpk ?_).append hrk ?_
  all_goals
    -- The events of each part have a constructor of their own.
    intro event hbefore hm
    obtain ⟨code, -, rfl⟩ := List.mem_map.mp hm
    simp at hbefore

theorem mouse_run_map {f : Int → Event} (hf : ∀ (held : Held) code, (held.step (f code)).mouse =
    held.mouse) (held : Held) (codes : List Int) : (held.run (codes.map f)).mouse = held.mouse := by
  induction codes generalizing held with
  | nil => rfl
  | cons code rest ih =>
    rw [List.map_cons, Held.run_cons, ih, hf]

/-- A delta moves the mouse or leaves it where it is. -/
theorem mouse_run_events (held : Held) (delta : Delta) :
    (held.run delta.events).mouse = delta.move.or held.mouse := by
  unfold events
  rw [Held.run_append, mouse_run_map fun _ _ => rfl, Held.run_append, mouse_run_map fun _ _ => rfl,
    Held.run_append, mouse_run_map fun _ _ => rfl, Held.run_append, mouse_run_map fun _ _ => rfl]
  cases delta.move <;> rfl

end Delta

/-! ## Naming controls -/

namespace Frame

variable {frame other : Frame} {control : Control} {name value : Text}

/-- The names of the fields of a frame. -/
def names (frame : Frame) : List Text :=
  frame.entries.map Prod.fst

/-- No field occurs twice in the frame. -/
def NamesOnce (frame : Frame) : Prop :=
  frame.names.Nodup

instance (frame : Frame) : Decidable frame.NamesOnce :=
  inferInstanceAs (Decidable frame.names.Nodup)

/-- The entries of which the names mean the control. -/
def naming (frame : Frame) (control : Control) : List (Text × Text) :=
  frame.entries.filter fun entry => Control.named? entry.1 = some control

/-- The control is named by exactly one field, and its value is active. -/
def DeclaresActive (frame : Frame) (control : Control) : Prop :=
  ∃ name value, frame.naming control = [(name, value)] ∧ value ∉ inactiveValues

/-- The control is named by exactly one field, and its value is inactive. -/
def DeclaresInactive (frame : Frame) (control : Control) : Prop :=
  ∃ name value, frame.naming control = [(name, value)] ∧ value ∈ inactiveValues

theorem not_declaresActive_of_inactive (h : frame.DeclaresInactive control) :
    ¬frame.DeclaresActive control := by
  rintro ⟨name, value, hn, hv⟩
  obtain ⟨name', value', hn', hv'⟩ := h
  rw [hn'] at hn
  cases hn
  exact hv hv'

theorem mem_naming_iff {entry : Text × Text} :
    entry ∈ frame.naming control ↔
      entry ∈ frame.entries ∧ Control.named? entry.1 = some control := by
  rw [naming, List.mem_filter, decide_eq_true_iff]

theorem mem_entries_of_value? (h : frame.value? name = some value) :
    (name, value) ∈ frame.entries :=
  List.mem_reverse.mp (mem_of_lookup h)

theorem isSome_value?_iff : (frame.value? name).isSome = true ↔ name ∈ frame.names := by
  unfold value? names
  rw [List.lookup_isSome_iff, List.mem_map]
  constructor
  · rintro ⟨entry, hm, he⟩
    exact ⟨entry, List.mem_reverse.mp hm, (eq_of_beq he).symm⟩
  · rintro ⟨entry, hm, rfl⟩
    exact ⟨entry, List.mem_reverse.mpr hm, beq_self_eq_true _⟩

theorem value?_of_mem (h : frame.NamesOnce) (hm : (name, value) ∈ frame.entries) :
    frame.value? name = some value := by
  obtain ⟨value', hv⟩ := Option.isSome_iff_exists.mp
    (isSome_value?_iff.mpr (List.mem_map.mpr ⟨_, hm, rfl⟩))
  have heq := List.inj_on_of_nodup_map h hm (mem_entries_of_value? hv) rfl
  rw [(Prod.mk.inj heq).2]
  exact hv

theorem sameFields_iff :
    frame.sameFields other = true ↔ ∀ name, name ∈ frame.names ↔ name ∈ other.names := by
  unfold sameFields
  simp only [Bool.and_eq_true, List.all_eq_true, isSome_value?_iff]
  constructor
  · rintro ⟨hl, hr⟩ name
    constructor
    · intro hn
      obtain ⟨entry, hm, rfl⟩ := List.mem_map.mp hn
      exact hl entry hm
    · intro hn
      obtain ⟨entry, hm, rfl⟩ := List.mem_map.mp hn
      exact hr entry hm
  · intro h
    exact ⟨fun entry hm => (h _).mp (List.mem_map.mpr ⟨entry, hm, rfl⟩),
      fun entry hm => (h _).mpr (List.mem_map.mpr ⟨entry, hm, rfl⟩)⟩

/-- **A frame has one entry for a control exactly if one of its names means the control.** -/
theorem naming_eq_singleton_iff (h : frame.NamesOnce) :
    frame.naming control = [(name, value)] ↔
      frame.value? name = some value ∧ Control.named? name = some control ∧
        ∀ n ∈ frame.names, Control.named? n = some control → n = name := by
  constructor
  · intro hn
    have hmem : (name, value) ∈ frame.naming control := by
      rw [hn]
      exact List.mem_cons_self
    obtain ⟨hentry, hnamed⟩ := mem_naming_iff.mp hmem
    refine ⟨value?_of_mem h hentry, hnamed, fun n hmem hother => ?_⟩
    obtain ⟨entry, he, rfl⟩ := List.mem_map.mp hmem
    have := mem_naming_iff.mpr ⟨he, hother⟩
    rw [hn, List.mem_singleton] at this
    rw [this]
  · rintro ⟨hv, hnamed, hunique⟩
    have hmem : (name, value) ∈ frame.naming control :=
      mem_naming_iff.mpr ⟨mem_entries_of_value? hv, hnamed⟩
    have hall : ∀ entry ∈ frame.naming control, entry = (name, value) := by
      intro entry he
      obtain ⟨hentry, hother⟩ := mem_naming_iff.mp he
      have hname := hunique entry.1 (List.mem_map.mpr ⟨entry, hentry, rfl⟩) hother
      exact List.inj_on_of_nodup_map h hentry (mem_entries_of_value? hv) hname
    have hnodup : (frame.naming control).Nodup := (List.Nodup.of_map _ h).filter _
    have hrep := List.eq_replicate_of_mem hall
    rw [hrep, List.nodup_replicate] at hnodup
    have hlength : (frame.naming control).length = 1 :=
      Nat.le_antisymm hnodup (List.length_pos_of_mem hmem)
    rw [hrep, hlength]
    rfl

/-- A control that one field of a frame names is named by the same field, and by no other, in
every frame with the same fields. -/
theorem naming_of_sameFields (h : frame.NamesOnce) (ho : other.NamesOnce)
    (hs : ∀ name, name ∈ frame.names ↔ name ∈ other.names)
    (hn : frame.naming control = [(name, value)]) :
    ∃ prior, other.naming control = [(name, prior)] := by
  obtain ⟨hv, hnamed, hunique⟩ := (naming_eq_singleton_iff h).mp hn
  have hmem : name ∈ other.names := by
    rw [← hs, ← isSome_value?_iff, hv]
    rfl
  obtain ⟨prior, hp⟩ := Option.isSome_iff_exists.mp (isSome_value?_iff.mpr hmem)
  exact ⟨prior, (naming_eq_singleton_iff ho).mpr
    ⟨hp, hnamed, fun n hmem => hunique n ((hs n).mpr hmem)⟩⟩

end Frame

end FrameScript
