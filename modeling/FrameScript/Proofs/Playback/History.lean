import FrameScript.Proofs.Input.Compiling

/-!
# Histories of playing

A history tells of each tick which frame it played, whether the frame could be compiled, whether
the tick was applied, and all that the device had taken by then. `Played` says which histories can
come about: a frame is compiled after the last one that could be compiled, and the device takes the
events of its delta from the first on, all of them if the tick is applied.

## Results

* `Played.previous_eq`, `Played.together`: the last frame that could be compiled is the predecessor
  of the next one, and all of them have the same fields.
* `Effect.of_compile`: what a frame does to a control that one of its fields names.
-/

namespace FrameScript

/-- A tick that has been played: its frame, whether it could be compiled, whether the tick was
applied, and the state that it left. -/
structure Tick (σ : Type) where
  frame : Frame
  compiled : Bool
  applied : Bool
  state : σ

variable {σ υ : Type}

/-- A tick with what can be seen of its state. -/
def Tick.view (see : σ → υ) (tick : Tick σ) : Tick υ :=
  ⟨tick.frame, tick.compiled, tick.applied, see tick.state⟩

/-- The frames that could be compiled, in their order. -/
def compiledFrames (ticks : List (Tick σ)) : List Frame :=
  (ticks.filter Tick.compiled).map Tick.frame

theorem compiledFrames_append (ticks later : List (Tick σ)) :
    compiledFrames (ticks ++ later) = compiledFrames ticks ++ compiledFrames later := by
  rw [compiledFrames, List.filter_append, List.map_append]
  rfl

theorem compiledFrames_concat {ticks : List (Tick σ)} {tick : Tick σ} :
    compiledFrames (ticks ++ [tick]) =
      if tick.compiled then compiledFrames ticks ++ [tick.frame] else compiledFrames ticks := by
  rw [compiledFrames_append]
  cases hc : tick.compiled with
  | true => simp [compiledFrames, hc]
  | false => simp [compiledFrames, hc]

theorem exists_tick_of_mem {ticks : List (Tick σ)} {frame : Frame}
    (h : frame ∈ compiledFrames ticks) : ∃ tick ∈ ticks, tick.frame = frame := by
  obtain ⟨tick, ht, rfl⟩ := List.mem_map.mp h
  exact ⟨tick, List.mem_of_mem_filter ht, rfl⟩

theorem compiledFrames_view (see : σ → υ) (ticks : List (Tick σ)) :
    compiledFrames (ticks.map (Tick.view see)) = compiledFrames ticks := by
  unfold compiledFrames
  rw [List.filter_map, List.map_map]
  rfl

/-- `Played compiler ticks previous log`: the ticks can have been played, `previous` is the last
frame that could be compiled, and `log` is what the device has taken. -/
inductive Played (compiler : Compiler) :
    List (Tick (List Event)) → Option Frame → List Event → Prop where
  | nil : Played compiler [] none []
  | skip {ticks previous log frame failure} (h : Played compiler ticks previous log)
      (hc : compiler.compile frame previous = .error failure) :
      Played compiler (ticks ++ [⟨frame, false, false, log⟩]) previous log
  | play {ticks previous log frame delta sent applied} (h : Played compiler ticks previous log)
      (hc : compiler.compile frame previous = .ok delta) (hs : sent <+: delta.events)
      (ha : applied = true → sent = delta.events) :
      Played compiler (ticks ++ [⟨frame, true, applied, log ++ sent⟩]) (some frame) (log ++ sent)

/-- All frames have the same fields. -/
def Together (frames : List Frame) : Prop :=
  ∀ f ∈ frames, ∀ g ∈ frames, ∀ name, name ∈ f.names ↔ name ∈ g.names

namespace Played

variable {compiler : Compiler} {ticks : List (Tick (List Event))} {previous : Option Frame}
  {log : List Event}

/-- The predecessor of the next frame is the last one that could be compiled. -/
theorem previous_eq (h : Played compiler ticks previous log) :
    previous = (compiledFrames ticks).getLast? := by
  induction h with
  | nil => rfl
  | skip _ _ ih => rw [compiledFrames_concat, if_neg Bool.false_ne_true, ih]
  | play _ _ _ _ _ => rw [compiledFrames_concat, if_pos rfl, List.getLast?_concat]

/-- Nothing is sent before a frame could be compiled. -/
theorem log_eq_nil (h : Played compiler ticks previous log) (hn : compiledFrames ticks = []) :
    log = [] := by
  induction h with
  | nil => rfl
  | skip _ _ ih =>
    rw [compiledFrames_concat, if_neg Bool.false_ne_true] at hn
    exact ih hn
  | play _ _ _ _ _ =>
    rw [compiledFrames_concat, if_pos rfl] at hn
    exact absurd hn (List.append_ne_nil_of_right_ne_nil _ (List.cons_ne_nil _ _))

/-- Only frames that could be compiled are applied. -/
theorem compiled_of_applied (h : Played compiler ticks previous log) :
    ∀ tick ∈ ticks, tick.applied = true → tick.compiled = true := by
  induction h with
  | nil => exact fun tick ht => absurd ht List.not_mem_nil
  | skip _ _ ih =>
    intro tick ht ha
    rcases List.mem_append.mp ht with ht | ht
    · exact ih tick ht ha
    · rw [List.mem_singleton.mp ht] at ha
      cases ha
  | play _ _ _ _ ih =>
    intro tick ht ha
    rcases List.mem_append.mp ht with ht | ht
    · exact ih tick ht ha
    · rw [List.mem_singleton.mp ht]

end Played

/-- A frame that can be compiled after the last of several with the same fields has them, too. -/
theorem together_concat {compiler : Compiler} {frames : List Frame} {frame : Frame} {delta : Delta}
    (h : Together frames) (hc : compiler.compile frame frames.getLast? = .ok delta) :
    Together (frames ++ [frame]) := by
  have hlast : ∀ f ∈ frames, ∀ name, name ∈ frame.names ↔ name ∈ f.names := by
    intro f hf name
    have hne : frames ≠ [] := List.ne_nil_of_mem hf
    rw [List.getLast?_eq_some_getLast hne] at hc
    rw [Compiler.names_of_compile hc]
    exact h _ (List.getLast_mem hne) f hf name
  intro f hf g hg name
  rw [List.mem_append, List.mem_singleton] at hf hg
  rcases hf with hf | rfl
  · rcases hg with hg | rfl
    · exact h f hf g hg name
    · exact (hlast f hf name).symm
  · rcases hg with hg | rfl
    · exact hlast g hg name
    · rfl

theorem Played.together {compiler : Compiler} {ticks : List (Tick (List Event))}
    {previous : Option Frame} {log : List Event} (h : Played compiler ticks previous log) :
    Together (compiledFrames ticks) := by
  induction h with
  | nil => exact fun f hf => absurd hf List.not_mem_nil
  | skip _ _ ih =>
    rw [compiledFrames_concat, if_neg Bool.false_ne_true]
    exact ih
  | play hp hc _ _ ih =>
    rw [compiledFrames_concat, if_pos rfl]
    rw [hp.previous_eq] at hc
    exact together_concat ih hc

/-! ## Single controls -/

theorem isInactive_iff {value : Text} : isInactive (some value) = true ↔ value ∈ inactiveValues :=
  List.contains_iff_mem

theorem between_cases (prior : Option Text) (value : Text) :
    Compiler.Change.between prior value = .keep ∧
        (value ∈ inactiveValues ↔ isInactive prior = true) ∨
      Compiler.Change.between prior value = .press ∧ value ∉ inactiveValues ∨
      Compiler.Change.between prior value = .release ∧ value ∈ inactiveValues ∧
        isInactive prior = false := by
  unfold Compiler.Change.between
  rw [← isInactive_iff]
  split
  · rename_i he
    exact Or.inl ⟨rfl, by rw [he]⟩
  · split
    · rename_i hv
      cases hq : isInactive prior with
      | true => exact Or.inl ⟨rfl, iff_of_true hv rfl⟩
      | false => exact Or.inr (Or.inr ⟨rfl, hv, rfl⟩)
    · rename_i hv
      exact Or.inr (Or.inl ⟨rfl, hv⟩)

/-- What a frame does to a control that one of its fields names: its delta has no event of the
control, or presses it, or releases it. -/
inductive Effect (previous : Option Frame) (delta : Delta) (control : Control)
    (name value : Text) : Prop where
  | keep (hp : control.press ∉ delta.events) (hr : control.release ∉ delta.events)
      (hv : value ∈ inactiveValues ↔ isInactive (previous.bind (·.value? name)) = true)
  | press (hp : control.press ∈ delta.events) (hr : control.release ∉ delta.events)
      (hv : value ∉ inactiveValues)
  | release (hr : control.release ∈ delta.events) (hp : control.press ∉ delta.events)
      (hv : value ∈ inactiveValues) (hq : isInactive (previous.bind (·.value? name)) = false)

/-- **What a frame does to a control** that one of its fields names. -/
theorem Effect.of_compile {compiler : Compiler} {frame : Frame} {previous : Option Frame}
    {delta : Delta} {control : Control} {name value : Text}
    (h : compiler.compile frame previous = .ok delta)
    (hn : frame.naming control = [(name, value)]) :
    Effect previous delta control name value := by
  have hmakes (change : Compiler.Change) (hc : change ≠ .keep) :
      delta.Makes control change ↔ Compiler.changeOf previous (name, value) = change :=
    Compiler.makes_iff_of_naming h hn hc
  have hpress : control.press ∈ delta.events ↔
      Compiler.changeOf previous (name, value) = .press :=
    Delta.press_mem_events_iff.trans (hmakes .press Compiler.Change.noConfusion)
  have hrelease : control.release ∈ delta.events ↔
      Compiler.changeOf previous (name, value) = .release :=
    Delta.release_mem_events_iff.trans (hmakes .release Compiler.Change.noConfusion)
  rcases between_cases (previous.bind (·.value? name)) value with
    ⟨hc, hv⟩ | ⟨hc, hv⟩ | ⟨hc, hv, hq⟩
  · exact .keep (fun hm => Compiler.Change.noConfusion (hc.symm.trans (hpress.mp hm)))
      (fun hm => Compiler.Change.noConfusion (hc.symm.trans (hrelease.mp hm))) hv
  · exact .press (hpress.mpr hc)
      (fun hm => Compiler.Change.noConfusion (hc.symm.trans (hrelease.mp hm))) hv
  · exact .release (hrelease.mpr hc)
      (fun hm => Compiler.Change.noConfusion (hc.symm.trans (hpress.mp hm))) hv hq

/-- What a frame says of a control that the next frame names once. -/
theorem declares_prior {compiler : Compiler} {frame last : Frame} {delta : Delta}
    {control : Control} {name value : Text} (ho : frame.NamesOnce) (hl : last.NamesOnce)
    (hc : compiler.compile frame (some last) = .ok delta)
    (hn : frame.naming control = [(name, value)]) :
    (isInactive (last.value? name) = true → last.DeclaresInactive control) ∧
      (isInactive (last.value? name) = false → last.DeclaresActive control) := by
  obtain ⟨prior, hp⟩ := Frame.naming_of_sameFields ho hl (Compiler.names_of_compile hc) hn
  rw [((Frame.naming_eq_singleton_iff hl).mp hp).1]
  refine ⟨fun h => ⟨name, prior, hp, isInactive_iff.mp h⟩, fun h => ⟨name, prior, hp, fun hv => ?_⟩⟩
  rw [isInactive_iff.mpr hv] at h
  cases h

end FrameScript
