import FrameScript.Proofs.Playback.Devices

/-!
# Replaying deltas

Deltas never say what is held; they say what changes. Played one after the other on a device that
begins with everything released, they nevertheless leave it as the last frame says: a control that
one field of the frame names is held exactly if the value of the field is active, and nothing is
held that no frame names. Only the frames that could be compiled count, and the mouse stands where
the last of them with a place has put it.

The proof carries the fields along: all frames that can be compiled have the same ones, so that a
control that one field of the last frame names was named by one field of each frame before.

## Results

* `Replaying.concat`: one more frame, with its delta.
* `replaying_of_played`, `replaying_of_go`: the same of timed runs and of previews.
* `replay_faithful`: **whatever is played, after every tick the device stands as the last frame
  says**.
-/

namespace FrameScript

open Held

variable {compiler : Compiler} {offset : Offset} {frames : List Frame} {log : List Event}

/-- The device has taken `log` and stands as the last of `frames` says. -/
structure Replayed (offset : Offset) (frames : List Frame) (log : List Event) : Prop where
  /-- A control that one field of the last frame names is held exactly if the field is active. -/
  holds_iff : ∀ frame, frames.getLast? = some frame → ∀ control name value,
    frame.naming control = [(name, value)] →
      ((released.run log).Holds control ↔ value ∉ inactiveValues)
  /-- What is held is named by a frame. -/
  named : ∀ control, (released.run log).Holds control → ∃ frame ∈ frames, frame.naming control ≠ []
  /-- A control that one field names is held whenever it is released. -/
  held_at_release : ∀ frame ∈ frames, ∀ control entry, frame.naming control = [entry] →
    ∀ before after, log = before ++ control.release :: after → (released.run before).Holds control
  /-- A frame has a place if it has a value for both axes and both are active. -/
  isSome_place? : ∀ frame ∈ frames, (frame.place?.isSome = true ↔
    ∀ axis : Axis, ∃ value, frame.value? axis.name = some value ∧ value ∉ inactiveValues)
  /-- The mouse stands where the last frame with a place has put it. -/
  mouse : (released.run log).mouse =
    (frames.reverse.findSome? Frame.place?).map fun place => offset.apply place.1 place.2

/-- Frames with the same fields, none of them twice, that have been replayed one after the other. -/
structure Replaying (offset : Offset) (frames : List Frame) (log : List Event) : Prop
    extends Replayed offset frames log where
  once : ∀ frame ∈ frames, frame.NamesOnce
  together : Together frames
  log_eq_nil : frames = [] → log = []

theorem replaying_nil (offset : Offset) : Replaying offset [] [] where
  holds_iff frame h := by cases h
  named control h := absurd h (not_holds_released control)
  held_at_release frame h := absurd h List.not_mem_nil
  isSome_place? frame h := absurd h List.not_mem_nil
  mouse := rfl
  once frame h := absurd h List.not_mem_nil
  together frame h := absurd h List.not_mem_nil
  log_eq_nil _ := rfl

namespace Replaying

variable {frame : Frame} {delta : Delta} {control : Control} {name value : Text}

/-- What the value of the last frame says of a control that the next frame names once. -/
theorem holds_iff_prior (h : Replaying offset frames log) (ho : frame.NamesOnce)
    (hc : compiler.compile frame frames.getLast? = .ok delta)
    (hn : frame.naming control = [(name, value)]) :
    (released.run log).Holds control ↔
      isInactive (frames.getLast?.bind (·.value? name)) = false := by
  cases hlast : frames.getLast? with
  | none =>
    rw [h.log_eq_nil (List.getLast?_eq_none_iff.mp hlast)]
    exact iff_of_false (not_holds_released control) Bool.noConfusion
  | some last =>
    rw [hlast] at hc
    have hmem := List.mem_of_getLast? hlast
    obtain ⟨prior, hp⟩ := Frame.naming_of_sameFields ho (h.once last hmem)
      (Compiler.names_of_compile hc) hn
    rw [h.holds_iff last hlast control name prior hp, Option.bind_some,
      ((Frame.naming_eq_singleton_iff (h.once last hmem)).mp hp).1, ← isInactive_iff,
      Bool.not_eq_true]

/-- A control that the next frame names once is held when the delta releases it. -/
theorem holds_before_release (h : Replaying offset frames log) (ho : frame.NamesOnce)
    (hc : compiler.compile frame frames.getLast? = .ok delta)
    (hn : frame.naming control = [(name, value)]) {mid after : List Event}
    (hevents : delta.events = mid ++ control.release :: after) :
    (released.run (log ++ mid)).Holds control := by
  have hmem : control.release ∈ delta.events := by
    rw [hevents]
    exact List.mem_append_right _ List.mem_cons_self
  have hmid : control.release ∉ mid := fun hm => by
    have hnodup := Delta.nodup_events delta
    rw [hevents] at hnodup
    exact List.disjoint_of_nodup_append hnodup hm List.mem_cons_self
  rw [run_append]
  refine holds_run_of_not_released ?_ hmid
  cases Effect.of_compile hc hn with
  | keep _ hr _ => exact absurd hmem hr
  | press _ hr _ => exact absurd hmem hr
  | release _ _ _ hq => exact (h.holds_iff_prior ho hc hn).mpr hq

/-- A control that the next frame names once is held after its delta exactly if it is active. -/
theorem holds_next_iff (h : Replaying offset frames log) (ho : frame.NamesOnce)
    (hc : compiler.compile frame frames.getLast? = .ok delta)
    (hn : frame.naming control = [(name, value)]) :
    (released.run (log ++ delta.events)).Holds control ↔ value ∉ inactiveValues := by
  rw [run_append]
  cases Effect.of_compile hc hn with
  | keep hp hr hv =>
    rw [holds_run_of_unmentioned hp hr, h.holds_iff_prior ho hc hn, hv, Bool.not_eq_true]
  | press hp hr hv => exact iff_of_true (holds_run_of_press hp hr) hv
  | release hr hp hv => exact iff_of_false (not_holds_run_of_release hr hp) fun hn => hn hv

/-- A control that one field of some frame names is held whenever it is released, by the next delta
as well. -/
theorem held_at_next_release (h : Replaying offset frames log) (ho : frame.NamesOnce)
    (hc : compiler.compile frame frames.getLast? = .ok delta) {f : Frame} {entry : Text × Text}
    (hf : f ∈ frames ++ [frame]) (hn : f.naming control = [entry]) {before after : List Event}
    (hlog : log ++ delta.events = before ++ control.release :: after) :
    (released.run before).Holds control := by
  have htogether := together_concat h.together hc
  have honce : f.NamesOnce := by
    rcases List.mem_append.mp hf with hf | hf
    · exact h.once f hf
    · rw [List.mem_singleton.mp hf]
      exact ho
  have hnew : ∀ mid, delta.events = mid ++ control.release :: after →
      (released.run (log ++ mid)).Holds control := by
    intro mid hevents
    obtain ⟨value, hv⟩ := Frame.naming_of_sameFields honce ho
      (htogether f hf frame (List.mem_append_right _ List.mem_cons_self)) hn
    exact h.holds_before_release ho hc hv hevents
  -- The release is one of the new delta, or it was there before.
  rcases List.append_eq_append_iff.mp hlog with ⟨mid, rfl, hevents⟩ | ⟨tail, hold, hrest⟩
  · exact hnew mid hevents
  · cases tail with
    | nil =>
      rw [List.append_nil] at hold
      rw [← hold, ← List.append_nil log]
      exact hnew [] hrest.symm
    | cons event tail =>
      obtain ⟨rfl, -⟩ := List.cons_eq_cons.mp hrest
      have hne : frames ≠ [] := fun hnil =>
        List.append_ne_nil_of_right_ne_nil _ (List.cons_ne_nil _ _)
          (hold.symm.trans (h.log_eq_nil hnil))
      have hlast := List.getLast_mem hne
      obtain ⟨value, hv⟩ := Frame.naming_of_sameFields honce (h.once _ hlast)
        (htogether f hf _ (List.mem_append_left _ hlast)) hn
      exact h.held_at_release _ hlast control _ hv before tail hold

/-- Where the mouse stands after the next delta. -/
theorem mouse_next (h : Replaying compiler.offset frames log)
    (hc : compiler.compile frame frames.getLast? = .ok delta) :
    (released.run (log ++ delta.events)).mouse =
      ((frames ++ [frame]).reverse.findSome? Frame.place?).map
        fun place => compiler.offset.apply place.1 place.2 := by
  rw [run_append, Delta.mouse_run_events, h.mouse, List.reverse_append, List.reverse_singleton,
    List.singleton_append, List.findSome?_cons]
  rcases Compiler.move_of_compile hc with hm | ⟨hm, p, hp, hplace⟩
  · rw [hm]
    cases frame.place? <;> rfl
  · -- The move is left out: the frame before has put the mouse there already.
    rw [hm]
    obtain ⟨front, rfl⟩ := List.getLast?_eq_some_iff.mp hp
    rw [List.reverse_append, List.reverse_singleton, List.singleton_append,
      List.findSome?_cons, hplace]
    cases frame.place? <;> rfl

/-- **One more frame, with its delta.** -/
theorem concat (h : Replaying compiler.offset frames log) (ho : frame.NamesOnce)
    (hc : compiler.compile frame frames.getLast? = .ok delta) :
    Replaying compiler.offset (frames ++ [frame]) (log ++ delta.events) where
  holds_iff last hlast control name value hn := by
    rw [List.getLast?_concat] at hlast
    obtain rfl := Option.some.inj hlast
    exact h.holds_next_iff ho hc hn
  named control hh := by
    rw [run_append] at hh
    rcases press_or_holds hh with hp | hh
    · exact ⟨frame, List.mem_append_right _ List.mem_cons_self,
        Compiler.naming_ne_nil_of_presses hc (Delta.press_mem_events_iff.mp hp)⟩
    · obtain ⟨f, hf, hn⟩ := h.named control hh
      exact ⟨f, List.mem_append_left _ hf, hn⟩
  held_at_release f hf control entry hn before after hlog := h.held_at_next_release ho hc hf hn hlog
  isSome_place? f hf := by
    rcases List.mem_append.mp hf with hf | hf
    · exact h.isSome_place? f hf
    · rw [List.mem_singleton.mp hf]
      exact Compiler.isSome_place?_iff hc
  mouse := h.mouse_next hc
  once f hf := by
    rcases List.mem_append.mp hf with hf | hf
    · exact h.once f hf
    · rw [List.mem_singleton.mp hf]
      exact ho
  together := together_concat h.together hc
  log_eq_nil hn := absurd hn (List.append_ne_nil_of_right_ne_nil _ (List.cons_ne_nil _ _))

end Replaying

/-! ## Timed runs and previews -/

/-- What has been played with every frame applied that could be compiled has been replayed. -/
theorem replaying_of_played {ticks : List (Tick (List Event))} {previous : Option Frame}
    (h : Played compiler ticks previous log)
    (ha : ∀ tick ∈ ticks, tick.compiled = true → tick.applied = true)
    (ho : ∀ tick ∈ ticks, tick.frame.NamesOnce) :
    Replaying compiler.offset (compiledFrames ticks) log := by
  induction h with
  | nil => exact replaying_nil compiler.offset
  | skip _ _ ih =>
    rw [compiledFrames_concat, if_neg Bool.false_ne_true]
    exact ih (fun tick ht => ha tick (List.mem_append_left _ ht))
      fun tick ht => ho tick (List.mem_append_left _ ht)
  | play hp hc _ hall ih =>
    obtain rfl := hall (ha _ (List.mem_append_right _ List.mem_cons_self) rfl)
    rw [hp.previous_eq] at hc
    rw [compiledFrames_concat, if_pos rfl]
    exact (ih (fun tick ht => ha tick (List.mem_append_left _ ht))
      fun tick ht => ho tick (List.mem_append_left _ ht)).concat
        (ho _ (List.mem_append_right _ List.mem_cons_self)) hc

/-- A preview that goes on after frames that have been replayed. -/
theorem replaying_of_go {later : List Frame} {deltas : List Delta}
    (h : Replaying compiler.offset frames log)
    (hc : compiler.compileFrom frames.getLast? later = .ok deltas)
    (ho : ∀ frame ∈ later, frame.NamesOnce) {i : Nat} {held : Held}
    (hi : (Delta.preview.go (released.run log) deltas)[i]? = some held) :
    held = released.run (log ++ (deltas.take (i + 1)).flatMap Delta.events) ∧
      Replaying compiler.offset (frames ++ later.take (i + 1))
        (log ++ (deltas.take (i + 1)).flatMap Delta.events) := by
  induction later generalizing frames log deltas i with
  | nil =>
    rw [← Except.ok.inj hc] at hi
    cases hi
  | cons frame later ih =>
    obtain ⟨delta, rest, hf, hrest, rfl⟩ := Compiler.compileFrom_cons_eq_ok hc
    have hnext := h.concat (ho frame List.mem_cons_self) hf
    rw [Delta.preview.go, ← run_append] at hi
    cases i with
    | zero =>
      rw [List.getElem?_cons_zero] at hi
      simp only [Nat.zero_add, List.take_succ_cons, List.take_zero, List.flatMap_cons,
        List.flatMap_nil, List.append_nil]
      exact ⟨(Option.some.inj hi).symm, hnext⟩
    | succ i =>
      rw [List.getElem?_cons_succ] at hi
      rw [← List.getLast?_concat (a := frame) (l := frames)] at hrest
      have := ih hnext hrest (fun f hf => ho f (List.mem_cons_of_mem _ hf)) hi
      simp only [List.take_succ_cons, List.flatMap_cons]
      rw [List.append_assoc, List.append_assoc] at this
      exact this

theorem length_of_compileFrom {previous : Option Frame} {deltas : List Delta}
    (hc : compiler.compileFrom previous frames = .ok deltas) : deltas.length = frames.length := by
  induction frames generalizing previous deltas with
  | nil =>
    rw [← Except.ok.inj hc]
    rfl
  | cons frame later ih =>
    obtain ⟨delta, rest, -, hrest, rfl⟩ := Compiler.compileFrom_cons_eq_ok hc
    rw [List.length_cons, List.length_cons, ih hrest]

theorem length_go (held : Held) (deltas : List Delta) :
    (Delta.preview.go held deltas).length = deltas.length := by
  induction deltas generalizing held with
  | nil => rfl
  | cons delta rest ih => rw [Delta.preview.go, List.length_cons, ih, List.length_cons]

/-- **Whatever is played, the device stands as the last frame says.** After every tick of a timed
run, on a device that begins with everything released and refuses nothing, this is the last frame
that could be compiled; where all frames can be compiled, their preview says the same of each of
them. -/
theorem replay_faithful (compiler : Compiler) (frames : List Frame)
    (ho : ∀ frame ∈ frames, frame.NamesOnce) :
    (∀ (σ τ : Type) [Timeline τ] (rig : Rig σ τ) (log : σ → List Event) (period : Period τ)
        (begun : σ) (started : τ) (ticks : List (Tick σ)) (rest : List Frame) (pace : Pace τ)
        (s : σ), rig.Logs log → rig.NeverRefuses → log begun = [] →
      rig.Reaches compiler period frames begun started ticks rest pace s →
      Replayed compiler.offset (compiledFrames ticks) (log s)) ∧
    ∀ deltas, compiler.compileAll frames = .ok deltas →
      (Delta.preview deltas).length = frames.length ∧
        ∀ i held, (Delta.preview deltas)[i]? = some held →
          held = released.run ((deltas.take (i + 1)).flatMap Delta.events) ∧
            Replayed compiler.offset (frames.take (i + 1))
              ((deltas.take (i + 1)).flatMap Delta.events) := by
  refine ⟨fun σ τ _ rig log period begun started ticks rest pace s hl hr hb hreach => ?_,
    fun deltas hc => ⟨?_, fun i held hi => ?_⟩⟩
  · have hplayed := Rig.played_of_reaches hl hb hreach
    have happlied := Rig.applied_of_reaches hl hr hreach
    rw [← compiledFrames_view log]
    refine (replaying_of_played hplayed (fun tick ht => ?_) fun tick ht => ?_).toReplayed
    · obtain ⟨t, hmem, rfl⟩ := List.mem_map.mp ht
      exact happlied t hmem
    · obtain ⟨t, hmem, rfl⟩ := List.mem_map.mp ht
      refine ho t.frame ?_
      rw [Rig.frames_of_reaches hreach]
      exact List.mem_append_left _ (List.mem_map.mpr ⟨t, hmem, rfl⟩)
  · rw [Delta.preview, length_go, length_of_compileFrom hc]
  · obtain ⟨hheld, hreplaying⟩ := replaying_of_go (replaying_nil compiler.offset) hc ho hi
    exact ⟨hheld, hreplaying.toReplayed⟩

/-- A key goes down and up again while the mouse is moved once. -/
theorem replay_faithful_tap :
    (∀ frame ∈ [tap ['A'], tap ['.']], frame.NamesOnce) ∧
      (∃ ticks pace s,
        Rig.steady.Reaches ⟨⟨10, 0⟩, true⟩ ⟨.whole 1000, 1000, 1000⟩ [tap ['A'], tap ['.']] [] 0
            ticks [] pace s ∧
          ¬(released.run s).Holds (.key 65) ∧ (released.run s).mouse = some (11, 2)) ∧
      ∃ deltas held, Compiler.compileAll ⟨⟨10, 0⟩, true⟩ [tap ['A'], tap ['.']] = .ok deltas ∧
        (Delta.preview deltas)[0]? = some held ∧ held.Holds (.key 65) := by
  have ho : ∀ frame ∈ [tap ['A'], tap ['.']], frame.NamesOnce := by decide
  obtain ⟨htimed, hpreview⟩ := replay_faithful ⟨⟨10, 0⟩, true⟩ [tap ['A'], tap ['.']] ho
  obtain ⟨ticks, pace, s, hreach, hframes⟩ : ∃ ticks pace s,
      Rig.steady.Reaches ⟨⟨10, 0⟩, true⟩ ⟨.whole 1000, 1000, 1000⟩ [tap ['A'], tap ['.']] [] 0
          ticks [] pace s ∧
        compiledFrames ticks = [tap ['A'], tap ['.']] :=
    ⟨_, _, _, .tick (.tick (.start rfl) rfl rfl rfl) rfl rfl rfl, rfl⟩
  have hr := htimed _ _ Rig.steady id _ _ _ _ _ _ _ Rig.logs_steady Rig.neverRefuses_steady rfl
    hreach
  rw [hframes] at hr
  obtain ⟨deltas, hdeltas⟩ : ∃ deltas,
      Compiler.compileAll ⟨⟨10, 0⟩, true⟩ [tap ['A'], tap ['.']] = .ok deltas := ⟨_, rfl⟩
  obtain ⟨hlength, hheld⟩ := hpreview deltas hdeltas
  obtain ⟨held, hfirst⟩ : ∃ held, (Delta.preview deltas)[0]? = some held :=
    ⟨_, List.getElem?_eq_getElem (by rw [hlength]; decide)⟩
  obtain ⟨hlog, hp⟩ := hheld 0 held hfirst
  refine ⟨ho, ⟨ticks, pace, s, hreach, fun hh => ?_, hr.mouse⟩, deltas, held, hdeltas, hfirst, ?_⟩
  · exact (hr.holds_iff _ rfl (.key 65) ['K', 'A'] ['.'] (by decide)).mp hh (by decide)
  · rw [hlog]
    exact (hp.holds_iff _ rfl (.key 65) ['K', 'A'] ['A'] (by decide)).mpr (by decide)

end FrameScript
