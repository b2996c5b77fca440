import FrameScript.Proofs.Playback.Devices

/-!
# What a device that refuses events goes on holding

A frame that could be compiled is the predecessor of the next one even if the device has refused
one of its events. A press that was refused is made up for when the value changes again, and a key
that went down before the device refused something is released by the next frame that says so. A
release that was refused is not repeated: the next frame finds the field inactive already. So a
control may be held while a frame is applied that declares it inactive, and `LeftHeld` says when: a
failed tick that should have turned it off has left it held, and nothing has turned it on since.

## Results

* `holds_iff_leftHeld`: the same for every history.
* `holds_applied_iff`: **a control that an applied frame declares inactive is held exactly if a
  failed tick has left it so**.
* `Rehearsal.not_always_released`: it can come about.
-/

namespace FrameScript

open Held Reading

variable {σ υ : Type}

/-- A tick that should have turned the control off has failed and left it held, and every frame
that could be compiled since has declared the control inactive. -/
def LeftHeld (held : σ → Held) (ticks : List (Tick σ)) (control : Control) : Prop :=
  ∃ before tick after, ticks = before ++ tick :: after ∧
    tick.compiled = true ∧ tick.applied = false ∧ tick.frame.DeclaresInactive control ∧
    (∃ frame, (compiledFrames before).getLast? = some frame ∧ frame.DeclaresActive control) ∧
    (held tick.state).Holds control ∧
    ∀ frame ∈ compiledFrames after, frame.DeclaresInactive control

section LeftHeld

variable {held : σ → Held} {ticks : List (Tick σ)} {tick : Tick σ} {control : Control}

/-- The last frame that could be compiled declares a control inactive that was left held. -/
theorem LeftHeld.last (h : LeftHeld held ticks control) :
    ∃ frame, (compiledFrames ticks).getLast? = some frame ∧ frame.DeclaresInactive control := by
  obtain ⟨before, tick, after, rfl, hc, -, hi, -, -, hafter⟩ := h
  have hsplit : compiledFrames (before ++ tick :: after) =
      compiledFrames before ++ [tick.frame] ++ compiledFrames after := by
    rw [List.append_cons, compiledFrames_append, compiledFrames_concat, if_pos hc]
  rw [hsplit]
  cases hlast : (compiledFrames after).getLast? with
  | none =>
    refine ⟨tick.frame, ?_, hi⟩
    rw [List.getLast?_eq_none_iff.mp hlast, List.append_nil, List.getLast?_concat]
  | some frame =>
    refine ⟨frame, ?_, hafter frame (List.mem_of_getLast? hlast)⟩
    rw [List.getLast?_append, hlast]
    rfl

/-- One more tick leaves a control held, or it finds the control left held and does not turn it
on. -/
theorem leftHeld_concat :
    LeftHeld held (ticks ++ [tick]) control ↔
      (tick.compiled = true ∧ tick.applied = false ∧ tick.frame.DeclaresInactive control ∧
        (∃ frame, (compiledFrames ticks).getLast? = some frame ∧ frame.DeclaresActive control) ∧
        (held tick.state).Holds control) ∨
      LeftHeld held ticks control ∧
        (tick.compiled = true → tick.frame.DeclaresInactive control) := by
  constructor
  · rintro ⟨before, turn, after, heq, hc, ha, hi, hactive, hheld, hafter⟩
    rcases List.eq_nil_or_concat' after with rfl | ⟨front, last, rfl⟩
    · obtain ⟨rfl, hlast⟩ := List.append_inj' heq rfl
      obtain rfl := List.singleton_inj.mp hlast
      exact Or.inl ⟨hc, ha, hi, hactive, hheld⟩
    · rw [← List.cons_append, ← List.append_assoc] at heq
      obtain ⟨rfl, hlast⟩ := List.append_inj' heq rfl
      obtain rfl := List.singleton_inj.mp hlast
      refine Or.inr ⟨⟨before, turn, front, rfl, hc, ha, hi, hactive, hheld, fun f hf => ?_⟩,
        fun hcomp => ?_⟩
      · refine hafter f ?_
        rw [compiledFrames_append]
        exact List.mem_append_left _ hf
      · refine hafter _ ?_
        rw [compiledFrames_concat, if_pos hcomp]
        exact List.mem_append_right _ List.mem_cons_self
  · rintro (⟨hc, ha, hi, hactive, hheld⟩ | ⟨⟨before, turn, after, rfl, hc, ha, hi, hactive, hheld,
      hafter⟩, hcomp⟩)
    · exact ⟨ticks, tick, [], rfl, hc, ha, hi, hactive, hheld,
        fun f hf => absurd hf List.not_mem_nil⟩
    · refine ⟨before, turn, after ++ [tick], by rw [List.append_assoc]; rfl, hc, ha, hi, hactive,
        hheld, fun f hf => ?_⟩
      rw [compiledFrames_concat] at hf
      split at hf
      · rename_i hcompiled
        rcases List.mem_append.mp hf with hf | hf
        · exact hafter f hf
        · rw [List.mem_singleton.mp hf]
          exact hcomp hcompiled
      · exact hafter f hf

/-- A tick that finds the control inactive leaves things as they are. -/
theorem leftHeld_concat_of_inactive
    (hlast : ∀ frame, (compiledFrames ticks).getLast? = some frame → frame.DeclaresInactive control)
    (hi : tick.frame.DeclaresInactive control) :
    LeftHeld held (ticks ++ [tick]) control ↔ LeftHeld held ticks control := by
  rw [leftHeld_concat]
  constructor
  · rintro (⟨-, -, -, ⟨frame, hf, hactive⟩, -⟩ | ⟨hleft, -⟩)
    · exact absurd hactive (Frame.not_declaresActive_of_inactive (hlast frame hf))
    · exact hleft
  · exact fun hleft => Or.inr ⟨hleft, fun _ => hi⟩

/-- A tick that turns the control off leaves it held if it fails before that. -/
theorem leftHeld_concat_of_active {frame : Frame}
    (hlast : (compiledFrames ticks).getLast? = some frame) (hactive : frame.DeclaresActive control)
    (hc : tick.compiled = true) (hi : tick.frame.DeclaresInactive control) :
    LeftHeld held (ticks ++ [tick]) control ↔
      tick.applied = false ∧ (held tick.state).Holds control := by
  rw [leftHeld_concat]
  constructor
  · rintro (⟨-, ha, -, -, hh⟩ | ⟨hleft, -⟩)
    · exact ⟨ha, hh⟩
    · obtain ⟨last, hl, hinactive⟩ := hleft.last
      rw [hlast] at hl
      obtain rfl := Option.some.inj hl
      exact absurd hactive (Frame.not_declaresActive_of_inactive hinactive)
  · exact fun ⟨ha, hh⟩ => Or.inl ⟨hc, ha, hi, ⟨frame, hlast, hactive⟩, hh⟩

end LeftHeld

/-! ## Histories -/

section Played

variable {compiler : Compiler} {ticks : List (Tick (List Event))} {previous : Option Frame}
  {log : List Event} {frame : Frame} {control : Control}

/-- **A control that the last frame declares inactive is held exactly if a failed tick has left it
so.** -/
theorem holds_iff_leftHeld (h : Played compiler ticks previous log)
    (ho : ∀ tick ∈ ticks, tick.frame.NamesOnce) (hp : previous = some frame)
    (hi : frame.DeclaresInactive control) :
    (released.run log).Holds control ↔ LeftHeld released.run ticks control := by
  induction h generalizing frame with
  | nil => cases hp
  | skip h hc ih =>
    rw [leftHeld_concat, ih (fun tick ht => ho tick (List.mem_append_left _ ht)) hp hi]
    simp
  | @play ticks previous log frame' delta sent applied h hc hs ha ih =>
    obtain rfl := Option.some.inj hp
    obtain ⟨name, value, hn, hv⟩ := id hi
    have hprior : previous = (compiledFrames ticks).getLast? := h.previous_eq
    have hold := fun tick ht => ho tick (List.mem_append_left _ ht)
    have hnew : frame'.NamesOnce := ho _ (List.mem_append_right _ List.mem_cons_self)
    have hsent {event : Event} (hm : event ∉ delta.events) : event ∉ sent :=
      fun hs' => hm (hs.subset hs')
    rw [run_append]
    cases previous with
    | none =>
      have hnone := hprior.symm
      rw [leftHeld_concat_of_inactive (fun f hf => by rw [hnone] at hf; cases hf) hi,
        h.log_eq_nil (List.getLast?_eq_none_iff.mp hnone)]
      cases Effect.of_compile hc hn with
      | press _ _ hactive => exact absurd hv hactive
      | release _ _ _ hactive => cases hactive
      | keep hpress hrelease _ =>
        rw [holds_run_of_unmentioned (hsent hpress) (hsent hrelease)]
        refine iff_of_false (not_holds_released control) fun hleft => ?_
        obtain ⟨f, hf, -⟩ := hleft.last
        rw [hnone] at hf
        cases hf
    | some last =>
      obtain ⟨tick, hmem, hframe⟩ := exists_tick_of_mem (List.mem_of_getLast? hprior.symm)
      have hdeclares := declares_prior hnew (hframe ▸ hold tick hmem) hc hn
      cases Effect.of_compile hc hn with
      | press _ _ hactive => exact absurd hv hactive
      | keep hpress hrelease hiff =>
        have hlast : last.DeclaresInactive control := hdeclares.1 (hiff.mp hv)
        rw [leftHeld_concat_of_inactive (fun f hf => ?_) hi,
          holds_run_of_unmentioned (hsent hpress) (hsent hrelease)]
        · exact ih hold rfl hlast
        · rw [← hprior] at hf
          exact Option.some.inj hf ▸ hlast
      | release hrelease hpress _ hq =>
        rw [leftHeld_concat_of_active hprior.symm (hdeclares.2 hq) rfl hi, run_append]
        refine ⟨fun hh => ⟨?_, hh⟩, And.right⟩
        cases applied with
        | false => rfl
        | true =>
          rw [ha rfl] at hh
          exact absurd hh (not_holds_run_of_release hrelease hpress)

end Played

/-! ## Timed runs -/

theorem leftHeld_view {held : υ → Held} {see : σ → υ} {ticks : List (Tick σ)} {control : Control} :
    LeftHeld held (ticks.map (Tick.view see)) control ↔
      LeftHeld (fun s => held (see s)) ticks control := by
  constructor
  · rintro ⟨before, tick, after, heq, hc, ha, hi, hactive, hheld, hafter⟩
    obtain ⟨before, later, rfl, rfl, hlater⟩ := List.map_eq_append_iff.mp heq
    obtain ⟨tick, after, rfl, rfl, rfl⟩ := List.map_eq_cons_iff.mp hlater
    rw [compiledFrames_view] at hactive hafter
    exact ⟨before, tick, after, rfl, hc, ha, hi, hactive, hheld, hafter⟩
  · rintro ⟨before, tick, after, rfl, hc, ha, hi, hactive, hheld, hafter⟩
    refine ⟨before.map (Tick.view see), tick.view see, after.map (Tick.view see),
      List.map_append, hc, ha, hi, ?_, hheld, ?_⟩
    · rw [compiledFrames_view]
      exact hactive
    · rw [compiledFrames_view]
      exact hafter

namespace Rehearsal

/-- The key goes down, and when it is to go up the device refuses; the next frame, which declares it
inactive as well, is applied and leaves it down. -/
theorem exists_refused_release :
    ∃ ticks tick pace s,
      (smooth false).rig.Reaches ⟨⟨0, 0⟩, true⟩ ⟨.whole 10, 10, 10⟩
          [tap ['A'], tap ['.'], tap ['.']] stubborn 0 (ticks ++ [tick]) [] pace s ∧
        tick.applied = true ∧ tick.frame.DeclaresInactive (.key 65) ∧
        World.log s = [.move 1 2, .pressKey 65] :=
  ⟨_, _, _, _, .tick (.tick (.tick (.start rfl) rfl rfl rfl) rfl rfl rfl) rfl rfl rfl, rfl,
    declaresInactive_tap, rfl⟩

end Rehearsal

/-- **A control that an applied frame declares inactive is held exactly if a failed tick has left it
so**: the tick turned it off, and no frame that could be compiled since has turned it on. -/
theorem holds_applied_iff {τ : Type} [Timeline τ] {rig : Rig σ τ} {log : σ → List Event}
    {compiler : Compiler} {period : Period τ} {frames rest : List Frame} {begun s : σ} {started : τ}
    {ticks : List (Tick σ)} {tick : Tick σ} {pace : Pace τ} {control : Control}
    (hl : rig.Logs log) (hb : log begun = []) (ho : ∀ frame ∈ frames, frame.NamesOnce)
    (hr : rig.Reaches compiler period frames begun started (ticks ++ [tick]) rest pace s)
    (ha : tick.applied = true) (hi : tick.frame.DeclaresInactive control) :
    (released.run (log s)).Holds control ↔
      LeftHeld (fun s => released.run (log s)) ticks control := by
  have hplayed := Rig.played_of_reaches hl hb hr
  have hcompiled : tick.compiled = true :=
    hplayed.compiled_of_applied (tick.view log)
      (List.mem_map.mpr ⟨tick, List.mem_append_right _ List.mem_cons_self, rfl⟩) ha
  have hprevious : pace.previous = some tick.frame := by
    rw [hplayed.previous_eq, compiledFrames_view, compiledFrames_concat, if_pos hcompiled,
      List.getLast?_concat]
  have honce : ∀ t ∈ (ticks ++ [tick]).map (Tick.view log), t.frame.NamesOnce := by
    intro t ht
    obtain ⟨t, hmem, rfl⟩ := List.mem_map.mp ht
    refine ho t.frame ?_
    rw [Rig.frames_of_reaches hr]
    exact List.mem_append_left _ (List.mem_map.mpr ⟨t, hmem, rfl⟩)
  rw [holds_iff_leftHeld hplayed honce hprevious hi, leftHeld_view, leftHeld_concat]
  constructor
  · rintro (⟨-, hfailed, -⟩ | ⟨hleft, -⟩)
    · rw [ha] at hfailed
      cases hfailed
    · exact hleft
  · exact fun hleft => Or.inr ⟨hleft, fun _ => hi⟩

namespace Rehearsal

/-- The key that is held has been left so by the tick before. -/
theorem holds_applied_iff_stubborn :
    ∃ ticks tick pace s,
      (smooth false).rig.Reaches ⟨⟨0, 0⟩, true⟩ ⟨.whole 10, 10, 10⟩
          [tap ['A'], tap ['.'], tap ['.']] stubborn 0 (ticks ++ [tick]) [] pace s ∧
        tick.applied = true ∧ tick.frame.DeclaresInactive (.key 65) ∧
        LeftHeld (fun s => released.run (World.log s)) ticks (.key 65) := by
  obtain ⟨ticks, tick, pace, s, hr, ha, hi, hlog⟩ := exists_refused_release
  refine ⟨ticks, tick, pace, s, hr, ha, hi, ?_⟩
  refine (holds_applied_iff (logs_rig rfl) rfl (by decide) hr ha hi).mp ?_
  rw [hlog]
  decide

/-- **A control may be held while a frame is applied that declares it inactive**, even if all frames
have the same fields. -/
theorem not_always_released :
    ¬∀ (σ τ : Type) (_ : Timeline τ) (rig : Rig σ τ) (log : σ → List Event) (compiler : Compiler)
        (period : Period τ) (frames rest : List Frame) (begun s : σ) (started : τ)
        (ticks : List (Tick σ)) (tick : Tick σ) (pace : Pace τ) (control : Control),
      rig.Logs log → log begun = [] → (∀ frame ∈ frames, frame.NamesOnce) → Together frames →
      rig.Reaches compiler period frames begun started (ticks ++ [tick]) rest pace s →
      tick.applied = true → tick.frame.DeclaresInactive control →
      ¬(released.run (log s)).Holds control := by
  intro hclaim
  obtain ⟨ticks, tick, pace, s, hr, ha, hi, hlog⟩ := exists_refused_release
  have hnames : ∀ frame ∈ [tap ['A'], tap ['.'], tap ['.']], frame.names = (tap ['A']).names := by
    decide
  refine hclaim _ _ _ _ World.log _ _ _ _ _ _ _ _ _ _ (.key 65) (logs_rig rfl) rfl (by decide)
    (fun f hf g hg name => ?_) hr ha hi ?_
  · rw [hnames f hf, hnames g hg]
  · rw [hlog]
    decide

end Rehearsal

end FrameScript
