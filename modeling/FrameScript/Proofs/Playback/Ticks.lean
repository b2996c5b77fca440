import FrameScript.Playback.Timed
import FrameScript.Proofs.Playback.History
import FrameScript.Proofs.Reading

/-!
# The ticks of a timed run

`Rig.Reaches` follows a timed run from tick to tick: which ticks have been played, which frames are
left, and where the run stands. `Rig.Logs` says of a rig that a log of what its device has taken can
be read off its state: a device that refuses an event takes nothing, and neither clock nor listener
touches the device. `Rig.Keeps` says of a property of states that nothing the rig does breaks it.

## Results

* `timedFrom_of_reaches`: a run that has reached a state goes on as a run from there.
* `exists_reaches_of_timed`: a run that ends has reached the end of its frames or was cancelled.
* `played_of_reaches`: **the ticks of a run make a history**, whatever the device refuses.
* `applied_of_reaches`: a device that refuses nothing lets every frame be applied that can be
  compiled.
-/

namespace FrameScript

namespace Rig

open Reading

variable {σ τ : Type} {rig : Rig σ τ} {log : σ → List Event} {compiler : Compiler}

/-- `log` tells what the device of the rig has taken, the oldest event first. -/
structure Logs (rig : Rig σ τ) (log : σ → List Event) : Prop where
  now : ∀ s, log (left (rig.now s)) = log s
  wait : ∀ span s, log (left (rig.wait span s)) = log s
  note : ∀ notice s, log (rig.note notice s) = log s
  taken : ∀ event s s', rig.send event s = .ok () s' → log s' = log s ++ [event]
  refused : ∀ event s failure s', rig.send event s = .error failure s' → log s' = log s

theorem Logs.now_eq (hl : rig.Logs log) {time : τ} {s s' : σ} (hn : rig.now s = .ok time s') :
    log s' = log s := by
  have := hl.now s
  rw [hn] at this
  exact this

theorem Logs.wait_eq (hl : rig.Logs log) {span : τ} {answer : Bool} {s s' : σ}
    (hw : rig.wait span s = .ok answer s') : log s' = log s := by
  have := hl.wait span s
  rw [hw] at this
  exact this

/-- The device refuses nothing. -/
def NeverRefuses (rig : Rig σ τ) : Prop :=
  ∀ event s, ∃ s', rig.send event s = .ok () s'

/-- Whatever the rig does keeps `I`. -/
structure Keeps (rig : Rig σ τ) (I : σ → Prop) : Prop where
  now : ∀ s, I s → I (left (rig.now s))
  wait : ∀ span s, I s → I (left (rig.wait span s))
  note : ∀ notice s, I s → I (rig.note notice s)
  send : ∀ event s, I s → I (left (rig.send event s))

/-- Of several events a device takes the first ones, and all of them just if none fails. -/
theorem sendAll_takes (hl : rig.Logs log) (events : List Event) (s : σ) :
    ∃ sent, sent <+: events ∧ log (rig.sendAll events s).2 = log s ++ sent ∧
      ((rig.sendAll events s).1 = none ↔ sent = events) := by
  induction events generalizing s with
  | nil => exact ⟨[], List.prefix_rfl, (List.append_nil _).symm, iff_of_true rfl rfl⟩
  | cons event rest ih =>
    unfold sendAll
    cases hs : rig.send event s with
    | ok _ s' =>
      obtain ⟨sent, hp, hlog, hall⟩ := ih s'
      refine ⟨event :: sent, List.cons_prefix_cons.mpr ⟨rfl, hp⟩, ?_, ?_⟩
      · rw [hlog, hl.taken event s s' hs, List.append_assoc]
        rfl
      · rw [List.cons_eq_cons, and_iff_right rfl]
        exact hall
    | error failure s' =>
      refine ⟨[], List.nil_prefix, ?_, ?_⟩
      · rw [List.append_nil]
        exact hl.refused event s failure s' hs
      · exact iff_of_false (Option.some_ne_none failure) (List.cons_ne_nil event rest).symm

theorem sendAll_of_neverRefuses (hr : rig.NeverRefuses) (events : List Event) (s : σ) :
    (rig.sendAll events s).1 = none := by
  induction events generalizing s with
  | nil => rfl
  | cons event rest ih =>
    obtain ⟨s', hs⟩ := hr event s
    unfold sendAll
    rw [hs]
    exact ih s'

theorem Keeps.sendAll {I : σ → Prop} (hk : rig.Keeps I) (events : List Event) {s : σ} (h : I s) :
    I (rig.sendAll events s).2 := by
  induction events generalizing s with
  | nil => exact h
  | cons event rest ih =>
    have hsend := hk.send event s h
    unfold Rig.sendAll
    cases hs : rig.send event s with
    | ok _ s' =>
      rw [hs] at hsend
      exact ih hsend
    | error failure s' =>
      rw [hs] at hsend
      exact hsend

variable [Timeline τ] {period : Period τ} {due started : τ} {pace pace' : Pace τ} {s s' : σ}

/-! ## One tick -/

/-- How a tick ends whose instruction has been performed. -/
theorem tick_of_performance (done : Performance σ) (s : σ) {tickTime : τ} :
    (do
      set done.state
      match done.failure with
      | none => pure ()
      | some failure => modify (rig.note (.failed pace.report.ticks failure))
      pure ((pace.takeUp due tickTime).settle pace.report.ticks done.previous done.failure) :
        EStateM Failure σ (Pace τ)) s =
      .ok ((pace.takeUp due tickTime).settle pace.report.ticks done.previous done.failure)
        (match done.failure with
        | none => done.state
        | some failure => rig.note (.failed pace.report.ticks failure) done.state) := by
  obtain ⟨previous, failure, state⟩ := done
  cases failure <;> rfl

/-- What a tick does once it has looked at the clock. -/
theorem tick_of_now {instruction : Instruction} {tickTime : τ}
    (hn : rig.now s = .ok tickTime s') :
    rig.tick compiler period due pace instruction s =
      let world :=
        if Timeline.isBefore period.limit (Pace.drift due tickTime) then
          rig.note (.late pace.report.ticks (Pace.drift due tickTime)) s'
        else s'
      let done := rig.perform compiler pace.previous instruction world
      .ok ((pace.takeUp due tickTime).settle pace.report.ticks done.previous done.failure)
        (match done.failure with
        | none => done.state
        | some failure => rig.note (.failed pace.report.ticks failure) done.state) := by
  show EStateM.bind rig.now _ s = _
  unfold EStateM.bind
  rw [hn]
  by_cases hlate : Timeline.isBefore period.limit (Pace.drift due tickTime) = true
  · simp only [if_pos hlate]
    exact tick_of_performance _ (rig.note (.late pace.report.ticks (Pace.drift due tickTime)) s')
  · simp only [if_neg hlate]
    exact tick_of_performance _ s'

/-- The clock has told the time if a tick has ended. -/
theorem now_of_tick {instruction : Instruction}
    (h : rig.tick compiler period due pace instruction s = .ok pace' s') :
    ∃ tickTime t, rig.now s = .ok tickTime t := by
  cases hn : rig.now s with
  | ok tickTime t => exact ⟨tickTime, t, rfl⟩
  | error failure t =>
    have herror : rig.tick compiler period due pace instruction s = .error failure t := by
      show EStateM.bind rig.now _ s = _
      unfold EStateM.bind
      rw [hn]
    rw [herror] at h
    cases h

/-- **What a tick can do with a frame**: if the frame cannot be compiled nothing changes, and
otherwise it becomes the predecessor of the next one, and the device takes the first events of its
delta, all of them if the tick is counted as applied. -/
theorem tick_cases {frame : Frame} (hl : rig.Logs log)
    (h : rig.tick compiler period due pace (.frame frame) s = .ok pace' s') :
    (∃ failure, compiler.compile frame pace.previous = .error failure ∧
        pace'.previous = pace.previous ∧ log s' = log s ∧
        ¬pace.report.applied < pace'.report.applied) ∨
      ∃ delta sent, compiler.compile frame pace.previous = .ok delta ∧
        pace'.previous = some frame ∧ sent <+: delta.events ∧ log s' = log s ++ sent ∧
        (pace.report.applied < pace'.report.applied → sent = delta.events) ∧
        (rig.NeverRefuses → pace.report.applied < pace'.report.applied) := by
  obtain ⟨tickTime, t, hn⟩ := now_of_tick h
  rw [tick_of_now hn] at h
  have hworld : log (if Timeline.isBefore period.limit (Pace.drift due tickTime) then
      rig.note (.late pace.report.ticks (Pace.drift due tickTime)) t else t) = log s := by
    split
    · rw [hl.note, hl.now_eq hn]
    · exact hl.now_eq hn
  revert h hworld
  generalize (if Timeline.isBefore period.limit (Pace.drift due tickTime) then
      rig.note (.late pace.report.ticks (Pace.drift due tickTime)) t else t) = world
  intro h hworld
  unfold perform at h
  cases hc : compiler.compile frame pace.previous with
  | error failure =>
    simp only [Instruction.resolve, hc, EStateM.Result.ok.injEq] at h
    obtain ⟨rfl, rfl⟩ := h
    refine Or.inl ⟨failure, rfl, rfl, ?_, Nat.lt_irrefl _⟩
    rw [hl.note, hworld]
  | ok delta =>
    simp only [Instruction.resolve, hc, EStateM.Result.ok.injEq] at h
    obtain ⟨rfl, rfl⟩ := h
    obtain ⟨sent, hp, hlog, hall⟩ := sendAll_takes hl delta.events world
    refine Or.inr ⟨delta, sent, rfl, ?_, hp, ?_, fun ha => hall.mp ?_, fun hr => ?_⟩
    · cases (rig.sendAll delta.events world).1 <;> rfl
    · rw [← hworld, ← hlog]
      cases (rig.sendAll delta.events world).1 with
      | none => rfl
      | some failure => exact hl.note _ _
    · revert ha
      cases (rig.sendAll delta.events world).1 with
      | none => exact fun _ => rfl
      | some failure => exact fun ha => absurd ha (Nat.lt_irrefl _)
    · rw [sendAll_of_neverRefuses hr]
      exact Nat.lt_succ_self _

/-! ## Whole runs -/

/-- `rig.Reaches compiler period frames begun started ticks rest pace s`: a timed run of `frames`
that begins in the state `begun` and at the time `started` has played `ticks`, has `rest` before
it, and stands at `pace` and `s`. -/
inductive Reaches (rig : Rig σ τ) (compiler : Compiler) (period : Period τ) (frames : List Frame)
    (begun : σ) (started : τ) : List (Tick σ) → List Frame → Pace τ → σ → Prop where
  | start {s : σ} (h : rig.now (rig.note (.timedStarted frames.length period.told) begun) =
        .ok started s) :
      Reaches rig compiler period frames begun started [] frames (.start frames.length) s
  | tick {ticks : List (Tick σ)} {frame : Frame} {rest : List Frame} {pace pace' : Pace τ} {now : τ}
      {s s₁ s₂ s' : σ}
      (h : Reaches rig compiler period frames begun started ticks (frame :: rest) pace s)
      (hn : rig.now s = .ok now s₁)
      (hw : rig.wait (pace.due period started - now) s₁ = .ok false s₂)
      (ht : rig.tick compiler period (pace.due period started) pace (.frame frame) s₂ =
        .ok pace' s') :
      Reaches rig compiler period frames begun started
        (ticks ++ [⟨frame, (compiler.compile frame pace.previous).isOk,
          decide (pace.report.applied < pace'.report.applied), s'⟩]) rest pace' s'

section Reaches

variable {frames rest : List Frame} {begun : σ} {ticks : List (Tick σ)}

/-- The ticks that have been played and the frames that are left make up the whole. -/
theorem frames_of_reaches
    (h : rig.Reaches compiler period frames begun started ticks rest pace s) :
    frames = ticks.map Tick.frame ++ rest := by
  induction h with
  | start _ => rfl
  | tick _ _ _ _ ih => rw [ih, List.map_append, List.append_assoc]; rfl

theorem timedFrom_cons {instruction : Instruction} {later : List Instruction} :
    rig.timedFrom compiler period started pace (instruction :: later) s =
      match rig.now s with
      | .error failure s => .error failure s
      | .ok now s =>
        match rig.wait (pace.due period started - now) s with
        | .error failure s => .error failure s
        | .ok true s =>
          .ok { pace with report := { pace.report with cancelled := true } } s
        | .ok false s =>
          match rig.tick compiler period (pace.due period started) pace instruction s with
          | .error failure s => .error failure s
          | .ok pace s => rig.timedFrom compiler period started pace later s := by
  rw [timedFrom]
  simp only [bind, EStateM.bind]
  cases rig.now s with
  | error failure s => rfl
  | ok now s =>
    cases hw : rig.wait (pace.due period started - now) s with
    | error failure s => simp only [hw]
    | ok cancelled s =>
      cases cancelled with
      | true =>
        simp only [hw]
        rfl
      | false =>
        simp only [hw, Bool.false_eq_true, if_false]
        unfold EStateM.bind
        cases rig.tick compiler period (pace.due period started) pace instruction s <;> rfl

/-- A timed run is a run of its instructions between two looks at the clock. -/
theorem timed_eq {instructions : List Instruction} :
    rig.timed compiler period instructions s =
      match rig.now (rig.note (.timedStarted instructions.length period.told) s) with
      | .error failure s => .error failure s
      | .ok started s =>
        match rig.timedFrom compiler period started (.start instructions.length) instructions s with
        | .error failure s => .error failure s
        | .ok pace s =>
          match rig.now s with
          | .error failure s => .error failure s
          | .ok ended s =>
            .ok (pace.finish (ended - started))
              (rig.note (.finished (pace.finish (ended - started))) s) := by
  show EStateM.bind rig.now _ (rig.note _ s) = _
  unfold EStateM.bind
  cases rig.now (rig.note (.timedStarted instructions.length period.told) s) with
  | error failure s => rfl
  | ok started s =>
    show EStateM.bind (rig.timedFrom compiler period started _ _) _ s = _
    unfold EStateM.bind
    simp only
    cases rig.timedFrom compiler period started (.start instructions.length) instructions s with
    | error failure s => rfl
    | ok pace s =>
      show EStateM.bind rig.now _ s = _
      unfold EStateM.bind
      simp only
      cases rig.now s <;> rfl

/-- A run that has reached a state goes on as a run from there. -/
theorem timedFrom_of_reaches
    (h : rig.Reaches compiler period frames begun started ticks rest pace s) :
    ∃ s₀, rig.now (rig.note (.timedStarted frames.length period.told) begun) = .ok started s₀ ∧
      rig.timedFrom compiler period started (.start frames.length)
          (frames.map Instruction.frame) s₀ =
        rig.timedFrom compiler period started pace (rest.map Instruction.frame) s := by
  induction h with
  | start h => exact ⟨_, h, rfl⟩
  | @tick ticks frame rest pace pace' now s s₁ s₂ s' _ hn hw ht ih =>
    obtain ⟨s₀, hs, hrun⟩ := ih
    refine ⟨s₀, hs, hrun.trans ?_⟩
    rw [List.map_cons, timedFrom_cons]
    simp only [hn, hw, ht]

theorem ticks_of_tick {instruction : Instruction}
    (h : rig.tick compiler period due pace instruction s = .ok pace' s') :
    pace'.report.ticks = pace.report.ticks + 1 := by
  obtain ⟨tickTime, t, hn⟩ := now_of_tick h
  rw [tick_of_now hn] at h
  rw [← (EStateM.Result.ok.inj h).1]
  cases (rig.perform compiler pace.previous instruction _).failure <;> rfl

theorem length_of_reaches
    (h : rig.Reaches compiler period frames begun started ticks rest pace s) :
    ticks.length = pace.report.ticks := by
  induction h with
  | start _ => rfl
  | tick _ _ _ ht ih => rw [List.length_append, ih, ticks_of_tick ht, List.length_singleton]

/-- What is left of a run is played to its end or up to where it is cancelled. -/
theorem exists_reaches_of_timedFrom (hl : rig.Logs log)
    (h : rig.Reaches compiler period frames begun started ticks rest pace s)
    (hr : rig.timedFrom compiler period started pace (rest.map Instruction.frame) s =
      .ok pace' s') :
    ∃ ticks left reached t, rig.Reaches compiler period frames begun started ticks left reached t ∧
      reached.report.ticks = pace'.report.ticks ∧ (left = [] ∨ pace'.report.cancelled = true) ∧
      log s' = log t := by
  induction rest generalizing ticks pace s with
  | nil =>
    obtain ⟨rfl, rfl⟩ := EStateM.Result.ok.inj hr
    exact ⟨ticks, [], pace, s, h, rfl, Or.inl rfl, rfl⟩
  | cons frame rest ih =>
    rw [List.map_cons, timedFrom_cons] at hr
    split at hr
    · cases hr
    · rename_i now s₁ hn
      split at hr
      · cases hr
      · rename_i s₂ hw
        obtain ⟨rfl, rfl⟩ := EStateM.Result.ok.inj hr
        exact ⟨ticks, frame :: rest, pace, s, h, rfl, Or.inr rfl,
          (hl.wait_eq hw).trans (hl.now_eq hn)⟩
      · rename_i s₂ hw
        split at hr
        · cases hr
        · rename_i next s₃ ht
          exact ih (Reaches.tick h hn hw ht) hr

/-- **A run that ends has reached the end of its frames, or was cancelled**, has played as many
ticks as it reports, and leaves the device as the last of them has left it. -/
theorem exists_reaches_of_timed {report : Report τ} (hl : rig.Logs log)
    (h : rig.timed compiler period (frames.map Instruction.frame) begun = .ok report s') :
    ∃ started ticks left pace s,
      rig.Reaches compiler period frames begun started ticks left pace s ∧
        ticks.length = report.ticks ∧ (left = [] ∨ report.cancelled = true) ∧ log s' = log s := by
  rw [timed_eq, List.length_map] at h
  split at h
  · cases h
  · rename_i started s₀ hn
    split at h
    · cases h
    · rename_i pace s hr
      split at h
      · cases h
      · rename_i ended s₁ hnow
        obtain ⟨ticks, left, reached, t, hreach, hticks, hend, hlog⟩ :=
          exists_reaches_of_timedFrom hl (Reaches.start hn) hr
        obtain ⟨rfl, rfl⟩ := EStateM.Result.ok.inj h
        refine ⟨started, ticks, left, reached, t, hreach,
          (length_of_reaches hreach).trans hticks, hend, ?_⟩
        exact (hl.note _ _).trans ((hl.now_eq hnow).trans hlog)

/-- **The ticks of a run make a history**, whatever the device refuses. -/
theorem played_of_reaches (hl : rig.Logs log) (hb : log begun = [])
    (h : rig.Reaches compiler period frames begun started ticks rest pace s) :
    Played compiler (ticks.map (Tick.view log)) pace.previous (log s) := by
  induction h with
  | @start s hn =>
    rw [hl.now_eq hn, hl.note, hb]
    exact Played.nil
  | @tick ticks frame rest pace pace' now s s₁ s₂ s' _ hn hw ht ih =>
    have hlog : log s₂ = log s := (hl.wait_eq hw).trans (hl.now_eq hn)
    rw [List.map_append, List.map_singleton, Tick.view]
    rcases tick_cases hl ht with ⟨failure, hc, hp, hs, ha⟩ | ⟨delta, sent, hc, hp, hs, hlast, ha, -⟩
    · rw [hp, hs, hlog, hc, decide_eq_false ha]
      exact Played.skip ih hc
    · rw [hp, hlast, hlog, hc]
      exact Played.play ih hc hs fun h => ha (of_decide_eq_true h)

/-- **A device that refuses nothing lets every frame be applied** that can be compiled. -/
theorem applied_of_reaches (hl : rig.Logs log) (hr : rig.NeverRefuses)
    (h : rig.Reaches compiler period frames begun started ticks rest pace s) :
    ∀ tick ∈ ticks, tick.compiled = true → tick.applied = true := by
  induction h with
  | start _ => exact fun tick ht => absurd ht List.not_mem_nil
  | tick _ _ _ ht ih =>
    intro tick hm hc
    rcases List.mem_append.mp hm with hm | hm
    · exact ih tick hm hc
    · rw [List.mem_singleton.mp hm] at hc ⊢
      rcases tick_cases hl ht with ⟨failure, hf, -⟩ | ⟨delta, sent, -, -, -, -, -, ha⟩
      · rw [hf] at hc
        cases hc
      · exact decide_eq_true (ha hr)

end Reaches

end Rig

end FrameScript
