import FrameScript.Proofs.Playback.Accounts

/-!
# The beats of a timed run

A timed run that is not cancelled takes up one instruction after the other. A `Beat` is what can be
told of one of them: when the tick came, and the state that it left. `Rig.Beats` follows the run
from beat to beat, and `Rig.Courses` puts a whole run around them, from the look at the clock that
starts it to the report.

## Results

* `Rig.exists_of_tick`: what a tick does with the state and with the pace.
* `Rig.Beats.timedFrom`, `Rig.Courses.timed`: who has the beats has the run.
* `Rig.NeverCancels.exists_courses`: **a run that is never told to cancel has a beat for every
  instruction**, as long as the clock runs.
* `Scheduler.exists_courses`: the same of a run that has the device to itself.
-/

namespace FrameScript

/-- When a tick came, and the state that it left. -/
structure Beat (σ τ : Type) where
  time : τ
  state : σ

namespace Rig

variable {σ τ : Type} [Timeline τ] {rig : Rig σ τ} {compiler : Compiler} {period : Period τ}
  {due started : τ} {pace pace' : Pace τ} {instruction : Instruction}
  {instructions : List Instruction} {beats : List (Beat σ τ)} {s s' : σ}

/-- **What a tick does**: it looks at the clock and may take note that it is late, performs its
instruction and may take note that this has failed, and settles the account. -/
theorem exists_of_tick (h : rig.tick compiler period due pace instruction s = .ok pace' s') :
    ∃ time t world, rig.now s = .ok time t ∧
      (world = t ∨ ∃ notice, world = rig.note notice t) ∧
      pace' = (pace.takeUp due time).settle pace.report.ticks
        (rig.perform compiler pace.previous instruction world).previous
        (rig.perform compiler pace.previous instruction world).failure ∧
      (s' = (rig.perform compiler pace.previous instruction world).state ∨
        ∃ notice, s' = rig.note notice
          (rig.perform compiler pace.previous instruction world).state) := by
  obtain ⟨time, t, hn⟩ := now_of_tick h
  rw [tick_of_now hn] at h
  obtain ⟨rfl, rfl⟩ := EStateM.Result.ok.inj h
  refine ⟨time, t, _, hn, ?_, rfl, ?_⟩
  · split
    · exact Or.inr ⟨_, rfl⟩
    · exact Or.inl rfl
  · split
    · exact Or.inl rfl
    · exact Or.inr ⟨_, rfl⟩

/-- A tick does not wait. -/
theorem Tallies.tick {waits : σ → Nat} (ht : rig.Tallies waits)
    (h : rig.tick compiler period due pace instruction s = .ok pace' s') : waits s' = waits s := by
  obtain ⟨time, t, world, hn, hworld, -, hs'⟩ := exists_of_tick h
  have hwaits : waits world = waits s := by
    rcases hworld with rfl | ⟨notice, rfl⟩
    · exact ht.now_eq hn
    · exact (ht.note notice t).trans (ht.now_eq hn)
  rw [← hwaits, ← ht.perform compiler pace.previous instruction world]
  rcases hs' with rfl | ⟨notice, rfl⟩
  · rfl
  · exact ht.note notice _

/-- `rig.Beats compiler period started pace s instructions beats pace' s'`: of a run that started
at `started` and stands at `pace` and `s`, the instructions that are left are taken up with these
beats, and then it stands at `pace'` and `s'`. -/
inductive Beats (rig : Rig σ τ) (compiler : Compiler) (period : Period τ) (started : τ) :
    Pace τ → σ → List Instruction → List (Beat σ τ) → Pace τ → σ → Prop where
  | nil {pace : Pace τ} {s : σ} : Beats rig compiler period started pace s [] [] pace s
  | cons {pace next pace' : Pace τ} {instruction : Instruction} {rest : List Instruction}
      {beats : List (Beat σ τ)} {now time : τ} {s s₁ s₂ s₃ s₄ s' : σ}
      (hn : rig.now s = .ok now s₁)
      (hw : rig.wait (pace.due period started - now) s₁ = .ok false s₂)
      (htime : rig.now s₂ = .ok time s₃)
      (htick : rig.tick compiler period (pace.due period started) pace instruction s₂ =
        .ok next s₄)
      (h : Beats rig compiler period started next s₄ rest beats pace' s') :
      Beats rig compiler period started pace s (instruction :: rest) (⟨time, s₄⟩ :: beats) pace' s'

/-- `rig.Courses compiler period instructions begun started beats report ended`: a timed run of
`instructions` that begins in the state `begun` starts at the time `started`, has these beats, and
ends with this report and in the state `ended`. -/
inductive Courses (rig : Rig σ τ) (compiler : Compiler) (period : Period τ)
    (instructions : List Instruction) (begun : σ) (started : τ) (beats : List (Beat σ τ)) :
    Report τ → σ → Prop where
  | intro {pace : Pace τ} {stopped : τ} {s₁ s₂ s₃ : σ}
      (hstart : rig.now (rig.note (.timedStarted instructions.length period.told) begun) =
        .ok started s₁)
      (hbeats : rig.Beats compiler period started (.start instructions.length) s₁ instructions beats
        pace s₂)
      (hstop : rig.now s₂ = .ok stopped s₃) :
      Courses rig compiler period instructions begun started beats
        (pace.finish (stopped - started))
        (rig.note (.finished (pace.finish (stopped - started))) s₃)

theorem Beats.timedFrom
    (h : rig.Beats compiler period started pace s instructions beats pace' s') :
    rig.timedFrom compiler period started pace instructions s = .ok pace' s' := by
  induction h with
  | nil => rfl
  | cons hn hw _ htick _ ih =>
    rw [timedFrom_cons, hn]
    simp only [hw, htick]
    exact ih

/-- There is a beat for every instruction. -/
theorem Beats.length (h : rig.Beats compiler period started pace s instructions beats pace' s') :
    beats.length = instructions.length := by
  induction h with
  | nil => rfl
  | cons _ _ _ _ _ ih => exact congrArg (· + 1) ih

/-- Nobody is told to cancel by taking up an instruction. -/
theorem Beats.cancelled
    (h : rig.Beats compiler period started pace s instructions beats pace' s') :
    pace'.report.cancelled = pace.report.cancelled := by
  induction h with
  | nil => rfl
  | cons _ _ _ htick _ ih =>
    obtain ⟨_, _, _, -, -, rfl, -⟩ := exists_of_tick htick
    exact ih.trans (Pace.settle_cancelled _ _ _)

variable {begun ended : σ} {report : Report τ}

theorem Courses.timed
    (h : rig.Courses compiler period instructions begun started beats report ended) :
    rig.timed compiler period instructions begun = .ok report ended := by
  obtain ⟨hstart, hbeats, hstop⟩ := h
  rw [timed_eq, hstart]
  simp only [hbeats.timedFrom, hstop]

theorem Courses.length
    (h : rig.Courses compiler period instructions begun started beats report ended) :
    beats.length = instructions.length := by
  obtain ⟨-, hbeats, -⟩ := h
  exact hbeats.length

/-- Whoever asks the clock for the time is answered, and whoever waits for it is not told to
cancel. -/
structure NeverCancels (rig : Rig σ τ) : Prop where
  now : ∀ s, ∃ time s', rig.now s = .ok time s'
  wait : ∀ span s, ∃ s', rig.wait span s = .ok false s'

theorem NeverCancels.exists_beats (hc : rig.NeverCancels) (compiler : Compiler)
    (period : Period τ) (started : τ) (pace : Pace τ) (instructions : List Instruction) (s : σ) :
    ∃ beats pace' s', rig.Beats compiler period started pace s instructions beats pace' s' := by
  induction instructions generalizing pace s with
  | nil => exact ⟨[], pace, s, .nil⟩
  | cons instruction rest ih =>
    obtain ⟨now, s₁, hn⟩ := hc.now s
    obtain ⟨s₂, hw⟩ := hc.wait (pace.due period started - now) s₁
    obtain ⟨time, s₃, htime⟩ := hc.now s₂
    obtain ⟨beats, pace', s', h⟩ := ih _ _
    exact ⟨_, pace', s', .cons hn hw htime (tick_of_now htime) h⟩

/-- **A run that is never told to cancel has a beat for every instruction**, as long as the clock
runs. -/
theorem NeverCancels.exists_courses (hc : rig.NeverCancels) (compiler : Compiler)
    (period : Period τ) (instructions : List Instruction) (begun : σ) :
    ∃ started beats report ended,
      rig.Courses compiler period instructions begun started beats report ended := by
  obtain ⟨started, s₁, hstart⟩ :=
    hc.now (rig.note (.timedStarted instructions.length period.told) begun)
  obtain ⟨beats, pace, s₂, hbeats⟩ :=
    hc.exists_beats compiler period started (.start instructions.length) instructions s₁
  obtain ⟨stopped, s₃, hstop⟩ := hc.now s₂
  exact ⟨started, beats, _, _, .intro hstart hbeats hstop⟩

end Rig

/-- **A timed run that has the device to itself and is never told to cancel** has a report and a
beat for every instruction. -/
theorem Scheduler.exists_courses {σ τ : Type} [Timeline τ] {scheduler : Scheduler σ τ}
    {period : Period τ} (hp : scheduler.period = some period) (hc : scheduler.rig.NeverCancels)
    (instructions : List Instruction) {desk : Desk σ} (hd : desk.owned = false) :
    ∃ started beats report ended,
      scheduler.rig.Courses scheduler.compiler period instructions { desk with owned := true }
        started beats report ended ∧
      scheduler.runTimed instructions desk = .ok report ended.release := by
  obtain ⟨started, beats, report, ended, h⟩ :=
    hc.exists_courses scheduler.compiler period instructions { desk with owned := true }
  refine ⟨started, beats, report, ended, h, ?_⟩
  rw [Scheduler.runTimed_of_free hp hd, h.timed]

end FrameScript
