import FrameScript.Proofs.Playback.Cancelling
import FrameScript.Proofs.Playback.Process
import FrameScript.Proofs.Playback.Replay

/-!
# Compiling ahead of time

Frames can be compiled while they are played, each when its turn comes, or all of them before. It
makes no difference. A frame that could be compiled is the predecessor of the next one even if the
device has refused one of its events, so that what a run compiles is what is compiled ahead,
whatever the device does. Two runs that do the same are `Alike`: they undertake the same acts, and
go on alike by every answer. Where compiling ahead fails, a quick run of the frames plays what comes
before and then fails the same.

## Results

* `Process.Alike.bind`: runs that are put together from alike parts are alike.
* `Process.quickFrom_alike`, `Process.timedFrom_alike`: the simulation, from instruction to
  instruction.
* `Compiler.exists_of_compileFrom_error`: where compiling fails first.
* `Rig.quickFrom_of_compileFrom`: a quick run that nothing disturbs gets through the frames that can
  be compiled.
* `Scheduler.plays_as_compiled`: **playing frames is playing what they compile to.**
-/

namespace FrameScript

variable {σ τ α β α' β' : Type}

/-! ## Alike processes -/

namespace Process

/-- The processes undertake the same acts, whatever is answered, and if they end with values, these
are related by `R`. -/
inductive Alike (R : α → β → Prop) : Process τ α → Process τ β → Prop
  | ended {a : α} {b : β} (h : R a b) : Alike R (.ended (.ok a)) (.ended (.ok b))
  | failed (failure : Failure) : Alike R (.ended (.error failure)) (.ended (.error failure))
  | doing (act : Act τ) {next : act.Answer → Process τ α} {next' : act.Answer → Process τ β}
      (h : ∀ answer, Alike R (next answer) (next' answer)) :
      Alike R (.doing act next) (.doing act next')

namespace Alike

theorem refl (p : Process τ α) : Alike Eq p p := by
  induction p with
  | ended outcome =>
    cases outcome with
    | ok a => exact .ended rfl
    | error failure => exact .failed failure
  | doing act next ih => exact .doing act ih

/-- Processes that are alike with equal values are the same. -/
theorem eq {p q : Process τ α} (h : Alike Eq p q) : p = q := by
  induction h with
  | ended h => rw [h]
  | failed failure => rfl
  | doing act _ ih => exact congrArg (Process.doing act) (funext ih)

/-- **Alike processes go on alike** if what follows is alike for related values. -/
theorem bind {R : α → β → Prop} {S : α' → β' → Prop} {p : Process τ α} {q : Process τ β}
    {f : α → Process τ α'} {g : β → Process τ β'} (h : Alike R p q)
    (hf : ∀ a b, R a b → Alike S (f a) (g b)) : Alike S (p >>= f) (q >>= g) := by
  induction h with
  | ended h => exact hf _ _ h
  | failed failure => exact .failed failure
  | doing act _ ih => exact .doing act ih

/-- The same process goes on alike if what follows is alike. -/
theorem bind_same {S : α' → β' → Prop} (p : Process τ α) {f : α → Process τ α'}
    {g : α → Process τ β'} (hf : ∀ a, Alike S (f a) (g a)) : Alike S (p >>= f) (p >>= g) :=
  bind (refl p) fun a _ h => h ▸ hf a

end Alike

/-! ## Frames and their deltas -/

variable {compiler : Compiler} {frame : Frame} {delta : Delta} {frames : List Frame}
  {deltas : List Delta} {previous : Option Frame}

/-- A frame that can be compiled is played as its delta is, and fails as that fails. It becomes the
last frame either way. -/
theorem perform_alike (h : compiler.compile frame previous = .ok delta) (other : Option Frame) :
    Alike (fun done done' => done.1 = some frame ∧ done'.1 = other ∧ done.2 = done'.2)
      (perform (τ := τ) compiler previous (.frame frame))
      (perform compiler other (.delta delta)) := by
  unfold perform
  simp only [Instruction.resolve, h]
  exact .bind_same _ fun failure => .ended ⟨rfl, rfl, rfl⟩

/-- **Frames and their deltas make alike quick runs**, whatever the last frame is taken to be where
only deltas are left. -/
theorem quickFrom_alike (h : compiler.compileFrom previous frames = .ok deltas)
    (other : Option Frame) (report : Report τ) :
    Alike Eq (quickFrom compiler previous report (frames.map .frame))
      (quickFrom compiler other report (deltas.map .delta)) := by
  induction frames generalizing previous deltas other report with
  | nil =>
    obtain rfl := Except.ok.inj h
    exact .ended rfl
  | cons frame rest ih =>
    obtain ⟨delta, later, hframe, hlater, rfl⟩ := Compiler.compileFrom_cons_eq_ok h
    refine .bind_same ask fun cancelled => ?_
    cases cancelled with
    | true => exact .ended rfl
    | false =>
      refine .bind (perform_alike hframe other) ?_
      rintro ⟨_, failure⟩ ⟨other, _⟩ ⟨rfl, rfl, rfl⟩
      cases failure with
      | none => exact ih hlater other _
      | some failure => exact .failed failure

variable [Timeline τ]

/-- The paces differ at most in the last frame. -/
def Abreast (pace pace' : Pace τ) : Prop :=
  ∃ previous, pace' = { pace with previous }

/-- The ticks of a frame and of its delta are alike, and leave the frame as the last one. -/
theorem tick_alike {period : Period τ} {due : τ} {pace pace' : Pace τ}
    (h : compiler.compile frame pace.previous = .ok delta) (ha : Abreast pace pace') :
    Alike (fun pace pace' => pace.previous = some frame ∧ Abreast pace pace')
      (tick compiler period due pace (.frame frame))
      (tick compiler period due pace' (.delta delta)) := by
  obtain ⟨other, rfl⟩ := ha
  have htick (tickTime : τ) :
      Alike (fun pace pace' => pace.previous = some frame ∧ Abreast pace pace')
        (tickFrom compiler due tickTime pace (.frame frame))
        (tickFrom compiler due tickTime { pace with previous := other } (.delta delta)) := by
    refine .bind (perform_alike h other) ?_
    rintro ⟨_, failure⟩ ⟨other, _⟩ ⟨rfl, rfl, rfl⟩
    cases failure with
    | none => exact .ended ⟨rfl, other, rfl⟩
    | some failure => exact .bind_same (note _) fun _ => .ended ⟨rfl, other, rfl⟩
  refine .bind_same now fun tickTime => ?_
  by_cases hlate : Timeline.isBefore period.limit (Pace.drift due tickTime) = true
  · simp only [if_pos hlate]
    exact .bind_same (note _) fun _ => htick tickTime
  · simp only [if_neg hlate]
    exact htick tickTime

/-- **Frames and their deltas make alike timed runs**, which come out with paces that differ at
most in the last frame. -/
theorem timedFrom_alike {period : Period τ} {started : τ} {pace pace' : Pace τ}
    (h : compiler.compileFrom pace.previous frames = .ok deltas) (ha : Abreast pace pace') :
    Alike Abreast (timedFrom compiler period started pace (frames.map .frame))
      (timedFrom compiler period started pace' (deltas.map .delta)) := by
  induction frames generalizing deltas pace pace' with
  | nil =>
    obtain rfl := Except.ok.inj h
    exact .ended ha
  | cons frame rest ih =>
    obtain ⟨delta, later, hframe, hlater, rfl⟩ := Compiler.compileFrom_cons_eq_ok h
    obtain ⟨other, rfl⟩ := id ha
    refine .bind_same now fun time => .bind_same (wait _) fun cancelled => ?_
    cases cancelled with
    | true => exact .ended ⟨other, rfl⟩
    | false =>
      refine .bind (tick_alike hframe ha) fun next next' hnext => ?_
      obtain ⟨hprevious, hnext⟩ := hnext
      exact ih (hprevious ▸ hlater) hnext

/-- **A quick run of frames does what a quick run of their deltas does.** -/
theorem quick_eq_of_compileAll (h : compiler.compileAll frames = .ok deltas) :
    quick (τ := τ) compiler (frames.map .frame) = quick compiler (deltas.map .delta) := by
  refine Alike.eq (.bind_same now fun started => ?_)
  simp only [List.length_map, length_of_compileFrom h]
  refine .bind_same _ fun _ => .bind (quickFrom_alike h none _) fun report _ hr => ?_
  obtain rfl := hr
  exact .refl _

/-- **A timed run of frames does what a timed run of their deltas does.** -/
theorem timed_eq_of_compileAll (h : compiler.compileAll frames = .ok deltas) (period : Period τ) :
    timed compiler period (frames.map .frame) = timed compiler period (deltas.map .delta) := by
  refine Alike.eq ?_
  unfold timed
  simp only [List.length_map, length_of_compileFrom h]
  refine .bind_same _ fun _ => .bind_same now fun started => ?_
  refine .bind (timedFrom_alike h ⟨none, rfl⟩) fun pace pace' hp => ?_
  obtain ⟨other, rfl⟩ := hp
  exact .refl _

end Process

/-! ## Where compiling fails -/

section Failing

variable {compiler : Compiler} {frame : Frame} {frames : List Frame} {deltas : List Delta}
  {previous : Option Frame} {failure : Failure}

/-- The frame before the next one after several frames. -/
theorem getLast?_cons_or (frame : Frame) (frames : List Frame) (previous : Option Frame) :
    (frame :: frames).getLast?.or previous = frames.getLast?.or (some frame) := by
  rw [List.getLast?_cons]
  cases frames.getLast? <;> rfl

/-- **Compiling fails at a first frame**: those before it can be compiled, and it cannot be compiled
after the last of them. -/
theorem Compiler.exists_of_compileFrom_error
    (h : compiler.compileFrom previous frames = .error failure) :
    ∃ before frame after deltas, frames = before ++ frame :: after ∧
      compiler.compileFrom previous before = .ok deltas ∧
      compiler.compile frame (before.getLast?.or previous) = .error failure := by
  induction frames generalizing previous with
  | nil => cases h
  | cons frame rest ih =>
    unfold compileFrom at h
    cases hf : compiler.compile frame previous with
    | error e =>
      rw [hf] at h
      obtain rfl := Except.error.inj h
      exact ⟨[], frame, rest, [], rfl, rfl, hf⟩
    | ok delta =>
      simp only [hf] at h
      have hrest : compiler.compileFrom (some frame) rest = .error failure := by
        cases hr : compiler.compileFrom (some frame) rest with
        | error e =>
          rw [hr] at h
          exact congrArg Except.error (Except.error.inj h)
        | ok later =>
          rw [hr] at h
          cases h
      obtain ⟨before, last, after, deltas, rfl, hbefore, hlast⟩ := ih hrest
      refine ⟨frame :: before, last, after, delta :: deltas, rfl, ?_, ?_⟩
      · unfold compileFrom
        simp only [hf, hbefore]
        rfl
      · rw [getLast?_cons_or]
        exact hlast

variable {rig : Rig σ τ} {log : σ → List Event}

/-- A quick run that nothing disturbs gets through the frames that can be compiled: the device takes
their events, and what is left goes on after the last of them. -/
theorem Rig.quickFrom_of_compileFrom (hl : rig.Logs log) (hr : rig.NeverRefuses)
    (hk : rig.Keeps fun s => rig.isCancelled s = false)
    (h : compiler.compileFrom previous frames = .ok deltas) (rest : List Instruction)
    (report : Report τ) {s : σ} (hs : rig.isCancelled s = false) :
    ∃ report' s', rig.quickFrom compiler previous report (frames.map .frame ++ rest) s =
        rig.quickFrom compiler (frames.getLast?.or previous) report' rest s' ∧
      log s' = log s ++ deltas.flatMap Delta.events ∧ rig.isCancelled s' = false := by
  induction frames generalizing previous deltas report s with
  | nil =>
    obtain rfl := Except.ok.inj h
    exact ⟨report, s, rfl, (List.append_nil _).symm, hs⟩
  | cons frame later ih =>
    obtain ⟨delta, deltas, hframe, hlater, rfl⟩ := Compiler.compileFrom_cons_eq_ok h
    have hsent : (rig.sendAll delta.events s).1 = none := sendAll_of_neverRefuses hr _ s
    have hlog : log (rig.sendAll delta.events s).2 = log s ++ delta.events := by
      obtain ⟨sent, -, hlog, hall⟩ := sendAll_takes hl delta.events s
      rw [hlog, hall.mp hsent]
    obtain ⟨report', s', hrun, hlog', hs'⟩ :=
      ih hlater { report with ticks := report.ticks + 1, applied := report.applied + 1 }
        (hk.sendAll delta.events hs)
    refine ⟨report', s', ?_, ?_, hs'⟩
    · rw [getLast?_cons_or, ← hrun, List.map_cons, List.cons_append, Rig.quickFrom, hs]
      simp only [Rig.perform, Instruction.resolve, hframe, hsent, Bool.false_eq_true, if_false]
      rfl
    · rw [hlog', hlog, List.flatMap_cons, List.append_assoc]

/-- **A quick run of frames that nothing disturbs plays those that can be compiled** and ends with
the failure of the first one that cannot. -/
theorem Rig.quick_of_compile_error [Timeline τ] (hl : rig.Logs log) (hr : rig.NeverRefuses)
    (hclock : rig.ClockRuns) (hk : rig.Keeps fun s => rig.isCancelled s = false)
    (h : compiler.compileAll frames = .ok deltas)
    (hf : compiler.compile frame frames.getLast? = .error failure) (after : List Frame) {s : σ}
    (hs : rig.isCancelled s = false) :
    ∃ s', rig.quick compiler ((frames ++ frame :: after).map .frame) s = .error failure s' ∧
      log s' = log s ++ deltas.flatMap Delta.events := by
  obtain ⟨started, s₁, hnow⟩ := hclock.now s
  have hs₁ : rig.isCancelled s₁ = false := by
    have hkept := hk.now s hs
    rw [hnow] at hkept
    exact hkept
  -- The total in the report does not matter to a run that fails.
  generalize hinstructions : (frames ++ frame :: after).map Instruction.frame = instructions
  obtain ⟨report, s₂, hrun, hlog, hs₂⟩ :=
    quickFrom_of_compileFrom hl hr hk h (.frame frame :: after.map .frame)
      (.fresh "quick" instructions.length) (hk.note (.quickStarted instructions.length) s₁ hs₁)
  have hfail : rig.quickFrom compiler (frames.getLast?.or none) report
      (.frame frame :: after.map .frame) s₂ = .error failure s₂ := by
    rw [Option.or_none, Rig.quickFrom, hs₂]
    simp only [Rig.perform, Instruction.resolve, hf, Bool.false_eq_true, if_false]
  rw [hfail, ← List.map_cons, ← List.map_append, hinstructions] at hrun
  refine ⟨s₂, ?_, ?_⟩
  · rw [quick_eq, hnow]
    simp only [hrun]
  · rw [hlog, hl.note, hl.now_eq hnow]

end Failing

namespace Scheduler

variable [Timeline τ]

/-- **Playing frames is playing what they compile to.** If the frames can be compiled ahead, a run
of them and a run of their deltas do the same thing after thing, whatever clock and device answer,
and come out the same on every desk. If they cannot, there is a first one at which compiling fails,
and a quick run of the frames on a device that refuses nothing plays those before it and ends with
the same failure. -/
theorem plays_as_compiled (scheduler : Scheduler σ τ) (frames : List Frame) :
    (∀ deltas, scheduler.compiler.compileAll frames = .ok deltas →
      Process.quick (τ := τ) scheduler.compiler (frames.map .frame) =
        Process.quick scheduler.compiler (deltas.map .delta) ∧
      (∀ period : Period τ, Process.timed scheduler.compiler period (frames.map .frame) =
        Process.timed scheduler.compiler period (deltas.map .delta)) ∧
      scheduler.runQuick (frames.map .frame) = scheduler.runQuick (deltas.map .delta) ∧
      scheduler.runTimed (frames.map .frame) = scheduler.runTimed (deltas.map .delta) ∧
      scheduler.start (frames.map .frame) = scheduler.start (deltas.map .delta)) ∧
    ∀ failure, scheduler.compiler.compileAll frames = .error failure →
      ∃ i frame deltas, frames[i]? = some frame ∧
        scheduler.compiler.compileAll (frames.take i) = .ok deltas ∧
        scheduler.compiler.compile frame (frames.take i).getLast? = .error failure ∧
        ∀ (log : σ → List Event) (desk : Desk σ),
          scheduler.rig.Logs (fun desk => log desk.world) → scheduler.rig.NeverRefuses →
          scheduler.rig.ClockRuns →
          scheduler.rig.Keeps (fun desk => scheduler.rig.isCancelled desk = false) →
          desk.owned = false → scheduler.rig.isCancelled { desk with owned := true } = false →
          ∃ desk', scheduler.runQuick (frames.map .frame) desk = .error failure desk' ∧
            log desk'.world = log desk.world ++ deltas.flatMap Delta.events := by
  refine ⟨fun deltas h => ?_, fun failure h => ?_⟩
  · have hquick := Process.quick_eq_of_compileAll (τ := τ) h
    have htimed := Process.timed_eq_of_compileAll (τ := τ) h
    have hrig : scheduler.timed (frames.map .frame) = scheduler.timed (deltas.map .delta) := by
      unfold timed
      cases scheduler.period with
      | none => rfl
      | some period => simp only [← Process.run_timed, htimed]
    refine ⟨hquick, htimed, ?_, ?_, ?_⟩
    · simp only [runQuick, ← Process.run_quick, hquick]
    · simp only [runTimed, hrig]
    · unfold start work
      rw [hrig]
  · obtain ⟨before, frame, after, deltas, rfl, hbefore, hframe⟩ :=
      Compiler.exists_of_compileFrom_error h
    rw [Option.or_none] at hframe
    have htake : (before ++ frame :: after).take before.length = before := List.take_left
    have hthere : (before ++ frame :: after)[before.length]? = some frame := by simp
    refine ⟨before.length, frame, deltas, hthere, ?_, ?_, fun log desk hl hr hclock hk hd hc => ?_⟩
    · rw [htake]
      exact hbefore
    · rw [htake]
      exact hframe
    · obtain ⟨failed, hrun, hlog⟩ :=
        Rig.quick_of_compile_error hl hr hclock hk hbefore hframe after hc
      refine ⟨failed.release, ?_, hlog⟩
      simp only [runQuick, Desk.exclusively, Desk.acquire, hd, Bool.false_eq_true, if_false, hrun]

/-! ## A device that refuses and one that does not -/

/-- A scheduler that nobody cancels, with a device that takes everything. -/
def calm : Scheduler Attention Int :=
  ⟨attentive fun _ _ => false, ⟨⟨0, 0⟩, true⟩, some ⟨.whole 10, 10, 10⟩⟩

theorem logs_calm : calm.rig.Logs fun desk => desk.world.taken where
  now _ := rfl
  wait _ _ := rfl
  note _ _ := rfl
  taken event s s' h := by rw [← (EStateM.Result.ok.inj h).2]
  refused event s failure s' h := by cases h

theorem keeps_calm : calm.rig.Keeps fun desk => calm.rig.isCancelled desk = false where
  now _ h := h
  wait _ _ h := h
  note _ _ h := h
  send _ s h := by
    show (s.world.cancelled || false) = false
    rw [Bool.or_false]
    exact h

/-- On a device that refuses to release the key, a run of two frames comes out as that of their
deltas. On one that refuses nothing, a run with a frame that has other fields presses the key and
fails. -/
theorem plays_as_compiled_tap :
    (∃ deltas, Rehearsal.scheduler.compiler.compileAll [tap ['A'], tap ['.']] = .ok deltas ∧
      Rehearsal.scheduler.runTimed [.frame (tap ['A']), .frame (tap ['.'])]
          Rehearsal.stubborn.release =
        Rehearsal.scheduler.runTimed (deltas.map .delta) Rehearsal.stubborn.release) ∧
      ∃ failure desk, calm.runQuick [.frame (tap ['A']), .frame ⟨[], ⟨none, none⟩⟩]
          ⟨false, ⟨[], false⟩⟩ = .error failure desk ∧
        desk.world.taken = [.move 1 2, .pressKey 65] := by
  constructor
  · obtain ⟨hsame, -⟩ := plays_as_compiled Rehearsal.scheduler [tap ['A'], tap ['.']]
    obtain ⟨deltas, hdeltas⟩ : ∃ deltas,
        Rehearsal.scheduler.compiler.compileAll [tap ['A'], tap ['.']] = .ok deltas := ⟨_, rfl⟩
    obtain ⟨-, -, -, htimed, -⟩ := hsame deltas hdeltas
    exact ⟨deltas, hdeltas, congrFun htimed _⟩
  · obtain ⟨-, hfails⟩ := plays_as_compiled calm [tap ['A'], ⟨[], ⟨none, none⟩⟩]
    obtain ⟨failure, hfailure⟩ : ∃ failure,
        calm.compiler.compileAll [tap ['A'], ⟨[], ⟨none, none⟩⟩] = .error failure := ⟨_, rfl⟩
    obtain ⟨i, frame, deltas, hi, hbefore, hframe, hrun⟩ := hfails failure hfailure
    obtain ⟨desk, hrun, hlog⟩ := hrun Attention.taken ⟨false, ⟨[], false⟩⟩ logs_calm
      (fun _ _ => ⟨_, rfl⟩) ⟨fun s => ⟨0, s, rfl⟩, fun _ s => ⟨_, s, rfl⟩⟩ keeps_calm rfl rfl
    refine ⟨failure, desk, hrun, ?_⟩
    rw [hlog]
    match i, hi, hbefore, hframe with
    | 0, hi, _, hframe =>
      obtain rfl := Option.some.inj hi
      cases hframe
    | 1, _, hbefore, _ =>
      obtain rfl := Except.ok.inj hbefore
      rfl

end Scheduler

end FrameScript
