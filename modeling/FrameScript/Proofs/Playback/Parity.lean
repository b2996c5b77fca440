import FrameScript.Proofs.Playback.Beats

/-!
# Quick and timed runs deliver the same

Two loops play instructions, and they differ in what they make of a failure: a quick run ends with
it, a timed one notes it and goes on. The device may answer each event as it likes, as long as its
answer depends only on what it was asked before: `answer calls event` is what it says to `event`
after it was asked to take the events `calls`, those that it refused among them. Then it is settled
without any clock what comes of each instruction: `Attempt.performAll` tells it for instructions
that are all taken up, whatever fails. A timed run makes all of these attempts, and a quick run
those up to the first that fails.

## Results

* `Rig.Answers.perform`: **playing an instruction is making its attempt**, on every rig.
* `Rig.Answers.quickFrom_ok`, `Rig.Answers.quickFrom_error`: a quick run makes the attempts up to
  the first failure.
* `Rig.Answers.attempts_of_beats`: a timed run makes them all.
* `Scheduler.quick_agrees_with_timed`: **both kinds of runs deliver the same** until something
  fails, and then the quick run ends where the timed one notes its first error.
-/

namespace FrameScript

open Reading

/-! ## Attempts -/

/-- What came of an instruction that was tried: what became of it, and the event that the device
refused, if that was why it failed. -/
structure Attempt extends Fate where
  refused : Option Event

namespace Attempt

/-- The events that the device was asked to take. -/
def calls (attempt : Attempt) : List Event :=
  attempt.taken ++ attempt.refused.toList

variable (answer : List Event → Event → Except Failure Unit)

/-- Sends events, after the events `before`, until one of them is refused. -/
def send (before : List Event) : List Event → Attempt
  | [] => ⟨⟨[], none⟩, none⟩
  | event :: rest =>
    match answer before event with
    | .ok _ =>
      let attempt := send (before ++ [event]) rest
      { attempt with taken := event :: attempt.taken }
    | .error failure => ⟨⟨[], some failure⟩, some event⟩

/-- Tries an instruction. -/
def perform (compiler : Compiler) (previous : Option Frame) (before : List Event)
    (instruction : Instruction) : Attempt :=
  match instruction.resolve compiler previous with
  | .error failure => ⟨⟨[], some failure⟩, none⟩
  | .ok delta => send answer before delta.events

/-- Tries instructions, one after the other, whatever comes of them. -/
def performAll (compiler : Compiler) :
    Option Frame → List Event → List Instruction → List Attempt
  | _, _, [] => []
  | previous, before, instruction :: rest =>
    let attempt := perform answer compiler previous before instruction
    attempt ::
      performAll compiler (instruction.follow compiler previous) (before ++ attempt.calls) rest

variable {answer} {compiler : Compiler} {previous : Option Frame} {before : List Event}

theorem calls_send_cons_of_ok {event : Event} {rest : List Event} {u : Unit}
    (h : answer before event = .ok u) :
    (send answer before (event :: rest)).calls =
      event :: (send answer (before ++ [event]) rest).calls := by
  rw [send, h]
  rfl

theorem length_performAll (instructions : List Instruction) :
    (performAll answer compiler previous before instructions).length = instructions.length := by
  induction instructions generalizing previous before with
  | nil => rfl
  | cons instruction rest ih => exact congrArg (· + 1) ih

end Attempt

namespace Fate

variable {fates : List Fate} {first : Nat}

theorem failuresFrom_eq_nil (h : ∀ fate ∈ fates, fate.failure = none) :
    failuresFrom first fates = [] := by
  rw [← List.length_eq_zero_iff, length_failuresFrom, List.countP_eq_zero]
  intro fate hm
  rw [isApplied, h fate hm]
  exact Bool.false_ne_true

/-- The first failure is that of the first instruction that was not applied. -/
theorem head?_failuresFrom {i : Nat} {fate : Fate} {failure : Failure} (hi : fates[i]? = some fate)
    (hf : fate.failure = some failure) (hbefore : ∀ fate ∈ fates.take i, fate.failure = none) :
    (failuresFrom first fates).head? = some (first + i, failure) := by
  obtain ⟨hlt, hget⟩ := List.getElem?_eq_some_iff.mp hi
  have hsplit : fates = fates.take i ++ fate :: fates.drop (i + 1) := by
    rw [← hget, List.getElem_cons_drop, List.take_append_drop]
  rw [hsplit, failuresFrom_append, failuresFrom_eq_nil hbefore, List.nil_append,
    List.length_take_of_le (Nat.le_of_lt hlt)]
  unfold failuresFrom
  rw [List.zipIdx_cons, List.filterMap_cons]
  simp only [hf, Option.map_some, List.head?_cons]

end Fate

/-- Every one of so many instructions was applied, and nothing else is reported. -/
structure Report.Flawless {τ : Type} (report : Report τ) (n : Nat) : Prop where
  total : report.total = n
  applied : report.applied = n
  completed : report.isCompleted = true
  errors : report.errors = []

theorem Pace.Gains.flawless {τ : Type} [Timeline τ] {pace : Pace τ} {fates : List Fate} {n : Nat}
    (h : (Pace.start n).Gains fates pace) (hall : ∀ fate ∈ fates, fate.failure = none)
    (hn : fates.length = n) (hc : pace.report.cancelled = false) (elapsed : τ) :
    (pace.finish elapsed).Flawless n where
  total := h.total
  applied := by
    refine h.applied.trans ((Nat.zero_add _).trans ?_)
    rw [← hn, List.countP_eq_length]
    exact fun fate hm => Option.isNone_iff_eq_none.mpr (hall fate hm)
  completed := by
    show (!pace.report.cancelled && pace.report.ticks == pace.report.total) = true
    rw [hc, h.total, h.ticks, hn]
    exact beq_iff_eq.mpr (Nat.zero_add n)
  errors := h.errors.trans (Fate.failuresFrom_eq_nil hall)

/-! ## Rigs that answer by what they were asked -/

namespace Rig

variable {σ τ : Type} {rig : Rig σ τ} {calls : σ → List Event}
  {answer : List Event → Event → Except Failure Unit}

/-- The clock runs, nobody cancels, and the device answers by what it was asked before: `calls` is
what it was asked to take, the refused events with the others, and `answer` what it says. -/
structure Answers (rig : Rig σ τ) (calls : σ → List Event)
    (answer : List Event → Event → Except Failure Unit) : Prop where
  now : ∀ s, ∃ time s', rig.now s = .ok time s' ∧ calls s' = calls s
  wait : ∀ span s, ∃ s', rig.wait span s = .ok false s' ∧ calls s' = calls s
  note : ∀ notice s, calls (rig.note notice s) = calls s
  uncancelled : ∀ s, rig.isCancelled s = false
  send : ∀ event s, outcome (rig.send event s) = answer (calls s) event
  asked : ∀ event s, calls (left (rig.send event s)) = calls s ++ [event]

namespace Answers

variable {compiler : Compiler} {previous : Option Frame} {instructions : List Instruction}
  {s s' : σ}

theorem neverCancels (h : rig.Answers calls answer) : rig.NeverCancels where
  now s := by
    obtain ⟨time, s', hn, -⟩ := h.now s
    exact ⟨time, s', hn⟩
  wait span s := by
    obtain ⟨s', hw, -⟩ := h.wait span s
    exact ⟨s', hw⟩

theorem now_eq (h : rig.Answers calls answer) {time : τ} (hn : rig.now s = .ok time s') :
    calls s' = calls s := by
  obtain ⟨_, _, hn', hcalls⟩ := h.now s
  rw [hn] at hn'
  rw [(EStateM.Result.ok.inj hn').2, hcalls]

theorem wait_eq (h : rig.Answers calls answer) {span : τ} (hw : rig.wait span s = .ok false s') :
    calls s' = calls s := by
  obtain ⟨_, hw', hcalls⟩ := h.wait span s
  rw [hw] at hw'
  rw [(EStateM.Result.ok.inj hw').2, hcalls]

theorem sendAll (h : rig.Answers calls answer) (events : List Event) (s : σ) :
    (rig.sendAll events s).1 = (Attempt.send answer (calls s) events).failure ∧
      calls (rig.sendAll events s).2 =
        calls s ++ (Attempt.send answer (calls s) events).calls := by
  induction events generalizing s with
  | nil => exact ⟨rfl, (List.append_nil _).symm⟩
  | cons event rest ih =>
    have hanswer := h.send event s
    have hasked := h.asked event s
    unfold Rig.sendAll
    cases hs : rig.send event s with
    | ok u t =>
      rw [hs] at hanswer hasked
      obtain ⟨hfailure, hcalls⟩ := ih t
      have ht : calls t = calls s ++ [event] := hasked
      rw [ht] at hfailure hcalls
      refine ⟨hfailure.trans ?_, hcalls.trans ?_⟩
      · rw [Attempt.send, ← hanswer]
        rfl
      · rw [Attempt.calls_send_cons_of_ok hanswer.symm, List.append_assoc]
        rfl
    | error failure t =>
      rw [hs] at hanswer hasked
      rw [Attempt.send, ← hanswer]
      exact ⟨rfl, hasked⟩

/-- **Playing an instruction is making its attempt.** -/
theorem perform (h : rig.Answers calls answer) (compiler : Compiler) (previous : Option Frame)
    (instruction : Instruction) (s : σ) :
    let done := rig.perform compiler previous instruction s
    let attempt := Attempt.perform answer compiler previous (calls s) instruction
    done.failure = attempt.failure ∧ done.previous = instruction.follow compiler previous ∧
      calls done.state = calls s ++ attempt.calls := by
  unfold Rig.perform Attempt.perform Instruction.follow
  cases instruction.resolve compiler previous with
  | error failure => exact ⟨rfl, rfl, (List.append_nil _).symm⟩
  | ok delta =>
    obtain ⟨hfailure, hcalls⟩ := h.sendAll delta.events s
    exact ⟨hfailure, rfl, hcalls⟩

/-! ## Quick runs -/

theorem quickFrom_cons (h : rig.Answers calls answer) {report : Report τ}
    {instruction : Instruction} {rest : List Instruction} :
    rig.quickFrom compiler previous report (instruction :: rest) s =
      match (Attempt.perform answer compiler previous (calls s) instruction).failure with
      | some failure => .error failure (rig.perform compiler previous instruction s).state
      | none =>
        rig.quickFrom compiler (instruction.follow compiler previous)
          { report with ticks := report.ticks + 1, applied := report.applied + 1 } rest
          (rig.perform compiler previous instruction s).state := by
  obtain ⟨hfailure, hprevious, -⟩ := h.perform compiler previous instruction s
  rw [Rig.quickFrom, if_neg (by rw [h.uncancelled s]; exact Bool.false_ne_true)]
  cases hf : (Attempt.perform answer compiler previous (calls s) instruction).failure with
  | some failure => simp only [hfailure, hf]
  | none => simp only [hfailure, hprevious, hf]

/-- A quick run in which nothing fails makes all the attempts. -/
theorem quickFrom_ok (h : rig.Answers calls answer) (report : Report τ)
    (hall : ∀ attempt ∈ Attempt.performAll answer compiler previous (calls s) instructions,
      attempt.failure = none) :
    ∃ s', rig.quickFrom compiler previous report instructions s =
        .ok { report with ticks := report.ticks + instructions.length
                          applied := report.applied + instructions.length } s' ∧
      calls s' = calls s ++
        (Attempt.performAll answer compiler previous (calls s) instructions).flatMap
          Attempt.calls := by
  induction instructions generalizing previous report s with
  | nil => exact ⟨s, rfl, (List.append_nil _).symm⟩
  | cons instruction rest ih =>
    obtain ⟨-, -, hcalls⟩ := h.perform compiler previous instruction s
    obtain ⟨hnone, hrest⟩ := List.forall_mem_cons.mp hall
    rw [← hcalls] at hrest
    obtain ⟨s', hrun, hcalls'⟩ :=
      ih { report with ticks := report.ticks + 1, applied := report.applied + 1 } hrest
    refine ⟨s', ?_, ?_⟩
    · rw [h.quickFrom_cons, hnone, List.length_cons, Nat.add_comm rest.length, ← Nat.add_assoc,
        ← Nat.add_assoc]
      exact hrun
    · rw [hcalls', hcalls, Attempt.performAll, List.flatMap_cons, List.append_assoc]

/-- A quick run ends with the first failure, once it has made the attempts up to it. -/
theorem quickFrom_error (h : rig.Answers calls answer) (report : Report τ) {i : Nat}
    {attempt : Attempt} {failure : Failure}
    (hi : (Attempt.performAll answer compiler previous (calls s) instructions)[i]? = some attempt)
    (hf : attempt.failure = some failure)
    (hbefore : ∀ attempt ∈
      (Attempt.performAll answer compiler previous (calls s) instructions).take i,
      attempt.failure = none) :
    ∃ s', rig.quickFrom compiler previous report instructions s = .error failure s' ∧
      calls s' = calls s ++
        ((Attempt.performAll answer compiler previous (calls s) instructions).take
          (i + 1)).flatMap Attempt.calls := by
  induction instructions generalizing previous report s i with
  | nil => cases hi
  | cons instruction rest ih =>
    obtain ⟨-, -, hcalls⟩ := h.perform compiler previous instruction s
    rw [h.quickFrom_cons, Attempt.performAll, List.take_succ_cons, List.flatMap_cons,
      ← List.append_assoc, ← hcalls]
    cases i with
    | zero =>
      obtain rfl := Option.some.inj hi
      rw [hf]
      exact ⟨_, rfl, (List.append_nil _).symm⟩
    | succ i =>
      obtain ⟨hnone, hbefore⟩ := List.forall_mem_cons.mp hbefore
      rw [← hcalls] at hbefore
      rw [hnone]
      refine ih _ ?_ hbefore
      rw [hcalls]
      exact hi

/-! ## Timed runs -/

variable [Timeline τ] {period : Period τ} {due started : τ} {pace pace' : Pace τ}
  {beats : List (Beat σ τ)}

/-- A tick makes the attempt of its instruction. -/
theorem tick (h : rig.Answers calls answer) {instruction : Instruction}
    (ht : rig.tick compiler period due pace instruction s = .ok pace' s') :
    let attempt := Attempt.perform answer compiler pace.previous (calls s) instruction
    pace.Gains [attempt.toFate] pace' ∧
      pace'.previous = instruction.follow compiler pace.previous ∧
      calls s' = calls s ++ attempt.calls := by
  obtain ⟨time, t, world, hn, hworld, rfl, hs'⟩ := exists_of_tick ht
  have hcalls : calls world = calls s := by
    rcases hworld with rfl | ⟨notice, rfl⟩
    · exact h.now_eq hn
    · exact (h.note notice t).trans (h.now_eq hn)
  obtain ⟨hfailure, hprevious, hasked⟩ := h.perform compiler pace.previous instruction world
  rw [hcalls] at hfailure hasked
  refine ⟨?_, (Pace.settle_previous _ _ _).trans hprevious, ?_⟩
  · rw [hfailure]
    exact Pace.gains_settle due time _ _ _
  · rw [← hasked]
    rcases hs' with rfl | ⟨notice, rfl⟩
    · rfl
    · exact h.note notice _

/-- **A timed run makes all the attempts**, and by the end of a tick those up to its own. -/
theorem attempts_of_beats (h : rig.Answers calls answer)
    (hb : rig.Beats compiler period started pace s instructions beats pace' s') :
    let attempts := Attempt.performAll answer compiler pace.previous (calls s) instructions
    pace.Gains (attempts.map Attempt.toFate) pace' ∧
      calls s' = calls s ++ attempts.flatMap Attempt.calls ∧
      ∀ i beat, beats[i]? = some beat →
        calls beat.state = calls s ++ (attempts.take (i + 1)).flatMap Attempt.calls := by
  induction hb with
  | nil => exact ⟨.refl _, (List.append_nil _).symm, fun i beat hi => by cases hi⟩
  | @cons pace next pace' instruction rest beats now time s s₁ s₂ s₃ s₄ s' hn hw htime htick _ ih =>
    have hcalls : calls s₂ = calls s := (h.wait_eq hw).trans (h.now_eq hn)
    obtain ⟨hgains, hprevious, hasked⟩ := h.tick htick
    rw [hcalls] at hgains hasked
    obtain ⟨hgains', hcalls', hbeats⟩ := ih
    rw [hprevious, hasked] at hgains' hcalls' hbeats
    refine ⟨hgains.trans hgains', ?_, fun i beat hi => ?_⟩
    · rw [hcalls', Attempt.performAll, List.flatMap_cons, List.append_assoc]
    · rw [Attempt.performAll, List.take_succ_cons, List.flatMap_cons]
      cases i with
      | zero =>
        obtain rfl := Option.some.inj hi
        rw [hasked, List.take_zero, List.flatMap_nil, List.append_nil]
      | succ i => rw [hbeats i beat hi, List.append_assoc]

/-! ## Runs between two looks at the clock -/

/-- A quick run in which nothing fails delivers what the attempts deliver. -/
theorem quick_ok (h : rig.Answers calls answer)
    (hall : ∀ attempt ∈ Attempt.performAll answer compiler none (calls s) instructions,
      attempt.failure = none) :
    ∃ report s', rig.quick compiler instructions s = .ok report s' ∧
      report.Flawless instructions.length ∧
      calls s' = calls s ++
        (Attempt.performAll answer compiler none (calls s) instructions).flatMap Attempt.calls := by
  obtain ⟨started, s₁, hstart, -⟩ := h.now s
  have hs₁ : calls (rig.note (.quickStarted instructions.length) s₁) = calls s :=
    (h.note _ _).trans (h.now_eq hstart)
  rw [← hs₁] at hall
  obtain ⟨s₂, hrun, hcalls⟩ := h.quickFrom_ok (.fresh "quick" instructions.length) hall
  obtain ⟨ended, s₃, hstop, -⟩ := h.now s₂
  rw [quick_eq, hstart]
  simp only [hrun, hstop]
  refine ⟨_, _, rfl, ⟨rfl, Nat.zero_add _, ?_, rfl⟩, ?_⟩
  · exact beq_iff_eq.mpr (Nat.zero_add _)
  · rw [h.note, h.now_eq hstop, hcalls, hs₁]

/-- A quick run delivers what the attempts deliver up to the first that fails. -/
theorem quick_error (h : rig.Answers calls answer) {i : Nat} {attempt : Attempt}
    {failure : Failure}
    (hi : (Attempt.performAll answer compiler none (calls s) instructions)[i]? = some attempt)
    (hf : attempt.failure = some failure)
    (hbefore : ∀ attempt ∈
      (Attempt.performAll answer compiler none (calls s) instructions).take i,
      attempt.failure = none) :
    ∃ s', rig.quick compiler instructions s = .error failure s' ∧
      calls s' = calls s ++
        ((Attempt.performAll answer compiler none (calls s) instructions).take
          (i + 1)).flatMap Attempt.calls := by
  obtain ⟨started, s₁, hstart, -⟩ := h.now s
  have hs₁ : calls (rig.note (.quickStarted instructions.length) s₁) = calls s :=
    (h.note _ _).trans (h.now_eq hstart)
  rw [← hs₁] at hi hbefore
  obtain ⟨s₂, hrun, hcalls⟩ :=
    h.quickFrom_error (.fresh "quick" instructions.length) hi hf hbefore
  rw [quick_eq, hstart]
  simp only [hrun]
  rw [hs₁] at hcalls
  exact ⟨s₂, rfl, hcalls⟩

/-- A timed run delivers what all the attempts deliver, by the end of a tick what those up to its
own do, and reports the failures among them. -/
theorem attempts_of_courses (h : rig.Answers calls answer) {begun ended : σ} {report : Report τ}
    (hc : rig.Courses compiler period instructions begun started beats report ended) :
    let attempts := Attempt.performAll answer compiler none (calls begun) instructions
    calls ended = calls begun ++ attempts.flatMap Attempt.calls ∧
      (∀ i beat, beats[i]? = some beat →
        calls beat.state = calls begun ++ (attempts.take (i + 1)).flatMap Attempt.calls) ∧
      report.errors = Fate.failuresFrom 0 (attempts.map Attempt.toFate) ∧
      ((∀ attempt ∈ attempts, attempt.failure = none) → report.Flawless instructions.length) := by
  obtain @⟨pace, stopped, s₁, s₂, s₃, hstart, hbeats, hstop⟩ := hc
  have hs₁ : calls s₁ = calls begun := (h.now_eq hstart).trans (h.note _ _)
  obtain ⟨hgains, hcalls, hdelivered⟩ := h.attempts_of_beats hbeats
  rw [hs₁] at hgains hcalls hdelivered
  refine ⟨by rw [h.note, h.now_eq hstop, hcalls]; rfl, hdelivered, hgains.errors, fun hall => ?_⟩
  have hfates : ∀ fate ∈ (Attempt.performAll answer compiler none (calls begun)
      instructions).map Attempt.toFate, fate.failure = none :=
    List.forall_mem_map.mpr hall
  exact hgains.flawless hfates (by rw [List.length_map, Attempt.length_performAll])
    hbeats.cancelled _

end Answers

end Rig

/-! ## Both kinds of runs -/

namespace Scheduler

variable {σ τ : Type} [Timeline τ] {scheduler : Scheduler σ τ}
  {instructions : List Instruction} {desk : Desk σ}

/-- A quick run that may have the device is a run of the rig. -/
theorem runQuick_of_free (hd : desk.owned = false) :
    scheduler.runQuick instructions desk =
      match scheduler.rig.quick scheduler.compiler instructions { desk with owned := true } with
      | .ok report desk => .ok report desk.release
      | .error failure desk => .error failure desk.release := by
  unfold runQuick Desk.exclusively Desk.acquire
  rw [hd]
  simp only [Bool.false_eq_true, if_false]
  cases scheduler.rig.quick scheduler.compiler instructions { desk with owned := true } <;> rfl

/-- **Quick and timed runs deliver the same**, whatever the instructions, the compiler and the
period are, and whatever the device answers by what it was asked before. If no attempt fails, both
runs ask the device for the same events in the same order, and both have applied everything. If
attempt `i` is the first that fails, the quick run ends with its failure once it has asked for just
what the timed run has asked for by the end of tick `i`, and this failure is the first error that
the timed run reports. -/
theorem quick_agrees_with_timed (scheduler : Scheduler σ τ) {period : Period τ}
    (hp : scheduler.period = some period) (calls : σ → List Event)
    (answer : List Event → Event → Except Failure Unit)
    (h : scheduler.rig.Answers (fun desk => calls desk.world) answer)
    (instructions : List Instruction) (desk : Desk σ) (hd : desk.owned = false) :
    let attempts :=
      Attempt.performAll answer scheduler.compiler none (calls desk.world) instructions
    ∃ started beats timed ended,
      scheduler.rig.Courses scheduler.compiler period instructions { desk with owned := true }
        started beats timed ended ∧
      scheduler.runTimed instructions desk = .ok timed ended.release ∧
      ((∀ attempt ∈ attempts, attempt.failure = none) →
        ∃ quick desk', scheduler.runQuick instructions desk = .ok quick desk' ∧
          calls desk'.world = calls ended.world ∧
          calls ended.world = calls desk.world ++ attempts.flatMap Attempt.calls ∧
          quick.Flawless instructions.length ∧ timed.Flawless instructions.length) ∧
      ∀ i attempt failure, attempts[i]? = some attempt → attempt.failure = some failure →
        (∀ earlier ∈ attempts.take i, earlier.failure = none) →
        ∃ desk' beat, scheduler.runQuick instructions desk = .error failure desk' ∧
          beats[i]? = some beat ∧
          calls desk'.world = calls beat.state.world ∧
          calls beat.state.world =
            calls desk.world ++ (attempts.take (i + 1)).flatMap Attempt.calls ∧
          timed.errorTexts.head? = some s!"tick {i}: {failure.message}" := by
  intro attempts
  obtain ⟨started, beats, timed, ended, hcourse, htimed⟩ :=
    exists_courses hp h.neverCancels instructions hd
  obtain ⟨hcalls, hbeats, herrors, hflawless⟩ := h.attempts_of_courses hcourse
  refine ⟨started, beats, timed, ended, hcourse, htimed, fun hall => ?_,
    fun i attempt failure hi hf hbefore => ?_⟩
  · obtain ⟨quick, s', hquick, hreport, hcalls'⟩ :=
      h.quick_ok (s := { desk with owned := true }) hall
    refine ⟨quick, s'.release, ?_, hcalls'.trans hcalls.symm, hcalls, hreport, hflawless hall⟩
    rw [runQuick_of_free hd, hquick]
  · obtain ⟨s', hquick, hcalls'⟩ :=
      h.quick_error (s := { desk with owned := true }) hi hf hbefore
    have hlt : i < beats.length := by
      rw [hcourse.length, ← Attempt.length_performAll instructions]
      exact (List.getElem?_eq_some_iff.mp hi).1
    have hbeat := hbeats i beats[i] (List.getElem?_eq_getElem hlt)
    refine ⟨s'.release, beats[i], ?_, List.getElem?_eq_getElem hlt, hcalls'.trans hbeat.symm,
      hbeat, ?_⟩
    · rw [runQuick_of_free hd, hquick]
    · have hhead : timed.errors.head? = some (0 + i, failure) := by
        rw [herrors]
        have hfate : (attempts.map Attempt.toFate)[i]? = some attempt.toFate := by
          rw [List.getElem?_map, hi]
          rfl
        refine Fate.head?_failuresFrom hfate hf ?_
        rw [← List.map_take]
        exact List.forall_mem_map.mpr hbefore
      rw [Nat.zero_add] at hhead
      rw [Report.errorTexts, List.head?_map, hhead]
      rfl

end Scheduler

/-! ## A device that answers as it is told -/

namespace Rig

/-- A rig with a clock that stands still and a device that says what `answer` tells. Its world is
what the device was asked to take. -/
def answering (answer : List Event → Event → Except Failure Unit) :
    Rig (Desk (List Event)) Int where
  now := pure 0
  wait _ := pure false
  send event desk :=
    match answer desk.world event with
    | .ok _ => .ok () { desk with world := desk.world ++ [event] }
    | .error failure => .error failure { desk with world := desk.world ++ [event] }
  isCancelled _ := false
  note _ desk := desk

theorem answers_answering (answer : List Event → Event → Except Failure Unit) :
    (answering answer).Answers Desk.world answer where
  now desk := ⟨0, desk, rfl, rfl⟩
  wait _ desk := ⟨desk, rfl, rfl⟩
  note _ _ := rfl
  uncancelled _ := rfl
  send event desk := by
    simp only [answering]
    cases answer desk.world event <;> rfl
  asked event desk := by
    simp only [answering]
    cases answer desk.world event <;> rfl

/-- A device that refuses the fourth event that it is asked to take. -/
def jamsOnce (before : List Event) (_ : Event) : Except Failure Unit :=
  if before.length = 3 then .error (.device "jammed") else .ok ()

/-- A frame, a delta with a click, and the frame without the key. -/
def clicking : List Instruction :=
  [.frame (tap ['A']),
    .delta { Delta.none with pressButtons := ⟨[1], List.pairwise_singleton _ _⟩
                             releaseButtons := ⟨[1], List.pairwise_singleton _ _⟩ },
    .frame (tap ['.'])]

end Rig

theorem Scheduler.quick_agrees_with_timed_clicking :
    let scheduler : Scheduler (List Event) Int :=
      ⟨Rig.answering Rig.jamsOnce, ⟨⟨0, 0⟩, true⟩, some ⟨.whole 10, 10, 10⟩⟩
    ∃ timed ended desk',
      scheduler.runTimed Rig.clicking ⟨false, []⟩ = .ok timed ended ∧
      scheduler.runQuick Rig.clicking ⟨false, []⟩ = .error (.device "jammed") desk' ∧
      desk'.world = [.move 1 2, .pressKey 65, .pressButton 1, .releaseButton 1] ∧
      timed.errorTexts.head? = some "tick 1: jammed" := by
  intro scheduler
  obtain ⟨started, beats, timed, ended, -, htimed, -, hfails⟩ :=
    quick_agrees_with_timed scheduler rfl id Rig.jamsOnce (Rig.answers_answering Rig.jamsOnce)
      Rig.clicking ⟨false, []⟩ rfl
  obtain ⟨desk', beat, hquick, -, hcalls, hbeat, htext⟩ :=
    hfails 1 ⟨⟨[.pressButton 1], some (.device "jammed")⟩, some (.releaseButton 1)⟩
      (.device "jammed") rfl rfl (by decide +kernel)
  exact ⟨timed, _, desk', htimed, hquick, hcalls.trans hbeat, htext⟩

end FrameScript
