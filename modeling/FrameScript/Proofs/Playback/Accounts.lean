import FrameScript.Proofs.Playback.Devices
import FrameScript.Proofs.Playback.Watching
import Mathlib.Data.List.Forall2

/-!
# The accounts of a timed run

In a timed run the instructions come up one after the other. A frame that comes up may not be
compiled, the device may refuse one of its events, and before each instruction the run may be
cancelled. The report of a run that ends accounts for all of this: a `Fate` says what became of an
instruction that came up, and `Report.Accounts` how the report, the waits and the events that the
device has taken go with the fates.

## Results

* `tick_fate`: **a tick decides on one instruction**, whatever the device does.
* `fates_of_timedFrom`: the instructions come up in order, as far as the run gets.
* `exists_ok_of_timed`: a run ends with a report as long as the clock runs.
* `Scheduler.runTimed_accounts`: **a timed run keeps its accounts.**
-/

namespace FrameScript

open Reading

namespace Instruction

/-- The last frame once an instruction has come up: a frame that cannot be compiled does not become
it. -/
def follow (compiler : Compiler) (previous : Option Frame) (instruction : Instruction) :
    Option Frame :=
  match instruction.resolve compiler previous with
  | .ok _ => instruction.successor previous
  | .error _ => previous

/-- The deltas of instructions, each after the last frame that could be compiled before it. -/
def resolutions (compiler : Compiler) :
    Option Frame → List Instruction → List (Except Failure Delta)
  | _, [] => []
  | previous, instruction :: rest =>
    instruction.resolve compiler previous ::
      resolutions compiler (instruction.follow compiler previous) rest

end Instruction

/-! ## What becomes of an instruction -/

/-- What became of an instruction that came up: the events that the device has taken, and the
failure if there was one. -/
structure Fate where
  taken : List Event
  failure : Option Failure

namespace Fate

/-- Whether the instruction was applied. -/
def isApplied (fate : Fate) : Bool :=
  fate.failure.isNone

/-- What may become of an instruction with the given delta. If there is none the device takes
nothing and this is the failure; otherwise the device takes the first events of the delta, and all
of them just if there is no failure. -/
structure Fits (fate : Fate) (resolution : Except Failure Delta) : Prop where
  unresolved : ∀ failure, resolution = .error failure →
    fate.taken = [] ∧ fate.failure = some failure
  resolved : ∀ delta, resolution = .ok delta →
    fate.taken <+: delta.events ∧ (fate.failure = none ↔ fate.taken = delta.events)

/-- The failures among fates, by number; the first fate has the number `first`. -/
def failuresFrom (first : Nat) (fates : List Fate) : List (Nat × Failure) :=
  (fates.zipIdx first).filterMap fun e => e.1.failure.map (e.2, ·)

variable {fates : List Fate} {first : Nat}

theorem failuresFrom_append (fates later : List Fate) :
    failuresFrom first (fates ++ later) =
      failuresFrom first fates ++ failuresFrom (first + fates.length) later := by
  unfold failuresFrom
  rw [List.zipIdx_append, List.filterMap_append]

/-- There are as many failures as instructions that were not applied. -/
theorem length_failuresFrom :
    (failuresFrom first fates).length = fates.countP fun fate => !fate.isApplied := by
  have hfailed : (fun e : Fate × Nat => (e.1.failure.map (e.2, ·)).isSome) =
      (fun fate => !fate.isApplied) ∘ Prod.fst := by
    funext e
    simp only [Function.comp_apply, isApplied, Option.isSome_map, Option.not_isNone]
  unfold failuresFrom
  rw [List.length_filterMap_eq_countP, hfailed, ← List.countP_map, List.zipIdx_map_fst]

/-- The failures are those of the fates. -/
theorem mem_failuresFrom {tick : Nat} {failure : Failure} :
    (tick, failure) ∈ failuresFrom 0 fates ↔
      ∃ fate, fates[tick]? = some fate ∧ fate.failure = some failure := by
  unfold failuresFrom
  rw [List.mem_filterMap]
  constructor
  · rintro ⟨⟨fate, index⟩, hm, he⟩
    obtain ⟨found, hf, heq⟩ := Option.map_eq_some_iff.mp he
    obtain ⟨rfl, rfl⟩ := Prod.mk.inj heq
    exact ⟨fate, List.mk_mem_zipIdx_iff_getElem?.mp hm, hf⟩
  · rintro ⟨fate, ht, hf⟩
    refine ⟨(fate, tick), List.mk_mem_zipIdx_iff_getElem?.mpr ht, ?_⟩
    rw [hf]
    rfl

/-- The failures are in the order of the instructions. -/
theorem pairwise_failuresFrom :
    ((failuresFrom first fates).map Prod.fst).Pairwise (· < ·) := by
  have hindices : (fates.zipIdx first).Pairwise fun a b => a.2 < b.2 := by
    rw [← List.pairwise_map, List.zipIdx_map_snd]
    exact List.pairwise_lt_range'
  rw [List.pairwise_map]
  refine hindices.filterMap _ fun a b hab x hx y hy => ?_
  obtain ⟨_, _, rfl⟩ := Option.map_eq_some_iff.mp hx
  obtain ⟨_, _, rfl⟩ := Option.map_eq_some_iff.mp hy
  exact hab

end Fate

/-! ## What a report gains -/

/-- The report of `pace'` is that of `pace` after `fates`. -/
structure Pace.Gains {τ : Type} (pace : Pace τ) (fates : List Fate) (pace' : Pace τ) : Prop where
  total : pace'.report.total = pace.report.total
  ticks : pace'.report.ticks = pace.report.ticks + fates.length
  applied : pace'.report.applied = pace.report.applied + fates.countP Fate.isApplied
  failed : pace'.report.failed = pace.report.failed + fates.countP fun fate => !fate.isApplied
  errors : pace'.report.errors = pace.report.errors ++ Fate.failuresFrom pace.report.ticks fates

namespace Pace

variable {τ : Type} {pace pace' pace'' : Pace τ} {fates later : List Fate}

theorem Gains.refl (pace : Pace τ) : pace.Gains [] pace :=
  ⟨rfl, rfl, rfl, rfl, (List.append_nil _).symm⟩

/-- Some fates after the others. -/
theorem Gains.trans (h : pace.Gains fates pace') (h' : pace'.Gains later pace'') :
    pace.Gains (fates ++ later) pace'' where
  total := h'.total.trans h.total
  ticks := by rw [h'.ticks, h.ticks, List.length_append, Nat.add_assoc]
  applied := by rw [h'.applied, h.applied, List.countP_append, Nat.add_assoc]
  failed := by rw [h'.failed, h.failed, List.countP_append, Nat.add_assoc]
  errors := by
    rw [h'.errors, h.errors, h.ticks, Fate.failuresFrom_append, List.append_assoc]

theorem settle_previous (tick : Nat) (previous : Option Frame) (failure : Option Failure) :
    (pace.settle tick previous failure).previous = previous := by
  cases failure <;> rfl

theorem settle_cancelled (tick : Nat) (previous : Option Frame) (failure : Option Failure) :
    (pace.settle tick previous failure).report.cancelled = pace.report.cancelled := by
  cases failure <;> rfl

variable [Timeline τ]

/-- Settling a tick adds one fate to the report. -/
theorem gains_settle (due tickTime : τ) (previous : Option Frame) (taken : List Event)
    (failure : Option Failure) :
    pace.Gains [⟨taken, failure⟩]
      ((pace.takeUp due tickTime).settle pace.report.ticks previous failure) := by
  cases failure with
  | none => exact ⟨rfl, rfl, rfl, rfl, (List.append_nil _).symm⟩
  | some failure => exact ⟨rfl, rfl, rfl, rfl, rfl⟩

end Pace

namespace Rig

variable {σ τ : Type} {rig : Rig σ τ} {log : σ → List Event} {waits : σ → Nat}
  {compiler : Compiler} {previous : Option Frame} {instruction : Instruction} {s s' : σ}

/-! ## One tick -/

/-- Performing an instruction decides on it. -/
theorem perform_fate (hl : rig.Logs log) (compiler : Compiler) (previous : Option Frame)
    (instruction : Instruction) (s : σ) :
    ∃ taken,
      Fate.Fits ⟨taken, (rig.perform compiler previous instruction s).failure⟩
        (instruction.resolve compiler previous) ∧
      (rig.perform compiler previous instruction s).previous =
        instruction.follow compiler previous ∧
      log (rig.perform compiler previous instruction s).state = log s ++ taken := by
  unfold perform Instruction.follow
  cases instruction.resolve compiler previous with
  | error failure =>
    refine ⟨[], ⟨fun failure' h => ?_, fun delta h => ?_⟩, rfl, (List.append_nil _).symm⟩
    · obtain rfl := Except.error.inj h
      exact ⟨rfl, rfl⟩
    · cases h
  | ok delta =>
    obtain ⟨sent, hp, hlog, hall⟩ := sendAll_takes hl delta.events s
    refine ⟨sent, ⟨fun failure h => ?_, fun delta' h => ?_⟩, rfl, hlog⟩
    · cases h
    · obtain rfl := Except.ok.inj h
      exact ⟨hp, hall⟩

theorem Tallies.sendAll (ht : rig.Tallies waits) (events : List Event) (s : σ) :
    waits (rig.sendAll events s).2 = waits s := by
  induction events generalizing s with
  | nil => rfl
  | cons event rest ih =>
    have hsend := ht.send event s
    unfold Rig.sendAll
    cases hs : rig.send event s with
    | ok _ t =>
      rw [hs] at hsend
      exact (ih t).trans hsend
    | error failure t =>
      rw [hs] at hsend
      exact hsend

theorem Tallies.perform (ht : rig.Tallies waits) (compiler : Compiler) (previous : Option Frame)
    (instruction : Instruction) (s : σ) :
    waits (rig.perform compiler previous instruction s).state = waits s := by
  unfold Rig.perform
  cases instruction.resolve compiler previous with
  | error failure => rfl
  | ok delta => exact ht.sendAll delta.events s

variable [Timeline τ] {period : Period τ} {due started : τ} {pace pace' : Pace τ}

/-- **A tick decides on one instruction**, whatever the device does, and does not wait. -/
theorem tick_fate (hl : rig.Logs log) (ht : rig.Tallies waits)
    (h : rig.tick compiler period due pace instruction s = .ok pace' s') :
    ∃ fate : Fate, fate.Fits (instruction.resolve compiler pace.previous) ∧
      pace.Gains [fate] pace' ∧ pace'.previous = instruction.follow compiler pace.previous ∧
      pace'.report.cancelled = pace.report.cancelled ∧
      log s' = log s ++ fate.taken ∧ waits s' = waits s := by
  obtain ⟨tickTime, t, hn⟩ := now_of_tick h
  rw [tick_of_now hn] at h
  have hworld : ∃ world,
      (if Timeline.isBefore period.limit (Pace.drift due tickTime) then
        rig.note (.late pace.report.ticks (Pace.drift due tickTime)) t else t) = world ∧
      log world = log s ∧ waits world = waits s := by
    refine ⟨_, rfl, ?_⟩
    split
    · exact ⟨(hl.note _ _).trans (hl.now_eq hn), (ht.note _ _).trans (ht.now_eq hn)⟩
    · exact ⟨hl.now_eq hn, ht.now_eq hn⟩
  obtain ⟨world, hw, hlog, hwaits⟩ := hworld
  rw [hw] at h
  obtain ⟨rfl, rfl⟩ := EStateM.Result.ok.inj h
  obtain ⟨taken, hfits, hprevious, htaken⟩ :=
    perform_fate hl compiler pace.previous instruction world
  refine ⟨⟨taken, _⟩, hfits, Pace.gains_settle due tickTime _ taken _,
    (Pace.settle_previous _ _ _).trans hprevious, Pace.settle_cancelled _ _ _, ?_, ?_⟩
  · rw [← hlog, ← htaken]
    split
    · rfl
    · exact hl.note _ _
  · rw [← hwaits, ← ht.perform compiler pace.previous instruction world]
    split
    · rfl
    · exact ht.note _ _

/-! ## Whole runs -/

/-- **The instructions come up in order**, none of them left out, up to where the run is cancelled;
the clock is waited for before each of them, and once more if the run is cancelled. -/
theorem fates_of_timedFrom {instructions : List Instruction} (hl : rig.Logs log)
    (ht : rig.Tallies waits) (hc : pace.report.cancelled = false)
    (h : rig.timedFrom compiler period started pace instructions s = .ok pace' s') :
    ∃ fates : List Fate, pace.Gains fates pace' ∧
      List.Forall₂ Fate.Fits fates
        ((Instruction.resolutions compiler pace.previous instructions).take fates.length) ∧
      log s' = log s ++ fates.flatMap Fate.taken ∧
      waits s' = waits s + fates.length + (if pace'.report.cancelled then 1 else 0) ∧
      (pace'.report.cancelled = true → fates.length < instructions.length) ∧
      (pace'.report.cancelled = false → fates.length = instructions.length) := by
  induction instructions generalizing pace s with
  | nil =>
    obtain ⟨rfl, rfl⟩ := EStateM.Result.ok.inj h
    refine ⟨[], .refl pace, .nil, (List.append_nil _).symm, ?_, fun hcancelled => ?_, fun _ => rfl⟩
    · rw [hc]
      rfl
    · rw [hc] at hcancelled
      cases hcancelled
  | cons instruction rest ih =>
    rw [timedFrom_cons] at h
    split at h
    · cases h
    · rename_i now s₁ hn
      have htallied := ht.now_eq hn
      split at h
      · cases h
      · rename_i s₂ hw
        have hwaited := ht.wait_eq hw
        obtain ⟨rfl, rfl⟩ := EStateM.Result.ok.inj h
        refine ⟨[], ⟨rfl, rfl, rfl, rfl, (List.append_nil _).symm⟩, .nil, ?_, ?_, fun _ => ?_, ?_⟩
        · rw [hl.wait_eq hw, hl.now_eq hn]
          exact (List.append_nil _).symm
        · exact hwaited.trans (congrArg (· + 1) htallied)
        · exact Nat.succ_pos _
        · exact fun hcancelled => by cases hcancelled
      · rename_i s₂ hw
        have hwaited := ht.wait_eq hw
        split at h
        · cases h
        · rename_i next s₃ htick
          obtain ⟨fate, hfits, hgains, hprevious, hcancelled, hlog, hwaits⟩ := tick_fate hl ht htick
          obtain ⟨fates, hgains', hfits', hlog', hwaits', hbefore, hthrough⟩ :=
            ih (hcancelled.trans hc) h
          have hlength : (fate :: fates).length = fates.length + 1 := List.length_cons
          refine ⟨fate :: fates, hgains.trans hgains', ?_, ?_, ?_, fun hstop => ?_, fun hend => ?_⟩
          · rw [hprevious] at hfits'
            exact .cons hfits hfits'
          · rw [hlog', hlog, hl.wait_eq hw, hl.now_eq hn, List.flatMap_cons, List.append_assoc]
          · omega
          · exact Nat.succ_lt_succ (hbefore hstop)
          · exact congrArg (· + 1) (hthrough hend)

/-- Whoever asks the clock for the time or waits for it is answered. -/
structure ClockRuns (rig : Rig σ τ) : Prop where
  now : ∀ s, ∃ time s', rig.now s = .ok time s'
  wait : ∀ span s, ∃ cancelled s', rig.wait span s = .ok cancelled s'

theorem ClockRuns.tick (hr : rig.ClockRuns) (compiler : Compiler) (period : Period τ) (due : τ)
    (pace : Pace τ) (instruction : Instruction) (s : σ) :
    ∃ pace' s', rig.tick compiler period due pace instruction s = .ok pace' s' := by
  obtain ⟨tickTime, t, hn⟩ := hr.now s
  exact ⟨_, _, tick_of_now hn⟩

theorem ClockRuns.timedFrom (hr : rig.ClockRuns) (compiler : Compiler) (period : Period τ)
    (started : τ) (pace : Pace τ) (instructions : List Instruction) (s : σ) :
    ∃ pace' s', rig.timedFrom compiler period started pace instructions s = .ok pace' s' := by
  induction instructions generalizing pace s with
  | nil => exact ⟨pace, s, rfl⟩
  | cons instruction rest ih =>
    obtain ⟨now, s₁, hn⟩ := hr.now s
    obtain ⟨cancelled, s₂, hw⟩ := hr.wait (pace.due period started - now) s₁
    rw [timedFrom_cons, hn]
    simp only [hw]
    cases cancelled with
    | true => exact ⟨_, s₂, rfl⟩
    | false =>
      obtain ⟨next, s₃, ht⟩ :=
        hr.tick compiler period (pace.due period started) pace instruction s₂
      simp only [ht]
      exact ih next s₃

/-- **A timed run ends with a report** as long as the clock runs, whatever the device does. -/
theorem exists_ok_of_timed (hr : rig.ClockRuns) (compiler : Compiler) (period : Period τ)
    (instructions : List Instruction) (s : σ) :
    ∃ report s', rig.timed compiler period instructions s = .ok report s' := by
  obtain ⟨started, s₁, hn⟩ := hr.now (rig.note (.timedStarted instructions.length period.told) s)
  obtain ⟨pace, s₂, ht⟩ :=
    hr.timedFrom compiler period started (.start instructions.length) instructions s₁
  obtain ⟨ended, s₃, he⟩ := hr.now s₂
  rw [timed_eq, hn]
  simp only [ht, he]
  exact ⟨_, _, rfl⟩

end Rig

/-! ## Accounts -/

/-- The report on a timed run of `instructions` accounts for `fates`, when the clock was waited for
so many times and the device has taken `taken`.

The instructions have come up in order and none was left out (`fits`). Every tick was applied or
failed (`ticks`), and the errors name those that failed, in order (`errors`, `increasing`). Unless
the run was cancelled every instruction has come up (`cancelled`, `through`). -/
structure Report.Accounts {τ : Type} (report : Report τ) (compiler : Compiler)
    (instructions : List Instruction) (fates : List Fate) (waits : Nat) (taken : List Event) :
    Prop where
  total : report.total = instructions.length
  ticks : report.ticks = report.applied + report.failed
  ticks_le : report.ticks ≤ report.total
  failed : report.errors.length = report.failed
  errors : ∀ tick failure, (tick, failure) ∈ report.errors ↔
    ∃ fate, fates[tick]? = some fate ∧ fate.failure = some failure
  increasing : (report.errors.map Prod.fst).Pairwise (· < ·)
  cancelled : report.cancelled = true → report.ticks < report.total
  through : report.cancelled = false → report.ticks = report.total
  completed : report.isCompleted = !report.cancelled
  waits : waits = report.ticks + if report.cancelled then 1 else 0
  length : fates.length = report.ticks
  fits : List.Forall₂ Fate.Fits fates
    ((Instruction.resolutions compiler none instructions).take report.ticks)
  applied : report.applied = fates.countP Fate.isApplied
  taken : taken = fates.flatMap Fate.taken

variable {σ τ : Type} [Timeline τ]

/-- The report that a run gains by fates accounts for them. -/
theorem Pace.Gains.accounts {compiler : Compiler} {instructions : List Instruction}
    {pace : Pace τ} {fates : List Fate} (h : (Pace.start instructions.length).Gains fates pace)
    (hfits : List.Forall₂ Fate.Fits fates
      ((Instruction.resolutions compiler none instructions).take fates.length))
    (hbefore : pace.report.cancelled = true → fates.length < instructions.length)
    (hthrough : pace.report.cancelled = false → fates.length = instructions.length)
    (elapsed : τ) :
    (pace.finish elapsed).Accounts compiler instructions fates
      (fates.length + if pace.report.cancelled then 1 else 0) (fates.flatMap Fate.taken) := by
  have htotal : pace.report.total = instructions.length := h.total
  have hticks : pace.report.ticks = fates.length := h.ticks.trans (Nat.zero_add _)
  have happlied : pace.report.applied = fates.countP Fate.isApplied :=
    h.applied.trans (Nat.zero_add _)
  have hfailed : pace.report.failed = fates.countP fun fate => !fate.isApplied :=
    h.failed.trans (Nat.zero_add _)
  have herrors : pace.report.errors = Fate.failuresFrom 0 fates := h.errors
  have hends : pace.report.cancelled = false → pace.report.ticks = pace.report.total := by
    rw [hticks, htotal]
    exact hthrough
  exact {
    total := htotal
    ticks := by
      show pace.report.ticks = pace.report.applied + pace.report.failed
      rw [hticks, happlied, hfailed]
      simpa only [decide_not, Bool.decide_eq_true] using
        List.length_eq_countP_add_countP Fate.isApplied (l := fates)
    ticks_le := by
      show pace.report.ticks ≤ pace.report.total
      rw [hticks, htotal]
      cases hc : pace.report.cancelled with
      | true => exact Nat.le_of_lt (hbefore hc)
      | false => exact Nat.le_of_eq (hthrough hc)
    failed := by
      show pace.report.errors.length = pace.report.failed
      rw [herrors, hfailed, Fate.length_failuresFrom]
    errors := fun tick failure => by
      show (tick, failure) ∈ pace.report.errors ↔ _
      rw [herrors]
      exact Fate.mem_failuresFrom
    increasing := by
      show (pace.report.errors.map Prod.fst).Pairwise (· < ·)
      rw [herrors]
      exact Fate.pairwise_failuresFrom
    cancelled := by
      show pace.report.cancelled = true → pace.report.ticks < pace.report.total
      rw [hticks, htotal]
      exact hbefore
    through := hends
    completed := by
      show (!pace.report.cancelled && pace.report.ticks == pace.report.total) =
        !pace.report.cancelled
      cases hc : pace.report.cancelled with
      | true => rfl
      | false =>
        rw [hends hc, beq_self_eq_true]
        rfl
    waits := congrArg (· + _) hticks.symm
    length := hticks.symm
    fits := by
      show List.Forall₂ Fate.Fits fates (List.take pace.report.ticks _)
      rw [hticks]
      exact hfits
    applied := happlied
    taken := rfl }

/-- **A timed run keeps its accounts** on every rig of which the waits and a log of the device can
be read off. -/
theorem Rig.accounts_of_timed {rig : Rig σ τ} {log : σ → List Event} {waits : σ → Nat}
    {compiler : Compiler} {period : Period τ} {instructions : List Instruction} {s s' : σ}
    {report : Report τ} (hl : rig.Logs log) (ht : rig.Tallies waits) (hs : log s = [])
    (hw : waits s = 0) (h : rig.timed compiler period instructions s = .ok report s') :
    ∃ fates, report.Accounts compiler instructions fates (waits s') (log s') := by
  rw [timed_eq] at h
  split at h
  · cases h
  · rename_i started s₁ hn
    split at h
    · cases h
    · rename_i pace s₂ hrun
      split at h
      · cases h
      · rename_i ended s₃ he
        obtain ⟨rfl, rfl⟩ := EStateM.Result.ok.inj h
        obtain ⟨fates, hgains, hfits, hlog, hwaits, hbefore, hthrough⟩ :=
          fates_of_timedFrom hl ht rfl hrun
        have hcount : waits (rig.note (.finished (pace.finish (ended - started))) s₃) =
            fates.length + if pace.report.cancelled then 1 else 0 :=
          calc
            waits _ = waits s₃ := ht.note _ _
            _ = waits s₂ := ht.now_eq he
            _ = waits s₁ + fates.length + if pace.report.cancelled then 1 else 0 := hwaits
            _ = _ := by rw [ht.now_eq hn, ht.note, hw, Nat.zero_add]
        have htaken : log (rig.note (.finished (pace.finish (ended - started))) s₃) =
            fates.flatMap Fate.taken :=
          calc
            log _ = log s₃ := hl.note _ _
            _ = log s₂ := hl.now_eq he
            _ = log s₁ ++ fates.flatMap Fate.taken := hlog
            _ = _ := by rw [hl.now_eq hn, hl.note, hs, List.nil_append]
        rw [hcount, htaken]
        exact ⟨fates, hgains.accounts hfits hbefore hthrough _⟩

namespace Scheduler

variable {scheduler : Scheduler σ τ} {instructions : List Instruction} {desk desk' : Desk σ}
  {report : Report τ}

/-- A timed run that may have the device is a run of the rig. -/
theorem runTimed_of_free {period : Period τ} (hp : scheduler.period = some period)
    (hd : desk.owned = false) :
    scheduler.runTimed instructions desk =
      match scheduler.rig.timed scheduler.compiler period instructions
          { desk with owned := true } with
      | .ok report desk => .ok report desk.release
      | .error failure desk => .error failure desk.release := by
  unfold runTimed Desk.exclusively Desk.acquire timed
  rw [hp, hd]
  simp only [Bool.false_eq_true, if_false]
  cases scheduler.rig.timed scheduler.compiler period instructions { desk with owned := true } <;>
    rfl

/-- A timed run that has a report had the device to itself, and a period that the clock can
count. -/
theorem exists_timed_of_runTimed (h : scheduler.runTimed instructions desk = .ok report desk') :
    ∃ period after, scheduler.period = some period ∧
      scheduler.rig.timed scheduler.compiler period instructions { desk with owned := true } =
        .ok report after ∧
      desk' = after.release := by
  cases hd : desk.owned with
  | true =>
    unfold runTimed at h
    rw [Desk.exclusively_of_owned _ hd] at h
    cases h
  | false =>
    cases hp : scheduler.period with
    | none =>
      unfold runTimed Desk.exclusively Desk.acquire timed at h
      rw [hp, hd] at h
      cases h
    | some period =>
      rw [runTimed_of_free hp hd] at h
      split at h
      · rename_i after hrun
        obtain ⟨rfl, rfl⟩ := EStateM.Result.ok.inj h
        exact ⟨period, after, rfl, hrun, rfl⟩
      · cases h

/-- **A timed run keeps its accounts.** It has a report if the clock runs, whatever the device does
and whenever the run is cancelled. Watched, the run goes the same, and then its report accounts for
what became of the instructions, for the waits, and for the events that the device has taken. -/
theorem runTimed_accounts (scheduler : Scheduler σ τ) (instructions : List Instruction)
    (desk : Desk σ) :
    (scheduler.rig.ClockRuns → scheduler.period.isSome = true → desk.owned = false →
      ∃ report desk', scheduler.runTimed instructions desk = .ok report desk') ∧
    ∀ report desk', scheduler.runTimed instructions desk = .ok report desk' →
      ∃ period watch fates, scheduler.period = some period ∧
        scheduler.rig.watched.timed scheduler.compiler period instructions
          (.start { desk with owned := true }) = .ok report watch ∧
        desk' = watch.world.release ∧
        report.Accounts scheduler.compiler instructions fates watch.waits watch.taken := by
  refine ⟨fun hr hp hd => ?_, fun report desk' h => ?_⟩
  · obtain ⟨period, hp⟩ := Option.isSome_iff_exists.mp hp
    obtain ⟨report, after, hrun⟩ :=
      Rig.exists_ok_of_timed hr scheduler.compiler period instructions { desk with owned := true }
    refine ⟨report, after.release, ?_⟩
    rw [runTimed_of_free hp hd, hrun]
  · obtain ⟨period, after, hp, hrun, rfl⟩ := exists_timed_of_runTimed h
    obtain ⟨watch, hwatched, rfl⟩ := Rig.exists_watched_of_timed hrun
    obtain ⟨fates, haccounts⟩ :=
      Rig.accounts_of_timed Rig.logs_watched Rig.tallies_watched rfl rfl hwatched
    exact ⟨period, watch, fates, hp, hwatched, rfl, haccounts⟩

end Scheduler

/-! ## Rehearsals -/

namespace Rehearsal

/-- The clock of a rehearsal runs unless a wait is to break it. -/
theorem clockRuns_rig {plan : Rehearsal τ} (h : plan.brokenAt = none) : plan.rig.ClockRuns where
  now desk := ⟨desk.world.time, desk, rfl⟩
  wait span desk := by
    show ∃ cancelled desk', plan.waitFor span desk = .ok cancelled desk'
    unfold waitFor
    dsimp only
    rw [h, if_neg (Option.some_ne_none _).symm]
    split
    · exact ⟨true, _, rfl⟩
    · split <;> exact ⟨false, _, rfl⟩

/-- A scheduler of rehearsals in which nothing is planned but what the device refuses. -/
def scheduler : Scheduler (World Int) Int :=
  ⟨(smooth false).rig, ⟨⟨0, 0⟩, true⟩, some ⟨.whole 10, 10, 10⟩⟩

theorem runTimed_accounts_stubborn :
    ∃ (report : Report Int) (desk : Desk (World Int)) (fates : List Fate) (waits : Nat)
        (taken : List Event),
      scheduler.runTimed [.frame (tap ['A']), .frame (tap ['.']), .frame (tap ['.'])]
        stubborn.release = .ok report desk ∧
      report.Accounts scheduler.compiler
        [.frame (tap ['A']), .frame (tap ['.']), .frame (tap ['.'])] fates waits taken := by
  obtain ⟨hends, haccounts⟩ :=
    Scheduler.runTimed_accounts scheduler
      [.frame (tap ['A']), .frame (tap ['.']), .frame (tap ['.'])] stubborn.release
  obtain ⟨report, desk, h⟩ := hends (clockRuns_rig rfl) rfl rfl
  obtain ⟨period, watch, fates, -, -, -, haccounts⟩ := haccounts report desk h
  exact ⟨report, desk, fates, watch.waits, watch.taken, h, haccounts⟩

end Rehearsal

end FrameScript
