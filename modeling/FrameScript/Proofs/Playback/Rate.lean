import FrameScript.Proofs.Playback.Beats
import Mathlib.Algebra.Order.Field.Rat
import Mathlib.Data.Nat.SuccPred
import Mathlib.Order.Interval.Set.SuccPred
import Mathlib.Tactic.NormNum
import Mathlib.Tactic.Ring

/-!
# The rate of a timed run

Time is counted exactly here. What a timed run depends on in its timing is told by `Conditions`: the
time of its start, the period, how long each tick keeps the device busy, and how late each wait
ends. They settle when each tick comes (`Conditions.tickTime`): when it is due, or when the tick
before it has ended if that is later, and then late by the lateness of its own wait. Since a tick is
due by its number and not by the tick before it, a delay is made up for as soon as the ticks in
between leave room.

## Results

* `Conditions.Met.takeUp`: what one tick adds to the drift and to the intervals.
* `Rig.KeepsTime.met_of_beats`: what a run has added after any number of ticks.
* `Scheduler.runTimed_keeps_rate`: **the ticks of a timed run come at a fixed rate**, without drift
  that adds up, and the report tells the greatest drift and the mean interval.
-/

namespace FrameScript

/-- Rational numbers as times. -/
instance : Timeline ℚ where
  ofNat n := n
  isBefore a b := decide (a < b)

theorem Timeline.later_eq_max (a b : ℚ) : Timeline.later a b = max a b := by
  show (if decide (a < b) = true then b else a) = max a b
  rcases lt_or_ge a b with h | h
  · rw [if_pos (decide_eq_true h), max_eq_right h.le]
  · rw [if_neg (by rw [decide_eq_true_eq]; exact h.not_gt), max_eq_left h]

/-- What the timing of a run depends on: when it starts, its period, how long tick `k` keeps the
device busy, and how much later than asked for wait `k` ends. -/
structure Conditions where
  start : ℚ
  period : ℚ
  costs : ℕ → ℚ
  lateness : ℕ → ℚ

namespace Conditions

variable (c : Conditions)

/-- When tick `k` is due. -/
def due (k : ℕ) : ℚ :=
  c.start + k * c.period

/-- When tick `k` comes. -/
def tickTime : ℕ → ℚ
  | 0 => c.start + c.lateness 0
  | k + 1 => max (c.due (k + 1)) (tickTime k + c.costs k) + c.lateness (k + 1)

/-- When the run has come round to tick `k`. -/
def ready : ℕ → ℚ
  | 0 => c.start
  | k + 1 => c.tickTime k + c.costs k

/-- How much later than due tick `k` comes, in thousandths. -/
def drift (k : ℕ) : ℚ :=
  1000 * (c.tickTime k - c.due k)

/-- The last of the first `k` ticks. -/
def lastTick? : ℕ → Option ℚ
  | 0 => none
  | k + 1 => some (c.tickTime k)

/-- The time from the first of the first `k` ticks to the last of them. -/
def stretch : ℕ → ℚ
  | 0 => 0
  | k + 1 => c.tickTime k - c.tickTime 0

variable {c}

theorem tickTime_eq (k : ℕ) : c.tickTime k = max (c.due k) (c.ready k) + c.lateness k := by
  cases k with
  | zero =>
    have hdue : c.due 0 = c.start := by
      rw [due, Nat.cast_zero, zero_mul, add_zero]
    rw [tickTime, ready, hdue, max_self]
  | succ k => rfl

/-- No tick comes before it is due. -/
theorem due_le_tickTime (h : ∀ k, 0 ≤ c.lateness k) (k : ℕ) : c.due k ≤ c.tickTime k := by
  rw [tickTime_eq]
  exact (le_max_left _ _).trans (le_add_of_nonneg_right (h k))

theorem drift_nonneg (h : ∀ k, 0 ≤ c.lateness k) (k : ℕ) : 0 ≤ c.drift k :=
  mul_nonneg (by norm_num) (sub_nonneg.mpr (due_le_tickTime h k))

/-! ## The pace -/

/-- The pace after `k` ticks: the greatest drift, or none, and the time between the first tick and
the last. -/
structure Met (c : Conditions) (k : ℕ) (pace : Pace ℚ) : Prop where
  ticks : pace.report.ticks = k
  maxDrift : IsGreatest (insert 0 (c.drift '' Set.Iio k)) pace.report.maxDrift
  lastTick : pace.lastTick = c.lastTick? k
  intervals : pace.intervals = c.stretch k

theorem met_start (total : ℕ) : c.Met 0 (.start total) where
  ticks := rfl
  maxDrift := by
    rw [show Set.Iio 0 = (∅ : Set ℕ) from Set.Iio_bot, Set.image_empty, insert_empty_eq]
    exact isGreatest_singleton
  lastTick := rfl
  intervals := rfl

variable {k : ℕ} {pace : Pace ℚ}

/-- The run is due at tick `k` after `k` ticks. -/
theorem Met.due (h : c.Met k pace) {period : Period ℚ} (hp : c.period = period.span / 1000) :
    pace.due period c.start = c.due k := by
  show c.start + (pace.report.ticks : ℚ) * (period.span / 1000) = c.due k
  rw [h.ticks, ← hp]
  rfl

/-- **One more tick.** The drift is compared to the greatest so far, and the interval since the last
tick is added to the others. -/
theorem Met.takeUp (h : c.Met k pace) : c.Met (k + 1) (pace.takeUp (c.due k) (c.tickTime k)) where
  ticks := congrArg (· + 1) h.ticks
  maxDrift := by
    show IsGreatest _ (Timeline.later pace.report.maxDrift
      (Timeline.later 0 ((c.tickTime k - c.due k) * 1000)))
    have hzero : 0 ≤ pace.report.maxDrift := h.maxDrift.2 (Set.mem_insert _ _)
    have hdrift : Timeline.later pace.report.maxDrift
        (Timeline.later 0 ((c.tickTime k - c.due k) * 1000)) =
        max (c.drift k) pace.report.maxDrift := by
      rw [Timeline.later_eq_max, Timeline.later_eq_max, ← max_assoc, max_eq_left hzero, max_comm,
        mul_comm]
      rfl
    rw [hdrift, ← Order.succ_eq_add_one, Order.Iio_succ_eq_insert, Set.image_insert_eq,
      Set.insert_comm]
    exact h.maxDrift.insert _
  lastTick := rfl
  intervals := by
    unfold Pace.takeUp
    dsimp only
    rw [h.lastTick, h.intervals]
    cases k with
    | zero => exact (sub_self _).symm
    | succ k =>
      show c.tickTime k - c.tickTime 0 + (c.tickTime (k + 1) - c.tickTime k) =
        c.tickTime (k + 1) - c.tickTime 0
      rw [add_comm, sub_add_sub_cancel]

theorem Met.settle (h : c.Met k pace) (tick : ℕ) (previous : Option Frame)
    (failure : Option Failure) : c.Met k (pace.settle tick previous failure) := by
  cases failure <;> exact ⟨h.ticks, h.maxDrift, h.lastTick, h.intervals⟩

/-- The ticks of a run have come at these times, under these conditions, and this is its report.

Each tick has come when the conditions say (`comes`), none before it was due (`due_le`), and one
that the run has come round to by then came when it was due, late by its own wait and by nothing
that was before (`recovers`). The greatest drift is that of a tick (`maxDrift`), and the mean
interval is the time between the first tick and the last, shared out (`meanInterval`). -/
structure Kept (c : Conditions) (times : List ℚ) (report : Report ℚ) : Prop where
  comes : ∀ k t, times[k]? = some t → t = c.tickTime k
  due_le : ∀ k t, times[k]? = some t → c.due k ≤ t
  recovers : ∀ k t, times[k + 1]? = some t → c.tickTime k + c.costs k ≤ c.due (k + 1) →
    t = c.due (k + 1) + c.lateness (k + 1)
  maxDrift : times ≠ [] →
    IsGreatest {d | ∃ k t, times[k]? = some t ∧ d = 1000 * (t - c.due k)} report.maxDrift
  meanInterval : ∀ first last, 1 < times.length → times.head? = some first →
    times.getLast? = some last →
    report.meanInterval = some (1000 * (last - first) / (times.length - 1))

/-- The drift of some tick is the greatest, since none is below zero. -/
theorem Met.isGreatest_drift (h : c.Met k pace) (hl : ∀ k, 0 ≤ c.lateness k) (hk : 0 < k) :
    IsGreatest (c.drift '' Set.Iio k) pace.report.maxDrift := by
  obtain ⟨hmem, hupper⟩ := h.maxDrift
  refine ⟨?_, fun d hd => hupper (Set.mem_insert_of_mem _ hd)⟩
  rcases hmem with hzero | hmem
  · have hfirst : c.drift 0 ∈ c.drift '' Set.Iio k := Set.mem_image_of_mem _ hk
    have hle : c.drift 0 ≤ 0 := hzero ▸ hupper (Set.mem_insert_of_mem _ hfirst)
    rw [hzero, ← hle.antisymm (drift_nonneg hl 0)]
    exact hfirst
  · exact hmem

/-- The mean of the intervals between more than one tick: they add up to the time between the first
and the last. -/
theorem Met.meanInterval {n : ℕ} (h : c.Met (n + 2) pace) (elapsed : ℚ) :
    (pace.finish elapsed).meanInterval =
      some (1000 * (c.tickTime (n + 1) - c.tickTime 0) / (n + 1)) := by
  unfold Pace.finish
  dsimp only
  rw [h.ticks, if_pos (by omega), h.intervals]
  refine congrArg some ?_
  show (c.tickTime (n + 1) - c.tickTime 0) / ((n + 2 - 1 : ℕ) : ℚ) * 1000 = _
  push_cast
  ring

/-- A run that has taken up a tick at each of these times has kept its rate. -/
theorem Met.kept {times : List ℚ} (h : c.Met times.length pace) (hl : ∀ k, 0 ≤ c.lateness k)
    (htimes : ∀ k t, times[k]? = some t → t = c.tickTime k) (elapsed : ℚ) :
    c.Kept times (pace.finish elapsed) where
  comes := htimes
  due_le k t hk := by
    rw [htimes k t hk]
    exact due_le_tickTime hl k
  recovers k t hk hle := by
    rw [htimes (k + 1) t hk, tickTime, max_eq_left hle]
  maxDrift hne := by
    have hdrifts : {d | ∃ k t, times[k]? = some t ∧ d = 1000 * (t - c.due k)} =
        c.drift '' Set.Iio times.length := by
      ext d
      constructor
      · rintro ⟨k, t, hk, rfl⟩
        rw [htimes k t hk]
        exact Set.mem_image_of_mem _ (List.getElem?_eq_some_iff.mp hk).1
      · rintro ⟨k, hk, rfl⟩
        refine ⟨k, times[k], List.getElem?_eq_getElem hk, ?_⟩
        rw [htimes k _ (List.getElem?_eq_getElem hk)]
        rfl
    rw [hdrifts]
    exact h.isGreatest_drift hl (List.length_pos_iff.mpr hne)
  meanInterval first last hlength hfirst hlast := by
    obtain ⟨n, hn⟩ := Nat.exists_eq_add_of_le' hlength
    rw [List.head?_eq_getElem?] at hfirst
    rw [List.getLast?_eq_getElem?, hn] at hlast
    rw [hn] at h
    rw [h.meanInterval elapsed, htimes 0 first hfirst, htimes _ last hlast, hn]
    push_cast
    congr 3
    ring

end Conditions

/-! ## Rigs that keep time -/

namespace Rig

variable {σ : Type} {rig : Rig σ ℚ} {time : σ → ℚ} {waits : σ → ℕ} {lateness : ℕ → ℚ}

/-- `time` is what the clock of the rig shows, and `waits` how often it was waited for. To look at
the clock or to take notice takes no time. Wait `k` takes the time that it is asked for, if that is
more than none, and `lateness k` on top, and is never told to cancel. Sending an event may take any
time. -/
structure KeepsTime (rig : Rig σ ℚ) (time : σ → ℚ) (waits : σ → ℕ) (lateness : ℕ → ℚ) : Prop
    extends Tallies rig waits where
  shows : ∀ s, ∃ s', rig.now s = .ok (time s) s' ∧ time s' = time s
  lasts : ∀ span s, ∃ s', rig.wait span s = .ok false s' ∧
    time s' = time s + max 0 span + lateness (waits s)
  notes : ∀ notice s, time (rig.note notice s) = time s

namespace KeepsTime

variable {s s' : σ}

theorem neverCancels (h : rig.KeepsTime time waits lateness) : rig.NeverCancels where
  now s := by
    obtain ⟨s', hn, -⟩ := h.shows s
    exact ⟨time s, s', hn⟩
  wait span s := by
    obtain ⟨s', hw, -⟩ := h.lasts span s
    exact ⟨s', hw⟩

theorem shows_eq (h : rig.KeepsTime time waits lateness) {t : ℚ} (hn : rig.now s = .ok t s') :
    t = time s ∧ time s' = time s := by
  obtain ⟨_, hn', htime⟩ := h.shows s
  rw [hn] at hn'
  obtain ⟨rfl, rfl⟩ := EStateM.Result.ok.inj hn'
  exact ⟨rfl, htime⟩

theorem lasts_eq (h : rig.KeepsTime time waits lateness) {span : ℚ}
    (hw : rig.wait span s = .ok false s') :
    time s' = time s + max 0 span + lateness (waits s) := by
  obtain ⟨_, hw', htime⟩ := h.lasts span s
  rw [hw] at hw'
  rw [(EStateM.Result.ok.inj hw').2, htime]

variable {c : Conditions} {compiler : Compiler} {period : Period ℚ} {pace pace' : Pace ℚ}
  {instructions : List Instruction} {beats : List (Beat σ ℚ)} {k : ℕ}

/-- A wait for tick `k` ends when the tick comes, whenever it begins. -/
theorem time_of_wait (h : rig.KeepsTime time waits c.lateness) (hwaits : waits s = k)
    (htime : time s = c.ready k) (hw : rig.wait (c.due k - time s) s = .ok false s') :
    time s' = c.tickTime k :=
  calc
    time s' = c.ready k + max 0 (c.due k - c.ready k) + c.lateness k := by
      rw [h.lasts_eq hw, htime, hwaits]
    _ = max (c.ready k) (c.due k) + c.lateness k := by
      rw [← max_add_add_left, add_zero, add_sub_cancel]
    _ = c.tickTime k := by
      rw [max_comm, Conditions.tickTime_eq]

/-- **The ticks come when the conditions say**, as many of them as there are beats, if each keeps
the device busy for as long as they say. -/
theorem met_of_beats (h : rig.KeepsTime time waits c.lateness)
    (hp : c.period = period.span / 1000)
    (hb : rig.Beats compiler period c.start pace s instructions beats pace' s')
    (hm : c.Met k pace) (hwaits : waits s = k) (htime : time s = c.ready k)
    (hcosts : ∀ i beat, beats[i]? = some beat → time beat.state = beat.time + c.costs (k + i)) :
    c.Met (k + beats.length) pace' ∧
      ∀ i beat, beats[i]? = some beat → beat.time = c.tickTime (k + i) := by
  induction hb generalizing k with
  | nil => exact ⟨hm, fun i beat hi => by cases hi⟩
  | @cons pace next pace' instruction rest beats now t s s₁ s₂ s₃ s₄ s' hn hw ht htick _ ih =>
    rw [hm.due hp] at hw htick
    obtain ⟨rfl, hs₁⟩ := h.shows_eq hn
    have hwaits₁ : waits s₁ = k := (h.now_eq hn).trans hwaits
    rw [← hs₁] at hw
    have hs₂ : time s₂ = c.tickTime k := h.time_of_wait hwaits₁ (hs₁.trans htime) hw
    have ht' : t = c.tickTime k := (h.shows_eq ht).1.trans hs₂
    have hcost : time s₄ = c.ready (k + 1) := by
      rw [hcosts 0 ⟨t, s₄⟩ rfl, ht']
      rfl
    have hwaits₄ : waits s₄ = k + 1 := by
      rw [h.toTallies.tick htick, h.wait_eq hw, hwaits₁]
    have hnext : c.Met (k + 1) next := by
      obtain ⟨t', _, _, hn', -, rfl, -⟩ := exists_of_tick htick
      rw [(h.shows_eq hn').1, hs₂]
      exact hm.takeUp.settle _ _ _
    have hlater : ∀ i, k + 1 + i = k + (i + 1) := fun i => by omega
    obtain ⟨hmet, htimes⟩ := ih hnext hwaits₄ hcost fun i beat hi => by
      rw [hlater]
      exact hcosts (i + 1) beat hi
    refine ⟨?_, fun i beat hi => ?_⟩
    · rw [List.length_cons, ← hlater]
      exact hmet
    · cases i with
      | zero =>
        obtain rfl := Option.some.inj hi
        exact ht'
      | succ i =>
        rw [← hlater]
        exact htimes i beat hi

end KeepsTime

end Rig

/-- **A timed run keeps its rate**, however long the device takes and however late the clock is. It
takes up every instruction, and whatever the ticks have cost, the times at which they came and what
the report says of them are those that follow from the costs. -/
theorem Scheduler.runTimed_keeps_rate {σ : Type} (scheduler : Scheduler σ ℚ) {period : Period ℚ}
    (hp : scheduler.period = some period) (time : σ → ℚ) (waits : σ → ℕ) (lateness : ℕ → ℚ)
    (h : scheduler.rig.KeepsTime (fun desk => time desk.world) (fun desk => waits desk.world)
      lateness)
    (hl : ∀ k, 0 ≤ lateness k) (instructions : List Instruction) (desk : Desk σ)
    (hd : desk.owned = false) (hw : waits desk.world = 0) :
    ∃ beats report ended,
      scheduler.rig.Courses scheduler.compiler period instructions { desk with owned := true }
        (time desk.world) beats report ended ∧
      scheduler.runTimed instructions desk = .ok report ended.release ∧
      beats.length = instructions.length ∧
      ∀ costs : ℕ → ℚ,
        (∀ k beat, beats[k]? = some beat → time beat.state.world = beat.time + costs k) →
        (⟨time desk.world, period.span / 1000, costs, lateness⟩ : Conditions).Kept
          (beats.map Beat.time) report := by
  obtain ⟨started, beats, report, ended, hcourse, hrun⟩ :=
    exists_courses hp h.neverCancels instructions hd
  have hlength := hcourse.length
  obtain @⟨pace, stopped, s₁, s₂, s₃, hstart, hbeats, hstop⟩ := id hcourse
  obtain ⟨hstarted, hs₁⟩ := h.shows_eq hstart
  obtain rfl : started = time desk.world := hstarted.trans (h.notes _ _)
  refine ⟨beats, _, _, hcourse, hrun, hlength, fun costs hcosts => ?_⟩
  have hwaits : waits s₁.world = 0 :=
    (h.now_eq hstart).trans ((h.note _ _).trans hw)
  obtain ⟨hmet, htimes⟩ := Rig.KeepsTime.met_of_beats
    (c := ⟨time desk.world, period.span / 1000, costs, lateness⟩) (k := 0) h rfl hbeats
    (Conditions.met_start _) hwaits (hs₁.trans (h.notes _ _)) fun k beat hk => by
      rw [Nat.zero_add]
      exact hcosts k beat hk
  rw [Nat.zero_add, ← List.length_map Beat.time] at hmet
  refine hmet.kept hl (fun k t hk => ?_) _
  rw [List.getElem?_map, Option.map_eq_some_iff] at hk
  obtain ⟨beat, hk, rfl⟩ := hk
  rw [htimes k beat hk, Nat.zero_add]

/-! ## A clock that is late -/

/-- What a clock shows, and how often it was waited for. -/
structure Dial where
  time : ℚ
  waits : ℕ

/-- A rig of which the clock is late by `lateness`, and the device takes the time `cost` for an
event. -/
def Rig.dial (lateness : ℕ → ℚ) (cost : Event → ℚ) : Rig (Desk Dial) ℚ where
  now desk := .ok desk.world.time desk
  wait span desk :=
    .ok false { desk with
      world := ⟨desk.world.time + max 0 span + lateness desk.world.waits, desk.world.waits + 1⟩ }
  send event desk := .ok () { desk with world.time := desk.world.time + cost event }
  isCancelled _ := false
  note _ desk := desk

theorem Rig.keepsTime_dial (lateness : ℕ → ℚ) (cost : Event → ℚ) :
    (Rig.dial lateness cost).KeepsTime (fun desk => desk.world.time) (fun desk => desk.world.waits)
      lateness where
  now _ := rfl
  wait _ _ := rfl
  note _ _ := rfl
  send _ _ := rfl
  shows desk := ⟨desk, rfl, rfl⟩
  lasts _ _ := ⟨_, rfl, rfl⟩
  notes _ _ := rfl

theorem Scheduler.runTimed_keeps_rate_tap :
    let lateness : ℕ → ℚ := fun k => if k = 1 then 1 / 50 else 0
    let scheduler : Scheduler Dial ℚ :=
      ⟨Rig.dial lateness fun _ => 1 / 500, ⟨⟨0, 0⟩, true⟩, some ⟨.whole 10, 10, 10⟩⟩
    ∃ (beats : List (Beat (Desk Dial) ℚ)) (report : Report ℚ) (ended : Desk Dial) (costs : ℕ → ℚ),
      scheduler.runTimed [.frame (tap ['A']), .frame (tap ['.']), .frame (tap ['A'])]
        ⟨false, ⟨5, 0⟩⟩ = .ok report ended ∧
      beats.length = 3 ∧
      (∀ k beat, beats[k]? = some beat → beat.state.world.time = beat.time + costs k) ∧
      (⟨5, 10 / 1000, costs, lateness⟩ : Conditions).Kept (beats.map Beat.time) report := by
  intro lateness scheduler
  have hl : ∀ k, 0 ≤ lateness k := fun k => by
    show 0 ≤ if k = 1 then (1 / 50 : ℚ) else 0
    split <;> norm_num
  obtain ⟨beats, report, ended, -, hrun, hlength, hkept⟩ :=
    runTimed_keeps_rate scheduler rfl Dial.time Dial.waits lateness
      (Rig.keepsTime_dial lateness fun _ => 1 / 500) hl
      [.frame (tap ['A']), .frame (tap ['.']), .frame (tap ['A'])] ⟨false, ⟨5, 0⟩⟩ rfl rfl
  let cost (beat : Beat (Desk Dial) ℚ) : ℚ := beat.state.world.time - beat.time
  let costs (k : ℕ) : ℚ := (beats[k]?.map cost).getD 0
  have hcosts : ∀ k beat, beats[k]? = some beat →
      beat.state.world.time = beat.time + costs k := fun k beat hk => by
    show _ = beat.time + (beats[k]?.map cost).getD 0
    rw [hk]
    exact (add_sub_cancel _ _).symm
  exact ⟨beats, report, _, costs, hrun, hlength, hcosts, hkept costs hcosts⟩

end FrameScript
