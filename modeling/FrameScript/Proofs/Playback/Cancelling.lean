import FrameScript.Proofs.Playback.Accounts

/-!
# Where a cancelled run stops

A request to cancel may come while the device takes an event, also in the middle of an instruction.
A run does not look for it then: a quick run asks before each instruction, a timed one is told by
the clock while it waits for the next tick. So the instruction is played to its end, and the run
stops at the first `Boundary` between two instructions at which the request has come. After the last
instruction there is none, and a run that gets there has not been cancelled.

## Results

* `Heeds.quickFrom`, `Heeds.timedFrom`: **both kinds of runs stop at the first boundary** at which
  they are to be cancelled.
* `Boundary.eq_of_requested`, `Boundary.eq_zero`, `Boundary.eq_length`: which boundary that is.
* `Scheduler.stops_after_instruction`: what is played of a run that is cancelled.
-/

namespace FrameScript

variable {σ τ : Type}

/-! ## Requests to cancel -/

section Requests

variable {requests : List Event → Event → Bool} {log : List Event}

/-- Cancelling is requested while the device takes one of the events, after it has taken those of
`log`: `requests` tells whether it is requested while the device takes an event after others. -/
def Requested (requests : List Event → Event → Bool) (log events : List Event) : Prop :=
  ∃ before event after, events = before ++ event :: after ∧ requests (log ++ before) event = true

theorem not_requested_nil : ¬Requested requests log [] := by
  rintro ⟨before, event, after, h, -⟩
  exact List.append_ne_nil_of_right_ne_nil _ (List.cons_ne_nil _ _) h.symm

theorem requested_cons {event : Event} {rest : List Event} :
    Requested requests log (event :: rest) ↔
      requests log event = true ∨ Requested requests (log ++ [event]) rest := by
  constructor
  · rintro ⟨before, e, after, h, hr⟩
    rcases List.cons_eq_append_iff.mp h with ⟨rfl, he⟩ | ⟨before, rfl, he⟩
    · obtain ⟨rfl, -⟩ := List.cons_eq_cons.mp he
      rw [List.append_nil] at hr
      exact Or.inl hr
    · exact Or.inr ⟨before, e, after, he, by rwa [List.append_assoc]⟩
  · rintro (hr | ⟨before, e, after, rfl, hr⟩)
    · exact ⟨[], event, rest, rfl, by rwa [List.append_nil]⟩
    · exact ⟨event :: before, e, after, rfl, by rwa [List.append_assoc] at hr⟩

theorem requested_append {events later : List Event} :
    Requested requests log (events ++ later) ↔
      Requested requests log events ∨ Requested requests (log ++ events) later := by
  induction events generalizing log with
  | nil =>
    rw [List.nil_append, List.append_nil]
    exact (or_iff_right not_requested_nil).symm
  | cons event rest ih =>
    rw [List.cons_append, requested_cons, requested_cons, ih, or_assoc, List.append_assoc]
    rfl

/-- By the time that `j` of the instructions are through, cancelling has been requested: it was
before the run, or while the device took one of their events. -/
def AskedBy (requests : List Event → Event → Bool) (asked : Prop) (log : List Event)
    (deltas : List Delta) (j : Nat) : Prop :=
  asked ∨ Requested requests log ((deltas.take j).flatMap Delta.events)

/-- After `n` of the instructions cancelling has been requested for the first time, or it never is
before the last of them and they are all. -/
structure Boundary (requests : List Event → Event → Bool) (asked : Prop) (log : List Event)
    (deltas : List Delta) (n : Nat) : Prop where
  le : n ≤ deltas.length
  before : ∀ j < n, ¬AskedBy requests asked log deltas j
  there : n < deltas.length → AskedBy requests asked log deltas n

variable {asked : Prop} {delta : Delta} {deltas : List Delta} {j n : Nat}

theorem askedBy_succ :
    AskedBy requests asked log (delta :: deltas) (j + 1) ↔
      asked ∨ AskedBy requests (Requested requests log delta.events) (log ++ delta.events) deltas
        j := by
  unfold AskedBy
  rw [List.take_succ_cons, List.flatMap_cons, requested_append]

/-- What has been requested stays requested. -/
theorem AskedBy.mono {k : Nat} (h : AskedBy requests asked log deltas j) (hk : j ≤ k) :
    AskedBy requests asked log deltas k := by
  refine h.imp_right fun hr => ?_
  obtain ⟨later, hlater⟩ := List.take_prefix_take_left (l := deltas) hk
  rw [← hlater, List.flatMap_append]
  exact requested_append.mpr (Or.inl hr)

namespace Boundary

/-- Nothing is played if cancelling has been requested before. -/
theorem zero (h : asked) : Boundary requests asked log deltas 0 :=
  ⟨Nat.zero_le _, fun _ hj => absurd hj (Nat.not_lt_zero _), fun _ => Or.inl h⟩

/-- One more instruction in front of the others. -/
theorem cons (h : ¬asked)
    (hn : Boundary requests (Requested requests log delta.events) (log ++ delta.events) deltas n) :
    Boundary requests asked log (delta :: deltas) (n + 1) where
  le := Nat.succ_le_succ hn.le
  before j hj := by
    cases j with
    | zero => exact not_or.mpr ⟨h, not_requested_nil⟩
    | succ j =>
      rw [askedBy_succ]
      exact not_or.mpr ⟨h, hn.before j (Nat.lt_of_succ_lt_succ hj)⟩
  there hlt := askedBy_succ.mpr (Or.inr (hn.there (Nat.lt_of_succ_lt_succ hlt)))

/-- It is the first boundary at which cancelling has been requested. -/
theorem eq_of_askedBy (h : Boundary requests asked log deltas n)
    (hj : ∀ i < j, ¬AskedBy requests asked log deltas i) (hle : j ≤ deltas.length)
    (ha : j < deltas.length → AskedBy requests asked log deltas j) : n = j := by
  refine Nat.le_antisymm ?_ ?_
  · by_contra hlt
    exact h.before j (Nat.lt_of_not_le hlt) (ha (Nat.lt_of_lt_of_le (Nat.lt_of_not_le hlt) h.le))
  · by_contra hlt
    exact hj n (Nat.lt_of_not_le hlt) (h.there (Nat.lt_of_lt_of_le (Nat.lt_of_not_le hlt) hle))

/-- **A request during an instruction is heeded after it.** -/
theorem eq_of_requested (h : Boundary requests asked log deltas n) (ha : ¬asked)
    (hj : deltas[j]? = some delta)
    (hq : ¬Requested requests log ((deltas.take j).flatMap Delta.events))
    (hr : Requested requests (log ++ (deltas.take j).flatMap Delta.events) delta.events) :
    n = j + 1 := by
  refine h.eq_of_askedBy (fun i hi hasked => ?_) (List.getElem?_eq_some_iff.mp hj).1 fun _ => ?_
  · exact not_or.mpr ⟨ha, hq⟩ (hasked.mono (Nat.le_of_lt_succ hi))
  · refine Or.inr ?_
    rw [List.take_succ_eq_append_getElem (List.getElem?_eq_some_iff.mp hj).1,
      (List.getElem?_eq_some_iff.mp hj).2, List.flatMap_append, List.flatMap_singleton]
    exact requested_append.mpr (Or.inr hr)

theorem eq_zero (h : Boundary requests asked log deltas n) (ha : asked) : n = 0 :=
  h.eq_of_askedBy (fun _ hi => absurd hi (Nat.not_lt_zero _)) (Nat.zero_le _) fun _ => Or.inl ha

theorem eq_length (h : Boundary requests asked log deltas n) (ha : ¬asked)
    (hq : ¬Requested requests log (deltas.flatMap Delta.events)) : n = deltas.length := by
  refine h.eq_of_askedBy (fun i hi hasked => ?_) (Nat.le_refl _) fun hlt =>
    absurd hlt (Nat.lt_irrefl _)
  have hall := hasked.mono (Nat.le_of_lt hi)
  unfold AskedBy at hall
  rw [List.take_length] at hall
  exact not_or.mpr ⟨ha, hq⟩ hall

end Boundary

end Requests

/-! ## Rigs that heed requests -/

/-- A clock that runs and tells whoever waits whether the run is to be cancelled, and a device that
takes everything. A run that is to be cancelled remains so, and cancelling is requested by nobody
but the device, which does so as `requests` tells. -/
structure Rig.Heeds (rig : Rig σ τ) (log : σ → List Event)
    (requests : List Event → Event → Bool) : Prop where
  now : ∀ s, ∃ time s', rig.now s = .ok time s' ∧ log s' = log s ∧
    rig.isCancelled s' = rig.isCancelled s
  wait : ∀ span s, ∃ s', rig.wait span s = .ok (rig.isCancelled s) s' ∧ log s' = log s ∧
    rig.isCancelled s' = rig.isCancelled s
  note : ∀ notice s, log (rig.note notice s) = log s ∧
    rig.isCancelled (rig.note notice s) = rig.isCancelled s
  send : ∀ event s, ∃ s', rig.send event s = .ok () s' ∧ log s' = log s ++ [event] ∧
    rig.isCancelled s' = (rig.isCancelled s || requests (log s) event)

/-- The report `later` is about `n` more instructions, all of them applied, and says that the run
was cancelled if there were more than that. -/
structure Report.Advances (report later : Report τ) (n total : Nat) : Prop where
  ticks : later.ticks = report.ticks + n
  applied : later.applied = report.applied + n
  cancelled : later.cancelled = true ↔ n < total

namespace Report

variable {report next later : Report τ} {n total : Nat}

/-- A run that has no instructions left was not cancelled. -/
theorem Advances.refl (hc : report.cancelled = false) : report.Advances report 0 0 :=
  ⟨rfl, rfl, by rw [hc]; exact iff_of_false Bool.false_ne_true (Nat.lt_irrefl 0)⟩

/-- A run that is cancelled before the next instruction. -/
theorem Advances.stop : report.Advances { report with cancelled := true } 0 (total + 1) :=
  ⟨rfl, rfl, iff_of_true rfl (Nat.succ_pos total)⟩

/-- One more instruction before the others. -/
theorem Advances.succ (ht : next.ticks = report.ticks + 1) (ha : next.applied = report.applied + 1)
    (h : next.Advances later n total) : report.Advances later (n + 1) (total + 1) where
  ticks := by rw [h.ticks, ht, Nat.add_assoc, Nat.add_comm 1]
  applied := by rw [h.applied, ha, Nat.add_assoc, Nat.add_comm 1]
  cancelled := h.cancelled.trans Nat.succ_lt_succ_iff.symm

end Report

namespace Instruction

variable {compiler : Compiler} {previous : Option Frame} {instruction : Instruction}
  {rest : List Instruction} {deltas : List Delta}

/-- Of instructions that can all be compiled the first one can, and the others can after it. -/
theorem resolutions_cons_eq_map
    (h : resolutions compiler previous (instruction :: rest) = deltas.map .ok) :
    ∃ delta later, deltas = delta :: later ∧ instruction.resolve compiler previous = .ok delta ∧
      resolutions compiler (instruction.successor previous) rest = later.map .ok := by
  cases deltas with
  | nil => cases h
  | cons delta later =>
    obtain ⟨hresolve, hrest⟩ := List.cons_eq_cons.mp h
    refine ⟨delta, later, rfl, hresolve, ?_⟩
    unfold follow at hrest
    rw [hresolve] at hrest
    exact hrest

theorem length_resolutions (compiler : Compiler) (previous : Option Frame)
    (instructions : List Instruction) :
    (resolutions compiler previous instructions).length = instructions.length := by
  induction instructions generalizing previous with
  | nil => rfl
  | cons instruction rest ih => exact congrArg (· + 1) (ih _)

end Instruction

namespace Rig.Heeds

variable {rig : Rig σ τ} {log : σ → List Event} {requests : List Event → Event → Bool}
  {compiler : Compiler} {previous : Option Frame} {instruction : Instruction}
  {instructions : List Instruction} {delta : Delta} {deltas : List Delta} {s : σ}

theorem sendAll (h : rig.Heeds log requests) (events : List Event) (s : σ) :
    ∃ s', rig.sendAll events s = (none, s') ∧ log s' = log s ++ events ∧
      (rig.isCancelled s' = true ↔
        rig.isCancelled s = true ∨ Requested requests (log s) events) := by
  induction events generalizing s with
  | nil => exact ⟨s, rfl, (List.append_nil _).symm, (or_iff_left not_requested_nil).symm⟩
  | cons event rest ih =>
    obtain ⟨s₁, hs, hlog, hflag⟩ := h.send event s
    obtain ⟨s₂, hrest, hlog', hflag'⟩ := ih s₁
    refine ⟨s₂, ?_, ?_, ?_⟩
    · unfold Rig.sendAll
      rw [hs]
      exact hrest
    · rw [hlog', hlog, List.append_assoc]
      rfl
    · rw [hflag', hflag, hlog, Bool.or_eq_true, or_assoc, requested_cons]

/-- An instruction that can be compiled is played to its end, whenever cancelling is requested. -/
theorem perform (h : rig.Heeds log requests)
    (hr : instruction.resolve compiler previous = .ok delta) (s : σ) :
    ∃ s', rig.perform compiler previous instruction s =
        ⟨instruction.successor previous, none, s'⟩ ∧
      log s' = log s ++ delta.events ∧
      (rig.isCancelled s' = true ↔
        rig.isCancelled s = true ∨ Requested requests (log s) delta.events) := by
  obtain ⟨s', hs, hlog, hflag⟩ := h.sendAll delta.events s
  refine ⟨s', ?_, hlog, hflag⟩
  unfold Rig.perform
  rw [hr]
  simp only [hs]

/-- An instruction that is played before a boundary puts it off by one. -/
theorem boundary_cons {s' : σ} {n : Nat} (hc : ¬rig.isCancelled s = true)
    (hlog : log s' = log s ++ delta.events)
    (hflag : rig.isCancelled s' = true ↔
      rig.isCancelled s = true ∨ Requested requests (log s) delta.events)
    (hb : Boundary requests (rig.isCancelled s' = true) (log s') deltas n) :
    Boundary requests (rig.isCancelled s = true) (log s) (delta :: deltas) (n + 1) := by
  rw [hlog, propext (hflag.trans (or_iff_right hc))] at hb
  exact hb.cons hc

theorem quickFrom (h : rig.Heeds log requests) (report : Report τ)
    (hr : Instruction.resolutions compiler previous instructions = deltas.map .ok)
    (hc : report.cancelled = false) (s : σ) :
    ∃ n later s', rig.quickFrom compiler previous report instructions s = .ok later s' ∧
      Boundary requests (rig.isCancelled s = true) (log s) deltas n ∧
      report.Advances later n deltas.length ∧
      log s' = log s ++ (deltas.take n).flatMap Delta.events := by
  induction instructions generalizing previous report deltas s with
  | nil =>
    obtain rfl := List.map_eq_nil_iff.mp hr.symm
    refine ⟨0, report, s, rfl, ⟨Nat.le_refl 0, ?_, ?_⟩, .refl hc, (List.append_nil _).symm⟩
    · exact fun _ hj => absurd hj (Nat.not_lt_zero _)
    · exact fun hlt => absurd hlt (Nat.lt_irrefl 0)
  | cons instruction rest ih =>
    obtain ⟨delta, deltas, rfl, hresolve, hrest⟩ := Instruction.resolutions_cons_eq_map hr
    unfold Rig.quickFrom
    by_cases hs : rig.isCancelled s = true
    · rw [if_pos hs]
      exact ⟨0, _, s, rfl, .zero hs, .stop, (List.append_nil _).symm⟩
    · obtain ⟨s₁, hperform, hlog, hflag⟩ := h.perform hresolve s
      rw [if_neg hs, hperform]
      obtain ⟨n, later, s₂, hrun, hb, ha, hlog'⟩ :=
        ih { report with ticks := report.ticks + 1, applied := report.applied + 1 } hrest hc s₁
      refine ⟨n + 1, later, s₂, hrun, boundary_cons hs hlog hflag hb, .succ rfl rfl ha, ?_⟩
      rw [hlog', hlog, List.append_assoc]
      rfl

variable [Timeline τ]

/-- A tick plays its instruction to its end. -/
theorem tick (h : rig.Heeds log requests) (period : Period τ) (due : τ) (pace : Pace τ)
    (hr : instruction.resolve compiler pace.previous = .ok delta) (s : σ) :
    ∃ pace' s', rig.tick compiler period due pace instruction s = .ok pace' s' ∧
      pace'.report.ticks = pace.report.ticks + 1 ∧
      pace'.report.applied = pace.report.applied + 1 ∧
      pace'.report.cancelled = pace.report.cancelled ∧
      pace'.previous = instruction.successor pace.previous ∧
      log s' = log s ++ delta.events ∧
      (rig.isCancelled s' = true ↔
        rig.isCancelled s = true ∨ Requested requests (log s) delta.events) := by
  obtain ⟨tickTime, t, hn, hlog, hflag⟩ := h.now s
  rw [tick_of_now hn]
  -- Whether the tick is late makes no difference to the device or to a request.
  have hworld : ∃ world, world = (if Timeline.isBefore period.limit (Pace.drift due tickTime) then
      rig.note (.late pace.report.ticks (Pace.drift due tickTime)) t else t) ∧
      log world = log s ∧ rig.isCancelled world = rig.isCancelled s := by
    refine ⟨_, rfl, ?_⟩
    split
    · obtain ⟨hl, hf⟩ := h.note (.late pace.report.ticks (Pace.drift due tickTime)) t
      exact ⟨hl.trans hlog, hf.trans hflag⟩
    · exact ⟨hlog, hflag⟩
  obtain ⟨world, hworld, hl, hf⟩ := hworld
  rw [← hworld]
  obtain ⟨s', hperform, hlog', hflag'⟩ := h.perform hr world
  rw [hl] at hlog' hflag'
  rw [hf] at hflag'
  simp only [hperform]
  exact ⟨_, s', rfl, rfl, rfl, rfl, rfl, hlog', hflag'⟩

theorem timedFrom (h : rig.Heeds log requests) (period : Period τ) (started : τ) (pace : Pace τ)
    (hr : Instruction.resolutions compiler pace.previous instructions = deltas.map .ok)
    (hc : pace.report.cancelled = false) (s : σ) :
    ∃ n later s', rig.timedFrom compiler period started pace instructions s = .ok later s' ∧
      Boundary requests (rig.isCancelled s = true) (log s) deltas n ∧
      pace.report.Advances later.report n deltas.length ∧
      log s' = log s ++ (deltas.take n).flatMap Delta.events := by
  induction instructions generalizing pace deltas s with
  | nil =>
    obtain rfl := List.map_eq_nil_iff.mp hr.symm
    refine ⟨0, pace, s, rfl, ⟨Nat.le_refl 0, ?_, ?_⟩, .refl hc, (List.append_nil _).symm⟩
    · exact fun _ hj => absurd hj (Nat.not_lt_zero _)
    · exact fun hlt => absurd hlt (Nat.lt_irrefl 0)
  | cons instruction rest ih =>
    obtain ⟨delta, deltas, rfl, hresolve, hrest⟩ := Instruction.resolutions_cons_eq_map hr
    obtain ⟨now, s₁, hn, hlog₁, hflag₁⟩ := h.now s
    obtain ⟨s₂, hw, hlog₂, hflag₂⟩ := h.wait (pace.due period started - now) s₁
    rw [hlog₁] at hlog₂
    rw [hflag₁] at hw hflag₂
    rw [timedFrom_cons, hn]
    by_cases hs : rig.isCancelled s = true
    · rw [hs] at hw
      simp only [hw]
      exact ⟨0, _, s₂, rfl, .zero hs, .stop, hlog₂.trans (List.append_nil _).symm⟩
    · rw [Bool.eq_false_iff.mpr hs] at hw
      simp only [hw]
      obtain ⟨next, s₃, htick, hticks, happlied, hcancelled, hprevious, hlog₃, hflag₃⟩ :=
        h.tick period (pace.due period started) pace hresolve s₂
      simp only [htick]
      rw [← hprevious] at hrest
      obtain ⟨n, later, s₄, hrun, hb, ha, hlog₄⟩ := ih next hrest (hcancelled.trans hc) s₃
      rw [hlog₂] at hlog₃ hflag₃
      rw [hflag₂] at hflag₃
      refine ⟨n + 1, later, s₄, hrun, boundary_cons hs hlog₃ hflag₃ hb,
        .succ hticks happlied ha, ?_⟩
      rw [hlog₄, hlog₃, List.append_assoc]
      rfl

end Rig.Heeds

/-! ## Whole runs -/

/-- The report is about a run of the instructions that has played the first `n` of them, with the
events `sent`, and nothing of the others; it says that the run was cancelled exactly if there are
others. -/
structure Report.Covers (report : Report τ) (instructions : List Instruction)
    (deltas : List Delta) (n : Nat) (sent : List Event) : Prop where
  sent : sent = (deltas.take n).flatMap Delta.events
  ticks : report.ticks = n
  applied : report.applied = n
  cancelled : report.cancelled = true ↔ n < instructions.length

namespace Rig.Heeds

variable [Timeline τ] {rig : Rig σ τ} {log : σ → List Event} {requests : List Event → Event → Bool}
  {compiler : Compiler} {instructions : List Instruction} {deltas : List Delta}

/-- What is gained from the start is what is covered in the end. -/
theorem covers_of_advances {report later : Report τ} {n : Nat} {mode : String}
    (hr : Instruction.resolutions compiler none instructions = deltas.map .ok)
    (ha : (Report.fresh mode instructions.length).Advances report n deltas.length)
    (hl : later.ticks = report.ticks ∧ later.applied = report.applied ∧
      later.cancelled = report.cancelled) :
    later.Covers instructions deltas n ((deltas.take n).flatMap Delta.events) where
  sent := rfl
  ticks := hl.1.trans (ha.ticks.trans (Nat.zero_add n))
  applied := hl.2.1.trans (ha.applied.trans (Nat.zero_add n))
  cancelled := by
    have hlength := congrArg List.length hr
    rw [Instruction.length_resolutions, List.length_map] at hlength
    rw [hl.2.2, ha.cancelled, hlength]

/-- **A quick run stops at the first boundary at which it is to be cancelled.** -/
theorem quick (h : rig.Heeds log requests)
    (hr : Instruction.resolutions compiler none instructions = deltas.map .ok) (s : σ) :
    ∃ n sent report s', rig.quick compiler instructions s = .ok report s' ∧
      log s' = log s ++ sent ∧ report.Covers instructions deltas n sent ∧
      Boundary requests (rig.isCancelled s = true) (log s) deltas n := by
  obtain ⟨started, s₁, hnow, hlog₁, hflag₁⟩ := h.now s
  obtain ⟨hlog₂, hflag₂⟩ := h.note (.quickStarted instructions.length) s₁
  obtain ⟨n, report, s₃, hrun, hb, ha, hlog₃⟩ :=
    h.quickFrom (.fresh "quick" instructions.length) hr rfl
      (rig.note (.quickStarted instructions.length) s₁)
  obtain ⟨ended, s₄, hend, hlog₄, -⟩ := h.now s₃
  rw [hlog₂, hlog₁] at hlog₃ hb
  rw [hflag₂, hflag₁] at hb
  rw [quick_eq, hnow]
  simp only [hrun, hend]
  refine ⟨n, _, _, _, rfl, ?_, covers_of_advances hr ha ⟨rfl, rfl, rfl⟩, hb⟩
  rw [(h.note _ _).1, hlog₄, hlog₃]

/-- **A timed run stops at the first boundary at which it is to be cancelled.** -/
theorem timed (h : rig.Heeds log requests) (period : Period τ)
    (hr : Instruction.resolutions compiler none instructions = deltas.map .ok) (s : σ) :
    ∃ n sent report s', rig.timed compiler period instructions s = .ok report s' ∧
      log s' = log s ++ sent ∧ report.Covers instructions deltas n sent ∧
      Boundary requests (rig.isCancelled s = true) (log s) deltas n := by
  obtain ⟨hlog₁, hflag₁⟩ := h.note (.timedStarted instructions.length period.told) s
  obtain ⟨started, s₂, hnow, hlog₂, hflag₂⟩ :=
    h.now (rig.note (.timedStarted instructions.length period.told) s)
  obtain ⟨n, pace, s₃, hrun, hb, ha, hlog₃⟩ :=
    h.timedFrom period started (.start instructions.length) hr rfl s₂
  obtain ⟨ended, s₄, hend, hlog₄, -⟩ := h.now s₃
  rw [hlog₂, hlog₁] at hlog₃ hb
  rw [hflag₂, hflag₁] at hb
  rw [timed_eq, hnow]
  simp only [hrun, hend]
  refine ⟨n, _, _, _, rfl, ?_, covers_of_advances hr ha ⟨rfl, rfl, rfl⟩, hb⟩
  rw [(h.note _ _).1, hlog₄, hlog₃]

end Rig.Heeds

namespace Scheduler

variable [Timeline τ] {scheduler : Scheduler σ τ} {requests : List Event → Event → Bool}
  {instructions : List Instruction} {deltas : List Delta}

/-- **A run that is cancelled plays the instruction during which that was requested to its end, and
nothing after it**, whichever of its events the device was taking. A run for which it was requested
before plays nothing, and a run for which it is not requested plays everything. Just if instructions
are left has the run been cancelled. -/
theorem stops_after_instruction (log : σ → List Event) (cancelled : σ → Bool)
    (hh : scheduler.rig.Heeds (fun desk => log desk.world) requests)
    (hc : ∀ desk, scheduler.rig.isCancelled desk = cancelled desk.world)
    (hr : Instruction.resolutions scheduler.compiler none instructions = deltas.map .ok)
    (run : EStateM Failure (Desk σ) (Report τ))
    (hrun : run = scheduler.runQuick instructions ∨
      scheduler.period.isSome = true ∧ run = scheduler.runTimed instructions)
    (desk : Desk σ) (hd : desk.owned = false) :
    ∃ report desk' sent, run desk = .ok report desk' ∧ log desk'.world = log desk.world ++ sent ∧
      (∀ k delta, cancelled desk.world = false → deltas[k]? = some delta →
        ¬Requested requests (log desk.world) ((deltas.take k).flatMap Delta.events) →
        Requested requests (log desk.world ++ (deltas.take k).flatMap Delta.events) delta.events →
        report.Covers instructions deltas (k + 1) sent) ∧
      (cancelled desk.world = true → report.Covers instructions deltas 0 sent) ∧
      (cancelled desk.world = false →
        ¬Requested requests (log desk.world) (deltas.flatMap Delta.events) →
        report.Covers instructions deltas deltas.length sent) := by
  obtain ⟨n, sent, report, desk', hplay, hlog, hcovers, hb⟩ :
      ∃ n sent report desk', run desk = .ok report desk' ∧
        log desk'.world = log desk.world ++ sent ∧ report.Covers instructions deltas n sent ∧
        Boundary requests (cancelled desk.world = true) (log desk.world) deltas n := by
    rcases hrun with rfl | ⟨hp, rfl⟩
    · obtain ⟨n, sent, report, after, hplay, hlog, hcovers, hb⟩ :=
        hh.quick hr { desk with owned := true }
      rw [hc] at hb
      refine ⟨n, sent, report, after.release, ?_, hlog, hcovers, hb⟩
      simp only [runQuick, Desk.exclusively, Desk.acquire, hd, Bool.false_eq_true, if_false, hplay]
    · obtain ⟨period, hp⟩ := Option.isSome_iff_exists.mp hp
      obtain ⟨n, sent, report, after, hplay, hlog, hcovers, hb⟩ :=
        hh.timed period hr { desk with owned := true }
      rw [hc] at hb
      refine ⟨n, sent, report, after.release, ?_, hlog, hcovers, hb⟩
      rw [runTimed_of_free hp hd, hplay]
  refine ⟨report, desk', sent, hplay, hlog, fun k delta hfree hk hq hreq => ?_, fun hasked => ?_,
    fun hfree hq => ?_⟩
  · rw [hb.eq_of_requested (Bool.eq_false_iff.mp hfree) hk hq hreq] at hcovers
    exact hcovers
  · rw [hb.eq_zero hasked] at hcovers
    exact hcovers
  · rw [hb.eq_length (Bool.eq_false_iff.mp hfree) hq] at hcovers
    exact hcovers

/-! ## A device that cancels -/

/-- What a device has taken, and whether the run is to be cancelled. -/
structure Attention where
  taken : List Event
  cancelled : Bool

/-- A rig with a clock that stands still and a device that takes everything and requests to cancel
as `requests` tells. -/
def attentive (requests : List Event → Event → Bool) : Rig (Desk Attention) Int where
  now := pure 0
  wait _ desk := .ok desk.world.cancelled desk
  send event desk := .ok ()
    { desk with world := ⟨desk.world.taken ++ [event],
      desk.world.cancelled || requests desk.world.taken event⟩ }
  isCancelled desk := desk.world.cancelled
  note _ desk := desk

theorem heeds_attentive (requests : List Event → Event → Bool) :
    (attentive requests).Heeds (fun desk => desk.world.taken) requests where
  now s := ⟨0, s, rfl, rfl, rfl⟩
  wait _ s := ⟨s, rfl, rfl, rfl⟩
  note _ _ := ⟨rfl, rfl⟩
  send _ _ := ⟨_, rfl, rfl, rfl⟩

/-- A click: the mouse moves to a place and a button goes down. -/
def click (x y : Int) : Delta :=
  ⟨some (x, y), CodeSet.empty.insert 1, .empty, .empty, .empty⟩

/-- Cancelling is requested while the device takes the event that comes after `n` others. -/
def requestAfter (n : Nat) (taken : List Event) (_ : Event) : Bool :=
  taken.length == n

/-- A scheduler with a device that cancels while it takes the event that comes after `n` others. -/
def cancelledAfter (n : Nat) : Scheduler Attention Int :=
  ⟨attentive (requestAfter n), ⟨⟨0, 0⟩, true⟩, some ⟨.whole 10, 10, 10⟩⟩

/-- Three clicks. A timed run that is cancelled while the mouse moves for the second time makes two
of them; a quick run that is cancelled during the last one makes all of them and was not
cancelled. -/
theorem stops_after_instruction_clicks :
    (∃ report desk, (cancelledAfter 2).runTimed
          [.delta (click 1 2), .delta (click 3 4), .delta (click 5 6)] ⟨false, ⟨[], false⟩⟩ =
            .ok report desk ∧
        desk.world.taken = [.move 1 2, .pressButton 1, .move 3 4, .pressButton 1] ∧
        report.ticks = 2 ∧ report.cancelled = true) ∧
      ∃ report desk, (cancelledAfter 4).runQuick
          [.delta (click 1 2), .delta (click 3 4), .delta (click 5 6)] ⟨false, ⟨[], false⟩⟩ =
            .ok report desk ∧
        report.applied = 3 ∧ ¬report.cancelled = true := by
  have hr : Instruction.resolutions ⟨⟨0, 0⟩, true⟩ none
      [.delta (click 1 2), .delta (click 3 4), .delta (click 5 6)] =
        [click 1 2, click 3 4, click 5 6].map .ok := rfl
  constructor
  · obtain ⟨report, desk, sent, hrun, hlog, hduring, -, -⟩ :=
      stops_after_instruction Attention.taken Attention.cancelled (heeds_attentive (requestAfter 2))
        (fun _ => rfl) hr ((cancelledAfter 2).runTimed _) (Or.inr ⟨rfl, rfl⟩)
        ⟨false, ⟨[], false⟩⟩ rfl
    have hbefore : ¬Requested (requestAfter 2) []
        [.move 1 2, .pressButton 1] := by
      simp [requested_cons, not_requested_nil, requestAfter]
    have hcovers := hduring 1 (click 3 4) rfl rfl hbefore
      ⟨[], .move 3 4, [.pressButton 1], rfl, rfl⟩
    refine ⟨report, desk, hrun, ?_, hcovers.ticks, hcovers.cancelled.mpr (by decide)⟩
    rw [hlog, hcovers.sent]
    rfl
  · obtain ⟨report, desk, sent, hrun, -, hduring, -, -⟩ :=
      stops_after_instruction Attention.taken Attention.cancelled (heeds_attentive (requestAfter 4))
        (fun _ => rfl) hr ((cancelledAfter 4).runQuick _) (Or.inl rfl) ⟨false, ⟨[], false⟩⟩ rfl
    have hbefore : ¬Requested (requestAfter 4) []
        [.move 1 2, .pressButton 1, .move 3 4, .pressButton 1] := by
      simp [requested_cons, not_requested_nil, requestAfter]
    have hcovers := hduring 2 (click 5 6) rfl rfl hbefore
      ⟨[], .move 5 6, [.pressButton 1], rfl, rfl⟩
    exact ⟨report, desk, hrun, hcovers.applied, mt hcovers.cancelled.mp (by decide)⟩

end Scheduler

end FrameScript
