import FrameScript.Proofs.Playback.Devices
import FrameScript.Proofs.Playback.Traffic

/-!
# Runs have the device one after the other

A turn that gives the device back is one of a call that plays, and whoever plays was let in. That no
two calls have the device at once is not laid down in the steps: `Orderly` follows step by step from
how the device is taken and given back. It carries the rest, because the calls after the one that
has the device were refused, and so whatever the device takes stands at the end of the log.

## Results

* `orderly_of_reaches`: at most one call has the device, it is the last one that was let in, and the
  desk knows of it.
* `exclusive_of_reaches`: **the log is made of the runs one after the other**, each of which does
  what its own process does, and a call that is refused changes nothing.
-/

namespace FrameScript

namespace Traffic

variable {τ : Type} [Timeline τ]

/-- Whoever has the device was let in last, and the desk knows whether somebody has it; the log is
made of the events of the calls, and each call does what its own process does. -/
structure Orderly (compiler : Compiler) (period : Option (Period τ)) (traffic : Traffic τ) :
    Prop where
  apart : traffic.entries.Pairwise fun earlier later =>
    earlier.phase.holds = true → later.phase.isRefused = true
  owned : traffic.desk.owned = true ↔ ∃ entry ∈ traffic.entries, entry.phase.holds = true
  log : traffic.desk.world = traffic.entries.flatMap Entry.events
  own : ∀ entry ∈ traffic.entries, entry.IsOwn compiler period

variable {compiler : Compiler} {period : Option (Period τ)} {traffic next : Traffic τ}

/-! ## Order -/

theorem orderly_start : (start : Traffic τ).Orderly compiler period where
  apart := List.Pairwise.nil
  owned := ⟨fun h => (nomatch h), fun ⟨_, hm, _⟩ => absurd hm List.not_mem_nil⟩
  log := rfl
  own := fun _ hm => absurd hm List.not_mem_nil

/-- **Asking keeps the order**: a call is let in only if no call has the device. -/
theorem Orderly.ask (h : traffic.Orderly compiler period) (call : Scheduler.Call) :
    (traffic.ask call).Orderly compiler period := by
  cases ho : traffic.desk.owned with
  | true =>
    rw [ask_of_owned ho]
    refine ⟨?_, ?_, ?_, ?_⟩
    · refine List.pairwise_append.mpr ⟨h.apart, List.pairwise_singleton _ _, ?_⟩
      intro earlier _ later hm _
      rw [List.mem_singleton.mp hm]
      rfl
    · obtain ⟨entry, hm, hholds⟩ := h.owned.mp ho
      exact ⟨fun _ => ⟨entry, List.mem_append_left _ hm, hholds⟩, fun _ => ho⟩
    · rw [List.flatMap_append, ← h.log]
      exact (List.append_nil _).symm
    · intro entry hm
      rcases List.mem_append.mp hm with hm | hm
      · exact h.own entry hm
      · rw [List.mem_singleton.mp hm]
        exact ⟨rfl, rfl⟩
  | false =>
    have hnobody : ∀ entry ∈ traffic.entries, ¬entry.phase.holds = true := by
      intro entry hm hholds
      rw [h.owned.mpr ⟨entry, hm, hholds⟩] at ho
      cases ho
    rw [ask_of_not_owned ho]
    refine ⟨?_, ?_, ?_, ?_⟩
    · refine List.pairwise_append.mpr ⟨h.apart, List.pairwise_singleton _ _, ?_⟩
      intro earlier hm _ _ hholds
      exact absurd hholds (hnobody earlier hm)
    · exact ⟨fun _ => ⟨_, List.mem_append_right _ List.mem_cons_self, rfl⟩, fun _ => rfl⟩
    · rw [List.flatMap_append, ← h.log]
      exact (List.append_nil _).symm
    · intro entry hm
      rcases List.mem_append.mp hm with hm | hm
      · exact h.own entry hm
      · rw [List.mem_singleton.mp hm]
        exact rfl

section Around

variable {desk desk' : Desk (List Event)} {before after : List (Entry τ)} {entry entry' : Entry τ}

/-- Around a call that has the device, none of those before has it, and those after were refused. -/
theorem Orderly.alone (h : (⟨desk, before ++ entry :: after⟩ : Traffic τ).Orderly compiler period)
    (hr : entry.phase.isRefused = false) (hh : entry.phase.holds = true) :
    (∀ other ∈ before, other.phase.holds = false) ∧
      ∀ other ∈ after, other.phase.isRefused = true := by
  obtain ⟨-, hback, hacross⟩ := List.pairwise_append.mp h.apart
  refine ⟨fun other hm => ?_, fun other hm => (List.pairwise_cons.mp hback).1 other hm hh⟩
  cases ho : other.phase.holds with
  | false => rfl
  | true =>
    rw [hacross other hm entry List.mem_cons_self ho] at hr
    cases hr

theorem Orderly.apart_of_turn
    (h : (⟨desk, before ++ entry :: after⟩ : Traffic τ).Orderly compiler period)
    (ht : Turn compiler period desk entry desk' entry') :
    (before ++ entry' :: after).Pairwise fun earlier later : Entry τ =>
      earlier.phase.holds = true → later.phase.isRefused = true := by
  obtain ⟨hr, -⟩ := ht.not_refused
  obtain ⟨hfront, hback, hacross⟩ := List.pairwise_append.mp h.apart
  obtain ⟨hentry, hafter⟩ := List.pairwise_cons.mp hback
  refine List.pairwise_append.mpr ⟨hfront, List.pairwise_cons.mpr ⟨?_, hafter⟩, ?_⟩
  · exact fun later hm hh => hentry later hm (ht.holds_of_holds hh)
  · intro earlier hm later hl hh
    rcases List.mem_cons.mp hl with rfl | hl
    · rw [hacross earlier hm entry List.mem_cons_self hh] at hr
      cases hr
    · exact hacross earlier hm later (List.mem_cons_of_mem _ hl) hh

theorem Orderly.own_of_turn
    (h : (⟨desk, before ++ entry :: after⟩ : Traffic τ).Orderly compiler period)
    (ht : Turn compiler period desk entry desk' entry') :
    ∀ other ∈ before ++ entry' :: after, other.IsOwn compiler period := by
  intro other hm
  rcases List.mem_append.mp hm with hm | hm
  · exact h.own other (List.mem_append_left _ hm)
  · rcases List.mem_cons.mp hm with rfl | hm
    · exact ht.isOwn (h.own entry (List.mem_append_right _ List.mem_cons_self))
    · exact h.own other (List.mem_append_right _ (List.mem_cons_of_mem _ hm))

/-- **A turn keeps the order.** What the call that has the device adds to the log stands behind
everything else, because the calls after it were refused. -/
theorem Orderly.turn (h : (⟨desk, before ++ entry :: after⟩ : Traffic τ).Orderly compiler period)
    (ht : Turn compiler period desk entry desk' entry') :
    (⟨desk', before ++ entry' :: after⟩ : Traffic τ).Orderly compiler period := by
  have hapart := h.apart_of_turn ht
  have hown := h.own_of_turn ht
  have hmem : entry ∈ before ++ entry :: after := List.mem_append_right _ List.mem_cons_self
  have hmem' : entry' ∈ before ++ entry' :: after := List.mem_append_right _ List.mem_cons_self
  have hlog : desk.world =
      before.flatMap Entry.events ++ (entry.events ++ after.flatMap Entry.events) := by
    rw [h.log, List.flatMap_append, List.flatMap_cons]
  rcases ht.effect with ⟨hb, ha, howned, sent, hworld, hevents⟩ |
    ⟨hb, rfl, ⟨outcome, rfl⟩, hevents⟩ | ⟨hb, ha, rfl, hevents⟩
  · have hafter : after.flatMap Entry.events = [] := by
      refine List.flatMap_eq_nil_iff.mpr fun other hm => ?_
      refine events_eq_nil_of_isRefused (hown other ?_) ((h.alone ht.not_refused.1 hb).2 other hm)
      exact List.mem_append_right _ (List.mem_cons_of_mem _ hm)
    refine ⟨hapart, ⟨fun _ => ⟨entry', hmem', ha⟩, fun _ => ?_⟩, ?_, hown⟩
    · rw [howned]
      exact h.owned.mpr ⟨entry, hmem, hb⟩
    · rw [hworld, hlog, hafter, List.flatMap_append, List.flatMap_cons, hevents, hafter]
      simp only [List.append_assoc, List.append_nil]
  · obtain ⟨hbefore, hafter⟩ := h.alone ht.not_refused.1 hb
    refine ⟨hapart, ⟨fun ho => (nomatch ho), fun ⟨other, hm, hh⟩ => ?_⟩, ?_, hown⟩
    · rcases List.mem_append.mp hm with hm | hm
      · rw [hbefore other hm] at hh
        cases hh
      · rcases List.mem_cons.mp hm with rfl | hm
        · cases hh
        · rw [Phase.holds_eq_false_of_isRefused (hafter other hm)] at hh
          cases hh
    · rw [List.flatMap_append, List.flatMap_cons, hevents]
      exact hlog
  · refine ⟨hapart, ?_, ?_, hown⟩
    · rw [h.owned]
      simp only [List.mem_append, List.mem_cons, or_and_right, exists_or, exists_eq_left, hb, ha]
    · rw [List.flatMap_append, List.flatMap_cons, hevents]
      exact hlog

end Around

theorem Orderly.step (h : traffic.Orderly compiler period)
    (hs : Step compiler period traffic next) : next.Orderly compiler period := by
  cases hs with
  | ask _ call => exact h.ask call
  | turn before after ht => exact h.turn ht

/-- **Whatever comes about is in order.** -/
theorem orderly_of_reaches (h : Reaches compiler period start traffic) :
    traffic.Orderly compiler period := by
  induction h with
  | refl => exact orderly_start
  | tail _ hs ih => exact ih.step hs

/-! ## Exclusive runs -/

/-- A call that was refused stays as it is. -/
theorem Step.getElem?_of_isRefused {i : Nat} {entry : Entry τ}
    (hs : Step compiler period traffic next) (hi : traffic.entries[i]? = some entry)
    (hr : entry.phase.isRefused = true) : next.entries[i]? = some entry := by
  cases hs with
  | ask _ call =>
    have hlt : i < traffic.entries.length := (List.getElem?_eq_some_iff.mp hi).1
    unfold Traffic.ask
    split <;> exact (List.getElem?_append_left hlt).trans hi
  | @turn desk desk' other other' before after ht =>
    rcases Nat.lt_trichotomy i before.length with hlt | rfl | hlt
    · rw [List.getElem?_append_left hlt] at hi ⊢
      exact hi
    · rw [List.getElem?_append_right (Nat.le_refl _), Nat.sub_self] at hi
      obtain rfl : other = entry := Option.some.inj hi
      rw [ht.not_refused.1] at hr
      cases hr
    · obtain ⟨k, hk⟩ := Nat.exists_eq_succ_of_ne_zero (Nat.sub_ne_zero_of_lt hlt)
      rw [List.getElem?_append_right (Nat.le_of_lt hlt), hk] at hi ⊢
      exact hi

/-- The device is given back by a turn of the call that has it, and by nothing else. -/
theorem Orderly.released (h : traffic.Orderly compiler period)
    (hs : Step compiler period traffic next) (ho : traffic.desk.owned = true)
    (hn : next.desk.owned = false) :
    ∃ before entry after outcome, traffic.entries = before ++ entry :: after ∧
      entry.phase.holds = true ∧ (∀ other ∈ before ++ after, other.phase.holds = false) ∧
      next = ⟨traffic.desk.release, before ++ { entry with phase := .left outcome } :: after⟩ := by
  cases hs with
  | ask _ call =>
    rw [ask_of_owned ho, ho] at hn
    cases hn
  | @turn desk desk' entry entry' before after ht =>
    rcases ht.effect with ⟨-, -, howned, -⟩ | ⟨hb, rfl, ⟨outcome, rfl⟩, -⟩ | ⟨-, -, rfl, -⟩
    · rw [howned, ho] at hn
      cases hn
    · obtain ⟨hbefore, hafter⟩ := h.alone ht.not_refused.1 hb
      refine ⟨before, entry, after, outcome, rfl, hb, fun other hm => ?_, rfl⟩
      rcases List.mem_append.mp hm with hm | hm
      · exact hbefore other hm
      · exact Phase.holds_eq_false_of_isRefused (hafter other hm)
    · rw [ho] at hn
      cases hn

/-- What callers that share a scheduler can rely on. The log is made of the events of the calls that
were let in, one call after the other, and each of these does what its own process does. While a
call has the device, whoever asks for a run is refused, and neither the desk nor any other call
takes notice; a call that was refused sends nothing and never becomes anything else. The device is
given back by the only call that has it, when its run is over. -/
structure Exclusive (compiler : Compiler) (period : Option (Period τ)) (traffic : Traffic τ) :
    Prop where
  log : traffic.desk.world = (traffic.accepted.map Entry.events).flatten
  own : ∀ entry ∈ traffic.accepted, entry.IsOwn compiler period
  refuses : traffic.desk.owned = true → ∀ call, traffic.ask call =
    ⟨traffic.desk, traffic.entries ++ [⟨call, [], .refused .busy⟩]⟩
  refused : ∀ later, Reaches compiler period traffic later →
    ∀ (i : Nat) entry, traffic.entries[i]? = some entry → entry.phase.isRefused = true →
      later.entries[i]? = some entry ∧ entry.phase = .refused .busy ∧ entry.events = []
  released : ∀ next, Step compiler period traffic next → traffic.desk.owned = true →
    next.desk.owned = false →
    ∃ before entry after outcome, traffic.entries = before ++ entry :: after ∧
      entry.phase.holds = true ∧ (∀ other ∈ before ++ after, other.phase.holds = false) ∧
      next = ⟨traffic.desk.release, before ++ { entry with phase := .left outcome } :: after⟩

/-- Calls that were refused may be left out of the log. -/
theorem flatMap_events_eq (entries : List (Entry τ))
    (h : ∀ entry ∈ entries, entry.IsOwn compiler period) :
    entries.flatMap Entry.events =
      ((entries.filter fun entry => !entry.phase.isRefused).map Entry.events).flatten := by
  induction entries with
  | nil => rfl
  | cons entry rest ih =>
    have hrest := ih fun other hm => h other (List.mem_cons_of_mem _ hm)
    cases hr : entry.phase.isRefused with
    | true =>
      rw [List.flatMap_cons, events_eq_nil_of_isRefused (h entry List.mem_cons_self) hr,
        List.filter_cons_of_neg (by simp [hr])]
      exact hrest
    | false =>
      rw [List.flatMap_cons, hrest, List.filter_cons_of_pos (by simp [hr])]
      rfl

theorem refused_busy {entry : Entry τ} (ho : entry.IsOwn compiler period)
    (h : entry.phase.isRefused = true) : entry.phase = .refused .busy := by
  obtain ⟨call, deeds, phase⟩ := entry
  cases phase with
  | refused failure =>
    obtain ⟨-, hbusy⟩ := ho
    exact congrArg Phase.refused hbusy
  | _ => cases h

/-- **Runs have the device one after the other.** Whatever calls are made of a scheduler, by however
many callers, also from inside the device, and in whatever order they take their turns, nobody
disturbs the run that has the device. -/
theorem exclusive_of_reaches (h : Reaches compiler period start traffic) :
    traffic.Exclusive compiler period := by
  have horder := orderly_of_reaches h
  refine ⟨?_, ?_, fun ho call => ask_of_owned ho call, ?_, fun next hs ho hn =>
    horder.released hs ho hn⟩
  · rw [horder.log]
    exact flatMap_events_eq traffic.entries horder.own
  · exact fun entry hm => horder.own entry (List.mem_of_mem_filter hm)
  · intro later hl i entry hi hr
    have hown := horder.own entry (List.mem_of_getElem? hi)
    refine ⟨?_, refused_busy hown hr, events_eq_nil_of_isRefused hown hr⟩
    induction hl with
    | refl => exact hi
    | tail _ hs ih => exact hs.getElem?_of_isRefused ih hr

/-- A quick run of a single move of the mouse. -/
def moveOnce : Scheduler.Call :=
  .quick [.delta ⟨some (5, 7), .empty, .empty, .empty, .empty⟩]

/-- While the device takes the move, a second run is asked for, perhaps by the device itself: it is
refused, and the first one goes on. -/
theorem exclusive_of_reaches_reentrant :
    ∃ traffic : Traffic Int, Reaches ⟨⟨0, 0⟩, false⟩ none start traffic ∧
      traffic.desk = ⟨true, [.move 5 7]⟩ ∧
      traffic.entries.map (fun entry => entry.phase.holds) = [true, false] ∧
      traffic.Exclusive ⟨⟨0, 0⟩, false⟩ none := by
  have hopen : Reaches ⟨⟨0, 0⟩, false⟩ none (start : Traffic Int)
      ⟨⟨true, []⟩, [⟨moveOnce, [], .playing (moveOnce.process ⟨⟨0, 0⟩, false⟩ none)⟩]⟩ :=
    (Relation.ReflTransGen.single (.ask start moveOnce)).tail (.turn [] [] (.begin _ _ _))
  obtain ⟨deeds, next, hfollows, hevents⟩ : ∃ (deeds : List (Deed Int)) (next : _),
      (moveOnce.process ⟨⟨0, 0⟩, false⟩ none).Follows deeds (.doing (.send (.move 5 7)) next) ∧
        deeds.flatMap Deed.events = [] :=
    ⟨[⟨.now, .ok 0, false⟩, ⟨.note (.quickStarted 1), (), false⟩, ⟨.ask, false, false⟩], _,
      .head false (.head false (.head false (.refl _))), rfl⟩
  have hplay := hopen.trans (reaches_of_follows hfollows ⟨true, []⟩ [] moveOnce [])
  have hsend := (hplay.tail (.turn [] [] (.undertake _ _ _ _ _))).tail
    (.turn [] [] (.take _ _ _ _ _))
  have hask := hsend.tail (.ask _ moveOnce)
  rw [ask_of_owned rfl, hevents] at hask
  exact ⟨_, hask, rfl, rfl, exclusive_of_reaches hask⟩

end Traffic

end FrameScript
