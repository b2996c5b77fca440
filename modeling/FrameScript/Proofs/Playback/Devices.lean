import FrameScript.Playback.Rehearsal
import FrameScript.Proofs.Playback.Ticks

/-!
# Devices of which a log can be read off

What a rig must grant for its ticks to make a history is that a log of its device can be read off
its state. A rehearsal grants it, whatever its device refuses and however its clock runs, as long as
no other run is asked for meanwhile: its events are the log. A rig of which the state is the log
itself grants it as well, and refuses nothing.

## Results

* `Rehearsal.logs_rig`: **the events of a rehearsal are a log of its device**.
* `Rig.logs_steady`, `Rig.neverRefuses_steady`: the same of a rig that takes everything.
-/

namespace FrameScript

open Reading

/-! ## Rehearsals -/

namespace Rehearsal

variable {τ : Type}

/-- What the device of a rehearsal has taken. -/
def World.log (desk : Desk (World τ)) : List Event :=
  desk.world.events.reverse

theorem log_holdOn? (plan : Rehearsal τ) (event : Event) (desk : Desk (World τ)) :
    World.log (plan.holdOn? event desk) = World.log desk := by
  unfold holdOn?
  split
  · rfl
  · split
    · split <;> rfl
    · rfl

variable [Timeline τ]

/-- **The events of a rehearsal are a log of its device**, if no other run is asked for
meanwhile. -/
theorem logs_rig {plan : Rehearsal τ} (h : plan.reenterOn = none) : plan.rig.Logs World.log where
  now _ := rfl
  wait span desk := by
    show World.log (left (plan.waitFor span desk)) = World.log desk
    unfold waitFor
    dsimp only
    split
    · rfl
    · split
      · rfl
      · split <;> rfl
  note _ _ := rfl
  taken event desk desk' hs := by
    change plan.deliver event desk = .ok () desk' at hs
    unfold deliver at hs
    rw [h] at hs
    split at hs
    · cases hs
    · split at hs
      · cases hs
      · change EStateM.Result.ok () (plan.holdOn? event _) = _ at hs
        rw [← (EStateM.Result.ok.inj hs).2, log_holdOn?]
        exact List.reverse_cons
  refused event desk failure desk' hs := by
    change plan.deliver event desk = .error failure desk' at hs
    unfold deliver at hs
    rw [h] at hs
    split at hs
    · rw [← (EStateM.Result.error.inj hs).2]
      rfl
    · split at hs
      · rw [← (EStateM.Result.error.inj hs).2]
      · cases hs

end Rehearsal

/-! ## A device that takes everything -/

namespace Rig

/-- Whole numbers as times. -/
instance : Timeline Int where
  ofNat n := n
  isBefore a b := decide (a < b)

/-- A rig with a clock that stands still and a device that takes everything. Its state is what the
device has taken. -/
def steady : Rig (List Event) Int where
  now := pure 0
  wait _ := pure false
  send event := modify (· ++ [event])
  isCancelled _ := false
  note _ s := s

theorem logs_steady : steady.Logs id where
  now _ := rfl
  wait _ _ := rfl
  note _ _ := rfl
  taken event s s' h := (EStateM.Result.ok.inj h).2.symm
  refused event s failure s' h := by cases h

theorem neverRefuses_steady : steady.NeverRefuses :=
  fun event s => ⟨s ++ [event], rfl⟩

end Rig

/-! ## A frame and a device that refuses once -/

/-- A frame with the key `A` down or up, and the mouse at one place. -/
def tap (value : Text) : Frame :=
  ⟨[(['K', 'A'], value), (['M', 'X'], ['1']), (['M', 'Y'], ['2'])], ⟨none, none⟩⟩

theorem declaresInactive_tap : (tap ['.']).DeclaresInactive (.key 65) :=
  ⟨['K', 'A'], ['.'], by decide, by decide⟩

/-- A rehearsal in which the device refuses to release a key once. -/
def Rehearsal.stubborn : Desk (Rehearsal.World Int) :=
  ⟨true, Rehearsal.World.start 0 [⟨("release_key", 65), 1⟩]⟩

end FrameScript
