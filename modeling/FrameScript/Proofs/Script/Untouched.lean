import FrameScript.Proofs.Reading
import FrameScript.Script.Parse

/-!
# What reading scripts leaves alone

Scripts and counts are kept in one store, but a reading of a script touches none of the counts, nor
the list of the files that are being counted.

## Results

* `leaves_frames`: unrolling leaves what its readings of lines leave.
* `leaves_parseAt`: **reading a script leaves the counts alone.**
-/

namespace FrameScript

namespace Reading

variable {ε σ α β γ : Type} {g : σ → γ}

/-- The reading leaves what `g` shows of a world as it is, however it ends. -/
def Leaves (g : σ → γ) (x : EStateM ε σ α) : Prop :=
  ∀ s, g (left (x s)) = g s

theorem leaves_pure (a : α) : Leaves g (pure a : EStateM ε σ α) :=
  fun _ => rfl

theorem leaves_throw (e : ε) : Leaves g (throw e : EStateM ε σ α) :=
  fun _ => rfl

theorem leaves_modify {f : σ → σ} (h : ∀ s, g (f s) = g s) :
    Leaves g (modify f : EStateM ε σ Unit) :=
  h

theorem leaves_bind {x : EStateM ε σ α} {f : α → EStateM ε σ β} (hx : Leaves g x)
    (hf : ∀ a, Leaves g (f a)) : Leaves g (x >>= f) := by
  intro s
  have hleft := hx s
  show g (left (EStateM.bind x f s)) = g s
  unfold EStateM.bind
  cases hr : x s with
  | ok a s' =>
    rw [hr] at hleft
    exact (hf a s').trans hleft
  | error e s' =>
    rw [hr] at hleft
    exact hleft

theorem leaves_get_bind {f : σ → EStateM ε σ β} (h : ∀ s, Leaves g (f s)) :
    Leaves g (get >>= f) :=
  fun s => h s s

end Reading

open Reading

variable {disk : Disk} {chain : List Path} {p : Path}

section Frames

variable {σ γ : Type} {g : σ → γ} {source : Option Text} {data : Line → EStateM Failure σ Frame}
  {included : Line → Text → EStateM Failure σ (List Frame)}

/-- **Unrolling leaves what its readings of lines leave.** -/
theorem Outline.leaves_frames (hd : ∀ line, Leaves g (data line))
    (hi : ∀ line target, Leaves g (included line target)) (o : Outline) :
    Leaves g (o.frames source data included) := by
  induction o with
  | nil => exact leaves_pure []
  | leaf line item next ih =>
    cases item with
    | skip => exact ih
    | data => exact leaves_bind (hd line) fun _ => leaves_bind ih fun _ => leaves_pure _
    | inclusion target =>
      exact leaves_bind (hi line target) fun _ => leaves_bind ih fun _ => leaves_pure _
    | bad misfit => exact leaves_throw _
  | loop line count body next ihb ihn =>
    refine leaves_bind ihb fun block => ?_
    by_cases hl : repeatLimit < count
    · rw [if_pos hl]
      exact leaves_bind (leaves_throw _) fun _ => leaves_bind ihn fun _ => leaves_pure _
    · rw [if_neg hl]
      exact leaves_bind ihn fun _ => leaves_pure _

end Frames

namespace Store

/-- What a store knows of counts: those that it keeps, and the files that are being counted. -/
def countPart (store : Store) : List (Path × Option Nat) × List Path :=
  (store.counts, store.counting)

theorem leaves_between {γ α : Type} {g : Store → γ} {before after : Store → Store}
    {x : Reading α} (hb : ∀ s, g (before s) = g s) (ha : ∀ s, g (after s) = g s)
    (hx : Leaves g x) : Leaves g (between before after x) := by
  intro s
  have hleft := hx (before s)
  unfold between
  cases hr : x (before s) with
  | ok a s' =>
    rw [hr] at hleft
    exact (ha s').trans (hleft.trans (hb s))
  | error e s' =>
    rw [hr] at hleft
    exact (ha s').trans (hleft.trans (hb s))

theorem leaves_resolve {γ : Type} {g : Store → γ} (l : Location) :
    Leaves g (resolve disk l) := by
  unfold resolve
  split
  · exact leaves_pure _
  · exact leaves_throw _

end Store

namespace Script

theorem leaves_readData {source : Option Text} {format : Format} (line : Line) :
    Leaves Store.countPart (readData source format line) := by
  unfold readData
  split
  · exact leaves_pure _
  · exact leaves_throw _

section Lines

variable {source : Option Text} {base : Location} {parse : Path → Reading Script}

theorem leaves_readInclusion {kind : Option ScriptKind}
    (hp : ∀ q, Leaves Store.countPart (parse q)) (line : Line) (target : Text) :
    Leaves Store.countPart (readInclusion disk source base kind parse line target) := by
  unfold readInclusion
  split
  · exact leaves_throw _
  · split
    · exact leaves_throw _
    · exact leaves_bind (Store.leaves_resolve _) fun there =>
        leaves_bind (leaves_modify fun _ => rfl) fun _ =>
          leaves_bind (hp there) fun _ => leaves_pure _

theorem leaves_ofLines (hp : ∀ q, Leaves Store.countPart (parse q)) (lines : List Text) :
    Leaves Store.countPart (ofLines disk source base parse lines) := by
  unfold ofLines
  split
  · exact leaves_throw _
  · exact leaves_bind (Outline.leaves_frames leaves_readData (leaves_readInclusion hp) _)
      fun _ => leaves_pure _

end Lines

/-- **Reading a script leaves the counts alone.** -/
theorem leaves_parseAt : Leaves Store.countPart (parseAt disk chain p) := by
  induction hr : room disk.paths chain using Nat.strongRecOn generalizing chain p with
  | ind k ih =>
    rw [parseAt]
    refine leaves_get_bind fun s => ?_
    split
    · exact leaves_bind (leaves_modify fun _ => rfl) fun _ =>
        leaves_bind (leaves_modify fun _ => rfl) fun _ => leaves_pure _
    · by_cases hc : p ∈ chain
      · rw [dif_pos hc]
        exact leaves_throw _
      · rw [dif_neg hc]
        refine leaves_bind (leaves_modify fun _ => rfl) fun _ => leaves_bind ?_ fun script =>
          leaves_bind (leaves_modify fun _ => rfl) fun _ => leaves_pure _
        refine Store.leaves_between (fun _ => rfl) (fun _ => rfl)
          (leaves_bind (leaves_modify fun _ => rfl) fun _ => ?_)
        split
        · exact leaves_throw _
        · rename_i text hs
          have hroom := Disk.room_lt_of_source hc hs
          exact leaves_bind (leaves_ofLines (fun q => ih _ (hr ▸ hroom) rfl) _) fun _ =>
            leaves_bind (leaves_modify fun _ => rfl) fun _ => leaves_pure _

theorem leaves_parseFile (l : Location) (typed : Bool) :
    Leaves Store.countPart (parseFile disk l typed) := by
  refine leaves_bind (Store.leaves_resolve l) fun p => leaves_get_bind fun s =>
    leaves_bind leaves_parseAt fun script => ?_
  unfold demandKind
  split
  · exact leaves_throw _
  · exact leaves_pure _

end Script

end FrameScript
