import FrameScript.Script.Parse
import Mathlib.Data.List.Chain

/-!
# Where a failure comes from

A reading that goes from file to file along the inclusions fails in one of them, and then in all
that are in progress. The trail of the failure are these files, from the first one down to the one
where it came up. Each of them is left at a `Snag`: a fault of the file itself, or an inclusion of a
file that is not stored by then, which fails in turn. Where the reading of a file fails, and what is
stored by then, is told by the reading that has come there.

## Results

* `Trail.isChain`: each file on a trail includes the next one.
* `Trail.Bare.file`: a file is left at its snag.
-/

namespace FrameScript

/-- What does not pass when a file is read: something in it is at fault, or it includes a file that
is not stored. -/
inductive Snag where
  | fault (failure : Failure)
  | file (p : Path)

/-- Where the reading of a location begins. -/
def Snag.ofLocation (disk : Disk) (l : Location) : Snag :=
  if l.isSound then .file (disk.canonical l) else .fault .badPath

/-- `meets above p s failure x u`: reading the file `p` from the store `s`, while those of `above`
are in progress, comes to the snag `x` with the store `u`, and fails there with `failure`. -/
abbrev Meeting := List Path → Path → Store → Failure → Snag → Store → Prop

/-- `Trail meets above p s trail failure`: reading the file `p` from the store `s`, while those of
`above` are in progress, fails with `failure`, which comes up in the last file of `trail`. A file in
progress is refused by the one that includes it, and is not on the trail again. -/
inductive Trail (meets : Meeting) : List Path → Path → Store → List Path → Failure → Prop
  | refused {above : List Path} {p : Path} {s : Store} (hp : p ∈ above) :
      Trail meets above p s [] (Script.cycleFailure above p)
  | fault {above : List Path} {p : Path} {s u : Store} {failure : Failure} (hp : p ∉ above)
      (h : meets above p s failure (.fault failure) u) : Trail meets above p s [p] failure
  | within {above trail : List Path} {p q : Path} {s u : Store} {failure : Failure} (hp : p ∉ above)
      (h : meets above p s failure (.file q) u) (ht : Trail meets (p :: above) q u trail failure) :
      Trail meets above p s (p :: trail) failure

namespace Trail

variable {meets : Meeting} {above trail : List Path} {p : Path} {s u : Store} {failure : Failure}
  {x : Snag} {stored : Path → Bool}

/-- **Each file on a trail includes the next one.** -/
theorem isChain {includes : Path → Path → Prop}
    (hm : ∀ above p s failure q u, meets above p s failure (.file q) u → includes p q)
    (h : Trail meets above p s trail failure) : trail.IsChain includes := by
  induction h with
  | refused _ => exact .nil
  | fault _ _ => exact .singleton _
  | within _ h ht ih =>
    cases ht with
    | refused _ => exact .singleton _
    | fault _ _ | within _ _ _ => exact .cons_cons (hm _ _ _ _ _ _ h) ih

/-- The failure of a reading that has come to a snag with the store `s`, while the files of `above`
are in progress: it is the fault there, or it comes from the file there. -/
def From (meets : Meeting) (above : List Path) (s : Store) (trail : List Path)
    (failure : Failure) : Snag → Prop
  | .fault cause => cause = failure ∧ trail = []
  | .file p => Trail meets above p s trail failure

theorem From.isChain {includes : Path → Path → Prop}
    (hm : ∀ above p s failure q u, meets above p s failure (.file q) u → includes p q)
    (h : From meets above s trail failure x) : trail.IsChain includes := by
  cases x with
  | fault cause =>
    obtain ⟨-, rfl⟩ := h
    exact .nil
  | file p => exact Trail.isChain hm h

/-- A reading fails that has come to a snag, and nothing is stored in the end for any file on the
trail. -/
def Bare (meets : Meeting) (stored : Path → Bool) (above : List Path) (x : Snag) (s : Store)
    (failure : Failure) : Prop :=
  ∃ trail, From meets above s trail failure x ∧ ∀ k ∈ trail, stored k = false

theorem Bare.fault : Bare meets stored above (.fault failure) s failure :=
  ⟨[], ⟨rfl, rfl⟩, fun _ hk => absurd hk List.not_mem_nil⟩

/-- A file in progress is refused. -/
theorem Bare.refused (hp : p ∈ above) :
    Bare meets stored above (.file p) s (Script.cycleFailure above p) :=
  ⟨[], Trail.refused hp, fun _ hk => absurd hk List.not_mem_nil⟩

/-- **A file is left at its snag.** -/
theorem Bare.file (hp : p ∉ above) (hfree : stored p = false) (hm : meets above p s failure x u)
    (h : Bare meets stored (p :: above) x u failure) :
    Bare meets stored above (.file p) s failure := by
  obtain ⟨trail, hfrom, hall⟩ := h
  refine ⟨p :: trail, ?_, List.forall_mem_cons.mpr ⟨hfree, hall⟩⟩
  cases x with
  | fault cause =>
    obtain ⟨rfl, rfl⟩ := hfrom
    exact Trail.fault hp hm
  | file q => exact Trail.within hp hm hfrom

end Trail

end FrameScript
