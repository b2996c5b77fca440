import FrameScript.Proofs.Inclusion
import FrameScript.Proofs.Outline.Counting
import Mathlib.Logic.Relation

/-!
# Counting without a store

`plainAt` counts a file and, each time anew, the files that it includes; a file in progress has no
count. Its result could depend on which files are in progress. It does not, as long as these really
lead to the file that is counted: then a file that is met in progress would, if it were counted
anew, lead back to where the counting started, and find no count there.

The argument needs that files are counted in order and that a missing count ends the counting at
once. A file *leads* to another if counting it comes to ask for the other, that is, if everything
before that line has a number; a file that leads to one in progress has no count.

## Results

* `plainAt_number_of_subset`: a number does not depend on the files in progress.
* `plainAt_number_or_none`: with more files in progress a number may get lost, but is never
  replaced by another one or by a failure.
* `plainAt_eq_none_of_leads`: a file that leads to one in progress has no count.
* `plainAt_eq_of_leads`: **the count does not depend on the files in progress**, if all of them lead
  to the file.
-/

namespace FrameScript.Count

open Outline

variable {disk : Disk} {base : Location} {f g : Path → Except Failure (Option Nat)}
  {lines : List Text} {p q : Path} {chain chain' : List Path}

/-- The count of what a line includes. -/
def plainTarget (disk : Disk) (base : Location) (found : HeaderLines)
    (included : Path → Except Failure (Option Nat)) (target : Text) :
    Except Failure (Option Nat) :=
  match found.aim disk base target with
  | .nowhere => .ok none
  | .astray => .error .badPath
  | .file p => included p

/-- The count of the lines of a script; `included` tells the counts of files. -/
def plainLines (disk : Disk) (base : Location) (included : Path → Except Failure (Option Nat))
    (lines : List Text) : Except Failure (Option Nat) :=
  let found := HeaderLines.find lines
  if found.isUsable then
    (Outline.ofLines found.bodyStart lines).counted (plainTarget disk base found included)
  else .ok none

/-- A file in progress has no count, and another one that of its lines. -/
def descent (disk : Disk) : Descent (Option Nat) where
  closed _ _ := .ok none
  opened p included := plainLines disk p.parent.location included

/-- The count of the file at a canonical path, while the files of `chain` are in progress. -/
def plainAt (disk : Disk) (chain : List Path) (p : Path) : Except Failure (Option Nat) :=
  (descent disk).run disk chain p

/-- Counting the lines comes to ask for the file `q`. -/
def AsksFor (disk : Disk) (base : Location) (included : Path → Except Failure (Option Nat))
    (lines : List Text) (q : Path) : Prop :=
  let found := HeaderLines.find lines
  found.isUsable = true ∧ ∃ target,
    (Outline.ofLines found.bodyStart lines).Asks (plainTarget disk base found included) target ∧
      found.aim disk base target = .file q

/-! ## Counting lines -/

theorem plainTarget_of_file {found : HeaderLines} {target : Text}
    (h : found.aim disk base target = .file q) :
    plainTarget disk base found f target = f q := by
  rw [plainTarget, h]

theorem aim_of_number {found : HeaderLines} {target : Text} {n : Nat}
    (h : plainTarget disk base found f target = .ok (some n)) :
    ∃ q, found.aim disk base target = .file q ∧ f q = .ok (some n) := by
  unfold plainTarget at h
  split at h
  · cases h
  · cases h
  · rename_i q ha
    exact ⟨q, ha, h⟩

theorem plainTarget_eq_of_ne_file {found : HeaderLines} {target : Text}
    (h : ∀ q, found.aim disk base target ≠ .file q) :
    plainTarget disk base found g target = plainTarget disk base found f target := by
  unfold plainTarget
  cases ha : found.aim disk base target with
  | nowhere => rfl
  | astray => rfl
  | file q => exact absurd ha (h q)

theorem plainLines_congr (h : ∀ q, AsksFor disk base f lines q → g q = f q) :
    plainLines disk base g lines = plainLines disk base f lines := by
  unfold plainLines
  by_cases hu : (HeaderLines.find lines).isUsable = true
  · rw [if_pos hu, if_pos hu]
    refine counted_congr fun target ht => ?_
    by_cases ha : ∃ q, (HeaderLines.find lines).aim disk base target = .file q
    · obtain ⟨q, ha⟩ := ha
      rw [plainTarget_of_file ha, plainTarget_of_file ha]
      exact h q ⟨hu, target, ht, ha⟩
    · exact plainTarget_eq_of_ne_file fun q hq => ha ⟨q, hq⟩
  · rw [if_neg hu, if_neg hu]

theorem number_of_asksFor {n : Nat} (h : plainLines disk base f lines = .ok (some n))
    (hq : AsksFor disk base f lines q) : ∃ k, f q = .ok (some k) := by
  obtain ⟨hu, target, ht, ha⟩ := hq
  unfold plainLines at h
  rw [if_pos hu] at h
  obtain ⟨k, hk⟩ := number_of_asks h ht
  rw [plainTarget_of_file ha] at hk
  exact ⟨k, hk⟩

theorem asksFor_of_numbers
    (h : ∀ r n, AsksFor disk base f lines r → f r = .ok (some n) → g r = .ok (some n))
    (hq : AsksFor disk base f lines q) : AsksFor disk base g lines q := by
  obtain ⟨hu, target, ht, ha⟩ := hq
  refine ⟨hu, target, asks_of_numbers (fun t n hat hn => ?_) ht, ha⟩
  by_cases haim : ∃ r, (HeaderLines.find lines).aim disk base t = .file r
  · obtain ⟨r, hr⟩ := haim
    rw [plainTarget_of_file hr] at hn ⊢
    exact h r n ⟨hu, t, hat, hr⟩ hn
  · rw [plainTarget_eq_of_ne_file fun r hr => haim ⟨r, hr⟩]
    exact hn

theorem plainLines_eq_none
    (h : ∀ r n, AsksFor disk base f lines r → f r = .ok (some n) →
      g r = .ok (some n) ∨ g r = .ok none)
    (hq : AsksFor disk base f lines q) (hn : g q = .ok none) :
    plainLines disk base g lines = .ok none := by
  obtain ⟨hu, target, ht, ha⟩ := hq
  unfold plainLines
  rw [if_pos hu]
  refine counted_eq_none (fun t n hat hk => ?_) ht (by rw [plainTarget_of_file ha, hn])
  by_cases haim : ∃ r, (HeaderLines.find lines).aim disk base t = .file r
  · obtain ⟨r, hr⟩ := haim
    rw [plainTarget_of_file hr] at hk ⊢
    exact h r n ⟨hu, t, hat, hr⟩ hk
  · rw [plainTarget_eq_of_ne_file fun r hr => haim ⟨r, hr⟩]
    exact Or.inl hk

/-! ## Counting files -/

theorem plainAt_of_mem (h : p ∈ chain) : plainAt disk chain p = .ok none :=
  Descent.run_of_mem h

theorem plainAt_of_error {fault : ReadFault} (h : p ∉ chain) (hs : disk.source p = .error fault) :
    plainAt disk chain p = .error (.unreadable p.text p.text fault) :=
  Descent.run_of_error h hs

theorem plainAt_of_ok {text : Text} (h : p ∉ chain) (hs : disk.source p = .ok text) :
    plainAt disk chain p =
      plainLines disk p.parent.location (plainAt disk (p :: chain)) (Text.lines text) :=
  Descent.run_of_ok h hs

/-- A file that has a number is not in progress, and its text is found. -/
theorem source_of_number {n : Nat} (h : plainAt disk chain p = .ok (some n)) :
    p ∉ chain ∧ ∃ text, disk.source p = .ok text := by
  by_cases hc : p ∈ chain
  · rw [plainAt_of_mem hc] at h
    cases h
  · cases hs : disk.source p with
    | ok text => exact ⟨hc, text, rfl⟩
    | error fault =>
      rw [plainAt_of_error hc hs] at h
      cases h

/-- **A number does not depend on the files in progress**: it is the same with fewer of them. -/
theorem plainAt_number_of_subset {n : Nat} (hsub : chain' ⊆ chain)
    (h : plainAt disk chain p = .ok (some n)) : plainAt disk chain' p = .ok (some n) := by
  induction hr : room disk.paths chain using Nat.strongRecOn generalizing chain chain' p n with
  | ind k ih =>
    obtain ⟨hc, text, hs⟩ := source_of_number h
    have hc' : p ∉ chain' := fun hp => hc (hsub hp)
    rw [plainAt_of_ok hc hs] at h
    rw [plainAt_of_ok hc' hs, ← h]
    refine plainLines_congr fun q hq => ?_
    obtain ⟨m, hm⟩ := number_of_asksFor h hq
    rw [hm]
    exact ih _ (hr ▸ Disk.room_lt_of_source hc hs) (List.cons_subset_cons p hsub) hm rfl

/-- **With more files in progress a number may only get lost.** -/
theorem plainAt_number_or_none {n : Nat} (hsub : chain ⊆ chain')
    (h : plainAt disk chain p = .ok (some n)) :
    plainAt disk chain' p = .ok (some n) ∨ plainAt disk chain' p = .ok none := by
  induction hr : room disk.paths chain using Nat.strongRecOn generalizing chain chain' p n with
  | ind k ih =>
    obtain ⟨hc, text, hs⟩ := source_of_number h
    by_cases hc' : p ∈ chain'
    · exact Or.inr (plainAt_of_mem hc')
    · rw [plainAt_of_ok hc hs] at h
      rw [plainAt_of_ok hc' hs]
      have hasked : ∀ q m, AsksFor disk p.parent.location (plainAt disk (p :: chain))
          (Text.lines text) q → plainAt disk (p :: chain) q = .ok (some m) →
          plainAt disk (p :: chain') q = .ok (some m) ∨ plainAt disk (p :: chain') q = .ok none :=
        fun q m _ hm =>
          ih _ (hr ▸ Disk.room_lt_of_source hc hs) (List.cons_subset_cons p hsub) hm rfl
      by_cases hlost : ∃ q, AsksFor disk p.parent.location (plainAt disk (p :: chain))
          (Text.lines text) q ∧ plainAt disk (p :: chain') q = .ok none
      · obtain ⟨q, hq, hn⟩ := hlost
        exact Or.inr (plainLines_eq_none hasked hq hn)
      · refine Or.inl (h ▸ plainLines_congr fun q hq => ?_)
        obtain ⟨m, hm⟩ := number_of_asksFor h hq
        rcases hasked q m hq hm with hk | hk
        · rw [hk, hm]
        · exact absurd ⟨q, hq, hk⟩ hlost

/-! ## Files that lead to others -/

/-- Counting the file `p` comes to ask for the file `q`. -/
def Leads (disk : Disk) (p q : Path) : Prop :=
  ∃ text, disk.source p = .ok text ∧
    AsksFor disk p.parent.location (plainAt disk []) (Text.lines text) q

/-- What is asked for while files are in progress is asked for anyway. -/
theorem leads_of_asksFor {text : Text} (hs : disk.source p = .ok text)
    (h : AsksFor disk p.parent.location (plainAt disk chain) (Text.lines text) q) :
    Leads disk p q :=
  ⟨text, hs, asksFor_of_numbers
    (fun _ _ _ hn => plainAt_number_of_subset (List.nil_subset chain) hn) h⟩

/-- **A file that leads to one in progress has no count**, and neither has one that leads back to
itself. -/
theorem plainAt_eq_none_of_leads (h : Relation.TransGen (Leads disk) p q) (hq : q ∈ p :: chain) :
    plainAt disk chain p = .ok none := by
  induction h using Relation.TransGen.head_induction_on generalizing chain with
  | @single p hl =>
    obtain ⟨text, hs, ha⟩ := hl
    by_cases hc : p ∈ chain
    · exact plainAt_of_mem hc
    · rw [plainAt_of_ok hc hs]
      exact plainLines_eq_none
        (fun _ _ _ hn => plainAt_number_or_none (List.nil_subset _) hn) ha (plainAt_of_mem hq)
  | @head p r hl _ ih =>
    obtain ⟨text, hs, ha⟩ := hl
    by_cases hc : p ∈ chain
    · exact plainAt_of_mem hc
    · rw [plainAt_of_ok hc hs]
      exact plainLines_eq_none
        (fun _ _ _ hn => plainAt_number_or_none (List.nil_subset _) hn) ha
        (ih (List.mem_cons_of_mem _ hq))

/-- **The count of a file does not depend on the files in progress**, if all of them lead to it. -/
theorem plainAt_eq_of_leads (h : ∀ c ∈ chain, Relation.TransGen (Leads disk) c p)
    (hsub : chain' ⊆ chain) : plainAt disk chain p = plainAt disk chain' p := by
  induction hr : room disk.paths chain' using Nat.strongRecOn generalizing chain chain' p with
  | ind k ih =>
    by_cases hc' : p ∈ chain'
    · rw [plainAt_of_mem hc', plainAt_of_mem (hsub hc')]
    · by_cases hc : p ∈ chain
      · rw [plainAt_of_mem hc, plainAt_eq_none_of_leads (h p hc) List.mem_cons_self]
      · cases hs : disk.source p with
        | error fault => rw [plainAt_of_error hc hs, plainAt_of_error hc' hs]
        | ok text =>
          rw [plainAt_of_ok hc hs, plainAt_of_ok hc' hs]
          refine plainLines_congr fun q hq => ?_
          have hl : Leads disk p q := leads_of_asksFor hs hq
          refine ih _ (hr ▸ Disk.room_lt_of_source hc' hs) (fun c hmem => ?_)
            (List.cons_subset_cons p hsub) rfl
          rcases List.mem_cons.mp hmem with rfl | hmem
          · exact Relation.TransGen.single hl
          · exact Relation.TransGen.tail (h c hmem) hl

end FrameScript.Count
