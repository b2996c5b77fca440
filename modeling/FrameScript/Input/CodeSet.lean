import FrameScript.Text.Basic

/-!
# Sets of codes

The codes of keys and buttons that are held, pressed or released together. A set is the ascending
list of its members, so that two sets with the same members are equal (`CodeSet.ext`) and there is
one order in which to send them.
-/

namespace FrameScript

/-- A finite set of codes. -/
structure CodeSet where
  codes : List Int
  ascending : codes.Pairwise (· < ·)
  deriving DecidableEq

namespace CodeSet

instance : Membership Int CodeSet where
  mem s c := c ∈ s.codes

theorem mem_iff {s : CodeSet} {c : Int} : c ∈ s ↔ c ∈ s.codes := Iff.rfl

instance (c : Int) (s : CodeSet) : Decidable (c ∈ s) :=
  inferInstanceAs (Decidable (c ∈ s.codes))

/-- The empty set. -/
def empty : CodeSet := ⟨[], .nil⟩

theorem not_mem_empty (c : Int) : c ∉ empty := by
  simp [mem_iff, empty]

/-- The set has no member. -/
def isEmpty (s : CodeSet) : Bool := s.codes.isEmpty

/-- The ascending list with one more member. -/
def insertCode (c : Int) : List Int → List Int
  | [] => [c]
  | d :: rest =>
    if c < d then c :: d :: rest
    else if c = d then d :: rest
    else d :: insertCode c rest

theorem mem_insertCode {c d : Int} {l : List Int} : d ∈ insertCode c l ↔ d = c ∨ d ∈ l := by
  induction l with
  | nil => simp [insertCode]
  | cons e rest ih =>
    unfold insertCode
    split
    · simp
    · split
      · rename_i h
        subst h
        simp
      · simp only [List.mem_cons, ih]
        grind

theorem ascending_insertCode {c : Int} {l : List Int} (h : l.Pairwise (· < ·)) :
    (insertCode c l).Pairwise (· < ·) := by
  induction l with
  | nil => simp [insertCode]
  | cons e rest ih =>
    obtain ⟨he, hrest⟩ := List.pairwise_cons.1 h
    unfold insertCode
    split
    · rename_i hc
      refine List.pairwise_cons.2 ⟨fun d hd => ?_, h⟩
      rcases List.mem_cons.1 hd with rfl | hd
      · exact hc
      · exact Int.lt_trans hc (he d hd)
    · split
      · exact h
      · refine List.pairwise_cons.2 ⟨fun d hd => ?_, ih hrest⟩
        rcases mem_insertCode.1 hd with rfl | hd
        · omega
        · exact he d hd

/-- The set with one more member. -/
def insert (c : Int) (s : CodeSet) : CodeSet :=
  ⟨insertCode c s.codes, ascending_insertCode s.ascending⟩

theorem mem_insert {c d : Int} {s : CodeSet} : d ∈ s.insert c ↔ d = c ∨ d ∈ s :=
  mem_insertCode

/-- The set without a member. -/
def erase (c : Int) (s : CodeSet) : CodeSet :=
  ⟨s.codes.filter (· ≠ c), s.ascending.filter _⟩

theorem mem_erase {c d : Int} {s : CodeSet} : d ∈ s.erase c ↔ d ∈ s ∧ d ≠ c := by
  simp [mem_iff, erase]

/-- The set of the members of a list. -/
def ofList (l : List Int) : CodeSet :=
  l.foldl (fun s c => s.insert c) empty

/-- An ascending list is determined by its members. -/
theorem eq_of_ascending {l m : List Int} (hl : l.Pairwise (· < ·)) (hm : m.Pairwise (· < ·))
    (h : ∀ c, c ∈ l ↔ c ∈ m) : l = m := by
  induction l generalizing m with
  | nil =>
    cases m with
    | nil => rfl
    | cons d m => exact absurd ((h d).2 List.mem_cons_self) (by simp)
  | cons c l ih =>
    cases m with
    | nil => exact absurd ((h c).1 List.mem_cons_self) (by simp)
    | cons d m =>
      obtain ⟨hcl, hl'⟩ := List.pairwise_cons.1 hl
      obtain ⟨hdm, hm'⟩ := List.pairwise_cons.1 hm
      have hcd : c = d := by
        rcases List.mem_cons.1 ((h c).1 List.mem_cons_self) with e | hc
        · exact e
        · rcases List.mem_cons.1 ((h d).2 List.mem_cons_self) with e | hd
          · exact e.symm
          · have := hdm c hc
            have := hcl d hd
            omega
      subst hcd
      congr 1
      refine ih hl' hm' fun e => ⟨fun he => ?_, fun he => ?_⟩
      · rcases List.mem_cons.1 ((h e).1 (List.mem_cons_of_mem _ he)) with rfl | hem
        · have := hcl e he
          omega
        · exact hem
      · rcases List.mem_cons.1 ((h e).2 (List.mem_cons_of_mem _ he)) with rfl | hel
        · have := hdm e he
          omega
        · exact hel

/-- Sets with the same members are equal. -/
theorem ext {s t : CodeSet} (h : ∀ c, c ∈ s ↔ c ∈ t) : s = t := by
  obtain ⟨l, hl⟩ := s
  obtain ⟨m, hm⟩ := t
  obtain rfl := eq_of_ascending hl hm h
  rfl

end CodeSet

end FrameScript
