import FrameScript.Proofs.Inclusion
import FrameScript.Script.Store

/-!
# How a store grows

Between two calls that clear it a store only grows: scripts and counts are put in front of those
that are there, each under a path that had nothing before, and never under the path of a file that
is in progress. `Grown` says this of one of the lists, and of every entry what was `good` about it
when it was put there. Reading adds scripts (`Store.Files`) and counting adds counts
(`Store.Numbers`); neither touches what the other has stored.

## Results

* `Grown.lookup_eq`, `Grown.lookup_busy`: **what is stored stays, and nothing is stored for a file
  in progress.**
* `Grown.nodup`: no path is stored twice.
* `Grown.origin`: an entry was there before, or it was good when it was put in front of the others.
-/

namespace FrameScript

variable {β : Type}

/-- The list `new` has come from `old` by putting entries in front, each with a path that is not
`busy` and that was not there, and each `good` on top of what was there. -/
inductive Grown (good : Path → β → List (Path × β) → Prop) (busy : List Path)
    (old : List (Path × β)) : List (Path × β) → Prop
  | refl : Grown good busy old old
  | cons {new : List (Path × β)} {p : Path} {b : β} (h : Grown good busy old new) (hb : p ∉ busy)
      (hn : new.lookup p = none) (hg : good p b new) : Grown good busy old ((p, b) :: new)

namespace Grown

variable {good : Path → β → List (Path × β) → Prop} {busy : List Path}
  {old new later : List (Path × β)} {p : Path} {b : β}

theorem trans (h : Grown good busy old new) (h' : Grown good busy new later) :
    Grown good busy old later := by
  induction h' with
  | refl => exact h
  | cons _ hb hn hg ih => exact ih.cons hb hn hg

/-- With fewer files in progress there is less to be observed. -/
theorem mono {fewer : List Path} (h : Grown good busy old new) (hs : fewer ⊆ busy) :
    Grown good fewer old new := by
  induction h with
  | refl => exact .refl
  | cons _ hb hn hg ih => exact ih.cons (fun hm => hb (hs hm)) hn hg

theorem lookup_cons_of_ne {q : Path} (h : q ≠ p) : ((p, b) :: new).lookup q = new.lookup q := by
  rw [List.lookup_cons, beq_false_of_ne h]

theorem lookup_cons_self : ((p, b) :: new).lookup p = some b := by
  rw [List.lookup_cons, beq_self_eq_true]

/-- **What is stored stays as it is.** -/
theorem lookup_eq (h : Grown good busy old new) (hp : old.lookup p = some b) :
    new.lookup p = some b := by
  induction h with
  | refl => exact hp
  | @cons _ q _ _ _ hn _ ih =>
    have hne : p ≠ q := fun he => by
      rw [he] at ih
      rw [ih] at hn
      cases hn
    rw [lookup_cons_of_ne hne]
    exact ih

/-- What is not there in the end has never been there. -/
theorem lookup_none (h : Grown good busy old new) (hn : new.lookup p = none) :
    old.lookup p = none := by
  cases ho : old.lookup p with
  | none => rfl
  | some b =>
    rw [h.lookup_eq ho] at hn
    cases hn

/-- **Nothing is stored for a file in progress.** -/
theorem lookup_busy (h : Grown good busy old new) (hp : p ∈ busy) :
    new.lookup p = old.lookup p := by
  induction h with
  | refl => rfl
  | @cons _ q _ _ hb _ _ ih =>
    have hne : p ≠ q := fun he => hb (he ▸ hp)
    rw [lookup_cons_of_ne hne, ih]

theorem suffix (h : Grown good busy old new) : old <:+ new := by
  induction h with
  | refl => exact List.suffix_rfl
  | cons _ _ _ _ ih => exact ih.trans (List.suffix_cons _ _)

/-- No path is stored twice. -/
theorem nodup (h : Grown good busy old new) (ho : (old.map Prod.fst).Nodup) :
    (new.map Prod.fst).Nodup := by
  induction h with
  | refl => exact ho
  | @cons new p b _ _ hn _ ih =>
    refine List.nodup_cons.mpr ⟨fun hm => ?_, ih⟩
    obtain ⟨⟨q, c⟩, hq, rfl⟩ := List.mem_map.mp hm
    have hne := List.lookup_eq_none_iff.mp hn (q, c) hq
    simp at hne

/-- **An entry was there before, or it was good when it was put in front** of all that was there
before. -/
theorem origin (h : Grown good busy old new) {newer older : List (Path × β)}
    (he : new = newer ++ (p, b) :: older) :
    (∃ between, old = between ++ (p, b) :: older) ∨ old <:+ older ∧ good p b older := by
  induction h generalizing newer with
  | refl => exact Or.inl ⟨newer, he⟩
  | cons h _ _ hg ih =>
    cases newer with
    | nil =>
      obtain ⟨hentry, rfl⟩ := List.cons_eq_cons.mp he
      obtain ⟨rfl, rfl⟩ := Prod.mk.inj hentry
      exact Or.inr ⟨h.suffix, hg⟩
    | cons first newer => exact ih (List.cons_eq_cons.mp he).2

end Grown

/-! ## Stores -/

/-- The path is that of a location that can be looked up. -/
def Disk.IsCanonical (disk : Disk) (p : Path) : Prop :=
  ∃ l : Location, l.isSound = true ∧ p = disk.canonical l

/-- Where a line leads that includes a script is canonical. -/
theorem HeaderLines.isCanonical_of_aim {found : HeaderLines} {disk : Disk} {base : Location}
    {target : Text} {q : Path} (h : found.aim disk base target = .file q) : disk.IsCanonical q := by
  unfold aim at h
  split at h
  · cases h
  · split at h
    · rename_i hs
      exact ⟨_, hs, (Aim.file.inj h).symm⟩
    · cases h

/-- What is good about a script that is put in front of others: it says under which path it is
stored, this path is canonical, its header is that of the file, and every file that the file
includes is stored already. -/
structure Script.IsFiled (disk : Disk) (p : Path) (script : Script)
    (older : List (Path × Script)) : Prop where
  source : script.source = some p.text
  canonical : disk.IsCanonical p
  header : ∃ text, disk.source p = .ok text ∧
    Header.read (some p.text) (Text.lines text) = .ok script.header
  included : ∀ q, Includes disk p q → (older.lookup q).isSome = true

namespace Store

/-- The scripts of a store change as `R` says and its counts as `Q` says; which files are in
progress does not change. -/
structure Changes (R : List (Path × Script) → List (Path × Script) → Prop)
    (Q : List (Path × Option Nat) → List (Path × Option Nat) → Prop) (s s' : Store) : Prop where
  scripts : R s.scripts s'.scripts
  counts : Q s.counts s'.counts
  parsing : s'.parsing = s.parsing
  counting : s'.counting = s.counting

/-- Scripts are stored, while the files of `busy` are being read. -/
abbrev Files (disk : Disk) (busy : List Path) : Store → Store → Prop :=
  Changes (Grown (Script.IsFiled disk) busy) Eq

/-- Counts are stored, while the files of `busy` are being counted. -/
abbrev Numbers (disk : Disk) (busy : List Path) : Store → Store → Prop :=
  Changes Eq (Grown (fun p _ _ => disk.IsCanonical p) busy)

section Changes

variable {disk : Disk} {busy : List Path} {s t u : Store}

theorem Files.refl : Files disk busy s s :=
  ⟨.refl, rfl, rfl, rfl⟩

theorem Files.trans (h : Files disk busy s t) (h' : Files disk busy t u) : Files disk busy s u :=
  ⟨h.scripts.trans h'.scripts, h.counts.trans h'.counts, h'.parsing.trans h.parsing,
    h'.counting.trans h.counting⟩

theorem Numbers.refl : Numbers disk busy s s :=
  ⟨rfl, .refl, rfl, rfl⟩

theorem Numbers.trans (h : Numbers disk busy s t) (h' : Numbers disk busy t u) :
    Numbers disk busy s u :=
  ⟨h.scripts.trans h'.scripts, h.counts.trans h'.counts, h'.parsing.trans h.parsing,
    h'.counting.trans h.counting⟩

end Changes

end Store

end FrameScript
