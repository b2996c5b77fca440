import FrameScript.Proofs.Count.Plain
import FrameScript.Proofs.Outline.Marking
import FrameScript.Script.Gutter

/-!
# Counting with a store

A store may hold the counts of files that have been counted, also of such as were counted while
others were in progress. `Sound` says that each of them is the count that the file has on its own;
counting keeps that, and therefore answers as if the store were empty.

## Results

* `gives_countAt`: counting a file with a sound store gives what counting without a store gives.
* `answers_eq_fresh`: **whatever calls share a store, each is answered as on an empty one**, and
  every count that is stored is the one that an empty store gives.
-/

namespace FrameScript.Count

open Outline Reading

variable {disk : Disk} {opened chain : List Path} {p : Path}

/-- The files in progress are those of `opened`, and every count in the store is the count that
the file has on its own. -/
structure Sound (disk : Disk) (opened : List Path) (store : Store) : Prop where
  counting : store.counting = opened
  counts : ∀ p count, store.counts.lookup p = some count → plainAt disk [] p = .ok count

theorem blind_sound (disk : Disk) (opened : List Path) : Blind (Sound disk opened) :=
  fun _ _ _ hc _ hg hs => ⟨hg.trans hs.counting, fun p count hp => hs.counts p count (hc ▸ hp)⟩

theorem sound_empty (disk : Disk) : Sound disk [] Store.empty :=
  ⟨rfl, fun _ _ hp => by cases hp⟩

/-- Storing the count that a file has on its own. -/
theorem gives_keepCount {count : Option Nat} (hp : plainAt disk [] p = .ok count) :
    Gives (Sound disk opened) (Store.keepCount p count) (.ok ()) (Sound disk opened) := by
  refine gives_modify fun s h => ⟨h.counting, fun q n hq => ?_⟩
  rw [List.lookup_cons] at hq
  split at hq
  · rename_i he
    rw [eq_of_beq he, hp, Option.some.inj hq]
  · exact h.counts q n hq

theorem gives_whileCounting {x : Reading (Option Nat)} {e : Except Failure (Option Nat)}
    (h : Gives (Sound disk (p :: opened)) x e (Sound disk (p :: opened))) :
    Gives (Sound disk opened) (Store.whileCounting p x) e (Sound disk opened) := by
  refine gives_between (fun s hs => ?_) h fun s hs => ?_
  · exact ⟨congrArg (p :: ·) hs.counting, hs.counts⟩
  · exact ⟨congrArg List.tail hs.counting, hs.counts⟩

/-! ## One call -/

/-- The count of what a line includes; `read` counts the file at a canonical path. -/
def ask (disk : Disk) (base : Location) (found : HeaderLines) (read : Path → Reading (Option Nat))
    (target : Text) : Reading (Option Nat) :=
  match found.aim disk base target with
  | .nowhere => pure none
  | .astray => throw .badPath
  | .file q => read q

/-- **What becomes of a line that includes a script, by where it leads.** -/
theorem ask_eq {base : Location} {read : Path → Reading (Option Nat)} {found : HeaderLines}
    (target : Text) :
    (if found.isFragment || target.isEmpty then pure none
      else Store.resolve disk (base.under (Location.read target)) >>= read) =
      ask disk base found read target := by
  unfold ask
  by_cases hn : (found.isFragment || target.isEmpty) = true
  · rw [if_pos hn, HeaderLines.aim_of_closed hn]
  · rw [if_neg hn]
    cases hs : (base.under (Location.read target)).isSound with
    | false =>
      rw [HeaderLines.aim_of_not_sound hn hs, Store.resolve, if_neg (Bool.eq_false_iff.mp hs)]
      rfl
    | true =>
      rw [HeaderLines.aim_of_sound hn hs, Store.resolve, if_pos hs, pure_bind]

/-- Counting what a line includes gives what the plain count gives, if the file it leads to is
counted so. -/
theorem gives_ask {P : Store → Prop} {base : Location} {k : Path → Reading (Option Nat)}
    {f : Path → Except Failure (Option Nat)} {found : HeaderLines} {target : Text}
    (h : ∀ q, found.aim disk base target = .file q → Gives P (k q) (f q) P) :
    Gives P (ask disk base found k target) (plainTarget disk base found f target) P := by
  unfold ask plainTarget
  cases ha : found.aim disk base target with
  | nowhere => exact gives_pure none
  | astray => exact gives_throw _
  | file q => exact h q ha

/-- Counting lines gives what the plain count gives, if the files that are asked for are counted
so. -/
theorem gives_ofLines {P : Store → Prop} {base : Location} {k : Path → Reading (Option Nat)}
    {f : Path → Except Failure (Option Nat)} {lines : List Text}
    (h : ∀ q, AsksFor disk base f lines q → Gives P (k q) (f q) P) :
    Gives P (ofLines base (fun l => Store.resolve disk l >>= k) lines)
      (plainLines disk base f lines) P := by
  unfold ofLines plainLines
  by_cases hu : (HeaderLines.find lines).isUsable = true
  · simp only [if_pos hu, ask_eq]
    exact gives_count? fun target ht => gives_ask fun q ha => h q ⟨hu, target, ht, ha⟩
  · simp only [if_neg hu]
    exact gives_pure none

/-- **Counting a file with a sound store gives what counting without a store gives.** -/
theorem gives_countAt (h : ∀ c ∈ chain, Relation.TransGen (Leads disk) c p) :
    Gives (Sound disk opened) (countAt disk chain p) (plainAt disk chain p)
      (Sound disk opened) := by
  induction hr : room disk.paths chain using Nat.strongRecOn generalizing chain opened p with
  | ind k ih =>
    have halone : plainAt disk chain p = plainAt disk [] p :=
      plainAt_eq_of_leads h (List.nil_subset chain)
    rw [countAt]
    refine gives_get_bind fun s hs => ?_
    cases hl : s.counts.lookup p with
    | some count =>
      rw [halone, hs.counts p count hl]
      exact gives_bind_ok (gives_tallyUp (blind_sound disk _) _) (gives_pure count)
    | none =>
      by_cases hc : p ∈ chain
      · simp only [dif_pos hc]
        rw [plainAt_of_mem hc]
        exact gives_bind_ok (gives_tell (blind_sound disk _) _ _ _) (gives_pure none)
      · simp only [dif_neg hc]
        refine gives_bind_ok (gives_tallyUp (blind_sound disk _) _) (gives_tap (gives_whileCounting
          (gives_bind_ok (gives_noteOpened (blind_sound disk _) p) ?_)) fun count hk =>
            gives_bind_ok (gives_keepCount (halone ▸ hk)) (gives_pure count))
        split
        · rename_i fault hs
          rw [plainAt_of_error hc hs]
          exact gives_throw _
        · rename_i text hs
          rw [plainAt_of_ok hc hs]
          refine gives_tap (gives_ofLines fun q hq => ?_) fun count _ =>
            gives_bind_ok (gives_tell (blind_sound disk _) _ _ _) (gives_pure count)
          -- The files in progress lead to `p`, and `p` leads to whatever it asks for.
          have hl : Leads disk p q := leads_of_asksFor hs hq
          refine ih _ (hr ▸ Disk.room_lt_of_source hc hs) (fun c hmem => ?_) rfl
          rcases List.mem_cons.mp hmem with rfl | hmem
          · exact Relation.TransGen.single hl
          · exact Relation.TransGen.tail (h c hmem) hl

/-! ## Calls from outside -/

/-- The count of the file at a location. -/
def plainFile (disk : Disk) (l : Location) : Except Failure (Option Nat) :=
  if l.isSound then plainAt disk [] (disk.canonical l) else .error .badPath

theorem gives_countFile (l : Location) :
    Gives (Sound disk []) (countFile disk l) (plainFile disk l) (Sound disk []) := by
  unfold countFile plainFile
  cases hs : l.isSound with
  | false => exact gives_resolve_bind_of_not_sound hs
  | true =>
    refine gives_resolve_bind hs (gives_get_bind fun s h => ?_)
    rw [h.counting]
    exact gives_countAt fun c hc => absurd hc List.not_mem_nil

theorem gives_countText (text : Text) (base : Option Text) :
    Gives (Sound disk []) (countText disk text base)
      (plainLines disk (baseOf disk base) (plainAt disk []) (Text.lines text))
      (Sound disk []) := by
  refine gives_ofLines fun q _ => gives_get_bind fun s h => ?_
  rw [h.counting]
  exact gives_countAt fun c hc => absurd hc List.not_mem_nil

/-- A count that is missing where the file cannot be read. -/
def readable : Except Failure (Option Nat) → Except Failure (Option Nat)
  | .error (.unreadable _ _ _) => .ok none
  | outcome => outcome

theorem gives_countIncluded (l : Location) :
    Gives (Sound disk []) (Gutter.countIncluded disk l) (readable (plainFile disk l))
      (Sound disk []) := by
  intro s hs
  obtain ⟨ho, hl⟩ := gives_countFile l s hs
  rw [← ho]
  unfold Gutter.countIncluded
  cases hr : countFile disk l s with
  | ok count s' =>
    rw [hr] at hl
    exact ⟨rfl, hl⟩
  | error failure s' =>
    rw [hr] at hl
    cases failure with
    | unreadable path opened fault =>
      exact gives_bind_ok (gives_tell (blind_sound disk []) _ _ _) (gives_pure none) s' hl
    | _ => exact ⟨rfl, hl⟩

/-- The count that the gutter shows for what a line includes. -/
def plainShown (disk : Disk) (base : Location) (found : HeaderLines) (target : Text) :
    Except Failure (Option Nat) :=
  if found.isFragment || target.isEmpty then .ok none
  else readable (plainFile disk (base.under (Location.read target)))

/-- The marks of the lines of a script. -/
def plainMarks (disk : Disk) (base : Location) (lines : List Text) : Except Failure (List Mark) :=
  let found := HeaderLines.find lines
  if found.isUsable then
    ((Outline.ofLines found.bodyStart lines).marked (plainShown disk base found) 0).map
      fun marked => Gutter.uniform .header 1 found.bodyStart ++ marked.1
  else .ok (Gutter.uniform .error 1 lines.length)

theorem gives_annotate (text : Text) (base : Option Text) :
    Gives (Sound disk []) (Gutter.annotate disk text base)
      (plainMarks disk (baseOf disk base) (Text.lines text)) (Sound disk []) := by
  unfold Gutter.annotate Gutter.ofLines plainMarks
  by_cases hu : (HeaderLines.find (Text.lines text)).isUsable = true
  · simp only [if_pos hu]
    refine gives_map _ (gives_marks 0 fun target => ?_)
    unfold plainShown
    by_cases hn : ((HeaderLines.find (Text.lines text)).isFragment || target.isEmpty) = true
    · rw [if_pos hn, if_pos hn]
      exact gives_pure none
    · rw [if_neg hn, if_neg hn]
      exact gives_countIncluded _
  · simp only [if_neg hu]
    exact gives_pure _

/-! ## Sequences of calls -/

/-- What can be asked of those who share a store: the count of a file or of a text, the marks of
a text, and to forget everything. -/
inductive Call where
  | file (l : Location)
  | text (text : Text) (base : Option Text)
  | annotate (text : Text) (base : Option Text)
  | clear

/-- What a call is answered. -/
inductive Answer where
  | count (count : Option Nat)
  | marks (marks : List Mark)
  | cleared
  deriving DecidableEq

/-- Answers a call. -/
def Call.answer (disk : Disk) : Call → Reading Answer
  | .file l => do
    let count ← countFile disk l
    pure (.count count)
  | .text s base => do
    let count ← countText disk s base
    pure (.count count)
  | .annotate s base => do
    let marks ← Gutter.annotate disk s base
    pure (.marks marks)
  | .clear => do
    let _ ← Store.clear
    pure .cleared

/-- The answers to calls that share a store, and the store that the last one leaves. -/
def answers (disk : Disk) : List Call → Store → List (Except Failure Answer) × Store :=
  Reading.answers (Call.answer disk)

/-- The answer to a call without a store. -/
def Call.plainAnswer (disk : Disk) : Call → Except Failure Answer
  | .file l => (plainFile disk l).map .count
  | .text s base =>
    (plainLines disk (baseOf disk base) (plainAt disk []) (Text.lines s)).map .count
  | .annotate s base => (plainMarks disk (baseOf disk base) (Text.lines s)).map .marks
  | .clear => .ok .cleared

theorem gives_answer (call : Call) :
    Gives (Sound disk []) (call.answer disk) (call.plainAnswer disk) (Sound disk []) := by
  cases call with
  | file l => exact gives_map _ (gives_countFile l)
  | text text base => exact gives_map _ (gives_countText text base)
  | annotate text base => exact gives_map _ (gives_annotate text base)
  | clear => exact fun s hs => ⟨rfl, hs.counting, fun _ _ hp => by cases hp⟩

/-- Whatever calls have shared a store, it is sound. -/
theorem sound_answers (disk : Disk) (calls : List Call) :
    Sound disk [] (answers disk calls .empty).2 :=
  (answers_of_gives gives_answer calls (sound_empty disk)).2

/-- **The store is not to be seen in the answers.** Whatever calls share a store, in whatever order
and however they end, each is answered as on an empty store; and every count that they leave in the
store, a missing one too, is the one that an empty store gives. -/
theorem answers_eq_fresh (disk : Disk) (calls : List Call) :
    (answers disk calls .empty).1 =
        calls.map (fun call => outcome (call.answer disk .empty)) ∧
      ∀ p count, (answers disk calls .empty).2.counts.lookup p = some count →
        outcome (countAt disk [] p .empty) = .ok count := by
  refine ⟨answers_eq_first gives_answer calls (sound_empty disk), fun p count hp => ?_⟩
  have hfresh := @gives_countAt disk [] [] p (fun c hc => absurd hc List.not_mem_nil)
    .empty (sound_empty disk)
  rw [hfresh.1]
  exact (sound_answers disk calls).counts p count hp

end FrameScript.Count
