import FrameScript.Proofs.Count.Filing
import FrameScript.Proofs.Script.Untouched
import FrameScript.Proofs.Store.Opening

/-!
# Which files are opened when frames are counted

A file is opened if no count of it is stored and it is not in progress. Counting does not fail where
a file has no number: this is stored too, so that the file is not opened again. It fails where a
file cannot be read, and then nothing is opened after that.

## Results

* `opens_countAt`, `opens_countFile`: **counting a file opens no file twice, and none that has a
  count**, and what it gives depends on no other file.
* `leaves_answer`: no call that counts touches scripts.
-/

namespace FrameScript

open Outline Reading

/-- **Marking leaves what its countings leave.** -/
theorem Outline.leaves_marks {σ γ : Type} {g : σ → γ}
    {ask : Text → EStateM Failure σ (Option Nat)} (ha : ∀ target, Leaves g (ask target))
    (o : Outline) (position : Nat) : Leaves g (o.marks ask position) := by
  induction o generalizing position with
  | nil => exact leaves_pure _
  | leaf line item next ih =>
    cases item with
    | skip => exact leaves_bind (ih position) fun _ => leaves_pure _
    | data => exact leaves_bind (ih (position + 1)) fun _ => leaves_pure _
    | inclusion target =>
      refine leaves_bind (ha target) fun number => ?_
      cases number with
      | none => exact leaves_bind (ih position) fun _ => leaves_pure _
      | some n => exact leaves_bind (ih (position + n)) fun _ => leaves_pure _
    | bad misfit =>
      cases misfit with
      | longCount digits => exact leaves_throw _
      | stray | badCount => exact leaves_bind (ih position) fun _ => leaves_pure _
  | loop line count body next ihb ihn =>
    exact leaves_bind (ihb position) fun _ => leaves_bind (ihn _) fun _ => leaves_pure _

namespace Count

/-- Counts in a store. Scripts have nothing to do with them. -/
def shelf : Shelf (Option Nat) (List (Path × Script) × Journal) where
  stored := Store.counts
  title := "Counted frames"
  values := fun (p, count) => [("path", .text p.text), ("frames", .ofNat? count)]
  rest := fun s => (s.scripts, s.titled "Parsed file")

variable {disk : Disk} {chain : List Path} {p : Path} {s t : Store}

theorem same_of_quiet (h : s.Quiet t) : shelf.Same s t :=
  ⟨h.opened, h.counts, h.counted, Prod.ext h.scripts h.parsed⟩

/-! ## One file -/

/-- The store when a file is left without a count. -/
def quitted (t : Store) : Store :=
  { t with counting := t.counting.tail }

/-- The store when the count of a file has been stored. -/
def filed (p : Path) (count : Option Nat) (t : Store) : Store :=
  { t with
    counting := t.counting.tail
    counts := (p, count) :: t.counts
    journal := shelf.report (p, count) :: t.journal }

/-- A file that has a count is not opened. -/
theorem countAt_of_stored {count : Option Nat} (hl : s.counts.lookup p = some count) :
    countAt disk chain p s = .ok count
      { s with tally := { s.tally with countHits := s.tally.countHits + 1 } } := by
  refine eq_of_runs ?_
  rw [countAt]
  refine runs_get_bind ?_
  simp only [hl]
  exact runs_bind (runs_modify (runs_pure rfl))

/-- A file in progress is not opened either. -/
theorem countAt_of_mem (hl : s.counts.lookup p = none) (hc : p ∈ chain) :
    countAt disk chain p s = .ok none
      { s with
        journal := ⟨.warning, "INCLUDE cycle while counting frames",
          [("path", .text p.text)]⟩ :: s.journal } := by
  refine eq_of_runs ?_
  rw [countAt]
  refine runs_get_bind ?_
  simp only [hl, dif_pos hc]
  exact runs_bind (runs_modify (runs_pure rfl))

/-- What comes of a file that is opened. -/
theorem countAt_of_not_mem (hl : s.counts.lookup p = none) (hc : p ∉ chain) :
    countAt disk chain p s = Shelf.visitAt disk p
      (fun text => ofLines p.parent.location
        (fun l => Store.resolve disk l >>= countAt disk (p :: chain)) (Text.lines text))
      (entered p s) quitted (filed p) := by
  refine eq_of_runs ?_
  rw [countAt]
  refine runs_get_bind ?_
  simp only [hl, dif_neg hc, Shelf.visitAt]
  refine runs_bind (runs_modify (runs_bind (runs_between (runs_bind (runs_modify ?_)))))
  split
  · rename_i fault hs
    simp only [hs]
    exact runs_throw rfl
  · rename_i text hs
    simp only [hs]
    refine runs_bind (Runs.imp (s := entered p s) runs_self (fun count t hr => ?_)
      fun failure t hr => ?_)
    · refine runs_bind (runs_modify (runs_pure (runs_bind (runs_modify (runs_pure ?_)))))
      simp only [hr]
      rfl
    · simp only [hr]
      rfl

/-! ## Lines -/

/-- **Lines open the files that they include.** -/
theorem opens_ofLines {base : Location} {busy : List Path}
    {read : Disk → Path → Reading (Option Nat)}
    (hread : ∀ q, disk.IsCanonical q → ∀ s, shelf.Opens disk busy (fun d => read d q) s)
    (lines : List Text) (s : Store) :
    shelf.Opens disk busy
      (fun d => ofLines base (fun l => Store.resolve d l >>= read d) lines) s := by
  unfold ofLines
  by_cases hu : (HeaderLines.find lines).isUsable = true
  · simp only [if_pos hu]
    refine opens_count? (fun target t => ?_) _ s
    split
    · exact .pure _
    · exact .resolve_bind fun q hq => hread q hq t
  · simp only [if_neg hu]
    exact .pure _

/-! ## Files -/

/-- **Counting a file opens no file twice, and none that has a count.** -/
theorem opens_countAt (hp : disk.IsCanonical p) :
    shelf.Opens disk chain (fun d => countAt d chain p) s := by
  induction hr : room disk.paths chain using Nat.strongRecOn generalizing chain p s with
  | ind k ih =>
    cases hl : s.counts.lookup p with
    | some count => exact .of_apply (fun d => countAt_of_stored hl) ⟨rfl, rfl, rfl, rfl⟩
    | none =>
      by_cases hm : p ∈ chain
      · refine .of_apply (fun d => countAt_of_mem hl hm) ?_
        exact same_of_quiet (Store.quiet_of_told rfl rfl rfl rfl (by decide))
      · refine .visit (fun d => countAt_of_not_mem hl hm) ⟨rfl, rfl, rfl, rfl⟩
          (fun t => ⟨rfl, rfl, rfl, rfl⟩) (fun count t => ?_) hp hm hl fun text hs => ?_
        · have hparsed : (filed p count t).titled "Parsed file" = t.titled "Parsed file" :=
            Store.titled_of_cons rfl (by simp [shelf, Shelf.report])
          exact ⟨rfl, rfl, Shelf.told_of_cons rfl, Prod.ext rfl hparsed⟩
        · -- With `p` in progress there is less room for what its lines include.
          have hroom := Disk.room_lt_of_source hm hs
          exact opens_ofLines (fun q hq u => ih _ (hr ▸ hroom) hq rfl) _ _

/-! ## Calls from outside -/

/-- **A call opens no file twice, and none that has a count.** -/
theorem opens_countFile (l : Location) (s : Store) :
    shelf.Opens disk [] (fun d => countFile d l) s :=
  .resolve_bind fun _ hp => .get_bind ((opens_countAt hp).mono (List.nil_subset _))

theorem leaves_countFile (l : Location) : Leaves shelf.rest (countFile disk l) := by
  intro s
  have hopens : shelf.Opens disk [] (fun d => countFile d l) s := opens_countFile l s
  obtain ⟨files, new, hadds, -⟩ := hopens
  exact hadds.rest

theorem leaves_countText (text : Text) (base : Option Text) :
    Leaves shelf.rest (countText disk text base) := by
  intro s
  have hopens : shelf.Opens disk [] (fun d => ofLines (baseOf disk base)
      (fun l => Store.resolve d l >>= fromOutside d) (Text.lines text)) s :=
    opens_ofLines (fun q hq u => .get_bind ((opens_countAt hq).mono (List.nil_subset _))) _ s
  obtain ⟨files, new, hadds, -⟩ := hopens
  exact hadds.rest

theorem leaves_countIncluded (l : Location) :
    Leaves shelf.rest (Gutter.countIncluded disk l) := by
  intro s
  have hfile : shelf.rest (left (countFile disk l s)) = shelf.rest s := leaves_countFile l s
  unfold Gutter.countIncluded
  cases hc : countFile disk l s with
  | ok count t =>
    rw [hc] at hfile
    exact hfile
  | error failure t =>
    rw [hc] at hfile
    cases failure with
    | unreadable path read fault =>
      have htold (values) : t.Quiet { t with
          journal := ⟨.warning, "Included file unavailable", values⟩ :: t.journal } :=
        Store.quiet_of_told rfl rfl rfl rfl (by decide)
      exact (same_of_quiet (htold _)).rest.trans hfile
    | _ => exact hfile

theorem leaves_annotate (text : Text) (base : Option Text) :
    Leaves shelf.rest (Gutter.annotate disk text base) := by
  unfold Gutter.annotate Gutter.ofLines
  by_cases hu : (HeaderLines.find (Text.lines text)).isUsable = true
  · simp only [if_pos hu]
    refine leaves_bind (leaves_marks (fun target => ?_) _ _) fun _ => leaves_pure _
    split
    · exact leaves_pure _
    · exact leaves_countIncluded _
  · simp only [if_neg hu]
    exact leaves_pure _

/-- **No call that counts touches scripts**, unless it clears the store. -/
theorem leaves_answer {call : Call} (hc : call ≠ .clear) :
    Leaves shelf.rest (call.answer disk) := by
  cases call with
  | file l => exact leaves_bind (leaves_countFile l) fun _ => leaves_pure _
  | text text base => exact leaves_bind (leaves_countText text base) fun _ => leaves_pure _
  | annotate text base => exact leaves_bind (leaves_annotate text base) fun _ => leaves_pure _
  | clear => exact absurd rfl hc

end Count

end FrameScript
