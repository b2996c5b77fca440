import FrameScript.Proofs.Script.Filing
import FrameScript.Proofs.Store.Opening

/-!
# Which files are opened when scripts are read

A file is opened if its script is not stored and it is not in progress. Whatever a store holds, a
call opens each file at most once, and none of which the script is stored, however many lines
include it; if a line fails, the whole call fails, and nothing is opened after that.

## Results

* `opens_parseAt`, `opens_parseFile`: **reading a file opens no file twice, and none that is
  stored**, and what it gives depends on no other file.
* `adds_parseText`: a text opens the files that it includes in the same way.
-/

namespace FrameScript.Script

open Outline Reading

/-- Scripts in a store. Counts have nothing to do with them. -/
def shelf : Shelf Script (List (Path × Option Nat) × Journal) where
  stored := Store.scripts
  title := "Parsed file"
  values := fun (p, script) =>
    [("path", .text p.text), ("instructions", .number script.frames.length)]
  rest := fun s => (s.counts, s.titled "Counted frames")

variable {disk : Disk} {chain : List Path} {p : Path} {s t : Store}

theorem same_of_quiet (h : s.Quiet t) : shelf.Same s t :=
  ⟨h.opened, h.scripts, h.parsed, Prod.ext h.counts h.counted⟩

/-! ## One file -/

/-- The store when a file is left without a script. -/
def quitted (t : Store) : Store :=
  { t with parsing := t.parsing.tail }

/-- The store when the script of a file has been stored. -/
def filed (p : Path) (script : Script) (t : Store) : Store :=
  { t with
    parsing := t.parsing.tail
    scripts := (p, script) :: t.scripts
    journal := shelf.report (p, script) :: t.journal }

/-- A file of which the script is stored is not opened. -/
theorem parseAt_of_stored {script : Script} (hl : s.scripts.lookup p = some script) :
    parseAt disk chain p s = .ok script
      { s with
        tally := { s.tally with scriptHits := s.tally.scriptHits + 1 }
        journal := ⟨.debug, "Parse cache hit", [("path", .text p.text)]⟩ :: s.journal } := by
  refine eq_of_runs ?_
  rw [parseAt]
  refine runs_get_bind ?_
  simp only [hl]
  exact runs_bind (runs_modify (runs_bind (runs_modify (runs_pure rfl))))

/-- A file in progress is not opened either. -/
theorem parseAt_of_mem (hl : s.scripts.lookup p = none) (hc : p ∈ chain) :
    parseAt disk chain p s = .error (cycleFailure chain p) s := by
  refine eq_of_runs ?_
  rw [parseAt]
  refine runs_get_bind ?_
  simp only [hl, dif_pos hc]
  exact runs_throw rfl

/-- What comes of a file that is opened. -/
theorem parseAt_of_not_mem (hl : s.scripts.lookup p = none) (hc : p ∉ chain) :
    parseAt disk chain p s = Shelf.visitAt disk p
      (fun text => ofLines disk (some p.text) p.parent.location (parseAt disk (p :: chain))
        (Text.lines text)) (entered p s) quitted (filed p) := by
  refine eq_of_runs ?_
  rw [parseAt]
  refine runs_get_bind ?_
  simp only [hl, dif_neg hc, Shelf.visitAt]
  refine runs_bind (runs_modify (runs_bind (runs_between (runs_bind (runs_modify ?_)))))
  split
  · rename_i fault hs
    simp only [hs]
    exact runs_throw rfl
  · rename_i text hs
    simp only [hs]
    refine runs_bind (Runs.imp (s := entered p s) runs_self (fun script t hr => ?_)
      fun failure t hr => ?_)
    · refine runs_bind (runs_modify (runs_pure (runs_bind (runs_modify (runs_pure ?_)))))
      simp only [hr]
      rfl
    · simp only [hr]
      rfl

/-! ## Lines -/

section Lines

variable {source : Option Text} {base : Location} {busy : List Path}
  {read : Disk → Path → Reading Script}

theorem opens_readInclusion {kind : Option ScriptKind}
    (hread : ∀ q, disk.IsCanonical q → ∀ s, shelf.Opens disk busy (fun d => read d q) s)
    (line : Line) (target : Text) (s : Store) :
    shelf.Opens disk busy (fun d => readInclusion d source base kind (read d) line target) s := by
  unfold readInclusion
  split
  · exact .throw _
  · split
    · exact .throw _
    · refine .resolve_bind fun q hq => .modify_bind ?_ (.bind (hread q hq _) fun _ _ _ => .pure _)
      exact same_of_quiet (Store.quiet_of_told rfl rfl rfl rfl (by decide))

/-- **Lines open the files that they include.** -/
theorem opens_ofLines
    (hread : ∀ q, disk.IsCanonical q → ∀ s, shelf.Opens disk busy (fun d => read d q) s)
    (lines : List Text) (s : Store) :
    shelf.Opens disk busy (fun d => ofLines d source base (read d) lines) s := by
  unfold ofLines
  split
  · exact .throw _
  · refine .bind (opens_frames (fun line t => ?_) (opens_readInclusion hread) _ s) fun _ _ _ =>
      .pure _
    unfold readData
    split
    · exact .pure _
    · exact .throw _

end Lines

/-! ## Files -/

/-- **Reading a file opens no file twice, and none that is stored.** -/
theorem opens_parseAt (hp : disk.IsCanonical p) :
    shelf.Opens disk chain (fun d => parseAt d chain p) s := by
  induction hr : room disk.paths chain using Nat.strongRecOn generalizing chain p s with
  | ind k ih =>
    cases hl : s.scripts.lookup p with
    | some script =>
      refine .of_apply (fun d => parseAt_of_stored hl) ?_
      exact same_of_quiet (Store.quiet_of_told rfl rfl rfl rfl (by decide))
    | none =>
      by_cases hm : p ∈ chain
      · exact .of_apply (fun d => parseAt_of_mem hl hm) .refl
      · refine .visit (fun d => parseAt_of_not_mem hl hm) ⟨rfl, rfl, rfl, rfl⟩
          (fun t => ⟨rfl, rfl, rfl, rfl⟩) (fun script t => ?_) hp hm hl fun text hs => ?_
        · have hcounted : (filed p script t).titled "Counted frames" =
              t.titled "Counted frames" := Store.titled_of_cons rfl (by simp [shelf, Shelf.report])
          exact ⟨rfl, rfl, Shelf.told_of_cons rfl, Prod.ext rfl hcounted⟩
        · -- With `p` in progress there is less room for what its lines include.
          have hroom := Disk.room_lt_of_source hm hs
          exact opens_ofLines (fun q hq u => ih _ (hr ▸ hroom) hq rfl) _ _

/-! ## Calls from outside -/

theorem opens_bind_demandKind {x : Disk → Reading Script} (typed : Bool)
    (h : shelf.Opens disk chain x s) :
    shelf.Opens disk chain (fun d => x d >>= demandKind typed) s := by
  refine .bind h fun script t _ => ?_
  unfold demandKind
  split
  · exact .throw _
  · exact .pure _

/-- **A call opens no file twice, and none that is stored.** -/
theorem opens_parseFile (l : Location) (typed : Bool) (s : Store) :
    shelf.Opens disk [] (fun d => parseFile d l typed) s :=
  .resolve_bind fun _ hp => .get_bind
    (opens_bind_demandKind typed ((opens_parseAt hp).mono (List.nil_subset _)))

/-- What a call does with the store that reads a text. -/
theorem adds_parseText (text : Text) (path : Option Text) (typed : Bool) (s : Store) :
    ∃ files new, shelf.Adds disk [] files new s (left (parseText disk text path typed s)) := by
  have hopens : shelf.Opens disk [] (fun d => ofLines d path (baseOf disk path)
      (parseAt d s.parsing) (Text.lines text) >>= demandKind typed) s :=
    opens_bind_demandKind typed (opens_ofLines (fun q hq t =>
      (opens_parseAt hq).mono (List.nil_subset _)) _ s)
  obtain ⟨files, new, hadds, -⟩ := hopens
  exact ⟨files, new, hadds⟩

end FrameScript.Script
