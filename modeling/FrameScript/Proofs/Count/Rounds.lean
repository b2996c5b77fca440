import FrameScript.Proofs.Nesting
import FrameScript.Script.Count

/-!
# Counting round by round

One round of counting a body deals with its first line and leaves what is nested in it to another
counter, just as one round of reading does. What differs is the end: a line that does not fit, or a
file that is in progress, has no count, and then nothing after it is counted.

## Results

* `countAt_eq`: counting a file is looking after the file and counting its body.
* `recursion_round`: **counting a body is a recursion.**
* `countFileBy_iterate`: **counting a file ends** after a limited number of rounds.
-/

namespace FrameScript.Count

open Outline

/-- The count of the text of a file, when `body` counts its body. -/
def textBy (body : Block HeaderLines → Reading (Option Nat)) (around : List Path) (p : Path)
    (text : Text) : Reading (Option Nat) :=
  let found := HeaderLines.find (Text.lines text)
  if found.isUsable then body (.ofFile around p found text) else pure none

/-- The count of a file that is not in progress. -/
def openedBy (disk : Disk) (body : Block HeaderLines → Reading (Option Nat)) (around : List Path)
    (p : Path) : Reading (Option Nat) := do
  Store.noteOpened p
  match disk.source p with
  | .error fault => throw (.unreadable p.text p.text fault)
  | .ok text =>
    let count ← textBy body around p text
    Store.tell .debug "Counted frames" [("path", .text p.text), ("frames", .ofNat? count)]
    pure count

/-- The count of the script at a canonical path, when `body` counts the body of a file that has to
be opened. -/
def fileBy (disk : Disk) (body : Block HeaderLines → Reading (Option Nat)) (chain : List Path)
    (p : Path) : Reading (Option Nat) := do
  match (← get).counts.lookup p with
  | some count =>
    Store.tallyUp fun t => { t with countHits := t.countHits + 1 }
    pure count
  | none =>
    if p ∈ chain then
      Store.tell .warning "INCLUDE cycle while counting frames" [("path", .text p.text)]
      pure none
    else
      Store.tallyUp fun t => { t with countMisses := t.countMisses + 1 }
      let count ← Store.whileCounting p (openedBy disk body chain p)
      Store.keepCount p count
      pure count

/-- The count of what a line includes; `file` counts the script at a canonical path. -/
def targetBy (disk : Disk) (base : Location) (found : HeaderLines)
    (file : Path → Reading (Option Nat)) (target : Text) : Reading (Option Nat) :=
  if found.isFragment || target.isEmpty then pure none
  else do
    let there ← Store.resolve disk (base.under (Location.read target))
    file there

/-- One round of counting a body: its first line is dealt with, and `body` counts what is nested in
it. -/
def round (disk : Disk) (body : Block HeaderLines → Reading (Option Nat))
    (b : Block HeaderLines) : Reading (Option Nat) :=
  match b.lines with
  | [] => pure (some 0)
  | line :: rest =>
    match opening b.level line with
    | .nothing .skip => body (b.later rest)
    | .nothing .data => do
      let later ← body (b.later rest)
      pure (later.map (1 + ·))
    | .nothing (.inclusion target) => do
      match ← targetBy disk b.file.parent.location b.header (fileBy disk body b.chain) target with
      | none => pure none
      | some n =>
        let later ← body (b.later rest)
        pure (later.map (n + ·))
    | .nothing (.bad (.longCount digits)) => throw (.longNumeral digits)
    | .nothing (.bad _) => pure none
    | .repetition count => do
      match ← body (b.deeper (rest.takeWhile (isInside b.level))) with
      | none => pure none
      | some n =>
        let later ← body (b.later (rest.dropWhile (isInside b.level)))
        pure (later.map (count * n + ·))

/-- The count of a body. -/
def countOf (disk : Disk) (b : Block HeaderLines) : Reading (Option Nat) :=
  (build b.level b.lines).count?
    (targetBy disk b.file.parent.location b.header (countAt disk b.chain))

/-- The count of the script at a location, when `body` counts the bodies of files. -/
def countFileBy (disk : Disk) (body : Block HeaderLines → Reading (Option Nat)) (l : Location) :
    Reading (Option Nat) := do
  let p ← Store.resolve disk l
  fileBy disk body (← get).counting p

variable {disk : Disk} {f g : Block HeaderLines → Reading (Option Nat)} {chain : List Path}
  {p : Path}

/-! ## What a round asks for -/

/-- Dealing with a file asks for its body, if the file can be read and is not in progress. -/
theorem fileBy_congr (h : ∀ header text, p ∉ chain → disk.source p = .ok text →
    f (.ofFile chain p header text) = g (.ofFile chain p header text)) :
    fileBy disk f chain p = fileBy disk g chain p := by
  by_cases hc : p ∈ chain
  · simp only [fileBy, if_pos hc]
  · have hopened : openedBy disk f chain p = openedBy disk g chain p := by
      unfold openedBy
      split
      · rfl
      · rename_i text hs
        have htext : textBy f chain p text = textBy g chain p text := by
          simp only [textBy]
          rw [h (HeaderLines.find (Text.lines text)) text hc hs]
        rw [htext]
    simp only [fileBy, if_neg hc, hopened]

theorem targetBy_congr {base : Location} {found : HeaderLines}
    {file file' : Path → Reading (Option Nat)} {target : Text}
    (h : file (disk.canonical (base.under (Location.read target))) =
      file' (disk.canonical (base.under (Location.read target)))) :
    targetBy disk base found file target = targetBy disk base found file' target := by
  unfold targetBy Store.resolve
  split
  · rfl
  · split
    · simp only [pure_bind, h]
    · rfl

/-- **A round asks about nested bodies only.** -/
theorem round_congr {b : Block HeaderLines}
    (h : ∀ inner, Nested disk inner b → f inner = g inner) : round disk f b = round disk g b := by
  unfold round
  split
  · rfl
  · rename_i line rest hb
    have hlater {lines : List Line} (hl : lines <:+ rest) : f (b.later lines) = g (b.later lines) :=
      h _ (.later hb hl)
    have hrest := hlater (List.suffix_refl rest)
    split
    · exact hrest
    · rw [hrest]
    · rename_i target ho
      have hfile : fileBy disk f b.chain _ = fileBy disk g b.chain _ :=
        fileBy_congr fun header text hc hs => h _ (.file hb ho rfl hc hs)
      rw [targetBy_congr hfile, hrest]
    · rfl
    · rfl
    · rw [h _ (.body hb), hlater (List.dropWhile_suffix _)]

/-! ## Counting is what the rounds amount to -/

/-- Counting a file is looking after the file and counting its body. -/
theorem countAt_eq : countAt disk chain p = fileBy disk (countOf disk) chain p := by
  rw [countAt]
  unfold fileBy
  refine bind_congr fun store => ?_
  cases hl : store.counts.lookup p with
  | some count => rfl
  | none =>
    by_cases hc : p ∈ chain
    · simp only [dif_pos hc, if_pos hc]
    · simp only [dif_neg hc, if_neg hc]
      refine bind_congr fun _ => congrArg₂ bind (congrArg (Store.whileCounting p) ?_) rfl
      unfold openedBy
      refine bind_congr fun _ => ?_
      split
      · rename_i fault hs
        simp only [hs]
      · rename_i text hs
        simp only [hs]
        refine congrArg₂ bind ?_ rfl
        unfold ofLines textBy
        rfl

/-- **The count of a body is that of one round**, when the bodies nested in it have theirs. -/
theorem countOf_eq (b : Block HeaderLines) : round disk (countOf disk) b = countOf disk b := by
  have hfile : fileBy disk (countOf disk) b.chain = countAt disk b.chain :=
    funext fun q => countAt_eq.symm
  cases hb : b.lines with
  | nil => simp only [round, countOf, hb, build, Outline.count?]
  | cons line rest =>
    simp only [round, countOf, hb, build_cons]
    cases opening b.level line with
    | nothing item =>
      cases item with
      | skip => rfl
      | data => rfl
      | inclusion target =>
        simp only [hfile]
        rfl
      | bad misfit => cases misfit <;> rfl
    | repetition count => rfl

/-- **Counting a body is a recursion.** -/
theorem recursion_round (disk : Disk) : Recursion disk (round disk) (countOf disk) :=
  ⟨fun _ _ _ => round_congr, countOf_eq⟩

/-- **Counting a file ends**: so many rounds are enough as the disk has reach, whatever is in the
store, and whatever is done about bodies that are nested more deeply. -/
theorem countFileBy_iterate {n : Nat} (hn : disk.reach ≤ n)
    (bottom : Block HeaderLines → Reading (Option Nat)) (l : Location) :
    countFileBy disk ((round disk)^[n] bottom) l = countFile disk l := by
  have hfile (chain : List Path) (p : Path) :
      fileBy disk ((round disk)^[n] bottom) chain p = countAt disk chain p := by
    rw [countAt_eq]
    refine fileBy_congr fun header text hc hs => (recursion_round disk).iterate_eq ?_ bottom
    exact Nat.lt_of_lt_of_le (Block.height_ofFile_lt_reach hc hs) hn
  simp only [countFileBy, countFile, hfile]

end FrameScript.Count
