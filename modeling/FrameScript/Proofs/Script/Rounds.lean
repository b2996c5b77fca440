import FrameScript.Proofs.Nesting
import FrameScript.Script.Parse

/-!
# Reading scripts round by round

One round of reading a body deals with its first line and leaves everything else to another reader:
the lines after it, the body of a repetition, and the body of a file that the line includes. In the
last case the round itself looks into the store, asks whether the file is in progress, and opens it;
the other reader gets the body only.

## Results

* `parseAt_eq`: reading a file is looking after the file and reading its body.
* `recursion_round`: **reading a body is a recursion**: each round leaves nested bodies to the next
  ones, and reading is what the rounds amount to.
* `parseFileBy_iterate`: **reading a file ends** after a limited number of rounds.
-/

namespace FrameScript.Script

open Outline

/-- The script that the text of a file makes, when `body` reads its body. -/
def textBy (body : Block Header → Reading (List Frame)) (around : List Path) (p : Path)
    (text : Text) : Reading Script :=
  match Header.read (some p.text) (Text.lines text) with
  | .error failure => throw failure
  | .ok header => do
    let frames ← body (.ofFile around p header text)
    pure ⟨some p.text, header, frames⟩

/-- The script of a file that is not in progress. -/
def openedBy (disk : Disk) (body : Block Header → Reading (List Frame)) (around : List Path)
    (p : Path) : Reading Script := do
  Store.noteOpened p
  match disk.source p with
  | .error fault => throw (.unreadable p.text p.text fault)
  | .ok text =>
    let script ← textBy body around p text
    Store.tell .debug "Parsed file"
      [("path", .text p.text), ("instructions", .number script.frames.length)]
    pure script

/-- The script at a canonical path, when `body` reads the body of a file that has to be opened. -/
def fileBy (disk : Disk) (body : Block Header → Reading (List Frame)) (chain : List Path)
    (p : Path) : Reading Script := do
  match (← get).scripts.lookup p with
  | some script =>
    Store.tallyUp fun t => { t with scriptHits := t.scriptHits + 1 }
    Store.tell .debug "Parse cache hit" [("path", .text p.text)]
    pure script
  | none =>
    if p ∈ chain then throw (cycleFailure chain p)
    else
      Store.tallyUp fun t => { t with scriptMisses := t.scriptMisses + 1 }
      let script ← Store.whileParsing p (openedBy disk body chain p)
      Store.keepScript p script
      pure script

/-- One round of reading a body: its first line is dealt with, and `body` reads what is nested in
it. -/
def round (disk : Disk) (body : Block Header → Reading (List Frame)) (b : Block Header) :
    Reading (List Frame) :=
  match b.lines with
  | [] => pure []
  | line :: rest =>
    match opening b.level line with
    | .nothing .skip => body (b.later rest)
    | .nothing .data => do
      let frame ← readData (some b.file.text) b.header.format line
      let later ← body (b.later rest)
      pure (frame :: later)
    | .nothing (.inclusion target) => do
      let block ← readInclusion disk (some b.file.text) b.file.parent.location b.header.kind
        (fileBy disk body b.chain) line target
      let later ← body (b.later rest)
      pure (block ++ later)
    | .nothing (.bad misfit) => throw (misfitFailure (some b.file.text) line misfit)
    | .repetition count => do
      let block ← body (b.deeper (rest.takeWhile (isInside b.level)))
      if repeatLimit < count then throw .hugeRepeat
      let later ← body (b.later (rest.dropWhile (isInside b.level)))
      pure (copies count block ++ later)

/-- The frames of a body. -/
def framesOf (disk : Disk) (b : Block Header) : Reading (List Frame) :=
  (build b.level b.lines).frames (some b.file.text) (readData (some b.file.text) b.header.format)
    (readInclusion disk (some b.file.text) b.file.parent.location b.header.kind
      (parseAt disk b.chain))

/-- The script at a location, when `body` reads the bodies of files. -/
def parseFileBy (disk : Disk) (body : Block Header → Reading (List Frame)) (l : Location)
    (typed : Bool) : Reading Script := do
  let p ← Store.resolve disk l
  let script ← fileBy disk body (← get).parsing p
  demandKind typed script

variable {disk : Disk} {f g : Block Header → Reading (List Frame)} {chain : List Path} {p : Path}

/-! ## What a round asks for -/

/-- Dealing with a file asks for its body, if the file can be read and is not in progress. -/
theorem fileBy_congr (h : ∀ header text, p ∉ chain → disk.source p = .ok text →
    f (.ofFile chain p header text) = g (.ofFile chain p header text)) :
    fileBy disk f chain p = fileBy disk g chain p := by
  by_cases hc : p ∈ chain
  · simp only [fileBy, if_pos hc]
  · have hopened : openedBy disk f chain p = openedBy disk g chain p := by
      unfold openedBy
      split
      · rfl
      · rename_i text hs
        have htext : textBy f chain p text = textBy g chain p text := by
          unfold textBy
          split
          · rfl
          · rename_i header _
            rw [h header text hc hs]
        rw [htext]
    simp only [fileBy, if_neg hc, hopened]

theorem readInclusion_congr {source : Option Text} {base : Location} {kind : Option ScriptKind}
    {parse parse' : Path → Reading Script} {line : Line} {target : Text}
    (h : parse (disk.canonical (base.under (Location.read target))) =
      parse' (disk.canonical (base.under (Location.read target)))) :
    readInclusion disk source base kind parse line target =
      readInclusion disk source base kind parse' line target := by
  unfold readInclusion Store.resolve
  split
  · rfl
  · split
    · rfl
    · split
      · simp only [pure_bind, h]
      · rfl

/-- **A round asks about nested bodies only.** -/
theorem round_congr {b : Block Header} (h : ∀ inner, Nested disk inner b → f inner = g inner) :
    round disk f b = round disk g b := by
  unfold round
  split
  · rfl
  · rename_i line rest hb
    have hlater {lines : List Line} (hl : lines <:+ rest) : f (b.later lines) = g (b.later lines) :=
      h _ (.later hb hl)
    have hrest := hlater (List.suffix_refl rest)
    split
    · exact hrest
    · rw [hrest]
    · rename_i target ho
      have hfile : fileBy disk f b.chain _ = fileBy disk g b.chain _ :=
        fileBy_congr fun header text hc hs => h _ (.file hb ho rfl hc hs)
      rw [readInclusion_congr hfile, hrest]
    · rfl
    · rw [h _ (.body hb), hlater (List.dropWhile_suffix _)]

/-! ## Reading is what the rounds amount to -/

/-- Reading a file is looking after the file and reading its body. -/
theorem parseAt_eq : parseAt disk chain p = fileBy disk (framesOf disk) chain p := by
  rw [parseAt]
  unfold fileBy
  refine bind_congr fun store => ?_
  cases hl : store.scripts.lookup p with
  | some script => rfl
  | none =>
    by_cases hc : p ∈ chain
    · simp only [dif_pos hc, if_pos hc]
    · simp only [dif_neg hc, if_neg hc]
      refine bind_congr fun _ => congrArg₂ bind (congrArg (Store.whileParsing p) ?_) rfl
      unfold openedBy
      refine bind_congr fun _ => ?_
      split
      · rename_i fault hs
        simp only [hs]
      · rename_i text hs
        simp only [hs]
        refine congrArg₂ bind ?_ rfl
        unfold ofLines textBy
        cases Header.read (some p.text) (Text.lines text) <;> rfl

/-- **The frames of a body are those of one round**, when the bodies nested in it have theirs. -/
theorem framesOf_eq (b : Block Header) : round disk (framesOf disk) b = framesOf disk b := by
  have hfile : fileBy disk (framesOf disk) b.chain = parseAt disk b.chain :=
    funext fun q => parseAt_eq.symm
  cases hb : b.lines with
  | nil => simp only [round, framesOf, hb, build, Outline.frames]
  | cons line rest =>
    simp only [round, framesOf, hb, build_cons]
    cases opening b.level line with
    | nothing item =>
      cases item with
      | skip => rfl
      | data => rfl
      | inclusion target =>
        simp only [hfile]
        rfl
      | bad misfit => cases misfit <;> rfl
    | repetition count => rfl

/-- **Reading a body is a recursion.** -/
theorem recursion_round (disk : Disk) : Recursion disk (round disk) (framesOf disk) :=
  ⟨fun _ _ _ => round_congr, framesOf_eq⟩

/-- **Reading a file ends**: so many rounds are enough as the disk has reach, whatever is in the
store, and whatever is done about bodies that are nested more deeply. -/
theorem parseFileBy_iterate {n : Nat} (hn : disk.reach ≤ n)
    (bottom : Block Header → Reading (List Frame)) (l : Location) (typed : Bool) :
    parseFileBy disk ((round disk)^[n] bottom) l typed = parseFile disk l typed := by
  have hfile (chain : List Path) (p : Path) :
      fileBy disk ((round disk)^[n] bottom) chain p = parseAt disk chain p := by
    rw [parseAt_eq]
    refine fileBy_congr fun header text hc hs => (recursion_round disk).iterate_eq ?_ bottom
    exact Nat.lt_of_lt_of_le (Block.height_ofFile_lt_reach hc hs) hn
  simp only [parseFileBy, parseFile, hfile]

end FrameScript.Script
