import FrameScript.Proofs.Agreement
import FrameScript.Proofs.Disk.Written
import FrameScript.Proofs.Script.Origins

/-!
# The gutter numbers the frames of a script

The gutter of a file and the script that it makes are found in two ways: the gutter adds up counts
as it goes down the lines, and the script is unrolled. The number beside a line of data is that of
the first frame that comes from the line, if every repetition around the line runs at least once.

That no frame before it comes from the same line rests on three facts. No two lines have the same
number; a file that can be read leads back to itself by no detour, so that none of the scripts that
it includes has frames of its own lines; and on a disk of which the links were written, two files do
not go by the same text.

## Results

* `place_ne_of_madeApart`: frames that are made apart from a line come from somewhere else.
* `known_of_script`: the counts that the gutter shows are those of the frames.
* `outcome_annotate`: the gutter of a file that can be read fails nowhere.
* `mark_numbers_first_frame`: **the number beside a line of data is that of its first frame.**
-/

namespace FrameScript

/-- The number of the mark is that of the first of the frames that come from the line of the mark
in `source`. -/
def Mark.NumbersFirst (mark : Mark) (source : Text) (frames : List Frame) : Prop :=
  ∃ index frame, mark.value = some (index + 1) ∧ frames[index]? = some frame ∧
    frame.place = ⟨some source, some mark.number⟩ ∧
    ∀ i < index, ∀ earlier, frames[i]? = some earlier →
      earlier.place ≠ ⟨some source, some mark.number⟩

namespace Script

open Outline Reading

variable {disk : Disk} {chain : List Path} {p q : Path} {script : Script}

/-! ## Where frames come from -/

theorem isNamed_of_includes (hd : disk.IsWritten) (hp : p.IsNamed) (h : Includes disk p q) :
    q.IsNamed := by
  obtain ⟨text, -, line, -, -, target, -, rfl⟩ := h
  have hbase := Path.isWritten_location (Path.isNamed_parent hp)
  exact Disk.isNamed_canonical hd (Location.isWritten_under hbase (Location.isWritten_read target))

theorem isNamed_of_leads (hd : disk.IsWritten) (hp : p.IsNamed)
    (h : Relation.ReflTransGen (Includes disk) p q) : q.IsNamed := by
  induction h with
  | refl => exact hp
  | tail _ hi ih => exact isNamed_of_includes hd ih hi

/-- A frame that is made apart from a line of a file comes from another line, or another file: what
the file includes does not lead back to it. -/
theorem place_ne_of_madeApart {header : Header} {text : Text} {n : Nat} {frame : Frame}
    (hd : disk.IsWritten) (hp : p.IsNamed) (h : plainAt disk chain p = .ok script)
    (hs : disk.source p = .ok text)
    (hf : MadeApart (plainData (some p.text) header.format)
      (plainInclusion disk (some p.text) p.parent.location (HeaderLines.find (Text.lines text))
        (plainAt disk (p :: chain))) n (outlineOf (Text.lines text)) frame) :
    frame.place ≠ ⟨some p.text, some n⟩ := by
  obtain ⟨line, item, hstep, hf, hnumber⟩ := hf
  intro hplace
  cases item with
  | data =>
    cases hmade : plainData (some p.text) header.format line with
    | error failure =>
      rw [Item.frames, hmade] at hf
      exact absurd hf List.not_mem_nil
    | ok made =>
      rw [Item.frames, hmade] at hf
      rw [List.mem_singleton.mp hf, place_of_plainData hmade] at hplace
      exact hnumber rfl (Option.some.inj (Place.mk.inj hplace).2)
  | inclusion target =>
    cases hframes : plainInclusion disk (some p.text) p.parent.location
        (HeaderLines.find (Text.lines text)) (plainAt disk (p :: chain)) line target with
    | error failure =>
      rw [Item.frames, hframes] at hf
      exact absurd hf List.not_mem_nil
    | ok frames =>
      obtain ⟨q, included, ha, hq, rfl⟩ := aim_of_plainInclusion hframes
      rw [Item.frames, hframes] at hf
      obtain ⟨r, _, _, _, hlead, horigin⟩ := exists_origin hq hf
      have hback : Relation.TransGen (Includes disk) p r :=
        Relation.TransGen.head' (includes_of_step hs hstep ha) hlead
      have hr : r.IsNamed := isNamed_of_leads hd hp hback.to_reflTransGen
      have hsource : p.text = r.text :=
        Option.some.inj (Place.mk.inj (hplace.symm.trans horigin.place)).1
      have hsame : p = r := Path.eq_of_text_eq hp hr hsource
      exact not_mem_of_leads h hback (hsame ▸ List.mem_cons_self)
  | skip => exact absurd hf List.not_mem_nil
  | bad misfit => exact absurd hf List.not_mem_nil

/-! ## What the gutter shows -/

/-- The gutter shows the count of a file that can be counted. -/
theorem plainShown_of_number {base : Location} {found : HeaderLines} {target : Text} {n : Nat}
    (ha : found.aim disk base target = .file q) (hn : Count.plainAt disk [] q = .ok (some n)) :
    Count.plainShown disk base found target = .ok (some n) := by
  unfold HeaderLines.aim at ha
  unfold Count.plainShown Count.plainFile
  split at ha
  · cases ha
  · rename_i hopen
    split at ha
    · rename_i hsound
      rw [if_neg hopen, if_pos hsound, Aim.file.inj ha, hn]
      rfl
    · cases ha

section Shown

variable {header : Header} {text : Text}

/-- A line that includes a script shows how many frames it makes. -/
theorem plainShown_of_inclusion {base : Location} {found : HeaderLines} {line : Line}
    {target : Text} {frames : List Frame} {source : Option Text}
    (h : plainInclusion disk source base found (plainAt disk chain) line target = .ok frames) :
    Count.plainShown disk base found target = .ok (some frames.length) := by
  obtain ⟨q, included, ha, hq, rfl⟩ := aim_of_plainInclusion h
  have hn : Count.plainAt disk [] q = .ok (some included.frames.length) :=
    Count.plainAt_number_of_subset (List.nil_subset _) (number_of_script hq)
  exact plainShown_of_number ha hn

variable {source : Option Text} {base : Location} {found : HeaderLines} {format : Format}
  {o : Outline}

/-- **The counts that the gutter shows are those of the frames**, where unrolling does not fail. -/
theorem known_of_script
    (h : o.steps.findSome? (Step.halt source (plainData source format)
      (plainInclusion disk source base found (plainAt disk chain))) = none) :
    Known (plainData source format)
      (plainInclusion disk source base found (plainAt disk chain))
      (shownCount (Count.plainShown disk base found)) o := by
  have hhalt := List.findSome?_eq_none_iff.mp h
  refine ⟨fun line hstep => ok_of_halt_data (hhalt _ hstep), fun line target hstep => ?_⟩
  obtain ⟨frames, hframes⟩ := ok_of_halt_inclusion (hhalt _ hstep)
  exact ⟨frames, hframes, by rw [shownCount, plainShown_of_inclusion hframes]⟩

/-- Nothing fails the marking where nothing ends the unrolling. -/
theorem findSome?_fault_of_halt
    (h : o.steps.findSome? (Step.halt source (plainData source format)
      (plainInclusion disk source base found (plainAt disk chain))) = none) :
    o.steps.findSome? (Step.fault (Count.plainShown disk base found)) = none := by
  have hhalt := List.findSome?_eq_none_iff.mp h
  refine List.findSome?_eq_none_iff.mpr fun step hstep => ?_
  match step with
  | .leaf _ .skip | .leaf _ .data | .enter _ _ | .leave _ => rfl
  | .leaf line (.inclusion target) =>
    obtain ⟨frames, hframes⟩ := ok_of_halt_inclusion (hhalt _ hstep)
    rw [Step.fault, plainShown_of_inclusion hframes]
  | .leaf line (.bad misfit) => cases hhalt _ hstep

end Shown

theorem kind_of_mem_uniform {kind : Mark.Kind} {first n : Nat} {mark : Mark}
    (h : mark ∈ Gutter.uniform kind first n) : mark.kind = kind := by
  induction n generalizing first with
  | zero => exact absurd h List.not_mem_nil
  | succ n ih =>
    rcases List.mem_cons.mp h with rfl | h
    · rfl
    · exact ih h

theorem nodup_bodyOf (lines : List Text) : ((bodyOf lines).map Line.number).Nodup := by
  rw [bodyOf, Line.number_measureFrom]
  exact List.nodup_range'

theorem nodup_numbers (lines : List Text) : ((outlineOf lines).lines.map Line.number).Nodup := by
  have hlines : (outlineOf lines).lines = bodyOf lines := lines_steps_build 0 _
  rw [hlines]
  exact nodup_bodyOf lines

/-- The marks beside the lines of a body. -/
def bodyMarks (disk : Disk) (base : Location) (lines : List Text) : List Mark :=
  ((outlineOf lines).markList (shownCount (Count.plainShown disk base (HeaderLines.find lines)))
    0).1

/-- **The gutter of a file that can be read fails nowhere**: beside the header stand marks that say
so, and beside the body those of its outline. -/
theorem outcome_annotate {header : Header} {text : Text} (hp : p.IsNamed)
    (hh : Header.read (some p.text) (Text.lines text) = .ok header)
    (hnone : (outlineOf (Text.lines text)).steps.findSome? (Step.halt (some p.text)
      (plainData (some p.text) header.format)
      (plainInclusion disk (some p.text) p.parent.location (HeaderLines.find (Text.lines text))
        (plainAt disk (p :: chain)))) = none) :
    outcome (Gutter.annotate disk text (some p.parent.text) .empty) =
      .ok (Gutter.uniform .header 1 (HeaderLines.find (Text.lines text)).bodyStart ++
        bodyMarks disk p.parent.location (Text.lines text)) := by
  have hbase : Count.baseOf disk (some p.parent.text) = p.parent.location :=
    Path.read_text (Path.isNamed_parent hp)
  rw [(Count.gives_annotate text _ .empty (Count.sound_empty disk)).1, Count.plainMarks, hbase]
  simp only [if_pos (usable_of_read hh)]
  rw [marked_of_none (findSome?_fault_of_halt hnone)]
  rfl

/-! ## Marks and frames -/

theorem plainAt_of_typed {l : Location} {typed : Bool}
    (h : plainFileTyped disk l typed = .ok script) :
    plainAt disk [] (disk.canonical l) = .ok script := by
  have hplain := plainFile_of_typed h
  unfold plainFile at hplain
  split at hplain
  · exact hplain
  · cases hplain

theorem plainAt_of_parseFile {l : Location} {typed : Bool}
    (h : outcome (parseFile disk l typed .empty) = .ok script) :
    plainAt disk [] (disk.canonical l) = .ok script :=
  plainAt_of_typed ((gives_parseFile_typed l typed .empty (sound_empty disk)).1.symm.trans h)

/-- The first frame of a line, as the frames of the script tell it. -/
theorem numbersFirst_of_firstAt {header : Header} {text : Text} {mark : Mark} {place : Nat}
    (hd : disk.IsWritten) (hp : p.IsNamed) (h : plainAt disk chain p = .ok script)
    (hs : disk.source p = .ok text) (hvalue : mark.value = some (place + 1))
    (hfirst : FirstAt (plainData (some p.text) header.format)
      (plainInclusion disk (some p.text) p.parent.location (HeaderLines.find (Text.lines text))
        (plainAt disk (p :: chain))) mark.number place (outlineOf (Text.lines text)))
    (hframes : script.frames = (outlineOf (Text.lines text)).unroll
      (plainData (some p.text) header.format)
      (plainInclusion disk (some p.text) p.parent.location (HeaderLines.find (Text.lines text))
        (plainAt disk (p :: chain)))) :
    mark.NumbersFirst p.text script.frames := by
  obtain ⟨line, frame, before, after, hstep, hnumber, hmade, hunroll, rfl, hbefore⟩ := hfirst
  rw [hunroll] at hframes
  refine ⟨before.length, frame, hvalue, ?_, ?_, fun i hi earlier he => ?_⟩
  · rw [hframes, List.getElem?_append_right (Nat.le_refl _), Nat.sub_self, List.getElem?_cons_zero]
  · rw [place_of_plainData hmade, hnumber]
  · rw [hframes, List.getElem?_append_left hi] at he
    exact place_ne_of_madeApart hd hp h hs (hbefore earlier (List.mem_of_getElem? he))

/-- **The number beside a line of data is that of its first frame.** For a file that can be read,
with `p` its canonical path, the gutter of its text, seen from the folder that holds it, has a
number beside every line of data; and if every repetition around the line runs at least once, the
frame with that number is there, comes from the line, and no frame before it does. Every disk that
is made by writing and deleting is written (`Disk.isWritten_write`, `Disk.isWritten_delete`). -/
theorem mark_numbers_first_frame (disk : Disk) (hd : disk.IsWritten) {path : Text} {p : Path}
    (hp : disk.canonical (Location.read path) = p) {typed : Bool} {script : Script}
    (h : outcome (parseFile disk (Location.read path) typed .empty) = .ok script) :
    ∃ text marks, disk.source p = .ok text ∧
      outcome (Gutter.annotate disk text (some p.parent.text) .empty) = .ok marks ∧
      (∀ line ∈ bodyOf (Text.lines text), line.isSkipped = false →
        Directive.read line.content = .data →
        ∃ value, ⟨line.number, .data, some value⟩ ∈ marks) ∧
      ∀ mark ∈ marks, mark.kind = .data →
        (∀ line count, line.number = mark.number →
          Line.Encloses (bodyOf (Text.lines text)) count line → 1 ≤ count) →
        mark.NumbersFirst p.text script.frames := by
  have hnamed : p.IsNamed := hp ▸ Disk.isNamed_canonical hd (Location.isWritten_read path)
  have hplain : plainAt disk [] p = .ok script := hp ▸ plainAt_of_parseFile h
  obtain ⟨hc, text, hs⟩ := source_of_ok hplain
  have hread := plainAt_of_ok hc hs ▸ hplain
  obtain ⟨header, hh, hnone, hscript⟩ := plainLines_ok hread
  refine ⟨text, _, hs, outcome_annotate hnamed hh hnone, fun line hmem hsaid hdata => ?_,
    fun mark hmark hkind hruns => ?_⟩
  · have hstep := stepFor_of_fits (fits_of_findSome? hnone) hmem hsaid
    rw [hdata] at hstep
    obtain ⟨value, hm⟩ := mark_of_data 0 hstep
    exact ⟨value, List.mem_append_right _ hm⟩
  · rcases List.mem_append.mp hmark with hmark | hmark
    · rw [kind_of_mem_uniform hmark] at hkind
      cases hkind
    · obtain ⟨place, hvalue, hfirst⟩ := exists_first_of_mark (known_of_script hnone)
        (nodup_numbers _) hmark hkind fun count line hl hr =>
          hruns line count hl (encloses_of_repeats hr)
      rw [Nat.zero_add] at hvalue
      exact numbersFirst_of_firstAt hd hnamed hplain hs hvalue hfirst
        (congrArg Script.frames hscript)

/-! A file with a repetition in another one: its three lines of data make nine frames. -/

/-- The text of the file. -/
def nestedText : Text :=
  "!FORMAT: <KA>\nREPEAT 2\n    a\n    REPEAT 3\n        .\na\n".toList

/-- The file. -/
def nestedPath : Path := ⟨["w".toList, "main".toList]⟩

/-- A disk with the file, and its reader in the folder of the file. -/
def nestedDisk : Disk :=
  (Disk.empty nestedPath.parent).put nestedPath
    (.file (nestedText.map fun c => UInt8.ofNat c.toNat))

/-- The last line of the file stands after both repetitions, and makes the ninth frame. -/
theorem mark_numbers_first_frame_nested :
    nestedDisk.IsWritten ∧ nestedDisk.canonical (Location.read "main".toList) = nestedPath ∧
      ∃ script, outcome (parseFile nestedDisk (Location.read "main".toList) false .empty) =
        .ok script ∧ (⟨6, .data, some 9⟩ : Mark).NumbersFirst nestedPath.text script.frames := by
  have hd : nestedDisk.IsWritten := by
    refine Disk.isWritten_put (Disk.isWritten_empty fun name hm => ?_) fun target he => by cases he
    rw [List.mem_singleton.mp hm]
    exact ⟨⟨by decide, by decide⟩, by decide, by decide⟩
  have hlinks : nestedDisk.links = [] := by decide +kernel
  have hp : nestedDisk.canonical (Location.read "main".toList) = nestedPath :=
    (Disk.follow_of_no_links hlinks (by decide)).trans (by decide)
  have hread : (plainAt nestedDisk [] nestedPath).toOption.isSome = true := by decide +kernel
  have hsource : (nestedDisk.source nestedPath).toOption = some nestedText := by decide +kernel
  have hmarks : (outcome (Gutter.annotate nestedDisk nestedText (some nestedPath.parent.text)
      .empty)).toOption = some [⟨1, .header, none⟩, ⟨2, .loop, none⟩, ⟨3, .data, some 1⟩,
        ⟨4, .loop, none⟩, ⟨5, .data, some 2⟩, ⟨6, .data, some 9⟩] := by decide +kernel
  have hruns : ∀ opener ∈ bodyOf (Text.lines nestedText), ∀ count ∈ opener.opens?, 1 ≤ count := by
    decide +kernel
  obtain ⟨script, h⟩ : ∃ script,
      outcome (parseFile nestedDisk (Location.read "main".toList) false .empty) = .ok script := by
    rw [outcome_parseFile, plainFile, if_pos (by decide), hp]
    cases hs : plainAt nestedDisk [] nestedPath with
    | ok script => exact ⟨script, rfl⟩
    | error failure =>
      rw [hs] at hread
      cases hread
  obtain ⟨text, marks, hs, hm, -, hall⟩ := mark_numbers_first_frame nestedDisk hd hp h
  rw [hs] at hsource
  obtain rfl : text = nestedText := Option.some.inj hsource
  rw [hm] at hmarks
  obtain rfl := Option.some.inj hmarks
  refine ⟨hd, hp, script, h, hall _ (by decide) rfl fun line count _ he => ?_⟩
  obtain ⟨opener, hmem, hopens⟩ := he.exists_opener
  exact hruns opener hmem count hopens

end Script

end FrameScript
