import FrameScript.Proofs.Script.InMemory
import FrameScript.Proofs.Script.Unrolled
import FrameScript.Proofs.Script.Written

/-!
# Inlining a script by hand

Whoever puts the body of an included script in the place of the line that includes it, indented as
deep as the line, changes nothing about the input, if the script declares the same format and lies
in the same folder. The script is read on its own, from the outermost level and with a header of its
own; its lines are read here in the middle of others, at the level of the line, perhaps within
repetitions. That the two agree is a matter of the rules of `Outline.Yields`: a body may stand at
another level, and a line may be replaced by whatever yields its values.

The script may be a fragment, and the file is none, since it includes the script. So the file finds
more in the lines than the script does on its own, and never less (`included_of_included`).

## Results

* `Line.measure_inset`: a line that is written deeper is measured deeper.
* `yields_inlinedBlock`: the body of a script yields in the file what the script makes.
* `plainLines_inlined`: the lines of the inlined text make a script with the same entries.
* `inline_inclusion`: **a script can be inlined by hand.**
-/

namespace FrameScript

namespace Line

open Text

variable {raw : Text} {n levels : Nat}

/-- The line as it is written so many levels deeper. -/
def inset (levels : Nat) (raw : Text) : Text :=
  List.replicate (levelWidth * levels) ' ' ++ raw

/-- **A line that is written deeper is measured deeper.** -/
theorem measure_inset (levels n : Nat) (raw : Text) :
    measure n (inset levels raw) = (measure n raw).indented levels := by
  have hspace : ∀ c ∈ List.replicate (levelWidth * levels) ' ', isBlank c = true := by
    intro c hc
    rw [List.eq_of_mem_replicate hc]
    decide
  have htab : '\t' ∉ List.replicate (levelWidth * levels) ' ' := by
    intro hc
    cases List.eq_of_mem_replicate hc
  have hexpand : expandTabs (inset levels raw) =
      List.replicate (levelWidth * levels) ' ' ++ expandTabs raw := by
    rw [inset, expandTabs_append, expandTabs_eq_self htab]
  have htrim : trimLeft (expandTabs (inset levels raw)) = trimLeft (expandTabs raw) := by
    rw [hexpand, trimLeft, List.dropWhile_append_of_pos hspace]
    rfl
  rw [measure, htrim, hexpand, List.takeWhile_append_of_pos hspace, List.length_append,
    List.length_replicate]
  rfl

/-- No break comes into a line that is written deeper. -/
theorem unbroken_inset (h : ∀ c ∈ raw, isBreak c = false) :
    ∀ c ∈ inset levels raw, isBreak c = false := by
  intro c hm
  rcases List.mem_append.mp hm with hm | hm
  · rw [List.eq_of_mem_replicate hm]
    decide
  · exact h c hm

end Line

namespace Script

open Outline Reading

variable {disk : Disk} {base : Location} {level : Nat} {raw text inner : Text} {p q : Path}
  {front back : List Text} {script included : Script}

/-- In a text that is seen from `base`, the line includes the file `q` at the level. -/
structure IsInclusion (disk : Disk) (base : Location) (level : Nat) (raw : Text) (q : Path) :
    Prop where
  level : (Line.measure 0 raw).level? = some level
  leads : ∃ target, Directive.read (Line.measure 0 raw).content = .inclusion target ∧
    q = disk.canonical (base.under (Location.read target))

/-- The body of a script, written at the level. -/
def inlinedBlock (level : Nat) (inner : List Text) : List Text :=
  (inner.drop (HeaderLines.find inner).bodyStart).map (Line.inset level)

/-! ## Lines -/

theorem isSkipped_of_inclusion {line : Line} {target : Text}
    (h : Directive.read line.content = .inclusion target) : line.isSkipped = false := by
  obtain ⟨number, indent, content⟩ := line
  cases content with
  | nil => cases h
  | cons c content =>
    by_cases hc : c = '#'
    · subst hc
      cases h
    · simp [Line.isSkipped, hc]

/-- A body yields the same when it is written deeper. -/
theorem yields_inset {α : Type} {r : Reader α} {raws : List Text} {v : List α} (level : Nat)
    (h : Yields r 0 (raws.map (Line.measure 0)) v) :
    Yields r level ((raws.map (Line.inset level)).map (Line.measure 0)) v := by
  have hmeasured : (raws.map (Line.inset level)).map (Line.measure 0) =
      (raws.map (Line.measure 0)).map (Line.indented level) := by
    rw [List.map_map, List.map_map]
    exact List.map_congr_left fun raw _ => Line.measure_inset level 0 raw
  rw [hmeasured]
  have hdeeper := h.indented level
  rwa [Nat.zero_add] at hdeeper

/-! ## Scripts that are included -/

section Included

variable {format : Format} {found found' : HeaderLines} {parse : Path → Except Failure Script}
  {target : Text} {b : List (List (Text × Text))}

/-- The script that is behind the values of a line that includes one. -/
theorem exists_of_included
    (h : (entriesReader disk base format found parse).included target = some b) :
    ∃ r script, found.aim disk base target = .file r ∧ parse r = .ok script ∧
      script.frames.map Frame.entries = b := by
  simp only [entriesReader] at h
  cases ha : found.aim disk base target with
  | nowhere =>
    rw [ha] at h
    cases h
  | astray =>
    rw [ha] at h
    cases h
  | file r =>
    rw [ha] at h
    cases hr : parse r with
    | error failure =>
      simp only [hr] at h
      cases h
    | ok script =>
      simp only [hr] at h
      exact ⟨r, script, rfl, hr, Option.some.inj h⟩

theorem not_fragment_of_aim (h : found.aim disk base target = .file q) :
    found.isFragment = false := by
  unfold HeaderLines.aim at h
  split at h
  · cases h
  · rename_i hopen
    rw [Bool.or_eq_true, not_or] at hopen
    exact Bool.eq_false_iff.mpr hopen.1

/-- Where a line leads from some text, it leads from every one that is no fragment. -/
theorem aim_of_aim (hopen : found'.isFragment = false)
    (h : found.aim disk base target = .file q) : found'.aim disk base target = .file q := by
  unfold HeaderLines.aim at h ⊢
  split at h
  · cases h
  · rename_i hclosed
    rw [Bool.or_eq_true, not_or] at hclosed
    rw [hopen, Bool.false_or, if_neg hclosed.2]
    exact h

/-- What a script includes is included just so by a text that is no fragment. -/
theorem included_of_included (hopen : found'.isFragment = false)
    (h : (entriesReader disk base format found parse).included target = some b) :
    (entriesReader disk base format found' parse).included target = some b := by
  obtain ⟨r, script, ha, hr, rfl⟩ := exists_of_included h
  simp only [entriesReader, aim_of_aim hopen ha, hr]
  rfl

end Included

/-- **The body of a script yields in a file what the script makes**, if it has the format of the
file and lies in its folder. -/
theorem yields_inlinedBlock {found : HeaderLines} (hopen : found.isFragment = false)
    (hq : plainAt disk [] q = .ok included) (hs : disk.source q = .ok inner) (level : Nat) :
    Yields (entriesReader disk q.parent.location included.header.format found (plainAt disk []))
      level ((inlinedBlock level (Text.lines inner)).map (Line.measure 0))
      (included.frames.map Frame.entries) := by
  have hbody := yields_bodyOf_iff.mp (yields_of_script ((plainLines_of_source_iff hs).mpr hq))
  refine yields_inset level (Yields.mono ?_ ?_ ?_ hbody)
  · exact fun content a ha => ha
  · exact fun target b hb => included_of_included hopen hb
  · exact fun n hn => hn

/-- Scripts that declare the same format text have the same format. -/
theorem format_eq_of_formatText {source source' : Option Text} {base' : Location}
    {parse parse' : Path → Except Failure Script} {lines lines' : List Text} {script' : Script}
    (h : plainLines disk source base parse lines = .ok script)
    (h' : plainLines disk source' base' parse' lines' = .ok script')
    (hsame : (HeaderLines.find lines').formatText = (HeaderLines.find lines).formatText) :
    script'.header.format = script.header.format := by
  obtain ⟨header, hh, -, rfl⟩ := plainLines_ok h
  obtain ⟨header', hh', -, rfl⟩ := plainLines_ok h'
  obtain ⟨-, -, format, hformat, hread⟩ := Header.ofFound_ok hh
  obtain ⟨-, -, format', hformat', hread'⟩ := Header.ofFound_ok hh'
  rw [hformat, hformat'] at hsame
  obtain rfl := Option.some.inj hsame
  have hat := Format.read_at ⟨source, some (HeaderLines.find lines).formatLine⟩ hread'
  exact Except.ok.inj (hat.symm.trans hread)

/-! ## The inlined text -/

/-- **The lines of the inlined text make a script with the same header and the same entries.** -/
theorem plainLines_inlined {source : Option Text} (hraw : IsInclusion disk base level raw q)
    (hbase : q.parent.location = base) (hs : disk.source q = .ok inner)
    (hformat : (HeaderLines.find (Text.lines inner)).formatText =
      (HeaderLines.find (front ++ raw :: back)).formatText)
    (h : plainLines disk source base (plainAt disk []) (front ++ raw :: back) = .ok script) :
    ∃ frames, plainLines disk source base (plainAt disk [])
          (front ++ (inlinedBlock level (Text.lines inner) ++ back)) =
        .ok { script with frames := frames } ∧
      frames.map Frame.entries = script.frames.map Frame.entries := by
  obtain ⟨target, hd, hq⟩ := hraw.leads
  have hunmarked : raw.head? ≠ some '!' := Line.unmarked_of_read (by
    rw [hd]
    nofun)
  obtain ⟨header, hh, -, -⟩ := plainLines_ok h
  have hu := usable_of_read hh
  refine plainLines_of_yields h (HeaderLines.find_of_unmarked hu hunmarked _)
    (yields_bodyOf_of_tail hu hunmarked (fun front hbefore => ?_) (yields_of_script h))
  rw [List.map_append, List.map_cons] at hbefore
  rw [List.map_append, List.map_append]
  refine hbefore.replace_inclusion (isSkipped_of_inclusion hd) hraw.level hd fun b hb => ?_
  obtain ⟨r, included, ha, hr, rfl⟩ := exists_of_included hb
  obtain rfl : r = q := (HeaderLines.eq_canonical_of_aim ha).trans hq.symm
  have hsame : included.header.format = script.header.format :=
    format_eq_of_formatText h ((plainLines_of_source_iff hs).mpr hr) hformat
  have hblock := yields_inlinedBlock (not_fragment_of_aim ha) hr hs level
  rwa [hbase, hsame] at hblock

/-- **The inlined text can be written down.** -/
theorem exists_inlined (h : Text.lines text = front ++ raw :: back) (level : Nat) (inner : Text) :
    ∃ inlined, Text.lines inlined =
      front ++ (inlinedBlock level (Text.lines inner) ++ back) := by
  have hlines : Text.lines text = front ++ ([raw] ++ back) := h
  refine Text.exists_replaced hlines fun written hm => ?_
  obtain ⟨line, hline, rfl⟩ := List.mem_map.mp hm
  exact Line.unbroken_inset (Text.isBreak_of_mem_lines (List.mem_of_mem_drop hline))

/-- **A script can be inlined by hand.** For a file that can be read, with `p` its canonical path,
let a line include at some level the file `q`, which lies in the same folder and declares the same
format text. Put in place of the line, each line of the body of `q` is written so many levels
deeper. That text, handed over with the path of the file, can be read, and its frames have the same
entries; and seen from the folder of the file it has the same count as the file, the number of these
frames. It does not matter what was read and counted before. -/
theorem inline_inclusion (disk : Disk) (hd : disk.IsWritten) {path : Text} {typed : Bool}
    (hp : disk.canonical (Location.read path) = p) (hs : disk.source p = .ok text)
    (earlier : List Store.Call)
    (h : outcome (parseFile disk (Location.read path) typed (Store.afterOn disk earlier)) =
      .ok script)
    (hlines : Text.lines text = front ++ raw :: back)
    (hraw : IsInclusion disk p.parent.location level raw q) (hparent : q.parent = p.parent)
    (hq : disk.source q = .ok inner)
    (hformat : (HeaderLines.find (Text.lines inner)).formatText =
      (HeaderLines.find (Text.lines text)).formatText) :
    (∃ inlined, Text.lines inlined =
      front ++ (inlinedBlock level (Text.lines inner) ++ back)) ∧
    ∀ inlined, Text.lines inlined = front ++ (inlinedBlock level (Text.lines inner) ++ back) →
      ∀ later later' : List Store.Call,
        (∃ again, outcome (parseText disk inlined (some p.text) typed
            (Store.afterOn disk later)) = .ok again ∧
          again.frames.map Frame.entries = script.frames.map Frame.entries) ∧
        outcome (Count.countText disk inlined (some p.parent.text) (Store.afterOn disk later)) =
          outcome (Count.countFile disk (Location.read path) (Store.afterOn disk later')) ∧
        outcome (Count.countText disk inlined (some p.parent.text) (Store.afterOn disk later)) =
          .ok (some script.frames.length) := by
  have hnamed : p.IsNamed := hp ▸ Disk.isNamed_canonical hd (Location.isWritten_read path)
  obtain ⟨hbase, hcountBase⟩ := bases_of_named disk hnamed
  rw [Store.outcome_parseFile] at h
  obtain ⟨hfile, hkind⟩ := bind_plainDemand_eq_ok.mp h
  have hscript : plainAt disk [] p = .ok script := hp ▸ plainAt_of_typed h
  have hplain := (plainLines_of_source_iff hs).mpr hscript
  rw [hlines] at hplain hformat
  obtain ⟨frames, hframes, hsame⟩ :=
    plainLines_inlined hraw (congrArg Path.location hparent) hq hformat hplain
  have hlength : frames.length = script.frames.length := by
    rw [← List.length_map Frame.entries, hsame, List.length_map]
  refine ⟨exists_inlined hlines level inner, fun inlined hinlined later later' => ?_⟩
  have hcount : outcome (Count.countText disk inlined (some p.parent.text)
      (Store.afterOn disk later)) = .ok (some script.frames.length) := by
    rw [Store.outcome_countText, hcountBase, hinlined, ← hlength]
    exact number_of_lines hframes fun r included hr => number_of_script hr
  refine ⟨⟨{ script with frames := frames }, ?_, hsame⟩, ?_, hcount⟩
  · rw [Store.outcome_parseText, plainText, hbase, hinlined]
    exact bind_plainDemand_eq_ok.mpr ⟨hframes, hkind⟩
  · rw [hcount, Store.outcome_countFile, countFile_of_script h]

/-! A file with a repetition that includes a fragment, which begins with another repetition. -/

/-- The text of the file. -/
def outerText : Text :=
  "!FORMAT: <KA>\nREPEAT 2\n    INCLUDE sub\n    .\na\n".toList

/-- The text of the fragment, with a tab and a blank line. -/
def innerText : Text :=
  "!TYPE: FRAGMENT\n!FORMAT: <KA>\nREPEAT 3\n\tb\n\n.\n".toList

/-- The text of the file with the fragment inlined. -/
def joinedText : Text :=
  "!FORMAT: <KA>\nREPEAT 2\n    REPEAT 3\n    \tb\n    \n    .\n    .\na\n".toList

/-- The fragment. -/
def innerPath : Path := ⟨["w".toList, "sub".toList]⟩

/-- A disk with both files, and its reader in their folder. -/
def pairDisk : Disk :=
  ((Disk.empty nestedPath.parent).put nestedPath
    (.file (outerText.map fun c => UInt8.ofNat c.toNat))).put innerPath
    (.file (innerText.map fun c => UInt8.ofNat c.toNat))

theorem isWritten_pair : pairDisk.IsWritten := by
  refine Disk.isWritten_put (Disk.isWritten_put (Disk.isWritten_empty fun name hm => ?_) ?_) ?_
  · rw [List.mem_singleton.mp hm]
    exact ⟨⟨by decide, by decide⟩, by decide, by decide⟩
  · exact fun target he => by cases he
  · exact fun target he => by cases he

/-- Where two files of one folder are found: from where the reader stands, and by a line of the one
that names the other. -/
theorem canonical_neighbours {disk : Disk} (hlinks : disk.links = [])
    (hhere : disk.here = nestedPath.parent) :
    disk.canonical (Location.read "main".toList) = nestedPath ∧
      disk.canonical (nestedPath.parent.location.under (Location.read "sub".toList)) =
        innerPath := by
  have hsub : nestedPath.parent.location.under (Location.read "sub".toList) =
      innerPath.location := by decide +kernel
  constructor
  · have hstart : disk.startOf (Location.read "main".toList) = nestedPath.parent := hhere
    rw [Disk.canonical, Disk.follow_of_no_links hlinks (by decide), hstart]
    decide
  · rw [hsub]
    exact Disk.canonical_location hlinks (by decide)

theorem canonical_pair :
    pairDisk.canonical (Location.read "main".toList) = nestedPath ∧
      pairDisk.canonical (nestedPath.parent.location.under (Location.read "sub".toList)) =
        innerPath :=
  canonical_neighbours (by decide +kernel) (by decide +kernel)

/-- The file makes a script. -/
theorem exists_script_pair : ∃ script, plainAt pairDisk [] nestedPath = .ok script := by
  have hs : pairDisk.source nestedPath = .ok outerText := by decide +kernel
  have hread : (plainLines pairDisk (some nestedPath.text) nestedPath.parent.location
      (fun _ => plainAt pairDisk [nestedPath] innerPath) (Text.lines outerText)).toOption.isSome =
        true := by decide +kernel
  have houtline : outlineOf (Text.lines outerText) =
      .loop (Line.measure 2 "REPEAT 2".toList) 2
        (.leaf (Line.measure 3 "    INCLUDE sub".toList) (.inclusion "sub".toList)
          (.leaf (Line.measure 4 "    .".toList) .data .nil))
        (.leaf (Line.measure 5 ['a']) .data .nil) := by decide +kernel
  obtain ⟨script, h⟩ := exists_ok_of_isSome hread
  refine ⟨script, plainAt_of_sole_target List.not_mem_nil hs (fun line own hstep => ?_)
    canonical_pair.2 h⟩
  rw [houtline] at hstep
  simp only [Outline.steps, List.mem_append, List.mem_cons, List.not_mem_nil, or_false,
    reduceCtorEq, false_or, Outline.Step.leaf.injEq, Item.inclusion.injEq, and_false] at hstep
  exact hstep.2

/-- The file and the inlined text make eleven frames, with the same entries. -/
theorem inline_inclusion_fragment :
    IsInclusion pairDisk nestedPath.parent.location 1 "    INCLUDE sub".toList innerPath ∧
    ∃ script again,
      outcome (parseFile pairDisk (Location.read "main".toList) false
        (Store.afterOn pairDisk [])) = .ok script ∧
      outcome (parseText pairDisk joinedText (some nestedPath.text) false
        (Store.afterOn pairDisk [])) = .ok again ∧
      again.frames.map Frame.entries = script.frames.map Frame.entries ∧
      outcome (Count.countFile pairDisk (Location.read "main".toList)
        (Store.afterOn pairDisk [])) = .ok (some 11) := by
  have hraw : IsInclusion pairDisk nestedPath.parent.location 1 "    INCLUDE sub".toList
      innerPath := ⟨by decide, "sub".toList, by decide, canonical_pair.2.symm⟩
  obtain ⟨script, hscript⟩ := exists_script_pair
  have hread : outcome (parseFile pairDisk (Location.read "main".toList) false
      (Store.afterOn pairDisk [])) = .ok script := by
    rw [Store.outcome_parseFile, plainFileTyped_false, plainFile, if_pos (by decide),
      canonical_pair.1, hscript]
  have hlines : Text.lines outerText = ["!FORMAT: <KA>".toList, "REPEAT 2".toList] ++
      "    INCLUDE sub".toList :: ["    .".toList, ['a']] := by decide +kernel
  have hjoined : Text.lines joinedText = ["!FORMAT: <KA>".toList, "REPEAT 2".toList] ++
      (inlinedBlock 1 (Text.lines innerText) ++ ["    .".toList, ['a']]) := by decide +kernel
  have heleven : outcome (Count.countText pairDisk joinedText (some nestedPath.parent.text)
      (Store.afterOn pairDisk [])) = .ok (some 11) := by decide +kernel
  obtain ⟨-, hall⟩ := inline_inclusion pairDisk isWritten_pair canonical_pair.1
    (show pairDisk.source nestedPath = .ok outerText by decide +kernel) [] hread hlines hraw
    (by decide) (show pairDisk.source innerPath = .ok innerText by decide +kernel)
    (by decide +kernel)
  obtain ⟨⟨again, hagain, hsame⟩, hcount, -⟩ := hall joinedText hjoined [] []
  exact ⟨hraw, script, again, hread, hagain, hsame, hcount ▸ heleven⟩

end Script

end FrameScript
