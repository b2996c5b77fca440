import FrameScript.Proofs.Disk.Alike
import FrameScript.Proofs.Input.Rearranged
import FrameScript.Proofs.Outline.Silence
import FrameScript.Proofs.Script.Excess
import FrameScript.Proofs.Script.Inlined

/-!
# Files that declare their fields in another order

Whoever declares the fields of a file in another order, and writes the values of each line of data
in that order, changes nothing about what is played, be the file loaded or included. Each file may
have an order of its own: a delta depends on the values of the fields only, and not on the places
where they stand (`Compiler.compile_iff_of_rearranges`).

The two files are read side by side. A body that yields something yields related values when its
lines are exchanged for lines that correspond to them, by the rules of `Outline.Yields`.

## Results

* `Outline.Yields.exists_related`: lines that correspond yield related values.
* `Script.plainAt_rearranged`: a file that is rearranged makes the same script, with the entries of
  the frames in another order.
* `Script.column_order_is_inert`: **the order of the fields does not matter.**
-/

namespace FrameScript

namespace Outline

variable {α β : Type} {R : α → β → Prop} {S : Text → Text → Prop} {r : Reader α} {r' : Reader β}
  {level : Nat} {lines others : List Line} {v : List α}

/-! ## Lines that correspond -/

/-- Two lines read alike, or they are lines of data, equally deep, of which the contents
correspond. -/
inductive Corresponds (S : Text → Text → Prop) : Nat × Text → Nat × Text → Prop
  | same (wording : Nat × Text) (hd : Directive.read wording.2 ≠ .data) :
    Corresponds S wording wording
  | data (indent : Nat) {content content' : Text} (hd : Directive.read content = .data)
      (hd' : Directive.read content' = .data) (hs : S content content') :
    Corresponds S (indent, content) (indent, content')

/-- Where the one reader finds something, the other one finds what is related to it. -/
structure Reader.Relates (R : α → β → Prop) (S : Text → Text → Prop) (r : Reader α)
    (r' : Reader β) : Prop where
  data : ∀ content content' a, S content content' → r.data content = some a →
    ∃ a', r'.data content' = some a' ∧ R a a'
  included : ∀ target b, r.included target = some b →
    ∃ b', r'.included target = some b' ∧ List.Forall₂ R b b'
  repeats : ∀ n, r.repeats n → r'.repeats n

theorem forall₂_copies {b : List α} {b' : List β} (h : List.Forall₂ R b b') (n : Nat) :
    List.Forall₂ R (copies n b) (copies n b') := by
  induction n with
  | zero =>
    rw [copies_zero, copies_zero]
    exact .nil
  | succ n ih =>
    rw [copies_succ, copies_succ]
    exact List.rel_append h ih

namespace Corresponds

variable {wording wording' : Nat × Text}

theorem eq_of_ne_data (h : Corresponds S wording wording')
    (hd : Directive.read wording.2 ≠ .data) : wording' = wording := by
  cases h with
  | same => rfl
  | data _ hdata => exact absurd hdata hd

theorem of_data (h : Corresponds S wording wording') (hd : Directive.read wording.2 = .data) :
    wording'.1 = wording.1 ∧ Directive.read wording'.2 = .data ∧ S wording.2 wording'.2 := by
  cases h with
  | same _ hnot => exact absurd hd hnot
  | data _ _ hd' hs => exact ⟨rfl, hd', hs⟩

end Corresponds

/-- Two lines say something and correspond. -/
def Corresponding (S : Text → Text → Prop) (line other : Line) : Prop :=
  line.isSkipped = false ∧ other.isSkipped = false ∧ Corresponds S line.wording other.wording

theorem corresponding_of_wordings
    (h : List.Forall₂ (Corresponds S) (Line.wordings lines) (Line.wordings others)) :
    List.Forall₂ (Corresponding S) (lines.filter Line.isSaid) (others.filter Line.isSaid) := by
  have hsaid (ls : List Line) : ∀ line ∈ ls.filter Line.isSaid, line.isSkipped = false :=
    fun line hm => by simpa [Line.isSaid] using (List.mem_filter.mp hm).2
  rw [Line.wordings, Line.wordings, List.forall₂_map_left_iff, List.forall₂_map_right_iff] at h
  have hflip := (List.forall₂_and_left _ _).mpr ⟨hsaid others, h.flip⟩
  exact (List.forall₂_and_left _ _).mpr ⟨hsaid lines, hflip.flip⟩

theorem Yields.exists_related_of_said (hr : r.Relates R S r') (h : Yields r level lines v)
    (hl : List.Forall₂ (Corresponding S) lines others) :
    ∃ w, Yields r' level others w ∧ List.Forall₂ R v w := by
  -- lines that say nothing are left out on both sides, so that the lines stand side by side
  induction h generalizing others with
  | nil =>
    cases hl
    exact ⟨[], .nil, .nil⟩
  | skip hs =>
    obtain ⟨other, rest', ⟨hsaid, -, -⟩, -, rfl⟩ := List.forall₂_cons_left_iff.mp hl
    rw [hsaid] at hs
    cases hs
  | @data _ line _ a _ _ hlevel hd ha _ ih =>
    obtain ⟨other, rest', ⟨-, hsaid, hline⟩, hrest, rfl⟩ := List.forall₂_cons_left_iff.mp hl
    obtain ⟨w, hw, hv⟩ := ih hrest
    obtain ⟨hindent, hd', hs⟩ := hline.of_data hd
    obtain ⟨a', ha', hR⟩ := hr.data _ _ a hs ha
    have hlevel' : other.level? = line.level? := by
      rw [Line.level?, Line.level?, show other.indent = line.indent from hindent]
    exact ⟨a' :: w, .data hsaid (hlevel'.trans hlevel) hd' ha' hw, .cons hR hv⟩
  | @inclusion _ line _ _ b _ hs hlevel hd hi _ ih =>
    obtain ⟨other, rest', ⟨-, -, hline⟩, hrest, rfl⟩ := List.forall₂_cons_left_iff.mp hl
    obtain ⟨w, hw, hv⟩ := ih hrest
    obtain ⟨b', hb', hR⟩ := hr.included _ b hi
    have hne : Directive.read line.content ≠ .data := by simp [hd]
    rw [Yields.eq_of_wording (hline.eq_of_ne_data hne).symm]
    exact ⟨b' ++ w, .inclusion hs hlevel hd hb' hw, List.rel_append hR hv⟩
  | @repetition _ count line block rest _ _ hs hlevel ho hn _ _ ihb ihr =>
    -- the other body has as many lines as this one
    obtain ⟨other, later, ⟨-, -, hline⟩, hlater, rfl⟩ := List.forall₂_cons_left_iff.mp hl
    obtain ⟨b', hb', hRb⟩ := ihb (List.forall₂_take_append _ _ _ hlater.flip).flip
    obtain ⟨w, hw, hv⟩ := ihr (List.forall₂_drop_append _ _ _ hlater.flip).flip
    have hne : Directive.read line.content ≠ .data := fun hd => by
      rw [Line.opens?_of_data hd] at ho
      cases ho
    rw [Yields.eq_of_wording (hline.eq_of_ne_data hne).symm]
    refine ⟨Outline.copies count b' ++ w, ?_, List.rel_append (forall₂_copies hRb count) hv⟩
    rw [← List.take_append_drop block.length later]
    exact .repetition hs hlevel ho (hr.repeats _ hn) hb' hw

/-- **Lines that correspond yield related values**, whatever stands between them that says
nothing. -/
theorem Yields.exists_related (hr : r.Relates R S r') (h : Yields r level lines v)
    (hl : List.Forall₂ (Corresponds S) (Line.wordings lines) (Line.wordings others)) :
    ∃ w, Yields r' level others w ∧ List.Forall₂ R v w := by
  obtain ⟨w, hw, hv⟩ := h.filter.exists_related_of_said hr (corresponding_of_wordings hl)
  exact ⟨w, hw.of_filter, hv⟩

end Outline

/-! ## Headers -/

namespace Header

variable {source : Option Text} {found : HeaderLines} {header : Header}

theorem readKind_at (source' : Option Text) {kind : Option ScriptKind}
    (h : readKind source found = .ok kind) : readKind source' found = .ok kind := by
  unfold readKind at h ⊢
  split at h
  · exact h
  · split at h
    · exact h
    · cases h

/-- Where a header stands matters for its faults only. -/
theorem ofFound_at (source' : Option Text) (h : ofFound source found = .ok header) :
    ofFound source' found = .ok header := by
  unfold ofFound at h
  split at h
  · cases h
  · rename_i kind hkind
    split at h
    · cases h
    · rename_i text hformat
      split at h
      · cases h
      · rename_i format hread
        simp only [ofFound, readKind_at source' hkind, hformat, Format.read_at _ hread]
        exact h

end Header

/-! ## Lines -/

namespace Script

open Outline Reading

/-- The entries that a line of data with the given content has in a format. -/
def entries? (format : Format) (content : Text) : Option (List (Text × Text)) :=
  (format.tokens? content).map fun tokens => (format.fields.map Field.name).zip tokens

/-- Two lines of data have the same entries, each in its own format and in whatever order, or
neither matches its format. -/
def SameEntries (format format' : Format) (content content' : Text) : Prop :=
  Option.Rel List.Perm (entries? format content) (entries? format' content')

/-- The lines of a script in another order of the fields: the same kind, and a body that reads like
the other one, but for the lines of data, which have the same entries. -/
def IsRearranged (lines lines' : List Text) : Prop :=
  ∃ header header', Header.read none lines = .ok header ∧ Header.read none lines' = .ok header' ∧
    header'.kind = header.kind ∧
    List.Forall₂ (Corresponds (SameEntries header.format header'.format))
      (Line.wordings (bodyOf lines)) (Line.wordings (bodyOf lines'))

variable {disk disk' : Disk} {source : Option Text} {base : Location} {chain : List Path} {p : Path}
  {script : Script} {lines lines' : List Text} {format format' : Format} {content content' : Text}
  {parse parse' : Path → Except Failure Script}

theorem sameEntries_refl (format : Format) (content : Text) :
    SameEntries format format content content := by
  unfold SameEntries
  cases entries? format content with
  | none => exact .none
  | some entries => exact .some (.refl entries)

theorem SameEntries.symm (h : SameEntries format format' content content') :
    SameEntries format' format content' content := by
  unfold SameEntries at h ⊢
  generalize entries? format content = entries at h
  generalize entries? format' content' = entries' at h
  cases h with
  | none => exact .none
  | some hperm => exact .some hperm.symm

theorem sameEntries_of_perm {entries entries' : List (Text × Text)}
    (h : entries? format content = some entries) (h' : entries? format' content' = some entries')
    (hperm : entries.Perm entries') : SameEntries format format' content content' := by
  unfold SameEntries
  rw [h, h']
  exact .some hperm

theorem isRearranged_refl {header : Header} (h : Header.read source lines = .ok header) :
    IsRearranged lines lines := by
  have hread := Header.ofFound_at none h
  refine ⟨header, header, hread, hread, rfl, List.forall₂_same.mpr fun wording _ => ?_⟩
  by_cases hd : Directive.read wording.2 = .data
  · exact .data wording.1 hd hd (sameEntries_refl _ _)
  · exact .same wording hd

theorem IsRearranged.symm (h : IsRearranged lines lines') : IsRearranged lines' lines := by
  obtain ⟨header, header', hread, hread', hkind, hbody⟩ := h
  refine ⟨header', header, hread', hread, hkind.symm, hbody.flip.imp ?_⟩
  rintro _ _ (⟨_, hd⟩ | ⟨_, hd, hd', hs⟩)
  · exact .same _ hd
  · exact .data _ hd' hd hs.symm

/-- Headers of the same kind lead to the same files, on disks where locations lead to the same
paths. -/
theorem aim_of_sameKind {header header' : Header} (hread : Header.read none lines = .ok header)
    (hread' : Header.read none lines' = .ok header') (hkind : header'.kind = header.kind)
    (hc : ∀ l, disk'.canonical l = disk.canonical l) (base : Location) (target : Text) :
    (HeaderLines.find lines').aim disk' base target =
      (HeaderLines.find lines).aim disk base target := by
  have hfragment : (HeaderLines.find lines').isFragment = (HeaderLines.find lines).isFragment := by
    rw [Bool.eq_iff_iff, (Header.ofFound_ok hread).2.1, (Header.ofFound_ok hread').2.1, hkind]
  rw [HeaderLines.aim, HeaderLines.aim, hfragment, hc]

/-- **Lines that are rearranged make a script with the entries of its frames rearranged**, if the
scripts do that they include. -/
theorem plainLines_rearranged (hc : ∀ l, disk'.canonical l = disk.canonical l)
    (h : plainLines disk source base parse lines = .ok script) (hl : IsRearranged lines lines')
    (hp : ∀ q included, parse q = .ok included → ∃ included', parse' q = .ok included' ∧
      List.Forall₂ Frame.Rearranges included.frames included'.frames) :
    ∃ script', plainLines disk' source base parse' lines' = .ok script' ∧
      script'.header.kind = script.header.kind ∧
      List.Forall₂ Frame.Rearranges script.frames script'.frames := by
  obtain ⟨header, header', hread, hread', hkind, hbody⟩ := hl
  have hheader : script.header = header := by
    obtain ⟨own, hown, -, rfl⟩ := plainLines_ok h
    exact Except.ok.inj (hown.symm.trans (Header.ofFound_at source hread))
  -- the entries of the frames are what the body yields, by rules that the other body follows too
  have hyields := yields_of_script h
  rw [hheader] at hyields
  have hrelates : Reader.Relates List.Perm (SameEntries header.format header'.format)
      (entriesReader disk base header.format (HeaderLines.find lines) parse)
      (entriesReader disk' base header'.format (HeaderLines.find lines') parse') := by
    refine ⟨fun content content' a hs ha => ?_, fun target b hb => ?_, fun _ hn => hn⟩
    · have ha : entries? header.format content = some a := ha
      unfold SameEntries at hs
      rw [ha] at hs
      generalize hother : entries? header'.format content' = other at hs
      cases hs with
      | some hperm => exact ⟨_, hother, hperm⟩
    · obtain ⟨q, included, haim, hq, rfl⟩ := exists_of_included hb
      obtain ⟨included', hq', hframes⟩ := hp q included hq
      refine ⟨included'.frames.map Frame.entries, ?_, ?_⟩
      · simp only [entriesReader, aim_of_sameKind hread hread' hkind hc, haim, hq']
        rfl
      · rw [List.forall₂_map_left_iff, List.forall₂_map_right_iff]
        exact hframes
  obtain ⟨w, hw, hrel⟩ := hyields.exists_related hrelates hbody
  obtain ⟨frames, hframes, rfl⟩ :=
    (yields_iff_unrolled (follows_entriesReader disk' source base header'.format _ parse')
      source).mp hw
  have hunrolled : (outlineOf lines').unrolled source (plainData source header'.format)
      (plainInclusion disk' source base (HeaderLines.find lines') parse') = .ok frames := hframes
  refine ⟨⟨source, header', frames⟩, ?_, hkind.trans (congrArg Header.kind hheader.symm), ?_⟩
  · have hown : Header.read source lines' = .ok header' := Header.ofFound_at source hread'
    simp only [plainLines, hown, hunrolled]
    rfl
  · rwa [List.forall₂_map_left_iff, List.forall₂_map_right_iff] at hrel

end Script

/-! ## Files -/

/-- The disks have the same tree, and where a file of the one has other contents than that of the
other, both hold a script, in two orders of the fields. -/
structure Disk.IsRearranged (disk disk' : Disk) : Prop extends Disk.Alike disk disk' where
  files : ∀ p bytes bytes', disk.find? p = some (.file bytes) →
    disk'.find? p = some (.file bytes') → bytes' = bytes ∨
      ∃ text text', Disk.textOf bytes = .ok text ∧ Disk.textOf bytes' = .ok text' ∧
        Script.IsRearranged (Text.lines text) (Text.lines text')

namespace Disk.IsRearranged

variable {disk disk' : Disk} {p : Path} {text : Text}

theorem symm (h : disk.IsRearranged disk') : disk'.IsRearranged disk where
  toAlike := h.toAlike.symm
  files p bytes' bytes hb' hb := (h.files p bytes bytes' hb hb').imp Eq.symm
    fun ⟨text, text', ht, ht', hr⟩ => ⟨text', text, ht', ht, hr.symm⟩

/-- A text that is found is found again, or is found in another order of the fields. -/
theorem exists_source (h : disk.IsRearranged disk') (hs : disk.source p = .ok text) :
    ∃ text', disk'.source p = .ok text' ∧
      (text' = text ∨ Script.IsRearranged (Text.lines text) (Text.lines text')) := by
  unfold source at hs ⊢
  split at hs
  · cases hs
  · rename_i hshort
    rw [if_neg hshort]
    unfold contents at hs ⊢
    cases hf : disk.find? p with
    | none =>
      rw [hf] at hs
      cases hs
    | some node =>
      rw [hf] at hs
      cases node with
      | folder => cases hs
      | link target => cases hs
      | file bytes =>
        obtain ⟨bytes', hf'⟩ := h.exists_file hf
        rw [hf']
        rcases h.files p bytes bytes' hf hf' with rfl | ⟨own, text', hown, ht', hr⟩
        · exact ⟨text, hs, Or.inl rfl⟩
        · obtain rfl := Except.ok.inj (hown.symm.trans hs)
          exact ⟨text', ht', Or.inr hr⟩

end Disk.IsRearranged

/-- Writing a script in the one or the other order of the fields. -/
theorem Disk.isRearranged_put (disk : Disk) (p : Path) {bytes bytes' : List UInt8}
    {text text' : Text} (ht : textOf bytes = .ok text) (ht' : textOf bytes' = .ok text')
    (h : Script.IsRearranged (Text.lines text) (Text.lines text')) :
    (disk.put p (.file bytes)).IsRearranged (disk.put p (.file bytes')) where
  toAlike := alike_put disk p bytes bytes'
  files q own own' hf hf' := by
    unfold find? put at hf hf'
    rw [List.lookup_cons] at hf hf'
    cases hq : q == p with
    | true =>
      rw [hq] at hf hf'
      obtain rfl := Node.file.inj (Option.some.inj hf)
      obtain rfl := Node.file.inj (Option.some.inj hf')
      exact Or.inr ⟨text, text', ht, ht', h⟩
    | false =>
      rw [hq] at hf hf'
      exact Or.inl (Node.file.inj (Option.some.inj (hf'.symm.trans hf)))

namespace Script

open Outline Reading

variable {disk disk' : Disk} {chain : List Path} {p : Path} {script : Script} {l : Location}
  {typed : Bool} {compiler : Compiler} {deltas : List Delta}

/-- **A file that is rearranged makes the same script**, with the entries of the frames in another
order. The induction is on the room that the files in progress leave for others. -/
theorem plainAt_rearranged (hd : disk.IsRearranged disk')
    (h : plainAt disk chain p = .ok script) :
    ∃ script', plainAt disk' chain p = .ok script' ∧ script'.header.kind = script.header.kind ∧
      List.Forall₂ Frame.Rearranges script.frames script'.frames := by
  induction hr : room disk.paths chain using Nat.strongRecOn generalizing chain p script with
  | ind k ih =>
    obtain ⟨hc, text, hs⟩ := source_of_ok h
    rw [plainAt_of_ok hc hs] at h
    obtain ⟨text', hs', hl⟩ := hd.exists_source hs
    have hl : IsRearranged (Text.lines text) (Text.lines text') := by
      rcases hl with rfl | hl
      · obtain ⟨header, hread, -, -⟩ := plainLines_ok h
        exact isRearranged_refl hread
      · exact hl
    have hroom := hr ▸ Disk.room_lt_of_source hc hs
    rw [plainAt_of_ok hc hs']
    refine plainLines_rearranged hd.canonical_eq h hl fun q included hq => ?_
    obtain ⟨included', hq', -, hframes⟩ := ih _ hroom hq rfl
    exact ⟨included', hq', hframes⟩

theorem compiled_eq_ok_iff {read : Except Failure Script} :
    read.bind (fun script => compiler.compileAll script.frames) = .ok deltas ↔
      ∃ script, read = .ok script ∧ compiler.compileAll script.frames = .ok deltas := by
  cases read with
  | error failure => exact ⟨nofun, fun ⟨_, hnone, _⟩ => nomatch hnone⟩
  | ok script => exact ⟨fun h => ⟨script, rfl, h⟩, fun ⟨_, hs, h⟩ => Except.ok.inj hs ▸ h⟩

/-- What a file is played as is what its rearranged form is played as. -/
theorem compiled_rearranged (hd : disk.IsRearranged disk')
    (h : (plainFileTyped disk l typed).bind (fun script => compiler.compileAll script.frames) =
      .ok deltas) :
    (plainFileTyped disk' l typed).bind (fun script => compiler.compileAll script.frames) =
      .ok deltas := by
  obtain ⟨script, hplain, hdeltas⟩ := compiled_eq_ok_iff.mp h
  obtain ⟨hfile, hdemand⟩ := bind_plainDemand_eq_ok.mp hplain
  unfold plainFile at hfile
  split at hfile
  · rename_i hsound
    have honce : ∀ frame ∈ script.frames, frame.NamesOnce := fun frame hm => by
      obtain ⟨q, text, header, line, -, horigin⟩ := exists_origin hfile hm
      exact horigin.namesOnce
    obtain ⟨script', hfile', hkind, hframes⟩ := plainAt_rearranged hd hfile
    refine compiled_eq_ok_iff.mpr ⟨script', bind_plainDemand_eq_ok.mpr ⟨?_, by rw [hkind, hdemand]⟩,
      (Compiler.compileAll_iff_of_rearranges hframes honce).mpr hdeltas⟩
    rw [plainFile, if_pos hsound, hd.canonical_eq, hfile']
  · cases hfile

/-- **The order of the fields does not matter.** Frames without repeated names have the same delta,
or none, when their entries and those of the frame before are put in another order, whatever the
names mean and whether or not repeated moves are left out. And files on two disks that differ in the
order in which they declare their fields, each in its own way, are loaded and compiled to the same
deltas, or cannot be, whatever was read and counted before. -/
theorem column_order_is_inert (compiler : Compiler) :
    (∀ (frame frame' : Frame) (previous previous' : Option Frame), frame.NamesOnce →
      (∀ p ∈ previous, p.NamesOnce) → frame.Rearranges frame' →
      Option.Rel Frame.Rearranges previous previous' → ∀ delta,
        compiler.compile frame' previous' = .ok delta ↔
          compiler.compile frame previous = .ok delta) ∧
    ∀ disk disk' : Disk, disk.IsRearranged disk' →
      ∀ (l : Location) (typed : Bool) (calls calls' : List Store.Call) (deltas : List Delta),
        outcome (loadCompiled disk' l typed compiler (Store.afterOn disk' calls')) = .ok deltas ↔
          outcome (loadCompiled disk l typed compiler (Store.afterOn disk calls)) = .ok deltas := by
  refine ⟨fun frame frame' previous previous' ho hpo h hp delta =>
    Compiler.compile_iff_of_rearranges h ho hp hpo,
    fun disk disk' hd l typed calls calls' deltas => ?_⟩
  rw [(gives_loadCompiled _ (Store.sound_after disk calls)).1,
    (gives_loadCompiled _ (Store.sound_after disk' calls')).1]
  exact ⟨compiled_rearranged hd.symm, compiled_rearranged hd⟩

/-! Frames in which two names mean one key, and a file that includes one with another order of the
fields. -/

/-- A frame with two names for one key, and the mouse. -/
def crowdedFrame : Frame :=
  ⟨[("KA".toList, ['a']), ("Ka".toList, ['.']), ("MX".toList, ['3']), ("MY".toList, ['4'])],
    ⟨none, none⟩⟩

/-- The frame before it. -/
def crowdedPrior : Frame :=
  ⟨[("KA".toList, ['.']), ("Ka".toList, ['b']), ("MX".toList, ['3']), ("MY".toList, ['4'])],
    ⟨none, none⟩⟩

/-- The frame with its entries the other way round. -/
def reversed (frame : Frame) : Frame :=
  { frame with entries := frame.entries.reverse }

theorem rearranges_reversed (frame : Frame) : frame.Rearranges (reversed frame) :=
  (List.reverse_perm frame.entries).symm

/-- The text of the file. -/
def hostText : Text :=
  "!FORMAT: <KA> <MX>:<MY>\na 1:2\nINCLUDE sub\n".toList

/-- The text that it includes, with an order of its own. -/
def swappedText : Text :=
  "!FORMAT: <MY> <MX> <KA>\n4 3 b\n\n2 . .\n".toList

/-- That text in the order of the file. -/
def alignedText : Text :=
  "!FORMAT: <KA> <MX>:<MY>\nb 3:4\n. .:2\n".toList

/-- A disk with the file and one that it includes, and its reader in their folder. -/
def hostDisk (inner : Text) : Disk :=
  ((Disk.empty nestedPath.parent).put nestedPath
    (.file (hostText.map fun c => UInt8.ofNat c.toNat))).put innerPath
    (.file (inner.map fun c => UInt8.ofNat c.toNat))

/-- The format of the included text. -/
def swappedFormat : Format :=
  ⟨"<MY> <MX> <KA>".toList, [], [⟨⟨"MY".toList, .mouseY⟩, [' ']⟩,
    ⟨⟨"MX".toList, .mouseX⟩, [' ']⟩, ⟨⟨"KA".toList, .key 65⟩, []⟩]⟩

/-- The format of the file. -/
def hostFormat : Format :=
  ⟨"<KA> <MX>:<MY>".toList, [], [⟨⟨"KA".toList, .key 65⟩, [' ']⟩,
    ⟨⟨"MX".toList, .mouseX⟩, [':']⟩, ⟨⟨"MY".toList, .mouseY⟩, []⟩]⟩

theorem isRearranged_aligned : IsRearranged (Text.lines swappedText) (Text.lines alignedText) := by
  have hbody : Line.wordings (bodyOf (Text.lines swappedText)) =
      [(0, "4 3 b".toList), (0, "2 . .".toList)] := by decide +kernel
  have hbody' : Line.wordings (bodyOf (Text.lines alignedText)) =
      [(0, "b 3:4".toList), (0, ". .:2".toList)] := by decide +kernel
  have hfirst : SameEntries swappedFormat hostFormat "4 3 b".toList "b 3:4".toList :=
    sameEntries_of_perm
      (show _ = some [("MY".toList, ['4']), ("MX".toList, ['3']), ("KA".toList, ['b'])] by
        decide +kernel)
      (show _ = some [("KA".toList, ['b']), ("MX".toList, ['3']), ("MY".toList, ['4'])] by
        decide +kernel) (by decide)
  have hsecond : SameEntries swappedFormat hostFormat "2 . .".toList ". .:2".toList :=
    sameEntries_of_perm
      (show _ = some [("MY".toList, ['2']), ("MX".toList, ['.']), ("KA".toList, ['.'])] by
        decide +kernel)
      (show _ = some [("KA".toList, ['.']), ("MX".toList, ['.']), ("MY".toList, ['2'])] by
        decide +kernel) (by decide)
  refine ⟨⟨none, swappedFormat⟩, ⟨none, hostFormat⟩, by decide +kernel, by decide +kernel, rfl, ?_⟩
  rw [hbody, hbody']
  exact .cons (.data 0 (by decide) (by decide) hfirst)
    (.cons (.data 0 (by decide) (by decide) hsecond) .nil)

/-- What is played of the file: the key is pressed, and pressed again with another value at another
place of the mouse, and released. -/
def hostDeltas : List Delta :=
  [{ Delta.none with move := some (1, 2), pressKeys := .ofList [65] },
    { Delta.none with move := some (3, 4), pressKeys := .ofList [65] },
    { Delta.none with releaseKeys := .ofList [65] }]

theorem compiled_host :
    (plainFileTyped (hostDisk swappedText) (Location.read "main".toList) false).bind
      (fun script => Compiler.compileAll ⟨⟨0, 0⟩, true⟩ script.frames) = .ok hostDeltas := by
  have hlinks : (hostDisk swappedText).links = [] := by decide +kernel
  obtain ⟨hmain, hsub⟩ := canonical_neighbours hlinks (by decide +kernel)
  have hs : (hostDisk swappedText).source nestedPath = .ok hostText := by decide +kernel
  have houtline : outlineOf (Text.lines hostText) =
      .leaf (Line.measure 2 "a 1:2".toList) .data
        (.leaf (Line.measure 3 "INCLUDE sub".toList) (.inclusion "sub".toList) .nil) := by
    decide +kernel
  have hread : (plainLines (hostDisk swappedText) (some nestedPath.text) nestedPath.parent.location
      (fun _ => plainAt (hostDisk swappedText) [nestedPath] innerPath) (Text.lines hostText)).bind
      (fun script => Compiler.compileAll ⟨⟨0, 0⟩, true⟩ script.frames) = .ok hostDeltas := by
    decide +kernel
  obtain ⟨script, hscript, hdeltas⟩ := compiled_eq_ok_iff.mp hread
  rw [plainFileTyped_false, plainFile, if_pos (by decide), hmain, compiled_eq_ok_iff]
  refine ⟨script, plainAt_of_sole_target List.not_mem_nil hs (fun line own hstep => ?_) hsub
    hscript, hdeltas⟩
  rw [houtline] at hstep
  simp only [Outline.steps, List.mem_cons, List.not_mem_nil, or_false, Step.leaf.injEq,
    Item.inclusion.injEq, reduceCtorEq, and_false, false_or] at hstep
  exact hstep.2

/-- The key is pressed under one of its names and released under the other, in every order; and the
file is played alike, in whichever order the text is written that it includes. -/
theorem column_order_is_inert_mixed :
    Compiler.compile ⟨⟨0, 0⟩, true⟩ (reversed crowdedFrame) (some (reversed crowdedPrior)) =
        .ok { Delta.none with pressKeys := .ofList [65], releaseKeys := .ofList [65] } ∧
      (hostDisk swappedText).IsRearranged (hostDisk alignedText) ∧
      outcome (loadCompiled (hostDisk alignedText) (Location.read "main".toList) false
          ⟨⟨0, 0⟩, true⟩ (Store.afterOn (hostDisk alignedText) [])) =
        .ok hostDeltas := by
  have hdisks : (hostDisk swappedText).IsRearranged (hostDisk alignedText) :=
    Disk.isRearranged_put _ _ (show Disk.textOf _ = .ok swappedText by decide +kernel)
      (show Disk.textOf _ = .ok alignedText by decide +kernel) isRearranged_aligned
  obtain ⟨hframes, hfiles⟩ := column_order_is_inert ⟨⟨0, 0⟩, true⟩
  refine ⟨(hframes crowdedFrame _ (some crowdedPrior) _ (by decide) (fun p hp => ?_)
    (rearranges_reversed _) (.some (rearranges_reversed _)) _).mpr (by decide +kernel),
    hdisks, (hfiles _ _ hdisks _ false [] [] _).mpr ?_⟩
  · obtain rfl := Option.some.inj hp
    decide
  · rw [(gives_loadCompiled _ (Store.sound_after (hostDisk swappedText) [])).1]
    exact compiled_host

end Script

end FrameScript
