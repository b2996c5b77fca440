import FrameScript.Proofs.Outline.Errors
import FrameScript.Proofs.Script.Calls
import FrameScript.Proofs.Script.Matching
import FrameScript.Proofs.Text.Margins

/-!
# Lines written from a format

A format tells how to write a line: put tokens for its placeholders. In a text of two lines, the
declaration of the format and a line that is written so, the two come to the matcher by different
ways. The declaration loses the blanks at its end. The line loses the blanks at both ends, and each
of its tabs becomes four spaces; and it may be taken for a comment or for a directive.

Tokens have no blanks and no number signs, so that all of this can be told from the format. What
decides is whether a tab stands in it: there is none left in the line, and so no line at all is
matched by a format with a tab.

## Results

* `trimmed_write`: a line that is written from a format has no blank at either end.
* `tab_mem_write_iff`: a tab stands in the line if and only if one stands in the format.
* `plainText_declared`: what becomes of a text of a declaration and a line of data.
* `parseText_written`: **a line that is written from a format is read back as one frame**, if no tab
  stands in the format; and if one does, the line is refused.
-/

namespace FrameScript

namespace Format

open Text

variable {format : Format} {columns : List Column} {tokens : List Text} {source t : Text}
  {place : Place} {c : Char}

/-- What the format writes when the tokens are put for its placeholders. -/
def write (format : Format) (tokens : List Text) : Text :=
  format.lead ++ writeColumns format.columns tokens

/-- One token for each placeholder. -/
structure FilledBy (format : Format) (tokens : List Text) : Prop where
  length : tokens.length = format.columns.length
  isToken : ∀ t ∈ tokens, IsToken t

/-- No line that the format writes begins with a blank or as a comment does. -/
def OpensPlainly (format : Format) : Prop :=
  ∀ c ∈ format.lead.head?, isBlank c = false ∧ c ≠ '#'

/-- The text can stand in a header: it is one line, and does not end in a blank. -/
structure IsDeclarable (source : Text) : Prop where
  unbroken : ∀ c ∈ source, isBreak c = false
  trimmed : trimRight source = source

/-! ## Formats that can be read -/

theorem columns_ne_nil_of_read (h : read source place = .ok format) : format.columns ≠ [] := by
  unfold read at h
  split at h
  · cases h
  · cases h
  · rename_i hne _
    rw [← Except.ok.inj h]
    exact fun he => hne he

theorem source_of_read (h : read source place = .ok format) : format.source = source := by
  unfold read at h
  split at h
  · cases h
  · cases h
  · rw [← Except.ok.inj h]

theorem readColumns_at (at' : Place) {seen : List Text} {pieces : List (Text × Text)}
    (h : readColumns place seen pieces = .ok columns) :
    readColumns at' seen pieces = .ok columns := by
  induction pieces generalizing seen columns with
  | nil => exact h
  | cons piece pieces ih =>
    obtain ⟨name, literal⟩ := piece
    obtain ⟨hseen, field, later, hf, hr, rfl⟩ := readColumns_cons_ok h
    have hne : name ≠ [] := by
      rintro rfl
      cases h
    rw [readColumns_cons, if_neg hne, if_neg hseen]
    simp only [hf, ih hr]

/-- Where a format stands matters for its faults only. -/
theorem read_at (at' : Place) (h : read source place = .ok format) :
    read source at' = .ok format := by
  have hcolumns := readColumns_at at' (readColumns_of_read h)
  have hne := columns_ne_nil_of_read h
  have hlead := lead_of_read h
  have hsource := source_of_read h
  obtain ⟨own, lead, columns⟩ := format
  obtain rfl : own = source := hsource
  obtain rfl : lead = (scan own).1 := hlead
  unfold read
  rw [hcolumns]
  cases columns with
  | nil => exact absurd rfl hne
  | cons column columns => rfl

/-! ## Characters of a written line -/

theorem token_char (ht : IsToken t) (hc : c ∈ t) : isBlank c = false ∧ c ≠ '#' := by
  rcases ht.2 c hc with hw | rfl | rfl
  · refine ⟨Bool.eq_false_iff.mpr fun hb => ?_, ?_⟩
    · rw [isWord_of_isBlank hb] at hw
      cases hw
    · rintro rfl
      exact absurd hw (by decide)
  · exact ⟨by decide, by decide⟩
  · exact ⟨by decide, by decide⟩

theorem mem_writeColumns (h : c ∈ writeColumns columns tokens) :
    (∃ column ∈ columns, c ∈ column.literal) ∨ ∃ t ∈ tokens, c ∈ t := by
  obtain ⟨e, he, hc⟩ := List.mem_flatMap.mp h
  obtain ⟨hcolumn, htoken⟩ := List.of_mem_zip he
  rcases List.mem_append.mp hc with hc | hc
  · exact Or.inr ⟨e.2, htoken, hc⟩
  · exact Or.inl ⟨e.1, hcolumn, hc⟩

theorem mem_writeColumns_of_literal {column : Column} (hlength : tokens.length = columns.length)
    (hcolumn : column ∈ columns) (hc : c ∈ column.literal) : c ∈ writeColumns columns tokens := by
  rw [← List.map_fst_zip (Nat.le_of_eq hlength.symm)] at hcolumn
  obtain ⟨e, he, rfl⟩ := List.mem_map.mp hcolumn
  exact List.mem_flatMap.mpr ⟨e, he, List.mem_append_right _ hc⟩

/-- The pieces of the columns put together, as they are written in the format. -/
abbrev joinedColumns (columns : List Column) : Text :=
  joined (columns.map fun column => (column.field.name, column.literal))

/-- What the format writes has characters of the format and of the tokens. -/
theorem mem_write (hread : read source place = .ok format) (h : c ∈ format.write tokens) :
    c ∈ source ∨ ∃ t ∈ tokens, c ∈ t := by
  rw [(splits_of_read hread).eq]
  rcases List.mem_append.mp h with hc | hc
  · exact Or.inl (List.mem_append_left _ hc)
  · rcases mem_writeColumns hc with ⟨column, hcolumn, hc⟩ | htoken
    · refine Or.inl (List.mem_append_right _ (List.mem_flatMap.mpr ?_))
      exact ⟨_, List.mem_map_of_mem hcolumn, List.mem_append_right _ hc⟩
    · exact Or.inr htoken

/-- **A tab stands in a written line if and only if one stands in the format.** -/
theorem tab_mem_write_iff (hread : read source place = .ok format) (ht : format.FilledBy tokens) :
    '\t' ∈ format.write tokens ↔ '\t' ∈ source := by
  constructor
  · intro h
    rcases mem_write hread h with h | ⟨t, hmem, hc⟩
    · exact h
    · exact absurd (token_char (ht.isToken t hmem) hc).1 (by decide)
  · intro h
    have hsplit := splits_of_read hread
    rw [hsplit.eq] at h
    rcases List.mem_append.mp h with h | h
    · exact List.mem_append_left _ h
    · obtain ⟨piece, hpiece, h⟩ := List.mem_flatMap.mp h
      obtain ⟨column, hcolumn, rfl⟩ := List.mem_map.mp hpiece
      rcases List.mem_append.mp h with h | h
      · have hname := hsplit.names _ hpiece
        simp only [placeholder, List.mem_cons, List.mem_append] at h
        rcases h with h | h | h | h
        · cases h
        · exact absurd (hname _ h) (by decide)
        · cases h
        · cases h
      · exact List.mem_append_right _ (mem_writeColumns_of_literal ht.length hcolumn h)

/-- A written line begins as its format does, or with its first token. -/
theorem head_write (hread : read source place = .ok format) (ht : format.FilledBy tokens)
    (hopen : format.OpensPlainly) :
    ∃ c rest, format.write tokens = c :: rest ∧ isBlank c = false ∧ c ≠ '#' := by
  unfold write
  cases hlead : format.lead with
  | cons d lead => exact ⟨d, _, rfl, hopen d (by rw [hlead]; rfl)⟩
  | nil =>
    obtain ⟨column, columns, hcolumns⟩ :=
      List.exists_cons_of_ne_nil (columns_ne_nil_of_read hread)
    have hlength := ht.length
    rw [hcolumns] at hlength
    obtain ⟨token, tokens, rfl⟩ := List.exists_cons_of_length_eq_add_one hlength
    have htoken := ht.isToken token List.mem_cons_self
    obtain ⟨c, rest, rfl⟩ := List.exists_cons_of_ne_nil htoken.1
    rw [hcolumns, writeColumns_cons]
    exact ⟨c, _, rfl, token_char htoken List.mem_cons_self⟩

/-- A written line ends as its format does, or with the last token. -/
theorem last_write {lead : Text} (hlength : tokens.length = columns.length)
    (htoken : ∀ t ∈ tokens, IsToken t)
    (hlast : ∀ c ∈ (lead ++ joinedColumns columns).getLast?, isBlank c = false) :
    ∀ c ∈ (lead ++ writeColumns columns tokens).getLast?, isBlank c = false := by
  rcases List.eq_nil_or_concat columns with rfl | ⟨before, column, rfl⟩
  · exact hlast
  rcases List.eq_nil_or_concat tokens with rfl | ⟨earlier, token, rfl⟩
  · simp at hlength
  rw [List.concat_eq_append, List.concat_eq_append] at *
  have hwrite : writeColumns (before ++ [column]) (earlier ++ [token]) =
      writeColumns before earlier ++ (token ++ column.literal) := by
    have hbefore : before.length = earlier.length := by simpa using hlength.symm
    simp [writeColumns, List.zip_append hbefore]
  have hjoined : joinedColumns (before ++ [column]) =
      joinedColumns before ++ (placeholder column.field.name ++ column.literal) := by
    simp [joinedColumns, joined]
  intro c hc
  rw [hjoined] at hlast
  rw [hwrite] at hc
  simp only [List.getLast?_append] at hlast hc
  -- Where no text comes after the last placeholder, the line ends with its token.
  cases hliteral : column.literal.getLast? with
  | some d =>
    rw [hliteral] at hlast hc
    exact hlast c hc
  | none =>
    have hmem : token ∈ earlier ++ [token] := List.mem_append_right _ List.mem_cons_self
    obtain ⟨d, hd⟩ := Option.ne_none_iff_exists'.mp
      (mt List.getLast?_eq_none_iff.mp (htoken token hmem).1)
    rw [hliteral, hd] at hc
    obtain rfl : d = c := Option.some.inj hc
    exact (token_char (htoken token hmem) (List.mem_of_getLast? hd)).1

/-- **A line that is written from a format has no blank at either end**, if the format neither
begins nor ends with one. -/
theorem trimmed_write (hsource : IsDeclarable source) (hread : read source place = .ok format)
    (ht : format.FilledBy tokens) (hopen : format.OpensPlainly) :
    Trimmed (format.write tokens) := by
  obtain ⟨c, rest, hwrite, hblank, -⟩ := head_write hread ht hopen
  have hlast := trimRight_eq_self_iff.mp hsource.trimmed
  rw [(splits_of_read hread).eq] at hlast
  refine ⟨fun d hd => ?_, last_write ht.length ht.isToken hlast⟩
  rw [hwrite] at hd
  rwa [← Option.some.inj hd]

/-- **A written line is one line.** -/
theorem unbroken_write (hsource : IsDeclarable source) (hread : read source place = .ok format)
    (ht : format.FilledBy tokens) : ∀ c ∈ format.write tokens, isBreak c = false := by
  intro c hc
  rcases mem_write hread hc with hc | ⟨t, hmem, hc⟩
  · exact hsource.unbroken c hc
  · refine Bool.eq_false_iff.mpr fun hb => ?_
    have hblank := (token_char (ht.isToken t hmem) hc).1
    rw [isBlank_of_isBreak hb] at hblank
    cases hblank

/-! ## Matching a written line -/

/-- **A format matches what it writes.** -/
theorem exists_frame_write (ht : format.FilledBy tokens) (place : Place) :
    ∃ frame, format.frame? place (format.write tokens) = some frame ∧ frame.place = place := by
  have hmatch : (format.tokens? (format.write tokens)).isSome = true :=
    isSome_tokens?_iff.mpr ⟨tokens, ht.length, ht.isToken, [], rfl, (List.append_nil _).symm⟩
  obtain ⟨found, hfound⟩ := Option.isSome_iff_exists.mp hmatch
  exact ⟨_, by rw [frame?, hfound]; rfl, rfl⟩

/-- **A format with a tab matches no line without one.** -/
theorem frame?_eq_none_of_tab {line : Text} (hread : read source place = .ok format)
    (htab : '\t' ∈ source) (hline : '\t' ∉ line) (at' : Place) :
    format.frame? at' line = none := by
  cases hfound : format.tokens? line with
  | none => rw [frame?, hfound, Option.map_none]
  | some found =>
    obtain ⟨hlength, htoken, w, -, hwrite⟩ := (tokens?_iff_least.mp hfound).1
    refine absurd ?_ hline
    rw [hwrite]
    exact List.mem_append_left _ ((tab_mem_write_iff hread ⟨hlength, htoken⟩).mpr htab)

end Format

namespace Script

open Format Outline Reading Text

variable {disk : Disk} {path : Option Text} {source line : Text} {place : Place} {format : Format}
  {tokens : List Text}

/-! ## A declaration and a line -/

/-- The text of two lines: the declaration of a format, and a line after it. -/
def declaredText (source line : Text) : Text :=
  HeaderLines.formatMark ++ source ++ '\n' :: line

theorem lines_declaredText (hs : ∀ c ∈ source, isBreak c = false) (hne : line ≠ [])
    (hl : ∀ c ∈ line, isBreak c = false) :
    Text.lines (declaredText source line) = [HeaderLines.formatMark ++ source, line] := by
  have hfirst : ∀ c ∈ HeaderLines.formatMark ++ source, isBreak c = false :=
    List.forall_mem_append.mpr ⟨unbroken_of_any (by decide), hs⟩
  rw [declaredText, lines_append_break hfirst, lines_of_unbroken hne hl]

theorem find_declared (line : Text) (h : trimRight source = source) :
    HeaderLines.find [HeaderLines.formatMark ++ source, line] =
      ⟨none, none, some source, 1, 1⟩ := by
  have hkind : HeaderLines.declared? HeaderLines.kindMark
      [HeaderLines.formatMark ++ source, line] = none := rfl
  have hformat : HeaderLines.declared? HeaderLines.formatMark
      [HeaderLines.formatMark ++ source, line] = some source := by
    rw [HeaderLines.declared?, after?_eq_some_iff.mpr rfl, Option.map_some, h]
  simp [HeaderLines.find, hkind, hformat]

/-- **What becomes of a declaration and a line of data**: the frame of the line, or the fault of a
line that does not match. -/
theorem plainText_declared (hsource : IsDeclarable source)
    (hread : Format.read source place = .ok format) (hne : line ≠ [])
    (hl : ∀ c ∈ line, isBreak c = false) (hdata : (Line.measure 2 line).IsOuterData) :
    plainText disk (declaredText source line) path false =
      (plainData path format (Line.measure 2 line)).map (⟨path, ⟨none, format⟩, [·]⟩) := by
  have hfind := find_declared line hsource.trimmed
  have hheader : Header.read path [HeaderLines.formatMark ++ source, line] =
      .ok ⟨none, format⟩ := by
    rw [Header.read, hfind]
    simp only [Header.ofFound, Header.readKind, read_at ⟨path, some 1⟩ hread]
  have houtline : outlineOf [HeaderLines.formatMark ++ source, line] =
      leaf (Line.measure 2 line) .data nil := by
    rw [outlineOf, hfind]
    have hbuild := build_concat [] hdata.said hdata.level hdata.data
    rwa [build] at hbuild
  rw [plainText, lines_declaredText hsource.unbroken hne hl, plainLines, hheader]
  simp only [houtline]
  cases hf : plainData path format (Line.measure 2 line) with
  | ok frame =>
    rw [unrolled_leaf_of_none (halt_data_of_ok hf), Item.frames, hf]
    rfl
  | error failure =>
    rw [unrolled_leaf_of_some (halt_data_of_error hf)]
    rfl

/-- A text that begins with neither mark is data. -/
theorem Directive.read_eq_data {content : Text} (hrepeat : ¬ Directive.repeatMark <+: content)
    (hinclude : ¬ Directive.includeMark <+: content) : Directive.read content = .data := by
  have hnone {mark : Text} (h : ¬ mark <+: content) : after? mark content = none := by
    cases hr : after? mark content with
    | none => rfl
    | some rest => exact absurd ⟨rest, (after?_eq_some_iff.mp hr).symm⟩ h
  rw [Directive.read, hnone hinclude, hnone hrepeat]

/-- A line that is written from a format is a line of data, unless its tabs make a directive of
it. -/
theorem measure_write (hsource : IsDeclarable source)
    (hread : Format.read source place = .ok format) (ht : format.FilledBy tokens)
    (hopen : format.OpensPlainly)
    (hrepeat : ¬ Directive.repeatMark <+: Line.expandTabs (format.write tokens))
    (hinclude : ¬ Directive.includeMark <+: Line.expandTabs (format.write tokens)) :
    Line.measure 2 (format.write tokens) = ⟨2, 0, Line.expandTabs (format.write tokens)⟩ ∧
      (Line.measure 2 (format.write tokens)).IsOuterData := by
  have htrimmed := trimmed_write hsource hread ht hopen
  have hmeasure := Line.measure_of_trimmed 2 htrimmed
  refine ⟨hmeasure, ?_⟩
  rw [hmeasure]
  refine ⟨rfl, ?_, Directive.read_eq_data hrepeat hinclude⟩
  obtain ⟨c, rest, hwrite, -, hcomment⟩ := head_write hread ht hopen
  have hhead := Line.head?_expandTabs htrimmed.head
  rw [hwrite, List.head?_cons] at hhead
  obtain ⟨later, hlater⟩ := List.head?_eq_some_iff.mp hhead
  rw [hwrite, Line.isSkipped, hlater]
  exact beq_false_of_ne hcomment

/-- **A line that is written from a format is read back as one frame**, if no tab stands in the
format. The text declares the format and has the line after it; the format can stand in a header
and be read, its lines do not begin with a blank or as a comment, and the line that is written with
the given tokens does not begin as a directive. Then the text is read as one frame, from its second
line, whatever has been read before.

If a tab stands in the format, the line is refused: each of its tabs has become four spaces, and
the tab of the format is not found in it. -/
theorem parseText_written (disk : Disk) (calls : List Call) (path : Option Text)
    (hsource : IsDeclarable source) (hread : Format.read source place = .ok format)
    (ht : format.FilledBy tokens) (hopen : format.OpensPlainly) :
    ('\t' ∉ source → ¬ Directive.repeatMark <+: format.write tokens →
        ¬ Directive.includeMark <+: format.write tokens →
      ∃ frame, format.frame? ⟨path, some 2⟩ (format.write tokens) = some frame ∧
        frame.place = ⟨path, some 2⟩ ∧
        outcome (parseText disk (declaredText source (format.write tokens)) path false
          (answers disk calls .empty).2) = .ok ⟨path, ⟨none, format⟩, [frame]⟩) ∧
    ('\t' ∈ source → ¬ Directive.repeatMark <+: Line.expandTabs (format.write tokens) →
        ¬ Directive.includeMark <+: Line.expandTabs (format.write tokens) →
      outcome (parseText disk (declaredText source (format.write tokens)) path false
          (answers disk calls .empty).2) =
        .error (.layout (.mismatch source (Line.expandTabs (format.write tokens)))
          ⟨path, some 2⟩)) := by
  have hsound := sound_answers disk calls
  have hne : format.write tokens ≠ [] := by
    obtain ⟨c, rest, hwrite, -⟩ := head_write hread ht hopen
    rw [hwrite]
    exact List.cons_ne_nil c rest
  have hone := unbroken_write hsource hread ht
  rw [(gives_parseText _ path false _ hsound).1]
  constructor
  · intro htab hrepeat hinclude
    have hexpand := Line.expandTabs_eq_self (mt (tab_mem_write_iff hread ht).mp htab)
    rw [← hexpand] at hrepeat hinclude
    obtain ⟨hmeasure, hdata⟩ := measure_write hsource hread ht hopen hrepeat hinclude
    obtain ⟨frame, hframe, hplace⟩ := exists_frame_write ht ⟨path, some 2⟩
    refine ⟨frame, hframe, hplace, ?_⟩
    rw [plainText_declared hsource hread hne hone hdata, hmeasure, hexpand, plainData, hframe]
    rfl
  · intro htab hrepeat hinclude
    obtain ⟨hmeasure, hdata⟩ := measure_write hsource hread ht hopen hrepeat hinclude
    have hframe := frame?_eq_none_of_tab hread htab (@Line.not_mem_expandTabs (format.write tokens))
      ⟨path, some 2⟩
    rw [plainText_declared hsource hread hne hone hdata, hmeasure, plainData, hframe,
      source_of_read hread]
    rfl

/-- A format of two keys with the given text between them. -/
def twoColumns (between : Text) : Format :=
  ⟨"<KA>".toList ++ between ++ "<KB>".toList, [],
    [⟨⟨['K', 'A'], .key 65⟩, between⟩, ⟨⟨['K', 'B'], .key 66⟩, []⟩]⟩

theorem opensPlainly_twoColumns (between : Text) : (twoColumns between).OpensPlainly := by
  intro c hc
  cases hc

/-- A comma and a blank may stand between two tokens. -/
theorem parseText_written_comma :
    IsDeclarable "<KA>, <KB>".toList ∧
      Format.read "<KA>, <KB>".toList ⟨none, none⟩ = .ok (twoColumns [',', ' ']) ∧
      (twoColumns [',', ' ']).FilledBy [['a'], ['1', '.']] ∧ (twoColumns [',', ' ']).OpensPlainly ∧
      ∃ frame, outcome (parseText (Disk.empty .root)
        (declaredText "<KA>, <KB>".toList "a, 1.".toList) none false .empty) =
          .ok ⟨none, ⟨none, twoColumns [',', ' ']⟩, [frame]⟩ := by
  have hsource : IsDeclarable "<KA>, <KB>".toList := ⟨unbroken_of_any (by decide), by decide⟩
  have hread : Format.read "<KA>, <KB>".toList ⟨none, none⟩ = .ok (twoColumns [',', ' ']) := by
    decide +kernel
  have ht : (twoColumns [',', ' ']).FilledBy [['a'], ['1', '.']] := ⟨rfl, by decide⟩
  obtain ⟨frame, -, -, hparse⟩ := (parseText_written (Disk.empty .root) [] none hsource hread ht
    (opensPlainly_twoColumns _)).1 (by decide) (by decide) (by decide)
  exact ⟨hsource, hread, ht, opensPlainly_twoColumns _, frame, hparse⟩

/-- A tab between two tokens is not found: the line is refused although it is written from the
format, which can stand in a header and has no literal text before its first placeholder. -/
theorem tab_not_found :
    IsDeclarable "<KA>\t<KB>".toList ∧
      Format.read "<KA>\t<KB>".toList ⟨none, none⟩ = .ok (twoColumns ['\t']) ∧
      (twoColumns ['\t']).FilledBy [['a'], ['b']] ∧ (twoColumns ['\t']).OpensPlainly ∧
      (twoColumns ['\t']).write [['a'], ['b']] = "a\tb".toList ∧
      outcome (parseText (Disk.empty .root) "!FORMAT: <KA>\t<KB>\na\tb".toList none false .empty) =
        .error (.layout (.mismatch "<KA>\t<KB>".toList "a    b".toList) ⟨none, some 2⟩) :=
  ⟨⟨unbroken_of_any (by decide), by decide⟩, by decide +kernel, ⟨rfl, by decide⟩,
    opensPlainly_twoColumns _, rfl, by decide +kernel⟩

end Script

end FrameScript
