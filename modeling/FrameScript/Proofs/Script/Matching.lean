import FrameScript.Proofs.Script.Columns
import FrameScript.Proofs.Script.Split

/-!
# Lines that match a format

A line matches a format if it is what the format writes when tokens are put for its placeholders,
followed by blanks. Tokens are read from the left, each as short as what follows allows; adjacent
placeholders, and literals made of token characters or of blanks, leave several ways to cut a line
into tokens, and the one that is found has the least lengths in lexicographic order.

## Results

* `shortest_le`: a token after which reading can go on is no shorter than the one that is found.
* `exists_matchColumns_least`: **whatever can be written is matched**, by the tokens that come first
  by their lengths.
* `frame?_iff_decomposes`: **a line matches exactly if it can be written**, and its frame has the
  tokens with the least lengths.
-/

namespace FrameScript.Format

/-- One or more word characters, points and hyphens. -/
def IsToken (t : Text) : Prop :=
  t ≠ [] ∧ ∀ c ∈ t, Text.isWord c = true ∨ c = '.' ∨ c = '-'

/-- The tokens, each with the literal of its column after it. -/
def writeColumns (columns : List Column) (tokens : List Text) : Text :=
  (columns.zip tokens).flatMap fun e => e.2 ++ e.1.literal

/-- The text is what the columns write when the tokens are put for them, followed by blanks. -/
structure Fills (columns : List Column) (tokens : List Text) (s : Text) : Prop where
  length : tokens.length = columns.length
  isToken : ∀ t ∈ tokens, IsToken t
  eq : ∃ w, Text.allBlank w = true ∧ s = writeColumns columns tokens ++ w

/-- The line is what the format writes when the tokens are put for its placeholders, followed by
blanks. -/
structure Decomposes (format : Format) (line : Text) (tokens : List Text) : Prop where
  length : tokens.length = format.columns.length
  isToken : ∀ t ∈ tokens, IsToken t
  eq : ∃ w, Text.allBlank w = true ∧
    line = format.lead ++ writeColumns format.columns tokens ++ w

/-- How long the tokens are. -/
abbrev lengths (tokens : List Text) : List Nat :=
  tokens.map List.length

variable {column : Column} {columns : List Column} {format : Format} {tokens other : List Text}
  {s t line rest : Text} {place at' : Place} {source : Text} {frame : Frame}

theorem isTokenChar_iff {c : Char} :
    isTokenChar c = true ↔ Text.isWord c = true ∨ c = '.' ∨ c = '-' := by
  simp [isTokenChar, or_assoc]

theorem isToken_iff : IsToken t ↔ (!t.isEmpty && t.all isTokenChar) = true := by
  simp [IsToken, isTokenChar_iff]

instance (t : Text) : Decidable (IsToken t) :=
  decidable_of_iff _ isToken_iff.symm

theorem writeColumns_cons :
    writeColumns (column :: columns) (t :: tokens) =
      t ++ (column.literal ++ writeColumns columns tokens) := by
  simp [writeColumns]

theorem fills_nil_iff : Fills [] tokens s ↔ tokens = [] ∧ Text.allBlank s = true := by
  constructor
  · rintro ⟨hlen, -, w, hw, rfl⟩
    exact ⟨List.length_eq_zero_iff.mp hlen, hw⟩
  · rintro ⟨rfl, hs⟩
    exact ⟨rfl, by simp, s, hs, rfl⟩

theorem fills_cons_iff :
    Fills (column :: columns) (t :: tokens) s ↔
      IsToken t ∧ ∃ rest, s = t ++ (column.literal ++ rest) ∧ Fills columns tokens rest := by
  constructor
  · rintro ⟨hlen, htok, w, hw, rfl⟩
    refine ⟨htok t List.mem_cons_self, writeColumns columns tokens ++ w, ?_, ?_⟩
    · simp [writeColumns_cons]
    · exact ⟨by simpa using hlen, fun u hu => htok u (List.mem_cons_of_mem _ hu), w, hw, rfl⟩
  · rintro ⟨ht, _, rfl, hlen, htok, w, hw, rfl⟩
    refine ⟨by simpa using hlen, List.forall_mem_cons.mpr ⟨ht, htok⟩, w, hw, ?_⟩
    simp [writeColumns_cons]

theorem decomposes_iff_fills :
    format.Decomposes line tokens ↔ ∃ rest, line = format.lead ++ rest ∧
      Fills format.columns tokens rest := by
  constructor
  · rintro ⟨hlen, htok, w, hw, rfl⟩
    exact ⟨_, List.append_assoc .., hlen, htok, w, hw, rfl⟩
  · rintro ⟨_, rfl, hlen, htok, w, hw, rfl⟩
    exact ⟨hlen, htok, w, hw, (List.append_assoc ..).symm⟩

/-! ## Tokens -/

/-- A token after which reading can go on is no shorter than the one that is found. -/
theorem shortest_le {β : Type} (next : Text → Option β) {b : β} (ht : IsToken t)
    (hn : next rest = some b) :
    ∃ u c, shortest next (t ++ rest) = some (u, c) ∧ u.length ≤ t.length := by
  obtain ⟨hne, hchars⟩ := ht
  induction t with
  | nil => exact absurd rfl hne
  | cons c t ih =>
    have hc := isTokenChar_iff.mpr (hchars c List.mem_cons_self)
    rw [List.cons_append, shortest, if_pos hc]
    cases hnext : next (t ++ rest) with
    | some found => exact ⟨[c], found, rfl, by simp⟩
    | none =>
      have htail : t ≠ [] := by
        rintro rfl
        rw [List.nil_append, hn] at hnext
        cases hnext
      obtain ⟨u, found, hs, hle⟩ := ih htail fun d hd => hchars d (List.mem_cons_of_mem _ hd)
      exact ⟨c :: u, found, by rw [hs]; rfl, by simpa using hle⟩

/-! ## Columns -/

/-- Tokens that are found fill the columns. -/
theorem fills_of_matchColumns (h : matchColumns columns s = some tokens) :
    Fills columns tokens s := by
  induction columns generalizing s tokens with
  | nil =>
    unfold matchColumns at h
    split at h
    · rename_i hb
      exact fills_nil_iff.mpr ⟨(Option.some.inj h).symm, hb⟩
    · cases h
  | cons column columns ih =>
    unfold matchColumns at h
    obtain ⟨⟨t, later⟩, hs, rfl⟩ := Option.map_eq_some_iff.mp h
    obtain ⟨hne, hchars, rest, rfl, hnext⟩ := shortest_eq_some hs
    obtain ⟨body, hbody, hlater⟩ := Option.bind_eq_some_iff.mp hnext
    obtain rfl := Text.after?_eq_some_iff.mp hbody
    exact fills_cons_iff.mpr
      ⟨⟨hne, fun c hc => isTokenChar_iff.mp (hchars c hc)⟩, body, rfl, ih hlater⟩

/-- **Whatever fills the columns, tokens are found**, and they come first by their lengths. -/
theorem exists_matchColumns_least (h : Fills columns other s) :
    ∃ tokens, matchColumns columns s = some tokens ∧
      (other = tokens ∨ lengths tokens < lengths other) := by
  induction columns generalizing s other with
  | nil =>
    obtain ⟨rfl, hb⟩ := fills_nil_iff.mp h
    exact ⟨[], by rw [matchColumns, if_pos hb], Or.inl rfl⟩
  | cons column columns ih =>
    match other with
    | t :: other =>
      obtain ⟨ht, rest, rfl, hf⟩ := fills_cons_iff.mp h
      obtain ⟨later, hlater, hleast⟩ := ih hf
      have hnext : (Text.after? column.literal (column.literal ++ rest)).bind
          (matchColumns columns) = some later := by
        rw [Text.after?_eq_some_iff.mpr rfl]
        exact hlater
      obtain ⟨u, found, hs, hlen⟩ := shortest_le
        (fun rest => (Text.after? column.literal rest).bind (matchColumns columns)) ht hnext
      refine ⟨u :: found, by rw [matchColumns, hs]; rfl, ?_⟩
      rcases Nat.lt_or_eq_of_le hlen with hlt | heq
      · exact Or.inr (List.cons_lt_cons_iff.mpr (Or.inl hlt))
      · -- The tokens are equally long, hence equal, and so is what follows them.
        obtain ⟨-, -, tail, htail, hfound⟩ := shortest_eq_some hs
        obtain ⟨rfl, rfl⟩ := List.append_inj htail heq.symm
        rw [hnext] at hfound
        cases hfound
        rcases hleast with rfl | hlt
        · exact Or.inl rfl
        · exact Or.inr (List.cons_lt_cons_iff.mpr (Or.inr ⟨rfl, hlt⟩))

/-! ## Formats -/

/-- The pieces of a format that has been read are those into which its text is split. -/
theorem pieces_of_readColumns {seen : List Text} {pieces : List (Text × Text)}
    (h : readColumns place seen pieces = .ok columns) :
    columns.map (fun column => (column.field.name, column.literal)) = pieces := by
  induction pieces generalizing seen columns with
  | nil =>
    rw [← Except.ok.inj h]
    rfl
  | cons piece pieces ih =>
    obtain ⟨-, field, later, hf, hr, rfl⟩ := readColumns_cons_ok h
    rw [List.map_cons, ih hr, (Field.read_ok hf).1]

theorem lead_of_read (h : read source place = .ok format) : format.lead = (scan source).1 := by
  unfold read at h
  split at h
  · cases h
  · cases h
  · rw [← Except.ok.inj h]

/-- **A format is split by its own placeholders.** -/
theorem splits_of_read (h : read source place = .ok format) :
    Splits source format.lead
      (format.columns.map fun column => (column.field.name, column.literal)) := by
  rw [lead_of_read h, pieces_of_readColumns (readColumns_of_read h)]
  exact splits_scan source

theorem tokens?_eq_some_iff :
    format.tokens? line = some tokens ↔
      ∃ rest, line = format.lead ++ rest ∧ matchColumns format.columns rest = some tokens := by
  simp [tokens?, Option.bind_eq_some_iff, Text.after?_eq_some_iff]

/-- **The tokens of a line** are those with the least lengths that the format can write. -/
theorem tokens?_iff_least :
    format.tokens? line = some tokens ↔ format.Decomposes line tokens ∧
      ∀ other, format.Decomposes line other →
        other = tokens ∨ lengths tokens < lengths other := by
  have hleast {tokens other : List Text} (h : format.tokens? line = some tokens)
      (ho : format.Decomposes line other) : other = tokens ∨ lengths tokens < lengths other := by
    obtain ⟨rest, rfl, hm⟩ := tokens?_eq_some_iff.mp h
    obtain ⟨rest', heq, hf⟩ := decomposes_iff_fills.mp ho
    obtain rfl := List.append_cancel_left heq
    obtain ⟨found, hfound, hleast⟩ := exists_matchColumns_least hf
    rw [hm] at hfound
    cases hfound
    exact hleast
  have hsound {tokens : List Text} (h : format.tokens? line = some tokens) :
      format.Decomposes line tokens := by
    obtain ⟨rest, hline, hm⟩ := tokens?_eq_some_iff.mp h
    exact decomposes_iff_fills.mpr ⟨rest, hline, fills_of_matchColumns hm⟩
  refine ⟨fun h => ⟨hsound h, fun other => hleast h⟩, fun ⟨hd, hall⟩ => ?_⟩
  obtain ⟨rest, rfl, hf⟩ := decomposes_iff_fills.mp hd
  obtain ⟨found, hm, -⟩ := exists_matchColumns_least hf
  have hfound := tokens?_eq_some_iff.mpr ⟨rest, rfl, hm⟩
  rcases hall found (hsound hfound) with rfl | hlt
  · exact hfound
  · -- No other tokens come before those that are found.
    rcases hleast hfound hd with rfl | hlt'
    · exact hfound
    · exact absurd hlt' (List.lt_asymm hlt)

/-- A line has tokens exactly if the format can write it. -/
theorem isSome_tokens?_iff :
    (format.tokens? line).isSome = true ↔ ∃ tokens, format.Decomposes line tokens := by
  rw [Option.isSome_iff_exists]
  constructor
  · rintro ⟨tokens, h⟩
    exact ⟨tokens, (tokens?_iff_least.mp h).1⟩
  · rintro ⟨tokens, h⟩
    obtain ⟨rest, hline, hf⟩ := decomposes_iff_fills.mp h
    obtain ⟨found, hm, -⟩ := exists_matchColumns_least hf
    exact ⟨found, tokens?_eq_some_iff.mpr ⟨rest, hline, hm⟩⟩

/-- **A format matches the lines that it can write, and no others.** The format is cut into literals
by its placeholders. A line has a frame exactly if tokens can be put for the placeholders so that
the line results, up to blanks at its end; the frame has a token for each name, in the order in
which the names are declared, and of all ways to put tokens it is the one whose lengths come first
in lexicographic order. -/
theorem frame?_iff_decomposes (h : read source place = .ok format) :
    Splits source format.lead
        (format.columns.map fun column => (column.field.name, column.literal)) ∧
      ∀ line at',
        ((format.frame? at' line).isSome = true ↔ ∃ tokens, format.Decomposes line tokens) ∧
          ∀ frame, format.frame? at' line = some frame ↔
            ∃ tokens, format.Decomposes line tokens ∧
              (∀ other, format.Decomposes line other →
                other = tokens ∨ lengths tokens < lengths other) ∧
              frame = ⟨format.names.zip tokens, at'⟩ := by
  refine ⟨splits_of_read h, fun line at' => ⟨?_, fun frame => ?_⟩⟩
  · rw [frame?, Option.isSome_map, isSome_tokens?_iff]
  · rw [frame?, Option.map_eq_some_iff]
    refine exists_congr fun tokens => ?_
    rw [tokens?_iff_least, and_assoc]
    exact and_congr_right fun _ => and_congr_right fun _ => eq_comm

/-- Two adjacent placeholders share three letters: the first one takes as little as it can. -/
theorem frame?_iff_decomposes_adjacent :
    ∃ format, read "<KA><KB>".toList ⟨none, none⟩ = .ok format ∧
      format.Decomposes "abc ".toList [['a', 'b'], ['c']] ∧
      ∃ tokens, format.frame? ⟨none, none⟩ "abc ".toList =
          some ⟨format.names.zip tokens, ⟨none, none⟩⟩ ∧
        lengths tokens < [2, 1] := by
  let format : Format :=
    ⟨"<KA><KB>".toList, [], [⟨⟨['K', 'A'], .key 65⟩, []⟩, ⟨⟨['K', 'B'], .key 66⟩, []⟩]⟩
  have hread : read "<KA><KB>".toList ⟨none, none⟩ = .ok format := by decide +kernel
  have hlong : format.Decomposes "abc ".toList [['a', 'b'], ['c']] :=
    ⟨rfl, by decide, [' '], by decide, by decide⟩
  have hshort : format.Decomposes "abc ".toList [['a'], ['b', 'c']] :=
    ⟨rfl, by decide, [' '], by decide, by decide⟩
  obtain ⟨hmatch, hframe⟩ := (frame?_iff_decomposes hread).2 "abc ".toList ⟨none, none⟩
  obtain ⟨frame, hsome⟩ := Option.isSome_iff_exists.mp (hmatch.mpr ⟨_, hlong⟩)
  obtain ⟨tokens, -, hleast, rfl⟩ := (hframe frame).mp hsome
  refine ⟨format, hread, hlong, tokens, hsome, ?_⟩
  rcases hleast _ hlong with rfl | hlt
  · exact absurd (hleast _ hshort) (by decide)
  · exact hlt

end FrameScript.Format
