import FrameScript.Proofs.Script.Written

/-!
# Formats that are read as they are written

Whoever puts tokens for the placeholders of a format and hands the line to the matcher may get other
tokens back: between adjacent placeholders, and around a literal of token characters, a line can be
cut in several ways. One character that no token has is enough to prevent this, wherever it stands
in the literal. The token before it goes as far as the run of token characters, less those with
which the literal itself begins; so the run tells the token (`takeWhile_token`). After the last
placeholder even that is not asked for, since the blanks at the end of a line are no token
characters either.

## Results

* `token_unique`: a token is told by the line, if no token goes on beyond the literal after it.
* `fills_unique`: columns that are kept apart are filled in one way.
* `isSeparated_iff_unambiguous`: **the lines of a format can be cut in one way if and only if its
  columns are kept apart.**
* `frame?_write`: **a line that is written from such a format is read back**, with the tokens that
  were written.
-/

namespace FrameScript.Format

open Text

/-- The literals between the columns keep them apart: in each there is a character that no token
has. The literal after the last column may be any text. -/
def KeepsApart (columns : List Column) : Prop :=
  ∀ column ∈ columns.dropLast, ∃ c ∈ column.literal, isTokenChar c = false

/-- The columns of the format are kept apart. -/
def IsSeparated (format : Format) : Prop :=
  KeepsApart format.columns

/-- No line can be cut into tokens in two ways. -/
def IsUnambiguous (format : Format) : Prop :=
  ∀ line tokens other, format.Decomposes line tokens → format.Decomposes line other →
    tokens = other

instance (format : Format) : Decidable format.IsSeparated :=
  decidable_of_iff
    (∀ column ∈ format.columns.dropLast, (column.literal.any fun c => !isTokenChar c) = true)
    (by simp only [IsSeparated, KeepsApart, List.any_eq_true, Bool.not_eq_true'])

variable {column : Column} {columns : List Column} {format : Format} {tokens other : List Text}
  {s t u w literal rest rest' : Text} {place : Place} {source : Text}

/-! ## One token -/

/-- The token characters after a token are those of the literal only. -/
def Ends (literal rest : Text) : Prop :=
  (literal ++ rest).takeWhile isTokenChar = literal.takeWhile isTokenChar

theorem ends_of_separator (h : ∃ c ∈ literal, isTokenChar c = false) (rest : Text) :
    Ends literal rest := by
  obtain ⟨c, hc, hchar⟩ := h
  have hshort : (literal.takeWhile isTokenChar).length ≠ literal.length := by
    intro heq
    have hall := List.all_takeWhile (p := isTokenChar) (l := literal)
    rw [(List.takeWhile_sublist isTokenChar).eq_of_length heq] at hall
    rw [List.all_eq_true.mp hall c hc] at hchar
    cases hchar
  unfold Ends
  rw [List.takeWhile_append, if_neg hshort]

theorem isTokenChar_of_isBlank {c : Char} (h : isBlank c = true) : isTokenChar c = false := by
  refine Bool.eq_false_iff.mpr fun hc => ?_
  rcases isTokenChar_iff.mp hc with hw | rfl | rfl
  · rw [isWord_of_isBlank h] at hw
    cases hw
  · exact absurd h (by decide)
  · exact absurd h (by decide)

theorem ends_of_blank (h : allBlank w = true) (literal : Text) : Ends literal w := by
  have hnone : w.takeWhile isTokenChar = [] := by
    cases w with
    | nil => rfl
    | cons c w =>
      have hc : isBlank c = true := List.all_eq_true.mp h c List.mem_cons_self
      exact List.takeWhile_cons_of_neg (Bool.eq_false_iff.mp (isTokenChar_of_isBlank hc))
  unfold Ends
  rw [List.takeWhile_append]
  split
  · rename_i hall
    rw [hnone, List.append_nil, (List.takeWhile_sublist isTokenChar).eq_of_length hall]
  · rfl

/-- The run of token characters at the beginning of a line is the token and what the literal
adds. -/
theorem takeWhile_token (ht : IsToken t) (he : Ends literal rest) :
    (t ++ (literal ++ rest)).takeWhile isTokenChar = t ++ literal.takeWhile isTokenChar := by
  rw [List.takeWhile_append_of_pos fun c hc => isTokenChar_iff.mpr (ht.2 c hc), he]

/-- **A token is told by the line**, if no token goes on beyond the literal after it. -/
theorem token_unique (ht : IsToken t) (hu : IsToken u) (he : Ends literal rest)
    (he' : Ends literal rest') (h : t ++ (literal ++ rest) = u ++ (literal ++ rest')) :
    t = u ∧ rest = rest' := by
  have hrun : t ++ literal.takeWhile isTokenChar = u ++ literal.takeWhile isTokenChar := by
    rw [← takeWhile_token ht he, ← takeWhile_token hu he', h]
  obtain rfl := List.append_cancel_right hrun
  exact ⟨rfl, List.append_cancel_left (List.append_cancel_left h)⟩

/-! ## Columns -/

theorem KeepsApart.tail (h : KeepsApart (column :: columns)) : KeepsApart columns := by
  cases columns with
  | nil => exact fun _ hm => absurd hm List.not_mem_nil
  | cons next columns => exact fun c hm => h c (List.mem_cons_of_mem _ hm)

/-- No token goes on beyond the literal of a column: a separator stops it, or else the end of the
line. -/
theorem KeepsApart.ends (h : KeepsApart (column :: columns)) (hf : Fills columns tokens rest) :
    Ends column.literal rest := by
  cases columns with
  | nil =>
    obtain ⟨-, hb⟩ := fills_nil_iff.mp hf
    exact ends_of_blank hb _
  | cons next columns => exact ends_of_separator (h column List.mem_cons_self) rest

/-- **Columns that are kept apart are filled in one way.** -/
theorem fills_unique (h : KeepsApart columns) (hf : Fills columns tokens s)
    (hf' : Fills columns other s) : tokens = other := by
  induction columns generalizing s tokens other with
  | nil => rw [(fills_nil_iff.mp hf).1, (fills_nil_iff.mp hf').1]
  | cons column columns ih =>
    obtain ⟨t, tokens, rfl⟩ := List.exists_cons_of_length_eq_add_one hf.length
    obtain ⟨u, other, rfl⟩ := List.exists_cons_of_length_eq_add_one hf'.length
    obtain ⟨ht, rest, hs, hrest⟩ := fills_cons_iff.mp hf
    obtain ⟨hu, rest', hs', hrest'⟩ := fills_cons_iff.mp hf'
    obtain ⟨rfl, rfl⟩ := token_unique ht hu (h.ends hrest) (h.ends hrest') (hs ▸ hs')
    rw [ih h.tail hrest hrest']

/-- Some tokens fill the columns. -/
theorem exists_fills (columns : List Column) : ∃ tokens s, Fills columns tokens s := by
  induction columns with
  | nil => exact ⟨[], [], fills_nil_iff.mpr ⟨rfl, rfl⟩⟩
  | cons column columns ih =>
    obtain ⟨tokens, s, hf⟩ := ih
    have ha : IsToken ['a'] := by decide
    exact ⟨['a'] :: tokens, _, fills_cons_iff.mpr ⟨ha, s, rfl, hf⟩⟩

/-- Columns that are not kept apart are filled in two ways by some line: a literal of token
characters can as well be part of the token before it or of the one after it. -/
theorem exists_fills_twice (h : ¬KeepsApart columns) :
    ∃ s tokens other, Fills columns tokens s ∧ Fills columns other s ∧ tokens ≠ other := by
  have ha : IsToken ['a'] := by decide
  induction columns with
  | nil => exact absurd (fun _ hm => absurd hm List.not_mem_nil) h
  | cons column columns ih =>
    cases columns with
    | nil => exact absurd (fun _ hm => absurd hm List.not_mem_nil) h
    | cons next columns =>
      by_cases hapart : ∃ c ∈ column.literal, isTokenChar c = false
      · -- Another literal is at fault, and any token may stand before this one.
        have hlater : ¬KeepsApart (next :: columns) := fun hk =>
          h (List.forall_mem_cons.mpr ⟨hapart, hk⟩)
        obtain ⟨s, tokens, other, hf, hf', hne⟩ := ih hlater
        refine ⟨_, ['a'] :: tokens, ['a'] :: other, fills_cons_iff.mpr ⟨ha, s, rfl, hf⟩,
          fills_cons_iff.mpr ⟨ha, s, rfl, hf'⟩, fun he => hne (List.cons.inj he).2⟩
      · have hchars : ∀ c ∈ column.literal, isTokenChar c = true := by
          intro c hc
          by_contra hn
          exact hapart ⟨c, hc, Bool.eq_false_iff.mpr hn⟩
        have hlong : IsToken ('a' :: (column.literal ++ ['a'])) := by
          refine ⟨List.cons_ne_nil _ _, fun c hc => isTokenChar_iff.mp ?_⟩
          rcases List.mem_cons.mp hc with rfl | hc
          · decide
          rcases List.mem_append.mp hc with hc | hc
          · exact hchars c hc
          · rw [List.mem_singleton.mp hc]
            decide
        obtain ⟨tokens, s, hf⟩ := exists_fills columns
        have hfirst : Fills (next :: columns) (['a'] :: tokens) (['a'] ++ (next.literal ++ s)) :=
          fills_cons_iff.mpr ⟨ha, s, rfl, hf⟩
        have hsecond : Fills (next :: columns) (('a' :: (column.literal ++ ['a'])) :: tokens)
            (('a' :: (column.literal ++ ['a'])) ++ (next.literal ++ s)) :=
          fills_cons_iff.mpr ⟨hlong, s, rfl, hf⟩
        refine ⟨_, _, ('a' :: (column.literal ++ ['a'])) :: ['a'] :: tokens,
          fills_cons_iff.mpr ⟨ha, _, rfl, hsecond⟩,
          fills_cons_iff.mpr ⟨hlong, _, ?_, hfirst⟩, fun he => ?_⟩
        · simp
        · have hlength := congrArg List.length (List.cons.inj he).1
          simp at hlength

/-! ## Formats -/

/-- **The lines of a format can be cut in one way if and only if its columns are kept apart.** -/
theorem isSeparated_iff_unambiguous : format.IsSeparated ↔ format.IsUnambiguous := by
  constructor
  · intro h line tokens other hd hd'
    obtain ⟨rest, rfl, hf⟩ := decomposes_iff_fills.mp hd
    obtain ⟨rest', heq, hf'⟩ := decomposes_iff_fills.mp hd'
    obtain rfl := List.append_cancel_left heq
    exact fills_unique h hf hf'
  · intro h
    by_contra hsep
    obtain ⟨s, tokens, other, hf, hf', hne⟩ := exists_fills_twice hsep
    exact hne (h (format.lead ++ s) tokens other (decomposes_iff_fills.mpr ⟨s, rfl, hf⟩)
      (decomposes_iff_fills.mpr ⟨s, rfl, hf'⟩))

/-- **A line that is written from a format is read back**, with the tokens that were written, if the
literals between its placeholders keep them apart. The format is cut into literals by its
placeholders; in each literal between two of them there is a character that is no word character,
no point and no hyphen, while the first and the last literal may be any texts. Then a line that is
written with some tokens, and any blanks after it, has a frame in which each name has its token, in
the order in which the names are declared; and every line that matches is written with one list of
tokens only. -/
theorem frame?_write (h : read source place = .ok format) (hsep : format.IsSeparated) :
    Splits source format.lead
        (format.columns.map fun column => (column.field.name, column.literal)) ∧
      (∀ tokens w at', format.FilledBy tokens → allBlank w = true →
        format.frame? at' (format.write tokens ++ w) = some ⟨format.names.zip tokens, at'⟩) ∧
      ∀ line at', (format.frame? at' line).isSome = true →
        ∃! tokens, format.Decomposes line tokens := by
  have hone := isSeparated_iff_unambiguous.mp hsep
  refine ⟨splits_of_read h, fun tokens w at' ht hw => ?_, fun line at' hmatch => ?_⟩
  · have hd : format.Decomposes (format.write tokens ++ w) tokens :=
      ⟨ht.length, ht.isToken, w, hw, rfl⟩
    have hfound : format.tokens? (format.write tokens ++ w) = some tokens :=
      tokens?_iff_least.mpr ⟨hd, fun other ho => Or.inl (hone _ _ _ ho hd)⟩
    rw [frame?, hfound]
    rfl
  · rw [frame?, Option.isSome_map] at hmatch
    obtain ⟨tokens, hd⟩ := isSome_tokens?_iff.mp hmatch
    exact ⟨tokens, hd, fun other ho => hone _ _ _ ho hd⟩

/-- Token characters on both sides of a comma are not taken for parts of the tokens, and neither are
those after the last token or the blanks at the end of the line. -/
theorem frame?_write_comma :
    ∃ format, read "<KA>-,-<KB>x".toList ⟨none, none⟩ = .ok format ∧ format.IsSeparated ∧
      format.FilledBy [['a', '-'], ['x', 'x']] ∧
      format.frame? ⟨none, none⟩ "a--,-xxx \t".toList =
        some ⟨[(['K', 'A'], ['a', '-']), (['K', 'B'], ['x', 'x'])], ⟨none, none⟩⟩ ∧
      ∃! tokens, format.Decomposes "a--,-xxx \t".toList tokens := by
  let format : Format :=
    ⟨"<KA>-,-<KB>x".toList, [],
      [⟨⟨['K', 'A'], .key 65⟩, ['-', ',', '-']⟩, ⟨⟨['K', 'B'], .key 66⟩, ['x']⟩]⟩
  have hread : read "<KA>-,-<KB>x".toList ⟨none, none⟩ = .ok format := by decide +kernel
  have hsep : format.IsSeparated := by decide
  have ht : format.FilledBy [['a', '-'], ['x', 'x']] := ⟨rfl, by decide⟩
  obtain ⟨-, hwritten, hunique⟩ := frame?_write hread hsep
  have hframe : format.frame? ⟨none, none⟩ "a--,-xxx \t".toList =
      some ⟨[(['K', 'A'], ['a', '-']), (['K', 'B'], ['x', 'x'])], ⟨none, none⟩⟩ :=
    hwritten _ [' ', '\t'] ⟨none, none⟩ ht (by decide)
  exact ⟨format, hread, hsep, ht, hframe, hunique _ ⟨none, none⟩ (by rw [hframe]; rfl)⟩

end FrameScript.Format
