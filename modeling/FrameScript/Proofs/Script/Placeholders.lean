import FrameScript.Proofs.Count.Faults
import FrameScript.Proofs.Script.Pattern
import FrameScript.Proofs.Script.Written

/-!
# Which formats can be read

A format can be read if it has a placeholder and none of them offends: by an empty name, by a name
that stands further left, or by a name that means nothing. Then it has a field for each placeholder,
and nothing of its text is lost. A format that cannot be read fails for the leftmost placeholder
that offends.

A name may mean nothing for a reason that the language of scripts does not know: a button with a
number of more than `Numeral.digitLimit` digits is refused by the reader of numbers. Nothing else is
(`Offends`).

## Results

* `exists_readColumns_iff`, `readColumns_error_iff`: what it takes for placeholders to be columns,
  and what they fail for if they are not.
* `read_iff_placeholders`: **which formats can be read, what they mean, and what the others fail
  for.**
-/

namespace FrameScript

namespace Field

variable {name : Text} {failure : Failure}

/-- What a name fails for: it is no name of a field, that of no key, or that of a button whose
number has too many digits. -/
theorem read_error (h : read name = .error failure) :
    failure = .unknownField name ∨ (∃ key, name = 'K' :: key ∧ failure = .unknownKey key) ∨
      ∃ number digits, name = 'M' :: number ∧ Numeral.readNat number = .tooLong digits ∧
        failure = .longNumeral digits := by
  have hkind := readKind_of_read_error h
  unfold readKind at hkind
  split at hkind
  · cases hkind
  · cases hkind
  · split at hkind
    · cases hkind
    · exact Or.inr (Or.inl ⟨_, rfl, (Except.error.inj hkind).symm⟩)
  · split at hkind
    · cases hkind
    · rename_i hn
      exact Or.inr (Or.inr ⟨_, _, rfl, hn, (Except.error.inj hkind).symm⟩)
    · exact Or.inl (Except.error.inj hkind).symm
  · exact Or.inl (Except.error.inj hkind).symm

/-- A button whose number has too many digits is refused. -/
theorem read_of_tooLong {number : Text} {digits : Nat}
    (h : Numeral.readNat number = .tooLong digits) :
    read ('M' :: number) = .error (.longNumeral digits) := by
  have hother {c : Char} (hc : Text.digit? c = none) : number ≠ [c] := by
    rintro rfl
    simp [Numeral.readNat, hc] at h
  have hx := hother (c := 'X') (by decide)
  have hy := hother (c := 'Y') (by decide)
  have hkind : readKind ('M' :: number) = .error (.longNumeral digits) := by
    unfold readKind
    split <;> simp_all
  rw [read, hkind]

end Field

namespace Format

variable {place : Place} {before seen names : List Text} {name : Text} {failure : Failure}
  {pieces : List (Text × Text)} {columns : List Column} {source lead : Text} {format : Format}

/-! ## Placeholders -/

/-- The names can be those of fields, further right than those of `seen`: none is empty, none stands
twice, and each means something. -/
structure Accepted (seen names : List Text) : Prop where
  nonempty : [] ∉ names
  nodup : names.Nodup
  fresh : ∀ name ∈ names, name ∉ seen
  means : ∀ name ∈ names, ∃ field, Field.read name = .ok field

/-- The placeholder cannot be a field, for the first of these reasons that applies; `before` are the
names further left. The last one is due to the reader of numbers. -/
inductive Offends (place : Place) (before : List Text) : Text → Failure → Prop
  | empty : Offends place before [] (.format .emptyName place)
  | duplicate {name : Text} (hne : name ≠ []) (hm : name ∈ before) :
    Offends place before name (.format (.duplicateName name) place)
  | unknownField {name : Text} (hne : name ≠ []) (hm : name ∉ before)
      (hr : Field.read name = .error (.unknownField name)) :
    Offends place before name (.unknownField name)
  | unknownKey {key : Text} (hm : 'K' :: key ∉ before)
      (hr : Field.read ('K' :: key) = .error (.unknownKey key)) :
    Offends place before ('K' :: key) (.unknownKey key)
  | longButton {number : Text} {digits : Nat} (hm : 'M' :: number ∉ before)
      (hn : Numeral.readNat number = .tooLong digits)
      (hr : Field.read ('M' :: number) = .error (.longNumeral digits)) :
    Offends place before ('M' :: number) (.longNumeral digits)

theorem accepted_nil (seen : List Text) : Accepted seen [] :=
  ⟨List.not_mem_nil, .nil, fun _ hm => absurd hm List.not_mem_nil,
    fun _ hm => absurd hm List.not_mem_nil⟩

theorem accepted_cons_iff :
    Accepted seen (name :: names) ↔
      name ≠ [] ∧ name ∉ seen ∧ (∃ field, Field.read name = .ok field) ∧
        Accepted (name :: seen) names := by
  constructor
  · rintro ⟨hne, hnodup, hfresh, hmeans⟩
    obtain ⟨hname, hlater⟩ := List.nodup_cons.mp hnodup
    obtain ⟨hseen, hrest⟩ := List.forall_mem_cons.mp hfresh
    obtain ⟨hfield, hfields⟩ := List.forall_mem_cons.mp hmeans
    rw [List.mem_cons, not_or] at hne
    refine ⟨Ne.symm hne.1, hseen, hfield, hne.2, hlater, fun other hm => ?_, hfields⟩
    rw [List.mem_cons, not_or]
    exact ⟨fun he => hname (he ▸ hm), hrest other hm⟩
  · rintro ⟨hne, hseen, hfield, hempty, hnodup, hfresh, hmeans⟩
    refine ⟨?_, List.nodup_cons.mpr ⟨fun hm => hfresh name hm List.mem_cons_self, hnodup⟩,
      List.forall_mem_cons.mpr ⟨hseen, fun other hm hs => ?_⟩,
      List.forall_mem_cons.mpr ⟨hfield, hmeans⟩⟩
    · rw [List.mem_cons, not_or]
      exact ⟨Ne.symm hne, hempty⟩
    · exact hfresh other hm (List.mem_cons_of_mem _ hs)

/-- Whether a placeholder offends does not depend on the order of the names further left. -/
theorem Offends.congr {before' : List Text} (h : Offends place before name failure)
    (hsame : ∀ n, n ∈ before ↔ n ∈ before') : Offends place before' name failure := by
  cases h with
  | empty => exact .empty
  | duplicate hne hm => exact .duplicate hne ((hsame _).mp hm)
  | unknownField hne hm hr => exact .unknownField hne (mt (hsame _).mpr hm) hr
  | unknownKey hm hr => exact .unknownKey (mt (hsame _).mpr hm) hr
  | longButton hm hn hr => exact .longButton (mt (hsame _).mpr hm) hn hr

/-- A placeholder that is not accepted offends, in one way. -/
theorem offends_iff :
    Offends place before name failure ↔
      (name = [] ∧ failure = .format .emptyName place) ∨
      (name ≠ [] ∧ name ∈ before ∧ failure = .format (.duplicateName name) place) ∨
      (name ≠ [] ∧ name ∉ before ∧ Field.read name = .error failure) := by
  constructor
  · rintro (_ | ⟨hne, hm⟩ | ⟨hne, hm, hr⟩ | ⟨hm, hr⟩ | ⟨hm, hn, hr⟩)
    · exact Or.inl ⟨rfl, rfl⟩
    · exact Or.inr (Or.inl ⟨hne, hm, rfl⟩)
    · exact Or.inr (Or.inr ⟨hne, hm, hr⟩)
    · exact Or.inr (Or.inr ⟨List.cons_ne_nil _ _, hm, hr⟩)
    · exact Or.inr (Or.inr ⟨List.cons_ne_nil _ _, hm, hr⟩)
  · rintro (⟨rfl, rfl⟩ | ⟨hne, hm, rfl⟩ | ⟨hne, hm, hr⟩)
    · exact .empty
    · exact .duplicate hne hm
    · rcases Field.read_error hr with rfl | ⟨key, rfl, rfl⟩ | ⟨number, digits, rfl, hn, rfl⟩
      · exact .unknownField hne hm hr
      · exact .unknownKey hm hr
      · exact .longButton hm hn hr

/-! ## Columns -/

/-- **What it takes for placeholders to be columns.** -/
theorem exists_readColumns_iff :
    (∃ columns, readColumns place seen pieces = .ok columns) ↔
      Accepted seen (pieces.map Prod.fst) := by
  induction pieces generalizing seen with
  | nil => exact ⟨fun _ => accepted_nil seen, fun _ => ⟨[], rfl⟩⟩
  | cons piece rest ih =>
    obtain ⟨name, literal⟩ := piece
    rw [List.map_cons, accepted_cons_iff, ← ih]
    constructor
    · rintro ⟨columns, h⟩
      obtain ⟨hseen, field, later, hf, hr, rfl⟩ := readColumns_cons_ok h
      refine ⟨?_, hseen, ⟨field, hf⟩, later, hr⟩
      rintro rfl
      cases h
    · rintro ⟨hne, hseen, ⟨field, hf⟩, later, hr⟩
      refine ⟨⟨field, literal⟩ :: later, ?_⟩
      rw [readColumns_cons, if_neg hne, if_neg hseen]
      simp only [hf, hr]

/-- The columns have the fields that the names mean. -/
theorem fields_of_readColumns (h : readColumns place seen pieces = .ok columns) :
    (pieces.map fun piece => Field.read piece.1) = columns.map fun column => .ok column.field := by
  induction pieces generalizing seen columns with
  | nil =>
    obtain rfl := Except.ok.inj h
    rfl
  | cons piece rest ih =>
    obtain ⟨-, field, later, hf, hr, rfl⟩ := readColumns_cons_ok h
    rw [List.map_cons, List.map_cons, ih hr, hf]

/-- The names before the leftmost placeholder that offends are accepted. -/
def FailsAt (place : Place) (seen : List Text) (pieces : List (Text × Text)) (failure : Failure) :
    Prop :=
  ∃ before piece after, pieces = before ++ piece :: after ∧
    Accepted seen (before.map Prod.fst) ∧
    Offends place (seen ++ before.map Prod.fst) piece.1 failure

/-- Either the first placeholder offends, or it is accepted and one after it is the leftmost. -/
theorem failsAt_cons_iff {literal : Text} :
    FailsAt place seen ((name, literal) :: pieces) failure ↔
      Offends place seen name failure ∨
        name ≠ [] ∧ name ∉ seen ∧ (∃ field, Field.read name = .ok field) ∧
          FailsAt place (name :: seen) pieces failure := by
  have hsame (names : List Text) (n : Text) :
      n ∈ seen ++ name :: names ↔ n ∈ name :: seen ++ names := by
    simp only [List.mem_append, List.mem_cons]
    tauto
  constructor
  · rintro ⟨before, piece, after, he, haccepted, hoffends⟩
    cases before with
    | nil =>
      obtain ⟨rfl, rfl⟩ := List.cons.inj he
      rw [List.map_nil, List.append_nil] at hoffends
      exact Or.inl hoffends
    | cons first before =>
      obtain ⟨rfl, rfl⟩ := List.cons.inj he
      obtain ⟨hne, hseen, hfield, hlater⟩ := accepted_cons_iff.mp haccepted
      exact Or.inr ⟨hne, hseen, hfield, before, piece, after, rfl, hlater,
        hoffends.congr (hsame _)⟩
  · rintro (hoffends | ⟨hne, hseen, hfield, before, piece, after, rfl, hlater, hoffends⟩)
    · refine ⟨[], _, pieces, rfl, accepted_nil seen, ?_⟩
      rwa [List.map_nil, List.append_nil]
    · exact ⟨(name, literal) :: before, piece, after, rfl,
        accepted_cons_iff.mpr ⟨hne, hseen, hfield, hlater⟩,
        hoffends.congr fun n => (hsame _ n).symm⟩

/-- **Placeholders fail for the leftmost one that offends.** -/
theorem readColumns_error_iff :
    readColumns place seen pieces = .error failure ↔ FailsAt place seen pieces failure := by
  induction pieces generalizing seen with
  | nil =>
    refine ⟨nofun, ?_⟩
    rintro ⟨before, piece, after, he, -⟩
    exact absurd he.symm (by simp)
  | cons first rest ih =>
    obtain ⟨name, literal⟩ := first
    rw [readColumns_cons, failsAt_cons_iff, offends_iff, ← ih]
    -- the tests of the reader, in its order
    by_cases hne : name = []
    · simp [hne, eq_comm]
    · by_cases hseen : name ∈ seen
      · simp [hne, hseen, eq_comm]
      · cases hf : Field.read name with
        | error fault => simp [hne, hseen]
        | ok field => cases readColumns place (name :: seen) rest <;> simp [hne, hseen]

/-! ## Formats -/

/-- How a format is read that has placeholders, and one that has none. -/
theorem read_eq :
    read source place =
      if (scan source).2 = [] then .error (.format (.noFields source) place)
      else (readColumns place [] (scan source).2).map fun columns =>
        ⟨source, (scan source).1, columns⟩ := by
  unfold read
  cases hpieces : (scan source).2 with
  | nil => rfl
  | cons piece rest =>
    rw [if_neg (List.cons_ne_nil _ _)]
    cases hr : readColumns place [] (piece :: rest) with
    | error fault => rfl
    | ok columns =>
      cases columns with
      | nil =>
        -- a placeholder that is read makes a column
        obtain ⟨-, field, later, -, -, he⟩ := readColumns_cons_ok hr
        cases he
      | cons column columns => rfl

theorem exists_read_iff :
    (∃ format, read source place = .ok format) ↔
      (scan source).2 ≠ [] ∧ Accepted [] ((scan source).2.map Prod.fst) := by
  have hcolumns : (∃ columns, readColumns place [] (scan source).2 = .ok columns) ↔
      Accepted [] ((scan source).2.map Prod.fst) := exists_readColumns_iff
  rw [read_eq, ← hcolumns]
  by_cases hnone : (scan source).2 = []
  · simp [hnone]
  · rw [if_neg hnone]
    cases readColumns place [] (scan source).2 <;> simp [hnone, Except.map]

theorem read_error_iff :
    read source place = .error failure ↔
      ((scan source).2 = [] ∧ failure = .format (.noFields source) place) ∨
        FailsAt place [] (scan source).2 failure := by
  have hnil : readColumns place [] [] = .ok [] := rfl
  rw [read_eq, ← readColumns_error_iff]
  by_cases hnone : (scan source).2 = []
  · simp [hnone, hnil, eq_comm]
  · rw [if_neg hnone]
    cases readColumns place [] (scan source).2 <;> simp [hnone, Except.map]

/-- **Which formats can be read.** A text is split in one way into literals and names between angle
brackets. It is a format if there are such names and all of them are accepted; then its fields are
what the names mean, in their order, its literals and placeholders make up the text again, and its
pattern is well formed. Otherwise it fails because there is no name, or for the leftmost name that
offends: for being empty, or else for standing further left, or else for meaning nothing. -/
theorem read_iff_placeholders (source : Text) (place : Place) :
    ∃ lead pieces,
      (∀ lead' pieces', Splits source lead' pieces' ↔ lead' = lead ∧ pieces' = pieces) ∧
      ((∃ format, read source place = .ok format) ↔
        pieces ≠ [] ∧ Accepted [] (pieces.map Prod.fst)) ∧
      (∀ format, read source place = .ok format →
        format.names = pieces.map Prod.fst ∧
        format.fields.map .ok = pieces.map (fun piece => Field.read piece.1) ∧
        format.source = source ∧
        format.lead ++ (format.columns.flatMap fun column =>
          placeholder column.field.name ++ column.literal) = source ∧
        Pattern.read? format.pattern = some format.pieces) ∧
      ∀ failure, read source place = .error failure ↔
        (pieces = [] ∧ failure = .format (.noFields source) place) ∨
          FailsAt place [] pieces failure := by
  refine ⟨(scan source).1, (scan source).2, fun lead' pieces' => ?_, exists_read_iff,
    fun format h => ?_, fun failure => read_error_iff⟩
  · rw [splits_iff, Prod.ext_iff, eq_comm, eq_comm (a := pieces')]
  · have hcolumns := readColumns_of_read h
    have hpieces := pieces_of_readColumns hcolumns
    have hsplit := splits_of_read h
    refine ⟨?_, ?_, source_of_read h, ?_, format.read?_pattern⟩
    · rw [names, fields, ← hpieces, List.map_map, List.map_map]
      rfl
    · rw [fields_of_readColumns hcolumns, fields, List.map_map]
      rfl
    · rw [hsplit.eq, joined, List.flatMap_map]

/-- Brackets that are nested, around other characters, or without a partner are literal text. -/
theorem read_iff_placeholders_nested :
    ∃ format, read "<<KA>> <K A> (<M01".toList ⟨none, none⟩ = .ok format ∧
      format.names = ["KA".toList] ∧
      format.lead ++ (format.columns.flatMap fun column =>
        placeholder column.field.name ++ column.literal) = "<<KA>> <K A> (<M01".toList ∧
      Pattern.read? format.pattern = some format.pieces := by
  obtain ⟨lead, pieces, hsplit, hread, hformat, -⟩ :=
    read_iff_placeholders "<<KA>> <K A> (<M01".toList ⟨none, none⟩
  have hscan : scan "<<KA>> <K A> (<M01".toList =
      (['<'], [("KA".toList, "> <K A> (<M01".toList)]) := by decide +kernel
  obtain ⟨rfl, rfl⟩ := (hsplit _ _).mp (splits_iff.mpr hscan)
  have haccepted : Accepted [] ["KA".toList] :=
    accepted_cons_iff.mpr ⟨by decide, by decide, ⟨⟨"KA".toList, .key 65⟩, by decide⟩,
      accepted_nil _⟩
  obtain ⟨format, h⟩ := hread.mpr ⟨List.cons_ne_nil _ _, haccepted⟩
  obtain ⟨hnames, -, -, hback, hpattern⟩ := hformat format h
  exact ⟨format, h, hnames, hback, hpattern⟩

/-! ## Buttons with long numbers -/

/-- A placeholder for a button whose number is written with so many ones. -/
def longButton (digits : Nat) : Text :=
  placeholder ('M' :: List.replicate digits '1')

theorem read_longButton {digits : Nat} (h : Numeral.digitLimit < digits) (place : Place) :
    read (longButton digits) place = .error (.longNumeral digits) := by
  have hname : IsName ('M' :: List.replicate digits '1') := by
    refine List.forall_mem_cons.mpr ⟨by decide, fun c hc => ?_⟩
    rw [List.eq_of_mem_replicate hc]
    decide
  have hscan : scan (longButton digits) = ([], [('M' :: List.replicate digits '1', [])]) :=
    splits_iff.mp ⟨by simp [joined, longButton], List.forall_mem_singleton.mpr hname,
      isLiteral_nil, List.forall_mem_singleton.mpr isLiteral_nil⟩
  have hnumber := Count.readNat_ones h
  refine read_error_iff.mpr (Or.inr ?_)
  rw [hscan]
  exact ⟨[], _, [], rfl, accepted_nil [],
    .longButton List.not_mem_nil hnumber (Field.read_of_tooLong hnumber)⟩

/-- A button with a number of 4301 digits is refused for none of the reasons for which a placeholder
is: that its name is empty or stands further left, or means no field or no key. -/
theorem read_longButton_unlisted :
    ∃ failure, read (longButton 4301) ⟨none, none⟩ = .error failure ∧
      failure.kind? ∉ [some .format, some .unknownField, some .unknownKey] :=
  ⟨_, read_longButton (by decide) _, by decide⟩

end Format

end FrameScript
