import FrameScript.Proofs.Input.Compiling
import Mathlib.Data.Nat.Digits.Defs

/-!
# Names that mean the same

The fields of a frame go into one set of codes for the keys and one for the buttons, so two names
that mean the same code are two names for one control. Such names exist: a letter has the code of
its upper-case form, and the number of a button may begin with zeros or be written in the digits of
another script. There are no others. The codes of keys come from a table of words, a table of
punctuation, the code points of digits and of capital letters, and the range above `extendedBase`;
that these five do not meet is a fact about all characters (`Key.Group.eq_of_covers`), and within
each of them but the letters a code tells the name.

## Results

* `Numeral.readNat_eq_value_iff`: what digits are read as is the number that they denote.
* `Key.Group.eq_of_covers`: the codes of two groups of keys do not meet.
* `Key.eq_or_letter_of_code?`: two keys have the same code only if they are the same, or one letter
  in two cases.
* `Field.kinds_agree_iff_alias`: **names mean the same only if they are known aliases.**
-/

namespace FrameScript

/-! ## Numerals -/

namespace Numeral

variable {s : Text} {digits : List Nat} {n : Nat}

/-- The text consists of decimal digits of any scripts, at least one, and denotes the number in
base ten. -/
def Denotes (s : Text) (n : Nat) : Prop :=
  s ≠ [] ∧ ∃ digits, List.Forall₂ (fun c d => Text.digit? c = some d) s digits ∧
    n = Nat.ofDigits 10 digits.reverse

theorem mapM_digit?_eq_some_iff :
    s.mapM Text.digit? = some digits ↔
      List.Forall₂ (fun c d => Text.digit? c = some d) s digits := by
  induction s generalizing digits with
  | nil => simp [eq_comm]
  | cons c s ih =>
    rw [List.mapM_cons, List.forall₂_cons_left_iff]
    simp only [Option.bind_eq_bind, Option.bind_eq_some_iff, Option.pure_def, Option.some.injEq, ih]
    constructor
    · rintro ⟨d, hd, rest, hrest, rfl⟩
      exact ⟨d, rest, hd, hrest, rfl⟩
    · rintro ⟨d, rest, hd, hrest, rfl⟩
      exact ⟨d, hd, rest, hrest, rfl⟩

theorem ofDigits_eq (digits : List Nat) : ofDigits digits = Nat.ofDigits 10 digits.reverse := by
  rw [Nat.ofDigits_eq_foldr, List.foldr_reverse, ofDigits]
  congr 1
  funext n d
  exact Nat.add_comm _ _

theorem Denotes.unique {m : Nat} (h : Denotes s m) (h' : Denotes s n) : m = n := by
  obtain ⟨-, digits, hdigits, rfl⟩ := h
  obtain ⟨-, other, hother, rfl⟩ := h'
  have hsame := mapM_digit?_eq_some_iff.mpr hdigits
  rw [mapM_digit?_eq_some_iff.mpr hother] at hsame
  rw [Option.some.inj hsame]

/-- **What digits are read as** is the number that they denote, unless there are too many. -/
theorem readNat_eq_value_iff : readNat s = .value n ↔ Denotes s n ∧ s.length ≤ digitLimit := by
  unfold readNat
  cases hd : s.mapM Text.digit? with
  | none =>
    refine iff_of_false nofun ?_
    rintro ⟨⟨-, digits, hdigits, -⟩, -⟩
    rw [mapM_digit?_eq_some_iff.mpr hdigits] at hd
    cases hd
  | some digits =>
    have hall := mapM_digit?_eq_some_iff.mp hd
    cases digits with
    | nil =>
      rw [List.forall₂_nil_right_iff] at hall
      exact iff_of_false nofun fun h => h.1.1 hall
    | cons d digits =>
      have hdenotes : Denotes s (ofDigits (d :: digits)) := by
        refine ⟨?_, _, hall, ofDigits_eq _⟩
        rintro rfl
        cases hall
      have hvalue : Denotes s n ↔ ofDigits (d :: digits) = n :=
        ⟨hdenotes.unique, fun h => h ▸ hdenotes⟩
      rw [hvalue, hall.length_eq]
      show ofDigitList (d :: digits) = value n ↔ _
      rw [ofDigitList, if_neg (by simp), ← Nat.not_lt]
      split
      · rename_i hlong
        exact iff_of_false nofun fun h => h.2 hlong
      · rename_i hshort
        exact ⟨fun h => ⟨value.inj h, hshort⟩, fun h => congrArg value h.1⟩

end Numeral

/-! ## Keys -/

namespace Key

/-- What the name of a key may be: a word, or a character of one of four sorts. -/
inductive Group where
  | word
  | punctuation
  | digit
  | letter
  | extended
  deriving DecidableEq

/-- The group of a character that names a key. -/
def groupOf (c : Char) : Group :=
  if c ∈ punctuation.map Prod.fst then .punctuation
  else if c.isDigit then .digit
  else if c.isAlpha then .letter
  else .extended

/-- The group of a key by its name. -/
def group? : Text → Option Group
  | [c] => some (groupOf c)
  | name => (named.lookup name).map fun _ => .word

/-- The codes of the keys of a group. -/
def Group.Covers : Group → Nat → Prop
  | .word, code => code ∈ named.map Prod.snd
  | .punctuation, code => code ∈ Key.punctuation.map Prod.snd
  | .digit, code => '0'.toNat ≤ code ∧ code ≤ '9'.toNat
  | .letter, code => 'A'.toNat ≤ code ∧ code ≤ 'Z'.toNat
  | .extended, code => extendedBase ≤ code

variable {name other : Text} {c d : Char} {code : Nat} {g g' : Group}

/-- The group that a code tells. -/
def Group.ofCode (code : Nat) : Group :=
  if extendedBase ≤ code then .extended
  else if '0'.toNat ≤ code ∧ code ≤ '9'.toNat then .digit
  else if 'A'.toNat ≤ code ∧ code ≤ 'Z'.toNat then .letter
  else if code ∈ Key.punctuation.map Prod.snd then .punctuation
  else .word

theorem Group.ofCode_eq (h : g.Covers code) : ofCode code = g := by
  cases g with
  | word =>
    have hwords : ∀ code ∈ named.map Prod.snd, ofCode code = word := by decide
    exact hwords code h
  | punctuation =>
    have hmarks : ∀ code ∈ Key.punctuation.map Prod.snd, ofCode code = punctuation := by decide
    exact hmarks code h
  | digit =>
    obtain ⟨hlow, hhigh⟩ := h
    have hbase : ¬extendedBase ≤ code := Nat.not_le.mpr (Nat.lt_of_le_of_lt hhigh (by decide))
    rw [ofCode, if_neg hbase, if_pos ⟨hlow, hhigh⟩]
  | letter =>
    obtain ⟨hlow, hhigh⟩ := h
    have hbase : ¬extendedBase ≤ code := Nat.not_le.mpr (Nat.lt_of_le_of_lt hhigh (by decide))
    have hdigit : ¬('0'.toNat ≤ code ∧ code ≤ '9'.toNat) := fun hd =>
      absurd (Nat.le_trans hlow hd.2) (by decide)
    rw [ofCode, if_neg hbase, if_neg hdigit, if_pos ⟨hlow, hhigh⟩]
  | extended => exact if_pos h

/-- **The codes of two groups of keys do not meet.** -/
theorem Group.eq_of_covers (h : g.Covers code) (h' : g'.Covers code) : g = g' :=
  (ofCode_eq h).symm.trans (ofCode_eq h')

/-- How a key of a group gets its code. -/
inductive Coded : Text → Group → Nat → Prop
  | word {name : Text} {code : Nat} (h : (name, code) ∈ named) : Coded name .word code
  | punctuation {c : Char} {code : Nat} (h : (c, code) ∈ Key.punctuation) :
      Coded [c] .punctuation code
  | digit {c : Char} (h : c.isDigit = true) : Coded [c] .digit c.toNat
  | letter {c : Char} (h : c.isAlpha = true) : Coded [c] .letter c.toUpper.toNat
  | extended {c : Char} : Coded [c] .extended (extendedBase + c.toNat)

/-- The names are letters of ASCII that differ in their case at most. -/
def SameLetter (name other : Text) : Prop :=
  ∃ c d : Char, name = [c] ∧ other = [d] ∧ c.isAlpha = true ∧ d.isAlpha = true ∧
    c.toLower = d.toLower

/-! ### Characters of ASCII -/

/-- A property of all characters below U+0080, from each of them. -/
theorem ascii_of_forall {P : Char → Prop} (h : ∀ n < 0x80, P (Char.ofNat n)) (hc : c.toNat < 0x80) :
    P c := by
  have := h c.toNat hc
  rwa [Char.ofNat_toNat] at this

theorem lt_of_isAlpha (h : c.isAlpha = true) : c.toNat < 0x80 := by
  rcases (Bool.or_eq_true _ _).mp h with hupper | hlower
  · have hle : c.val ≤ 'Z'.val := (of_decide_eq_true hupper).2
    exact Nat.lt_of_le_of_lt (UInt32.le_iff_toNat_le.mp hle) (by decide)
  · have hle : c.val ≤ 'z'.val := of_decide_eq_true ((Bool.and_eq_true _ _).mp hlower).2
    exact Nat.lt_of_le_of_lt (UInt32.le_iff_toNat_le.mp hle) (by decide)

theorem toUpper_of_isDigit (h : c.isDigit = true) : c.toUpper = c := by
  have hlt : c.toNat < 0x80 := Nat.lt_of_le_of_lt (Char.isDigit_iff_toNat.mp h).2 (by decide)
  exact ascii_of_forall (P := fun c => c.isDigit = true → c.toUpper = c) (by decide +kernel) hlt h

/-- A letter has the code of its upper-case form, which is a capital and tells its lower-case
form. -/
theorem code?_letter (h : c.isAlpha = true) :
    code? [c] = some c.toUpper.toNat ∧ Group.letter.Covers c.toUpper.toNat ∧
      c.toUpper.toLower = c.toLower ∧ c.toLower.toUpper = c.toUpper := by
  refine ascii_of_forall (P := fun c => c.isAlpha = true → code? [c] = some c.toUpper.toNat ∧
    ('A'.toNat ≤ c.toUpper.toNat ∧ c.toUpper.toNat ≤ 'Z'.toNat) ∧
      c.toUpper.toLower = c.toLower ∧ c.toLower.toUpper = c.toUpper) ?_ (lt_of_isAlpha h) h
  decide +kernel

/-! ### Codes -/

theorem Coded.covers (h : Coded name g code) : g.Covers code := by
  cases h with
  | word h => exact List.mem_map.mpr ⟨_, h, rfl⟩
  | punctuation h => exact List.mem_map.mpr ⟨_, h, rfl⟩
  | digit h => exact Char.isDigit_iff_toNat.mp h
  | letter h => exact (code?_letter h).2.1
  | extended => exact Nat.le_add_right _ _

theorem coded_of_ofChar? (h : ofChar? c = some code) : Coded [c] (groupOf c) code := by
  unfold ofChar? at h
  split at h
  · unfold groupOf
    split at h
    · rename_i found hfound
      have hm := mem_of_lookup hfound
      rw [if_pos (List.mem_map.mpr ⟨_, hm, rfl⟩), ← Option.some.inj h]
      exact .punctuation hm
    · rename_i hnone
      rw [if_neg (lookup_eq_none_iff_not_mem.mp hnone)]
      by_cases hd : c.isDigit = true
      · rw [if_pos (by simp [Char.isAlphanum, hd])] at h
        rw [if_pos hd, ← Option.some.inj h, toUpper_of_isDigit hd]
        exact .digit hd
      · rw [if_neg hd]
        by_cases ha : c.isAlpha = true
        · rw [if_pos (by simp [Char.isAlphanum, ha])] at h
          rw [if_pos ha, ← Option.some.inj h]
          exact .letter ha
        · rw [if_neg (by simp [Char.isAlphanum, ha, hd])] at h
          rw [if_neg ha, ← Option.some.inj h]
          exact .extended
  · cases h

/-- The code of a key comes from its group. -/
theorem coded_of_code? (h : code? name = some code) :
    ∃ g, group? name = some g ∧ Coded name g code := by
  unfold code? at h
  split at h
  · rename_i found hfound
    have hm := mem_of_lookup hfound
    have hword : ∀ entry ∈ named, group? entry.1 = some .word := by decide
    rw [← Option.some.inj h]
    exact ⟨.word, hword _ hm, .word hm⟩
  · unfold ofCharText? at h
    split at h
    · rename_i c
      exact ⟨_, rfl, coded_of_ofChar? h⟩
    · cases h

/-- **Within a group a code tells the name**, but for the case of a letter. -/
theorem Coded.eq_or_letter (h : Coded name g code) (h' : Coded other g code) :
    name = other ∨ SameLetter name other := by
  cases h with
  | word h =>
    cases h' with
    | word h' =>
      have honce : (named.map Prod.snd).Nodup := by decide
      exact Or.inl (Prod.mk.inj (List.inj_on_of_nodup_map honce h h' rfl)).1
  | punctuation h =>
    cases h' with
    | punctuation h' =>
      have honce : (Key.punctuation.map Prod.snd).Nodup := by decide
      rw [(Prod.mk.inj (List.inj_on_of_nodup_map honce h h' rfl)).1]
      exact Or.inl rfl
  | @digit c h =>
    generalize hcode : c.toNat = code at h'
    cases h' with
    | digit h' => exact Or.inl (by rw [Char.toNat_inj.mp hcode])
  | @letter c h =>
    generalize hcode : c.toUpper.toNat = code at h'
    cases h' with
    | @letter d h' =>
      refine Or.inr ⟨c, d, rfl, rfl, h, h', ?_⟩
      rw [← (code?_letter h).2.2.1, ← (code?_letter h').2.2.1, Char.toNat_inj.mp hcode]
  | @extended c =>
    generalize hcode : extendedBase + c.toNat = code at h'
    cases h' with
    | extended => exact Or.inl (by rw [Char.toNat_inj.mp (Nat.add_left_cancel hcode)])

/-- **Keys of two groups have two codes.** -/
theorem group?_eq_of_code? (h : code? name = some code) (h' : code? other = some code) :
    ∃ g, group? name = some g ∧ group? other = some g := by
  obtain ⟨g, hg, hcoded⟩ := coded_of_code? h
  obtain ⟨g', hg', hcoded'⟩ := coded_of_code? h'
  exact ⟨g, hg, Group.eq_of_covers hcoded.covers hcoded'.covers ▸ hg'⟩

/-- **Two keys have the same code** if they are the same, or one letter in two cases. -/
theorem eq_or_letter_of_code? (h : code? name = some code) (h' : code? other = some code) :
    name = other ∨ SameLetter name other := by
  obtain ⟨g, -, hcoded⟩ := coded_of_code? h
  obtain ⟨g', -, hcoded'⟩ := coded_of_code? h'
  obtain rfl := Group.eq_of_covers hcoded.covers hcoded'.covers
  exact hcoded.eq_or_letter hcoded'

/-- One letter in two cases has one code. -/
theorem code?_of_sameLetter (h : SameLetter name other) :
    ∃ code, code? name = some code ∧ code? other = some code := by
  obtain ⟨c, d, rfl, rfl, hc, hd, hcase⟩ := h
  refine ⟨c.toUpper.toNat, (code?_letter hc).1, ?_⟩
  rw [(code?_letter hd).1, ← (code?_letter hd).2.2.2, ← hcase, (code?_letter hc).2.2.2]

end Key

/-! ## Fields -/

namespace Field

variable {name other key number : Text} {code n : Nat} {kind : Kind}

/-- The names are those of one key, and differ in the case of a letter at most. -/
def SameKey (name other : Text) : Prop :=
  ∃ key key', name = 'K' :: key ∧ other = 'K' :: key' ∧ Key.SameLetter key key'

/-- The names are those of one button, the number of which they write. -/
def SameButton (name other : Text) : Prop :=
  ∃ number number' n, name = 'M' :: number ∧ other = 'M' :: number' ∧
    Numeral.Denotes number n ∧ Numeral.Denotes number' n

/-- The name of a key is the letter `K` with a key. -/
theorem readKind_eq_key_iff :
    readKind name = .ok (.key code) ↔ ∃ key, name = 'K' :: key ∧ Key.code? key = some code := by
  constructor
  · intro h
    unfold readKind at h
    split at h
    · cases h
    · cases h
    · rename_i c rest
      split at h
      · rename_i found hfound
        cases h
        exact ⟨_, rfl, hfound⟩
      · cases h
    · split at h <;> cases h
    · cases h
  · rintro ⟨key, rfl, hkey⟩
    cases key with
    | nil => cases hkey
    | cons c rest => simp [readKind, hkey]

/-- The name of a button is the letter `M` with a number. -/
theorem readKind_eq_button_iff :
    readKind name = .ok (.button n) ↔
      ∃ number, name = 'M' :: number ∧ Numeral.readNat number = .value n := by
  constructor
  · intro h
    unfold readKind at h
    split at h
    · cases h
    · cases h
    · split at h <;> cases h
    · rename_i number _ _
      split at h
      · rename_i found hfound
        cases h
        exact ⟨number, rfl, hfound⟩
      · cases h
      · cases h
    · cases h
  · rintro ⟨number, rfl, hnumber⟩
    unfold readKind
    split
    · rename_i he
      cases he
      cases hnumber
    · rename_i he
      cases he
      cases hnumber
    · rename_i he
      cases he
    · rename_i number' _ _ he
      cases he
      rw [hnumber]
    · rename_i hother
      exact absurd rfl (hother number)

/-- A name with the digits of a number that is accepted means the button of that number. -/
theorem kind_of_denotes (h : readKind ('M' :: number) = .ok kind)
    (hn : Numeral.Denotes number n) : kind = .button n := by
  -- the name of an axis has no digit after the `M`
  have haxis (axis : Axis) (ha : readKind ('M' :: number) = .ok axis.kind) : False := by
    have hname := Axis.readKind_eq_iff.mp ha
    obtain ⟨-, digits, hdigits, -⟩ := hn
    cases axis with
    | horizontal =>
      obtain rfl : number = ['X'] := (List.cons.inj hname).2
      exact absurd (Numeral.mapM_digit?_eq_some_iff.mpr hdigits) nofun
    | vertical =>
      obtain rfl : number = ['Y'] := (List.cons.inj hname).2
      exact absurd (Numeral.mapM_digit?_eq_some_iff.mpr hdigits) nofun
  cases kind with
  | mouseX => exact (haxis .horizontal h).elim
  | mouseY => exact (haxis .vertical h).elim
  | key code =>
    obtain ⟨key, hkey, -⟩ := readKind_eq_key_iff.mp h
    cases hkey
  | button m =>
    obtain ⟨number', he, hm⟩ := readKind_eq_button_iff.mp h
    cases he
    rw [(Numeral.readNat_eq_value_iff.mp hm).1.unique hn]

/-- **Names mean the same only if they are known aliases.** Let two names be accepted. They mean
fields of one kind with one code if they are equal, or two cases of a letter of ASCII after `K`, or
digits after `M` that denote one number; and in no other case. In particular a word, a punctuation
mark, a digit, a letter and any other character, whatever it is, never name keys with one code. -/
theorem kinds_agree_iff_alias :
    (∀ name other : Text, ∀ kind kind' : Kind, readKind name = .ok kind →
        readKind other = .ok kind' →
        (kind = kind' ↔ name = other ∨ SameKey name other ∨ SameButton name other)) ∧
      ∀ name other : Text, ∀ code, Key.code? name = some code → Key.code? other = some code →
        ∃ group, Key.group? name = some group ∧ Key.group? other = some group := by
  refine ⟨fun name other kind kind' hk hk' => ⟨?_, ?_⟩,
    fun name other code h h' => Key.group?_eq_of_code? h h'⟩
  · rintro rfl
    cases kind with
    | mouseX =>
      have hx : ∀ n, readKind n = .ok .mouseX → n = Axis.horizontal.name := fun n hn =>
        Axis.readKind_eq_iff.mp hn
      exact Or.inl ((hx name hk).trans (hx other hk').symm)
    | mouseY =>
      have hy : ∀ n, readKind n = .ok .mouseY → n = Axis.vertical.name := fun n hn =>
        Axis.readKind_eq_iff.mp hn
      exact Or.inl ((hy name hk).trans (hy other hk').symm)
    | key code =>
      obtain ⟨key, rfl, hkey⟩ := readKind_eq_key_iff.mp hk
      obtain ⟨key', rfl, hkey'⟩ := readKind_eq_key_iff.mp hk'
      rcases Key.eq_or_letter_of_code? hkey hkey' with rfl | hletter
      · exact Or.inl rfl
      · exact Or.inr (Or.inl ⟨key, key', rfl, rfl, hletter⟩)
    | button n =>
      obtain ⟨number, rfl, hnumber⟩ := readKind_eq_button_iff.mp hk
      obtain ⟨number', rfl, hnumber'⟩ := readKind_eq_button_iff.mp hk'
      exact Or.inr (Or.inr ⟨number, number', n, rfl, rfl,
        (Numeral.readNat_eq_value_iff.mp hnumber).1, (Numeral.readNat_eq_value_iff.mp hnumber').1⟩)
  · rintro (rfl | ⟨key, key', rfl, rfl, hsame⟩ | ⟨number, number', n, rfl, rfl, hn, hn'⟩)
    · exact Except.ok.inj (hk.symm.trans hk')
    · obtain ⟨code, hcode, hcode'⟩ := Key.code?_of_sameLetter hsame
      have hkey := hk.symm.trans (readKind_eq_key_iff.mpr ⟨key, rfl, hcode⟩)
      have hkey' := hk'.symm.trans (readKind_eq_key_iff.mpr ⟨key', rfl, hcode'⟩)
      exact (Except.ok.inj hkey).trans (Except.ok.inj hkey').symm
    · exact (kind_of_denotes hk hn).trans (kind_of_denotes hk' hn').symm

/-- The number of a button with zeros before it, and in Arabic digits; a letter in both cases. -/
theorem kinds_agree_iff_alias_seven :
    readKind "M007".toList = .ok (.button 7) ∧
      readKind ['M', Char.ofNat 0x667] = .ok (.button 7) ∧
      SameButton "M007".toList ['M', Char.ofNat 0x667] ∧
      Key.code? ['q'] = some 81 ∧ Key.code? ['Q'] = some 81 ∧
      ∃ group, Key.group? ['q'] = some group ∧ Key.group? ['Q'] = some group := by
  have hzeros : readKind "M007".toList = .ok (.button 7) := by decide
  have harabic : readKind ['M', Char.ofNat 0x667] = .ok (.button 7) := by decide
  have hsmall : Key.code? ['q'] = some 81 := by decide
  have hcapital : Key.code? ['Q'] = some 81 := by decide
  refine ⟨hzeros, harabic, ?_, hsmall, hcapital,
    kinds_agree_iff_alias.2 _ _ _ hsmall hcapital⟩
  rcases (kinds_agree_iff_alias.1 _ _ _ _ hzeros harabic).mp rfl with he | ⟨key, -, hkey, -⟩ | h
  · exact absurd he (by decide)
  · cases hkey
  · exact h

end Field

end FrameScript
