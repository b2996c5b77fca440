import FrameScript.Text.Digit
import FrameScript.Text.NameTable

/-!
# Names of characters

A text is the name of a character (Unicode 14) if the table has it, if it is one of a series of
names that end in a number, or if it names a syllable or an ideograph. A syllable goes by its parts,
an ideograph by its code. Only syllables and ideographs mind the case of letters.
-/

namespace FrameScript.Text

/-! ## Series -/

/-- Names that have a beginning in common and end in a number from a range, with so many digits in a
base. -/
structure Series where
  lead : String
  base : Nat
  width : Nat
  numbers : Nat × Nat

/-- Whether a name belongs to a series. -/
def Series.holds (series : Series) (name : Text) : Bool :=
  match after? series.lead.toList name with
  | some digits =>
    digits.length == series.width &&
      (numberIn? series.base digits).any (inRanges [series.numbers])
  | none => false

/-- The series of names. -/
def nameSeries : List Series := [
  ⟨"CJK COMPATIBILITY IDEOGRAPH-", 16, 4, 0xF900, 0xFA6D⟩,
  ⟨"CJK COMPATIBILITY IDEOGRAPH-", 16, 4, 0xFA70, 0xFAD9⟩,
  ⟨"CJK COMPATIBILITY IDEOGRAPH-", 16, 5, 0x2F800, 0x2FA1D⟩,
  ⟨"KHITAN SMALL SCRIPT CHARACTER-", 16, 5, 0x18B00, 0x18CD5⟩,
  ⟨"NUSHU CHARACTER-", 16, 5, 0x1B170, 0x1B2FB⟩,
  ⟨"TANGUT COMPONENT-", 10, 3, 1, 768⟩,
  ⟨"VARIATION SELECTOR-", 10, 1, 1, 9⟩, ⟨"VARIATION SELECTOR-", 10, 2, 10, 99⟩,
  ⟨"VARIATION SELECTOR-", 10, 3, 100, 256⟩,
  ⟨"VS", 10, 1, 1, 9⟩, ⟨"VS", 10, 2, 10, 99⟩, ⟨"VS", 10, 3, 100, 256⟩]

/-! ## Ideographs and syllables -/

/-- The codes of ideographs. -/
def ideographs : List (Nat × Nat) := [
  (0x3400, 0x4DBF), (0x4E00, 0x9FFF), (0x20000, 0x2A6DF), (0x2A700, 0x2B738), (0x2B740, 0x2B81D),
  (0x2B820, 0x2CEA1), (0x2CEB0, 0x2EBE0), (0x30000, 0x3134A)]

/-- Whether a text is the code of an ideograph in four or five digits, with capital letters. -/
def isIdeograph (code : Text) : Bool :=
  (code.length == 4 || code.length == 5) && !code.any Char.isLower &&
    (numberIn? 16 code).any (inRanges ideographs)

/-- The first parts of syllables. -/
def syllableLeads : List String := [
  "", "G", "GG", "N", "D", "DD", "R", "M", "B", "BB", "S", "SS", "J", "JJ", "C", "K", "T", "P", "H"]

/-- The vowels of syllables. -/
def syllableVowels : List String := [
  "A", "AE", "YA", "YAE", "EO", "E", "YEO", "YE", "O", "WA", "WAE", "OE", "YO", "U", "WEO", "WE",
  "WI", "YU", "EU", "YI", "I"]

/-- The last parts of syllables. -/
def syllableTails : List String := [
  "", "G", "GG", "GS", "N", "NJ", "NH", "D", "L", "LG", "LM", "LB", "LS", "LT", "LP", "LH", "M",
  "B", "BS", "S", "SS", "NG", "J", "C", "K", "T", "P", "H"]

/-- Whether a text consists of the parts of a syllable. -/
def isSyllable (s : Text) : Bool :=
  syllableLeads.any fun lead => syllableVowels.any fun vowel => syllableTails.any fun tail =>
    s == lead.toList ++ vowel.toList ++ tail.toList

/-! ## The table -/

/-- The words of the table of names. -/
def tableWords (table : String) : List Text :=
  ((table.splitOn "\n").flatMap fun line => split ' ' line.toList).filter (!·.isEmpty)

/-- Whether a name of some words is listed among words of the table, or if not, is the name that has
been begun before them. -/
def isListed (name : List Text) : (begun : List Text) → List Text → Bool
  | begun, [] => begun == name
  | begun, word :: words =>
    match numberIn? 10 word with
    | some n => begun == name || isListed name (begun.take n) words
    | none => isListed name (begun ++ [word]) words

/-! ## Names -/

/-- Whether a text is the name of a character. -/
def isName (s : Text) : Bool :=
  match after? "HANGUL SYLLABLE ".toList s, after? "CJK UNIFIED IDEOGRAPH-".toList s with
  | some syllable, _ => isSyllable syllable
  | none, some code => isIdeograph code
  | none, none =>
    let name := s.map Char.toUpper
    !name.isEmpty &&
      (nameSeries.any (·.holds name) || isListed (split ' ' name) [] (tableWords nameTable))

end FrameScript.Text
