import FrameScript.Console.PictogramTable
import FrameScript.Text.Blank
import FrameScript.Text.Case
import FrameScript.Text.Digit

/-!
# Pictograms

A pictogram stands in for its name between two colons. The name may be in any case, and it may be
followed by a hyphen and the way in which the pictogram is to be shown: as text, or as a pictogram.
A name has no blank in it and ends at the next colon; a name that is not known stays as it is, and
its second colon begins no other name.
-/

namespace FrameScript.Console

/-! ## The table -/

/-- The name of an entry of the table, and its pictogram. -/
def readEntry (entry : Text) : Text × Text :=
  let codes := (entry.dropWhile (· ≠ ':')).drop 1
  let glyphs := (Text.split '-' codes).filterMap fun code => Text.numberIn? 16 code
  (entry.takeWhile (· ≠ ':'), glyphs.map Char.ofNat)

/-- Pictograms by their names. -/
def pictograms : List (Text × Text) :=
  let words := (pictogramTable.splitOn "\n").flatMap fun line => Text.split ' ' line.toList
  (words.filter (!·.isEmpty)).map readEntry

/-! ## Names -/

/-- The ways in which a pictogram can be asked to be shown, with the characters that ask for
them. -/
def manners : List (Text × Char) :=
  [("-text".toList, '\uFE0E'), ("-emoji".toList, '\uFE0F')]

/-- The name in what is written between two colons, and what asks for a manner after it. -/
def splitManner (written : Text) : Text × Text :=
  match manners.find? fun manner => manner.1.isSuffixOf written with
  | some manner => (written.take (written.length - manner.1.length), [manner.2])
  | none => (written, [])

/-- The pictogram for what is written between two colons. -/
def pictogram? (written : Text) : Option Text :=
  let (name, manner) := splitManner written
  (pictograms.lookup (Text.lower name)).map (· ++ manner)

/-- The text before the next colon, if it has no blank, and the text after the colon. -/
def closingColon? (s : Text) : Option (Text × Text) :=
  match s.dropWhile fun c => c ≠ ':' && !Text.isBlank c with
  | ':' :: rest => some (s.takeWhile fun c => c ≠ ':' && !Text.isBlank c, rest)
  | _ => none

theorem length_of_closingColon? {s written rest : Text}
    (h : closingColon? s = some (written, rest)) : rest.length < s.length := by
  have hd := (List.dropWhile_sublist (fun c => c ≠ ':' && !Text.isBlank c) (l := s)).length_le
  unfold closingColon? at h
  split at h
  · rename_i tail ht
    rw [ht, List.length_cons] at hd
    obtain ⟨-, rfl⟩ := Prod.mk.inj (Option.some.inj h)
    omega
  · simp at h

/-- The text with pictograms for their names. -/
def withPictograms : Text → Text
  | [] => []
  | c :: s =>
    match _h : if c = ':' then closingColon? s else none with
    | some (written, rest) =>
      (pictogram? written).getD (':' :: written ++ [':']) ++ withPictograms rest
    | none => c :: withPictograms s
termination_by s => s.length
decreasing_by
  · split at _h
    · have := length_of_closingColon? _h
      simp only [List.length_cons]
      omega
    · simp at _h
  · simp

end FrameScript.Console
