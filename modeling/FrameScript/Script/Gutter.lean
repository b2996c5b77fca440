import FrameScript.Script.Count

/-!
# The gutter

Beside each line of a text stands the number of the frame that it makes, or how many frames an
included script makes, or that the line does not fit. A line that does not fit is passed over, and
a script that cannot be read or counted makes its line one of them. Without a usable header no
line fits.
-/

namespace FrameScript.Gutter

/-- The count of an included script, missing if the script cannot be read. -/
def countIncluded (disk : Disk) (l : Location) : Reading (Option Nat) := fun store =>
  match Count.countFile disk l store with
  | .ok count store => .ok count store
  | .error failure store =>
    match failure with
    | .unreadable .. =>
      (do
        Store.tell .warning "Included file unavailable"
          [("path", .text (disk.canonical l).text), ("error", .text failure.message.toList)]
        pure none : Reading (Option Nat)) store
    | _ => .error failure store

/-- Marks of one kind for so many lines, from the line `first` on. -/
def uniform (kind : Mark.Kind) (first : Nat) : Nat → List Mark
  | 0 => []
  | n + 1 => ⟨first, kind, none⟩ :: uniform kind (first + 1) n

/-- The marks of the lines of a text. -/
def ofLines (disk : Disk) (base : Location) (lines : List Text) : Reading (List Mark) :=
  let found := HeaderLines.find lines
  if found.isUsable then do
    let (marks, _) ← (Outline.ofLines found.bodyStart lines).marks (fun target =>
      if found.isFragment || target.isEmpty then pure none
      else countIncluded disk (base.under (Location.read target))) 0
    pure (uniform .header 1 found.bodyStart ++ marks)
  else pure (uniform .error 1 lines.length)

/-- The marks of a text that sees the paths of included scripts from `base`. -/
def annotate (disk : Disk) (text : Text) (base : Option Text) : Reading (List Mark) :=
  ofLines disk (Count.baseOf disk base) (Text.lines text)

end FrameScript.Gutter
