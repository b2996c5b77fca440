import FrameScript.Console.Layout
import FrameScript.Decimal.Nearest
import FrameScript.Text.Lines

/-!
# Tables

A table has no borders, and one blank on either side of each cell. A column is as wide as its
longest line; if there is no room for that, the widest columns are narrowed until there is. The
lines of a cell that does not fit are broken, and a word that does not fit is cut.
-/

namespace FrameScript.Console

/-- A table: the sides of its columns, and its rows, the heading among them. -/
structure Table where
  sides : List Side
  rows : List (List Text)

namespace Table

/-- The blanks on both sides of a cell. -/
def margin : Nat := 2

/-! ## Widths -/

/-- The columns that a cell would take, its tabs aside. -/
def cellWidth (cell : Text) : Nat :=
  ((Text.lines cell).map Text.width).foldl max 0 + margin

/-- The widths that the columns would take if each had the console for itself. -/
def naturalWidths (table : Table) : List Nat :=
  let widen (widths : List Nat) (row : List Text) : List Nat :=
    List.zipWith max widths (row.map fun cell => min columns (cellWidth cell))
  table.rows.foldl widen (table.sides.map fun _ => 0)

/-- The widths when `excess` is taken from those that are `widest`, but at most `most` from each.
As long as there are some, each gives its share of what is left; `count` is their number. -/
def reduce (widest most : Nat) (count excess : Nat) : List Nat → List Nat
  | [] => []
  | width :: rest =>
    if width = widest ∧ 0 < count then
      let share := min most (Binary.roundDiv excess count)
      (width - share) :: reduce widest most (count - 1) (excess - share) rest
    else width :: reduce widest most count excess rest

/-- The widths with the widest of them narrowed towards the next widest. -/
def narrowOnce (excess : Nat) (widths : List Nat) : List Nat :=
  let widest := widths.foldl max 0
  let second := (widths.filter (· ≠ widest)).foldl max 0
  reduce widest (min excess (widest - second)) (widths.count widest) excess widths

/-- The columns that are too many for the console. -/
def excess (widths : List Nat) : Nat :=
  widths.foldl (· + ·) 0 - columns

/-- The widths narrowed until they fit on the console; no more steps than `steps` are taken. -/
def narrow : (steps : Nat) → List Nat → List Nat
  | 0, widths => widths
  | steps + 1, widths =>
    if excess widths = 0 then widths else narrow steps (narrowOnce (excess widths) widths)

/-- The widths of the columns: each step of narrowing takes something away, so that as many steps
are enough as there are columns too many. -/
def widths (table : Table) : List Nat :=
  narrow (excess table.naturalWidths) table.naturalWidths

/-! ## Lines -/

/-- A line of a cell between its blanks. A line that is still too wide takes the place of the blank
after it, and is cut if that is not enough. -/
def inMargins (width : Nat) (line : Text) : Option Text :=
  if Text.width line + margin ≤ width then some (' ' :: line ++ [' '])
  else (Text.fit (width - 1) line).map (' ' :: ·)

/-- The lines of a row: those of its cells side by side. -/
def rowLines (widths : List Nat) (sides : List Side) (row : List Text) :
    Option (List Text) := do
  let cells ← ((widths.zip sides).zip row).mapM fun ((width, side), cell) => do
    pure (width, ← (← cellLines (width - margin) side cell).mapM (inMargins width))
  let height := (cells.map fun cell => cell.2.length).foldl max 1
  pure ((List.range height).map fun n => cells.flatMap fun cell =>
    cell.2[n]?.getD (List.replicate cell.1 ' '))

/-- The lines of a table. -/
def lines (table : Table) : Option (List Text) :=
  (table.rows.mapM (rowLines table.widths table.sides)).map List.flatten

end Table

end FrameScript.Console
