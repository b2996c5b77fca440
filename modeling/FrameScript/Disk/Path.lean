import FrameScript.Text.Basic

/-!
# Paths

A `Path` is canonical: the names of the folders from the root down, so that two paths are equal
exactly when they lead the same way. A `Location` is a path as somebody wrote it: it may start
anywhere, and it may go up. The target of a link may also ask for a folder by staying in it. Where
a location leads depends on the disk (`FrameScript.Disk.Walk`).
-/

namespace FrameScript

/-- A canonical path: names from the root down. -/
structure Path where
  names : List Text
  deriving DecidableEq

namespace Path

/-- The root. -/
def root : Path := ⟨[]⟩

/-- The folder that holds the path; the root holds itself. -/
def parent (p : Path) : Path :=
  ⟨p.names.dropLast⟩

/-- The entry `name` of the folder `p`. -/
def child (p : Path) (name : Text) : Path :=
  ⟨p.names ++ [name]⟩

/-- The beginnings of a list that leave out at least one member, the shortest first. -/
def beginnings {α : Type} : List α → List (List α)
  | [] => []
  | a :: rest => [] :: (beginnings rest).map (a :: ·)

/-- The folders above the path, from the root down. -/
def ancestors (p : Path) : List Path :=
  (beginnings p.names).map Path.mk

/-- The path as it is written. -/
def text (p : Path) : Text :=
  '/' :: Text.join ['/'] p.names

/-- The most bytes that a name may have. -/
def nameLimit : Nat := 255

/-- Whether a name is too long to be looked up. -/
def isLongName (name : Text) : Bool :=
  nameLimit < Text.byteCount name

/-- The bytes that a whole path has to stay below. -/
def lengthLimit : Nat := 4096

/-- Whether a written path is too long to be followed. -/
def isLong (written : Text) : Bool :=
  lengthLimit ≤ Text.byteCount written

end Path

/-- Where a location starts: where its reader stands, at the root, or at the root with the
doubled slash that systems may treat apart. -/
inductive Location.Start where
  | relative
  | absolute
  | doubled
  deriving DecidableEq

/-- A path as it was written, without empty parts. -/
structure Location where
  start : Location.Start
  parts : List Text
  deriving DecidableEq

namespace Location

/-- The part that goes up one folder. -/
def up : Text := ['.', '.']

/-- The part that stays in a folder. -/
def stay : Text := ['.']

/-- How many slashes a written path begins with tells where it starts. -/
def startOf (s : Text) : Start :=
  match (s.takeWhile (· == '/')).length with
  | 0 => .relative
  | 2 => .doubled
  | _ => .absolute

/-- The location that a text writes. -/
def read (s : Text) : Location :=
  ⟨startOf s, (Text.split '/' s).filter fun part => part ≠ [] ∧ part ≠ stay⟩

/-- The location that a link leads to. A slash at its end asks for a folder, like a part that
stays. -/
def readTarget (s : Text) : Location :=
  let parts := (Text.split '/' s).filter (· ≠ [])
  ⟨startOf s, if s.getLast? = some '/' then parts ++ [stay] else parts⟩

/-- The location in normal writing; the place where the reader stands is a dot. -/
def text (l : Location) : Text :=
  match l.start, l.parts with
  | .relative, [] => ['.']
  | .relative, parts => Text.join ['/'] parts
  | .absolute, parts => '/' :: Text.join ['/'] parts
  | .doubled, parts => '/' :: '/' :: Text.join ['/'] parts

/-- The location `l`, seen from the folder `base`. -/
def under (base l : Location) : Location :=
  match l.start with
  | .relative => ⟨base.start, base.parts ++ l.parts⟩
  | _ => l

/-- Whether the location can be looked up at all: no name of a folder or a file has a NUL in it. -/
def isSound (l : Location) : Bool :=
  l.parts.all (!·.contains '\x00')

/-- The folder that holds the location. -/
def parent (l : Location) : Location :=
  ⟨l.start, l.parts.dropLast⟩

end Location

/-- A canonical path as a location. -/
def Path.location (p : Path) : Location :=
  ⟨.absolute, p.names⟩

end FrameScript
