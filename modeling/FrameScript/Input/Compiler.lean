import FrameScript.Input.Delta
import FrameScript.Script.Field
import FrameScript.Script.Frame

/-!
# Compiling frames

A compiler turns a frame and the one before it into a delta. A field is inactive when its value is
one of three marks; for the first frame everything before it is inactive. A key or button whose
value has become active, or has changed while active, is pressed; one that has become inactive is
released. The mouse moves to the coordinates of a frame that has both, shifted by the offset; a
compiler that suppresses repetitions leaves out a move to the coordinates of the frame before.
-/

namespace FrameScript

/-- What is added to the coordinates of the mouse. -/
structure Offset where
  x : Int
  y : Int
  deriving DecidableEq

/-- Coordinates shifted by the offset. -/
def Offset.apply (offset : Offset) (x y : Int) : Int × Int :=
  (offset.x + x, offset.y + y)

/-- A compiler: the offset of the mouse, and whether repeated moves are left out. -/
structure Compiler where
  offset : Offset
  suppress : Bool
  deriving DecidableEq

/-- The values that mark a field as inactive. -/
def inactiveValues : List Text := [['.'], ['_'], ['-']]

/-- Whether a value, or the lack of one, means that a field is inactive. -/
def isInactive : Option Text → Bool
  | none => true
  | some value => inactiveValues.contains value

/-- The coordinate that a value writes; inactive fields have none. -/
def readCoordinate (field value : Text) : Except Failure (Option Int) :=
  if inactiveValues.contains value then .ok none
  else
    match Numeral.readInt value with
    | .value n => .ok (some n)
    | .tooLong digits => .error (.longNumeral digits)
    | .other => .error (.badCoordinate field value)

namespace Compiler

/-- What has been found out about a frame: its coordinates, and a delta without a move. -/
structure Draft where
  x : Option Int
  y : Option Int
  delta : Delta
  deriving DecidableEq

/-- Nothing has been found out. -/
def Draft.empty : Draft :=
  ⟨none, none, Delta.none⟩

/-- What becomes of a key or button with a value after it had another, or none: whether it is
pressed, or released, or left alone. -/
inductive Change where
  | press
  | release
  | keep
  deriving DecidableEq

/-- The change from one value to the next. -/
def Change.between (prior : Option Text) (value : Text) : Change :=
  if some value = prior then keep
  else if isInactive (some value) then
    if isInactive prior then keep else release
  else press

/-- The draft with the change of a key. -/
def Draft.key (draft : Draft) (code : Int) : Change → Draft
  | .press =>
    { draft with delta := { draft.delta with pressKeys := draft.delta.pressKeys.insert code } }
  | .release =>
    { draft with delta := { draft.delta with releaseKeys := draft.delta.releaseKeys.insert code } }
  | .keep => draft

/-- The draft with the change of a button. -/
def Draft.button (draft : Draft) (code : Int) : Change → Draft
  | .press =>
    { draft with
      delta := { draft.delta with pressButtons := draft.delta.pressButtons.insert code } }
  | .release =>
    { draft with
      delta := { draft.delta with releaseButtons := draft.delta.releaseButtons.insert code } }
  | .keep => draft

/-- The draft with one more entry of the frame. -/
def Draft.add (previous : Option Frame) (draft : Draft) (entry : Text × Text) :
    Except Failure Draft :=
  match Field.readKind entry.1 with
  | .error failure => .error failure
  | .ok .mouseX => (readCoordinate entry.1 entry.2).map fun x => { draft with x }
  | .ok .mouseY => (readCoordinate entry.1 entry.2).map fun y => { draft with y }
  | .ok (.key code) =>
    .ok (draft.key code (Change.between (previous.bind (·.value? entry.1)) entry.2))
  | .ok (.button number) =>
    .ok (draft.button number (Change.between (previous.bind (·.value? entry.1)) entry.2))

/-- The draft with further entries of the frame. -/
def Draft.addAll (previous : Option Frame) (draft : Draft) :
    List (Text × Text) → Except Failure Draft
  | [] => .ok draft
  | entry :: rest =>
    match draft.add previous entry with
    | .error failure => .error failure
    | .ok draft => addAll previous draft rest

/-- Whether the frame before has the coordinates `x` and `y`. -/
def repeatsPlace (previous : Option Frame) (x y : Int) : Except Failure Bool :=
  match previous with
  | none => .ok false
  | some frame =>
    match frame.value? Field.mouseXName, frame.value? Field.mouseYName with
    | some valueX, some valueY =>
      match readCoordinate Field.mouseXName valueX with
      | .error failure => .error failure
      | .ok priorX =>
        if priorX = some x then
          (readCoordinate Field.mouseYName valueY).map fun priorY => priorY = some y
        else .ok false
    | _, _ => .ok false

/-- The move of a frame with the coordinates of a draft. -/
def moveOf (compiler : Compiler) (previous : Option Frame) (draft : Draft) :
    Except Failure (Option (Int × Int)) :=
  match draft.x, draft.y with
  | some x, some y =>
    if compiler.suppress then
      (repeatsPlace previous x y).map fun again =>
        if again then none else some (compiler.offset.apply x y)
    else .ok (some (compiler.offset.apply x y))
  | _, _ => .ok none

/-- The delta of a frame after the one before it, if any. -/
def compile (compiler : Compiler) (frame : Frame) (previous : Option Frame) :
    Except Failure Delta :=
  if previous.all fun p => frame.sameFields p then
    match Draft.empty.addAll previous frame.entries with
    | .error failure => .error failure
    | .ok draft => (compiler.moveOf previous draft).map fun move => { draft.delta with move }
  else
    .error (.fieldsDiffer frame.origin frame.sortedNames
      ((previous.map Frame.sortedNames).getD []))

/-- The deltas of frames, each after the one before it; the first comes after `previous`. -/
def compileFrom (compiler : Compiler) (previous : Option Frame) :
    List Frame → Except Failure (List Delta)
  | [] => .ok []
  | frame :: rest =>
    match compiler.compile frame previous with
    | .error failure => .error failure
    | .ok delta => (compileFrom compiler (some frame) rest).map (delta :: ·)

/-- The deltas of a sequence of frames. -/
def compileAll (compiler : Compiler) (frames : List Frame) : Except Failure (List Delta) :=
  compiler.compileFrom none frames

/-- The delta of each frame after the one before it, whether or not that one could be
compiled. Hosts ask for it that want to know of every frame how it compiles; `compileFrom` ends with
the first failure. -/
def compileEach (compiler : Compiler) (previous : Option Frame) :
    List Frame → List (Except Failure Delta)
  | [] => []
  | frame :: rest => compiler.compile frame previous :: compileEach compiler (some frame) rest

end Compiler

/-! ## Bounds of the mouse -/

/-- The greater of a bound found so far and a further coordinate. -/
def raiseBound (bound coordinate : Option Int) : Option Int :=
  match bound, coordinate with
  | bound, none => bound
  | none, some c => some c
  | some b, some c => some (if b < c then c else b)

/-- The bound of one axis with one more frame. -/
def boundWith (axis : Text) (bound : Option Int) (frame : Frame) : Except Failure (Option Int) :=
  match frame.value? axis with
  | none => .ok bound
  | some value => (readCoordinate axis value).map (raiseBound bound)

/-- The bounds of both axes with further frames. -/
def boundsWith (boundX boundY : Option Int) :
    List Frame → Except Failure (Option Int × Option Int)
  | [] => .ok (boundX, boundY)
  | frame :: rest =>
    match boundWith Field.mouseXName boundX frame with
    | .error failure => .error failure
    | .ok boundX =>
      match boundWith Field.mouseYName boundY frame with
      | .error failure => .error failure
      | .ok boundY => boundsWith boundX boundY rest

/-- The largest coordinates of frames, if there are some for both axes. -/
def mouseBounds (frames : List Frame) : Except Failure (Option (Int × Int)) :=
  (boundsWith none none frames).map fun bounds =>
    match bounds with
    | (some x, some y) => some (x, y)
    | _ => none

end FrameScript
