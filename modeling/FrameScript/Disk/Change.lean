import FrameScript.Disk.Walk

/-!
# Changes of a disk

`write` puts a node at a location and makes the folders that lead there; `delete` takes a file or a
link away. Both go as the system goes: a file is written through a link, a folder takes no bytes,
and nothing lies below a file.
-/

namespace FrameScript

/-- Why a disk cannot be changed, with the paths that were named to the system: one cannot be
reached, or one holds something already. -/
inductive ChangeFault where
  | refused (fault : ReadFault) (named : Text)
  | occupied (named : Text)
  | occupiedByLink (target named : Text)
  deriving DecidableEq

namespace Disk

/-- A location as it is named to the system. -/
def nameOf (disk : Disk) (l : Location) : Text :=
  (disk.here.location.under l).text

/-- The entry that a location names, with links followed on the way to it but not at its end. -/
def entryOf (disk : Disk) (l : Location) : Path :=
  match l.parts.getLast? with
  | some name =>
    if name = Location.up then disk.canonical l else (disk.canonical l.parent).child name
  | none => disk.canonical l

/-- Makes sure that a location can be a folder that holds something. -/
def checkFolder (disk : Disk) (l : Location) : Except ChangeFault Unit :=
  let p := disk.canonical l
  match disk.find? p with
  | some .folder => .ok ()
  | some _ => .error (.occupied (disk.nameOf l))
  | none =>
    match disk.missingAt p with
    | .missing => .ok ()
    | fault => .error (.refused fault (disk.nameOf l))

/-- The disk with a node at a location. -/
def write (disk : Disk) (l : Location) (node : Node) : Except ChangeFault Disk := do
  if Path.isLong (disk.nameOf l) then throw (.refused .longName (disk.nameOf l))
  disk.checkFolder l.parent
  let p := disk.canonical l
  let entry := disk.entryOf l
  if Path.isLongName (entry.names.getLast?.getD []) then
    throw (.refused .longName (disk.nameOf l))
  match node, disk.find? entry with
  | .link target, some _ => throw (.occupiedByLink target.text (disk.nameOf l))
  | .folder, some (.file _) => throw (.occupied (disk.nameOf l))
  | .file _, some .folder => throw (.refused .isFolder (disk.nameOf l))
  | .file _, some (.link _) =>
    match disk.find? p, disk.find? p.parent with
    | some .folder, _ => throw (.refused .isFolder (disk.nameOf l))
    | _, some .folder => pure (disk.put p node)
    | _, some _ => throw (.refused .notFolder (disk.nameOf l))
    | _, none => throw (.refused .missing (disk.nameOf l))
  | _, _ => pure (disk.put p node)

/-- The disk without the file or the link that a location names. -/
def delete (disk : Disk) (l : Location) : Except ChangeFault Disk :=
  let refused (fault : ReadFault) : Except ChangeFault Disk :=
    .error (.refused fault (disk.nameOf l))
  if Path.isLong (disk.nameOf l) then refused .longName else
  match disk.walk [] (disk.startOf l) (l.parent.parts ++ [Location.stay]), l.parts.getLast? with
  | .error fault, _ => refused fault
  | .ok _, none => refused .isFolder
  | .ok folder, some name =>
    if name = Location.up then refused .isFolder
    else if Path.isLongName name then refused .longName
    else
      match disk.find? (folder.child name) with
      | none => refused .missing
      | some .folder => refused .isFolder
      | some _ => .ok (disk.remove (folder.child name))

end Disk

end FrameScript
