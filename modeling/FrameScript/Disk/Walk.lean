import FrameScript.Chain
import FrameScript.Disk.Basic
import FrameScript.Text.Lines
import FrameScript.Text.Utf8

/-!
# Where locations lead

`canonical` resolves a location without asking whether anything is there: links are followed where
they exist, and a missing part or a file is passed through, so that going up again just undoes the
step. `walk` is the strict reader's way: every part but the last has to be a folder.

A link that leads back to itself while it is being followed is passed through like a missing part;
this is what ends both recursions, each of which opens every link at most once at a time. Not every
system does so: there are some on which resolving such a location fails. That failure is none of
those here, and no statement about failures covers it.
-/

namespace FrameScript

/-- Why a file cannot be read. -/
inductive ReadFault where
  | missing
  | notFolder
  | isFolder
  | longName
  | encoding (fault : Utf8.Fault)
  deriving DecidableEq

namespace Disk

/-- Where the parts lead from `base`, with links followed; `opened` are the links that are being
followed. -/
def follow (disk : Disk) (opened : List Path) (base : Path) : List Text → Path
  | [] => base
  | part :: rest =>
    if part = Location.up then follow disk opened base.parent rest
    else if part = Location.stay then follow disk opened base rest
    else
      match _hl : disk.find? (base.child part) with
      | some (.link target) =>
        if _ho : base.child part ∈ opened then follow disk opened (base.child part) rest
        else
          let first := match target.start with
            | .relative => base
            | _ => .root
          follow disk opened
            (follow disk (base.child part :: opened) first target.parts) rest
      | _ => follow disk opened (base.child part) rest
termination_by parts => (room disk.links opened, parts.length)
decreasing_by
  · exact Prod.Lex.right _ (by simp)
  · exact Prod.Lex.right _ (by simp)
  · exact Prod.Lex.right _ (by simp)
  · exact Prod.Lex.left _ _ (room_cons_lt (mem_links_of_find? _hl) _ho)
  · exact Prod.Lex.right _ (by simp)
  · exact Prod.Lex.right _ (by simp)

/-- Where a location starts on the disk. -/
def startOf (disk : Disk) (l : Location) : Path :=
  match l.start with
  | .relative => disk.here
  | _ => .root

/-- The canonical path of a location. Every location has one, also where a link leads back to itself
and a system may refuse to resolve it. -/
def canonical (disk : Disk) (l : Location) : Path :=
  disk.follow [] (disk.startOf l) l.parts

/-- Going through `p` asks for a folder there. -/
def enter (disk : Disk) (p : Path) : Except ReadFault Unit :=
  match disk.find? p with
  | some .folder => .ok ()
  | some _ => .error .notFolder
  | none => .error .missing

/-- Where the parts lead from `base` when every part but the last has to be a folder. -/
def walk (disk : Disk) (opened : List Path) (base : Path) : List Text → Except ReadFault Path
  | [] => .ok base
  | part :: rest =>
    match disk.enter base with
    | .error fault => .error fault
    | .ok () =>
      if part = Location.up then walk disk opened base.parent rest
      else if part = Location.stay then walk disk opened base rest
      else if Path.isLongName part then .error .longName
      else
        match _hl : disk.find? (base.child part) with
        | some (.link target) =>
          if _ho : base.child part ∈ opened then .error .missing
          else
            let first := match target.start with
              | .relative => base
              | _ => .root
            match walk disk (base.child part :: opened) first target.parts with
            | .error fault => .error fault
            | .ok there => walk disk opened there rest
        | _ => walk disk opened (base.child part) rest
termination_by parts => (room disk.links opened, parts.length)
decreasing_by
  · exact Prod.Lex.right _ (by simp)
  · exact Prod.Lex.right _ (by simp)
  · exact Prod.Lex.left _ _ (room_cons_lt (mem_links_of_find? _hl) _ho)
  · exact Prod.Lex.right _ (by simp)
  · exact Prod.Lex.right _ (by simp)

/-! ## Reading -/

/-- Bytes as a text with line feeds for line ends. -/
def textOf (bytes : List UInt8) : Except ReadFault Text :=
  match Utf8.decode bytes with
  | .ok s => .ok (Text.unifyBreaks s)
  | .error fault => .error (.encoding fault)

/-- Why nothing can be read at a canonical path that holds nothing: the nearest of its ancestors
that holds something decides, and then the name that is looked up there. -/
def missingAt (disk : Disk) (p : Path) : ReadFault :=
  match p.ancestors.reverse.find? fun q => (disk.find? q).isSome with
  | none => .missing
  | some q =>
    match disk.find? q with
    | some (.file _) => .notFolder
    | _ => if Path.isLongName (p.names.getD q.names.length []) then .longName else .missing

/-- The text that a canonical path holds. -/
def contents (disk : Disk) (p : Path) : Except ReadFault Text :=
  match disk.find? p with
  | some (.file bytes) => textOf bytes
  | some .folder => .error .isFolder
  | some (.link _) => .error .missing
  | none => .error (disk.missingAt p)

/-- The text at a canonical path. -/
def source (disk : Disk) (p : Path) : Except ReadFault Text :=
  if Path.isLong p.text then .error .longName else disk.contents p

/-- The text at a location. -/
def sourceAt (disk : Disk) (l : Location) : Except ReadFault Text :=
  if Path.isLong l.text then .error .longName
  else
    match disk.walk [] (disk.startOf l) l.parts with
    | .error fault => .error fault
    | .ok p => disk.contents p

theorem mem_paths_of_source {disk : Disk} {p : Path} {s : Text} (h : disk.source p = .ok s) :
    p ∈ disk.paths := by
  unfold source contents at h
  split at h
  · simp at h
  · split at h
    · rename_i hf
      exact mem_paths_of_find? hf
    all_goals simp at h

/-- Opening one more file leaves less room. -/
theorem room_lt_of_source {disk : Disk} {opened : List Path} {p : Path} {s : Text}
    (hp : p ∉ opened) (h : disk.source p = .ok s) :
    room disk.paths (p :: opened) < room disk.paths opened :=
  room_cons_lt (mem_paths_of_source h) hp

end Disk

end FrameScript
