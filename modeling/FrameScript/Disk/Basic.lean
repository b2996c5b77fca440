import FrameScript.Disk.Path

/-!
# Disks

A disk holds files, folders and links under canonical paths, and knows where its reader stands.
`put` and `remove` change what a path holds, `find?` looks it up, and only paths that have an entry
are found (`mem_paths_of_find?`).
-/

namespace FrameScript

/-- What a path may hold. -/
inductive Node where
  | file (bytes : List UInt8)
  | folder
  | link (target : Location)
  deriving DecidableEq

/-- Paths with what they hold, the first entry of a path being the one that counts, and the
folder where the reader stands. -/
structure Disk where
  entries : List (Path × Node)
  here : Path

variable {α β : Type} [BEq α] [LawfulBEq α] {entries : List (α × β)} {key : α}

/-- What a list of entries holds under a key is one of its entries. -/
theorem mem_of_lookup {value : β} (h : entries.lookup key = some value) :
    (key, value) ∈ entries := by
  obtain ⟨before, after, rfl, -⟩ := List.lookup_eq_some_iff.mp h
  exact List.mem_append_right _ List.mem_cons_self

/-- A list of entries holds nothing under what is not one of its keys. -/
theorem lookup_eq_none_iff_not_mem : entries.lookup key = none ↔ key ∉ entries.map Prod.fst := by
  rw [List.lookup_eq_none_iff, List.mem_map]
  constructor
  · rintro h ⟨entry, he, rfl⟩
    simpa using h entry he
  · intro h entry he
    simpa using fun hk : key = entry.1 => h ⟨entry, he, hk.symm⟩

namespace Disk

/-- What a path holds. -/
def find? (disk : Disk) (p : Path) : Option Node :=
  disk.entries.lookup p

/-- Every path that has an entry. -/
def paths (disk : Disk) : List Path :=
  disk.entries.map Prod.fst

/-- The folder `p`, unless the path holds something already. -/
def mend (disk : Disk) (p : Path) : Disk :=
  if (disk.find? p).isSome then disk else { disk with entries := (p, .folder) :: disk.entries }

/-- The disk with `node` at `p`, and with the folders that lead there. -/
def put (disk : Disk) (p : Path) (node : Node) : Disk :=
  let disk := p.ancestors.foldl mend disk
  { disk with entries := (p, node) :: disk.entries }

/-- The disk with nothing at `p` and nothing below it. -/
def remove (disk : Disk) (p : Path) : Disk :=
  { disk with entries := disk.entries.filter fun e => !p.names.isPrefixOf e.1.names }

/-- A disk with nothing but the folder where the reader stands. -/
def empty (here : Path) : Disk :=
  (⟨[], here⟩ : Disk).put here .folder

/-- The links of the disk. -/
def links (disk : Disk) : List Path :=
  (disk.entries.filter fun e => e.2 matches .link _).map Prod.fst

/-- Only what has an entry is found. -/
theorem mem_paths_of_find? {disk : Disk} {p : Path} {node : Node}
    (h : disk.find? p = some node) : p ∈ disk.paths :=
  List.mem_map.2 ⟨_, mem_of_lookup h, rfl⟩

theorem mem_links_of_find? {disk : Disk} {p : Path} {target : Location}
    (h : disk.find? p = some (.link target)) : p ∈ disk.links :=
  List.mem_map.2 ⟨_, List.mem_filter.2 ⟨mem_of_lookup h, rfl⟩, rfl⟩

end Disk

end FrameScript
