import FrameScript.Proofs.Disk.Written

/-!
# Disks with the same tree

When files are written anew and nothing else happens, every location leads where it led before. This
depends on the tree only: on which paths hold a file, a folder or a link, and on where the links
lead.

## Results

* `alike_put`: a file may be written instead of another one.
* `Alike.canonical_eq`: **locations lead to the same paths.**
-/

namespace FrameScript

/-- What is left of a node when the contents of files are not looked at. -/
def Node.emptied : Node → Node
  | .file _ => .file []
  | node => node

namespace Disk

/-- The disks differ in nothing but what their files contain. -/
structure Alike (disk disk' : Disk) : Prop where
  here : disk'.here = disk.here
  tree : ∀ p, (disk'.find? p).map Node.emptied = (disk.find? p).map Node.emptied

namespace Alike

variable {disk disk' : Disk} {p : Path} {target : Location}

theorem symm (h : disk.Alike disk') : disk'.Alike disk where
  here := h.here.symm
  tree p := (h.tree p).symm

theorem exists_node (h : disk.Alike disk') {node : Node} (hf : disk.find? p = some node) :
    ∃ node', disk'.find? p = some node' ∧ node'.emptied = node.emptied :=
  Option.map_eq_some_iff.mp ((h.tree p).trans (congrArg _ hf))

theorem exists_file (h : disk.Alike disk') {bytes : List UInt8}
    (hf : disk.find? p = some (.file bytes)) : ∃ bytes', disk'.find? p = some (.file bytes') := by
  obtain ⟨node, hnode, he⟩ := h.exists_node hf
  cases node with
  | file bytes' => exact ⟨bytes', hnode⟩
  | folder | link => cases he

theorem find?_of_link (h : disk.Alike disk') (hf : disk.find? p = some (.link target)) :
    disk'.find? p = some (.link target) := by
  obtain ⟨node, hnode, he⟩ := h.exists_node hf
  cases node with
  | link other => exact hnode.trans (congrArg some he)
  | file | folder => cases he

theorem follow_eq (h : disk.Alike disk') (opened : List Path) (base : Path) (parts : List Text) :
    disk'.follow opened base parts = disk.follow opened base parts := by
  -- the cases of a link need the same link on the other disk, whether it is followed (`case5`) or
  -- is being followed already (`case4`); in `case6` neither disk may have one
  fun_induction disk.follow opened base parts with
  | case1 => rw [follow]
  | case2 opened base rest ih => rw [follow, if_pos rfl, ih]
  | case3 opened base rest hu ih => rw [follow, if_neg hu, if_pos rfl, ih]
  | case4 opened base part rest hu hs target hl ho ih =>
    rw [follow, if_neg hu, if_neg hs]
    split
    · rename_i target' hl'
      rw [dif_pos ho, ih]
    · rename_i hnone
      exact absurd (h.find?_of_link hl) (hnone target)
  | case5 opened base part rest hu hs target hl ho first ihf _ ih =>
    rw [follow, if_neg hu, if_neg hs]
    split
    · rename_i target' hl'
      obtain rfl : target = target' := by
        rw [h.find?_of_link hl] at hl'
        exact (Node.link.inj (Option.some.inj hl'))
      rw [dif_neg ho]
      exact (congrArg (fun there => disk'.follow opened there rest) ihf).trans ih
    · rename_i hnone
      exact absurd (h.find?_of_link hl) (hnone target)
  | case6 opened base part rest hu hs hnone ih =>
    rw [follow, if_neg hu, if_neg hs]
    split
    · rename_i target' hl'
      exact absurd (h.symm.find?_of_link hl') (hnone target')
    · exact ih

/-- **Locations lead to the same paths.** -/
theorem canonical_eq (h : disk.Alike disk') (l : Location) :
    disk'.canonical l = disk.canonical l := by
  have hstart : disk'.startOf l = disk.startOf l := by rw [startOf, startOf, h.here]
  rw [canonical, canonical, hstart, h.follow_eq]

end Alike

/-- Writing the one or the other file at a path makes the same tree. -/
theorem alike_put (disk : Disk) (p : Path) (bytes bytes' : List UInt8) :
    (disk.put p (.file bytes)).Alike (disk.put p (.file bytes')) where
  here := rfl
  tree q := by
    unfold find? put
    rw [List.lookup_cons, List.lookup_cons]
    cases q == p <;> rfl

end Disk

end FrameScript
