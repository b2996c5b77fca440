import FrameScript.Proofs.Outline.Numbering
import FrameScript.Proofs.Script.Columns
import FrameScript.Proofs.Script.Plain

/-!
# Where frames come from

A script holds the frames of its own lines of data and of those of the files that it includes, once
or many times over. `Origin` ties a frame to the line that writes it, and to the header of the file
in which that line stands.

## Results

* `exists_origin`: **every frame is what some line of data writes**, in a file that the script leads
  to.
* `Origin.readKind_of_mem`: the names of a frame mean something.
-/

namespace FrameScript.Script

open Outline

variable {disk : Disk} {chain : List Path} {p q : Path} {script : Script} {frame : Frame}

/-- The line of data of the file `q` that writes the frame, and the header of the file. -/
structure Origin (disk : Disk) (q : Path) (frame : Frame) (text : Text) (header : Header)
    (line : Line) : Prop where
  source : disk.source q = .ok text
  read : Header.read (some q.text) (Text.lines text) = .ok header
  mem : line ∈ bodyOf (Text.lines text)
  said : line.isSkipped = false
  data : Directive.read line.content = .data
  writes : header.format.frame? ⟨some q.text, some line.number⟩ line.content = some frame

theorem frame?_of_plainData {source : Option Text} {format : Format} {line : Line}
    (h : plainData source format line = .ok frame) :
    format.frame? ⟨source, some line.number⟩ line.content = some frame := by
  unfold plainData at h
  split at h
  · rename_i found hf
    rw [hf, Except.ok.inj h]
  · cases h

/-- A frame keeps the place from which it is read. -/
theorem place_of_frame? {format : Format} {place : Place} {content : Text}
    (h : format.frame? place content = some frame) : frame.place = place := by
  obtain ⟨tokens, -, rfl⟩ := Option.map_eq_some_iff.mp h
  rfl

theorem place_of_plainData {source : Option Text} {format : Format} {line : Line}
    (h : plainData source format line = .ok frame) : frame.place = ⟨source, some line.number⟩ :=
  place_of_frame? (frame?_of_plainData h)

/-- **Every frame is what some line of data writes**, in a file that the script leads to. -/
theorem exists_origin (h : plainAt disk chain p = .ok script) (hf : frame ∈ script.frames) :
    ∃ q text header line, Relation.ReflTransGen (Includes disk) p q ∧
      Origin disk q frame text header line := by
  induction hr : room disk.paths chain using Nat.strongRecOn generalizing chain p script with
  | ind k ih =>
    obtain ⟨hc, text, hs⟩ := source_of_ok h
    rw [plainAt_of_ok hc hs] at h
    obtain ⟨header, hh, hnone, rfl⟩ := plainLines_ok h
    obtain ⟨line, item, hstep, hf⟩ := exists_leaf_of_mem_unroll hf
    cases item with
    | data =>
      obtain ⟨made, hmade⟩ := ok_of_halt_data (List.findSome?_eq_none_iff.mp hnone _ hstep)
      rw [Item.frames, hmade] at hf
      obtain rfl := List.mem_singleton.mp hf
      obtain ⟨hsaid, hdata⟩ := agrees_of_mem_steps_build hstep
      exact ⟨p, text, header, line, .refl, hs, hh, line_of_mem_steps_build hstep rfl, hsaid, hdata,
        frame?_of_plainData hmade⟩
    | inclusion target =>
      obtain ⟨frames, hframes⟩ :=
        ok_of_halt_inclusion (List.findSome?_eq_none_iff.mp hnone _ hstep)
      obtain ⟨q, included, ha, hp, rfl⟩ := aim_of_plainInclusion hframes
      rw [Item.frames, hframes] at hf
      have hroom := Disk.room_lt_of_source hc hs
      obtain ⟨r, text', header', line', hlead, ho⟩ := ih _ (hr ▸ hroom) hp hf rfl
      exact ⟨r, text', header', line', .head (includes_of_step hs hstep ha) hlead, ho⟩
    | skip => exact absurd hf List.not_mem_nil
    | bad misfit => exact absurd hf List.not_mem_nil

namespace Origin

variable {text : Text} {header : Header} {line : Line}

theorem place (h : Origin disk q frame text header line) :
    frame.place = ⟨some q.text, some line.number⟩ :=
  place_of_frame? h.writes

/-- **The names of a frame mean something**, since its format could be read. -/
theorem readKind_of_mem (h : Origin disk q frame text header line) {name value : Text}
    (hm : (name, value) ∈ frame.entries) : ∃ kind, Field.readKind name = .ok kind := by
  obtain ⟨-, -, format, -, hread⟩ := Header.ofFound_ok h.read
  have hname : name ∈ header.format.names := by
    rw [← Format.names_of_frame? h.writes]
    exact List.mem_map_of_mem hm
  obtain ⟨field, hfield, rfl⟩ := List.mem_map.mp hname
  exact ⟨field.kind, Format.readKind_of_mem hread hfield⟩

/-- No name occurs twice in a frame, since its format could be read. -/
theorem namesOnce (h : Origin disk q frame text header line) : frame.NamesOnce := by
  obtain ⟨-, -, format, -, hread⟩ := Header.ofFound_ok h.read
  exact Format.namesOnce_of_frame? hread h.writes

end Origin

end FrameScript.Script
