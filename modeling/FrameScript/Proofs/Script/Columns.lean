import FrameScript.Proofs.Input.Control
import FrameScript.Script.Format

/-!
# The columns of a format

A format that can be read has no name twice, and each of its fields is what its name means. A frame
that a line writes has the names of the format for its own, in their order, whatever its values are.

## Results

* `Format.nodup_names_of_read`: the names of a format are distinct.
* `Format.readKind_of_mem`: a field is what its name means.
* `Format.names_of_frame?`, `Format.namesOnce_of_frame?`: the names of a frame are those of its
  format.
-/

namespace FrameScript

theorem Field.read_ok {name : Text} {field : Field} (h : Field.read name = .ok field) :
    field.name = name ∧ Field.readKind name = .ok field.kind := by
  unfold Field.read at h
  cases hk : Field.readKind name with
  | error failure =>
    rw [hk] at h
    cases h
  | ok kind =>
    rw [hk] at h
    rw [← Except.ok.inj h]
    exact ⟨rfl, rfl⟩

theorem Field.readKind_of_read_error {name : Text} {failure : Failure}
    (h : Field.read name = .error failure) : Field.readKind name = .error failure := by
  unfold Field.read at h
  split at h
  · cases h
  · rename_i hk
    rw [hk, Except.error.inj h]

namespace Format

variable {place at' : Place} {source line name literal : Text} {seen : List Text}
  {rest : List (Text × Text)} {columns : List Column} {format : Format} {frame : Frame}

/-- The names of the columns, from the left. -/
def names (format : Format) : List Text :=
  format.fields.map Field.name

/-! ## Reading a format -/

/-- How a placeholder and those after it are read. -/
theorem readColumns_cons (place : Place) (seen : List Text) (name literal : Text)
    (rest : List (Text × Text)) :
    readColumns place seen ((name, literal) :: rest) =
      if name = [] then .error (.format .emptyName place)
      else if name ∈ seen then .error (.format (.duplicateName name) place)
      else
        match Field.read name with
        | .error failure => .error failure
        | .ok field =>
          match readColumns place (name :: seen) rest with
          | .error failure => .error failure
          | .ok columns => .ok (⟨field, literal⟩ :: columns) :=
  rfl

/-- What it takes for a placeholder and those after it to be columns. -/
theorem readColumns_cons_ok (h : readColumns place seen ((name, literal) :: rest) = .ok columns) :
    name ∉ seen ∧ ∃ field later, Field.read name = .ok field ∧
      readColumns place (name :: seen) rest = .ok later ∧ columns = ⟨field, literal⟩ :: later := by
  rw [readColumns_cons] at h
  split at h
  · cases h
  · split at h
    · cases h
    · rename_i hseen
      cases hf : Field.read name with
      | error failure =>
        rw [hf] at h
        cases h
      | ok field =>
        cases hr : readColumns place (name :: seen) rest with
        | error failure =>
          simp only [hf, hr] at h
          cases h
        | ok later =>
          simp only [hf, hr] at h
          exact ⟨hseen, field, later, rfl, rfl, (Except.ok.inj h).symm⟩

/-- The names of columns are distinct, and none of them stands further left. -/
theorem nodup_of_readColumns (h : readColumns place seen rest = .ok columns) :
    (columns.map fun column => column.field.name).Nodup ∧
      ∀ column ∈ columns, column.field.name ∉ seen := by
  induction rest generalizing seen columns with
  | nil =>
    obtain rfl := Except.ok.inj h
    exact ⟨List.nodup_nil, fun column hc => absurd hc List.not_mem_nil⟩
  | cons placeholder rest ih =>
    obtain ⟨hseen, field, later, hf, hr, rfl⟩ := readColumns_cons_ok h
    obtain ⟨hnodup, hnot⟩ := ih hr
    obtain ⟨hname, -⟩ := Field.read_ok hf
    constructor
    · refine List.nodup_cons.mpr ⟨fun hm => ?_, hnodup⟩
      obtain ⟨column, hc, he⟩ := List.mem_map.mp hm
      exact hnot column hc (he.trans hname ▸ List.mem_cons_self)
    · intro column hc
      rcases List.mem_cons.mp hc with rfl | hc
      · exact hname ▸ hseen
      · exact fun hs => hnot column hc (List.mem_cons_of_mem _ hs)

theorem readKind_of_readColumns (h : readColumns place seen rest = .ok columns) :
    ∀ column ∈ columns, Field.readKind column.field.name = .ok column.field.kind := by
  induction rest generalizing seen columns with
  | nil =>
    obtain rfl := Except.ok.inj h
    exact fun column hc => absurd hc List.not_mem_nil
  | cons placeholder rest ih =>
    obtain ⟨-, field, later, hf, hr, rfl⟩ := readColumns_cons_ok h
    obtain ⟨hname, hkind⟩ := Field.read_ok hf
    intro column hc
    rcases List.mem_cons.mp hc with rfl | hc
    · exact hname ▸ hkind
    · exact ih hr column hc

theorem readColumns_of_read (h : read source place = .ok format) :
    readColumns place [] (scan source).2 = .ok format.columns := by
  unfold read at h
  split at h
  · cases h
  · cases h
  · rename_i columns _ hc
    rw [← Except.ok.inj h]
    exact hc

/-- **No name occurs twice in a format** that can be read. -/
theorem nodup_names_of_read (h : read source place = .ok format) : format.names.Nodup := by
  have hnodup := (nodup_of_readColumns (readColumns_of_read h)).1
  rw [names, fields, List.map_map]
  exact hnodup

/-- **A field is what its name means.** -/
theorem readKind_of_mem (h : read source place = .ok format) {field : Field}
    (hf : field ∈ format.fields) : Field.readKind field.name = .ok field.kind := by
  obtain ⟨column, hc, rfl⟩ := List.mem_map.mp hf
  exact readKind_of_readColumns (readColumns_of_read h) column hc

/-! ## Reading a line -/

/-- A shortest token is not empty, consists of token characters, and leaves a rest that can be
gone on with. -/
theorem shortest_eq_some {β : Type} {next : Text → Option β} {s token : Text} {b : β}
    (h : shortest next s = some (token, b)) :
    token ≠ [] ∧ (∀ c ∈ token, isTokenChar c = true) ∧
      ∃ rest, s = token ++ rest ∧ next rest = some b := by
  induction s generalizing token with
  | nil => cases h
  | cons c s ih =>
    unfold shortest at h
    split at h
    · rename_i hc
      split at h
      · rename_i found hn
        cases h
        exact ⟨List.cons_ne_nil _ _, List.forall_mem_singleton.mpr hc, s, rfl, hn⟩
      · obtain ⟨⟨later, found⟩, hs, he⟩ := Option.map_eq_some_iff.mp h
        cases he
        obtain ⟨-, hchars, rest, rfl, hn⟩ := ih hs
        exact ⟨List.cons_ne_nil _ _, List.forall_mem_cons.mpr ⟨hc, hchars⟩, rest, rfl, hn⟩
    · cases h

/-- There is one token for each column. -/
theorem length_of_matchColumns {s : Text} {tokens : List Text}
    (h : matchColumns columns s = some tokens) : tokens.length = columns.length := by
  induction columns generalizing s tokens with
  | nil =>
    unfold matchColumns at h
    split at h
    · rw [← Option.some.inj h]
      rfl
    · cases h
  | cons column columns ih =>
    unfold matchColumns at h
    obtain ⟨⟨token, later⟩, hs, rfl⟩ := Option.map_eq_some_iff.mp h
    obtain ⟨-, -, rest, -, hn⟩ := shortest_eq_some hs
    obtain ⟨body, -, hb⟩ := Option.bind_eq_some_iff.mp hn
    rw [List.length_cons, List.length_cons, ih hb]

/-- **A frame has the names of its format**, in their order. -/
theorem names_of_frame? (h : format.frame? at' line = some frame) :
    frame.names = format.names := by
  obtain ⟨tokens, ht, rfl⟩ := Option.map_eq_some_iff.mp h
  obtain ⟨body, -, hb⟩ := Option.bind_eq_some_iff.mp ht
  refine List.map_fst_zip (Nat.le_of_eq ?_)
  rw [length_of_matchColumns hb, List.length_map, fields, List.length_map]

/-- **No name occurs twice in a frame** that a line writes. -/
theorem namesOnce_of_frame? (h : read source place = .ok format)
    (hf : format.frame? at' line = some frame) : frame.NamesOnce := by
  rw [Frame.NamesOnce, names_of_frame? hf]
  exact nodup_names_of_read h

end Format

end FrameScript
