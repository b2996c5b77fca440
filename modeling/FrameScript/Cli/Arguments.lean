import FrameScript.Text.Digit

/-!
# Arguments of a command line

A grammar has switches, some with a value, and operands. `scan` reads the words of a command line
by a grammar. A word that begins with a dash is a switch if it spells one, abbreviated or with a
value after an equals sign; a negative number, a word with a blank in it and a lone dash are
plain; two dashes alone divide the line, and everything after them is plain. What begins like a
switch and spells none is left over. Switches of one letter may be run together behind one dash.
Two dashes in the place of a value stand for none.

The result lists what was taken in order, so that whoever acts on it meets a fault only after
everything before the fault.
-/

namespace FrameScript.Cli

/-- A switch: what it stands for, how it may be spelled, and whether a value follows it. -/
structure Switch (κ : Type) where
  key : κ
  spellings : List Text
  takesValue : Bool

/-- What may stand besides switches: one word, one or more words, or a word after which
everything, switches or not, belongs to it. -/
inductive Operands where
  | one
  | many
  | command
  deriving DecidableEq

/-- What a command line may hold. -/
structure Grammar (κ : Type) where
  switches : List (Switch κ)
  operands : Operands

/-- What a word is. Of a switch, `single` tells whether it has one dash, and `attached` is what is
written right behind it, be it after an equals sign or not. An unknown switch has no key. -/
inductive Word (κ : Type) where
  | plain (text : Text)
  | divider
  | switch (switch : Option (Switch κ)) (single : Bool) (attached : Option Text) (text : Text)

/-- Something that was taken from a command line. A switch may lack its value. -/
inductive Taken (κ : Type) where
  | switch (key : κ) (value : Option Text)
  | operands (words : List Text)

/-- What a command line holds: what was taken, in order; the words that are left over; and whether
it is complete and free of faults. -/
structure Scanned (κ : Type) where
  taken : List (Taken κ)
  leftovers : List Text
  sound : Bool

variable {κ : Type}

/-! ## Words -/

/-- Digits with at most one point among them, after a minus sign; a digit comes last. -/
def isNegative : Text → Bool
  | '-' :: s =>
    let whole := s.takeWhile Text.isDigit
    match s.dropWhile Text.isDigit with
    | [] => !whole.isEmpty
    | '.' :: fraction => !fraction.isEmpty && fraction.all Text.isDigit
    | _ => false
  | _ => false

/-- A negative number, which may end its line. -/
def isNegativeNumber (s : Text) : Bool :=
  isNegative (if s.getLast? = some '\n' then s.dropLast else s)

/-- The text before the first equals sign, and the text after it if there is one. -/
def splitAssignment (s : Text) : Text × Option Text :=
  (s.takeWhile (· ≠ '='), match s.dropWhile (· ≠ '=') with
    | _ :: value => some value
    | [] => none)

/-- The switch with a spelling. -/
def Grammar.find? (grammar : Grammar κ) (spelling : Text) : Option (Switch κ) :=
  grammar.switches.find? fun switch => switch.spellings.contains spelling

/-- Whether a spelling has one dash. -/
def isSingle : Text → Bool
  | '-' :: '-' :: _ => false
  | _ => true

/-- The switches that a word may abbreviate, one for each spelling that it fits. -/
def Grammar.candidates (grammar : Grammar κ) (word : Text) : List (Word κ) :=
  grammar.switches.flatMap fun switch => switch.spellings.filterMap fun spelling =>
    if isSingle word then
      if spelling = word.take 2 then
        some (.switch (some switch) true (some (word.drop 2)) word)
      else if word.isPrefixOf spelling then
        some (.switch (some switch) true none word)
      else none
    else
      let (start, value) := splitAssignment word
      if start.isPrefixOf spelling then
        some (.switch (some switch) false value word)
      else none

/-- What a word is that is not the divider; no answer if it may abbreviate several switches. -/
def Grammar.classify? (grammar : Grammar κ) (word : Text) : Option (Word κ) :=
  match word with
  | '-' :: _ :: _ =>
    match grammar.find? word with
    | some switch => some (.switch (some switch) (isSingle word) none word)
    | none =>
      let (start, value) := splitAssignment word
      match value, grammar.find? start with
      | some value, some switch =>
        some (.switch (some switch) (isSingle start) (some value) word)
      | _, _ =>
        match grammar.candidates word with
        | [candidate] => some candidate
        | _ :: _ :: _ => none
        | [] =>
          if isNegativeNumber word || word.contains ' ' then some (.plain word)
          else some (.switch none false none word)
  | _ => some (.plain word)

/-- What the words of a command line are; no answer if one of them may abbreviate several
switches. -/
def Grammar.classifyAll? (grammar : Grammar κ) : List Text → Option (List (Word κ))
  | [] => some []
  | word :: rest =>
    if word = ['-', '-'] then some (.divider :: rest.map .plain)
    else
      match grammar.classify? word with
      | none => none
      | some w => (grammar.classifyAll? rest).map (w :: ·)

/-- The text of a word. -/
def Word.text : Word κ → Text
  | plain text => text
  | divider => ['-', '-']
  | switch _ _ _ text => text

/-- Whether a word is a switch. -/
def Word.isSwitch : Word κ → Bool
  | switch .. => true
  | _ => false

/-- Whether a word is the divider. -/
def Word.isDivider : Word κ → Bool
  | divider => true
  | _ => false

/-! ## Operands -/

/-- The operands at the beginning of the words, and the words after them. -/
def takeOperands (operands : Operands) (words : List (Word κ)) :
    Option (List Text × List (Word κ)) :=
  match words.dropWhile Word.isDivider with
  | .plain text :: rest =>
    match operands with
    | .one => some ([text], rest.dropWhile Word.isDivider)
    | .many =>
      some ((((words.takeWhile (!·.isSwitch)).map Word.text).erase ['-', '-']),
        rest.dropWhile (!·.isSwitch))
    | .command => some (words.map Word.text, [])
  | _ => none

theorem length_of_takeOperands {operands : Operands} {words rest : List (Word κ)}
    {taken : List Text} (h : takeOperands operands words = some (taken, rest)) :
    rest.length < words.length := by
  have hd := (List.dropWhile_sublist (Word.isDivider (κ := κ)) (l := words)).length_le
  unfold takeOperands at h
  split at h
  · rename_i text tail hw
    rw [hw, List.length_cons] at hd
    have ho := (List.dropWhile_sublist (Word.isDivider (κ := κ)) (l := tail)).length_le
    have hm := (List.dropWhile_sublist (fun w : Word κ => !w.isSwitch) (l := tail)).length_le
    split at h <;> obtain ⟨-, rfl⟩ := Prod.mk.inj (Option.some.inj h)
    · omega
    · omega
    · simp only [List.length_nil]
      omega
  · simp at h

/-! ## Switches -/

/-- A value as it is taken: two dashes stand for none. -/
def valueOf (text : Text) : Option Text :=
  if text = ['-', '-'] then none else some text

/-- What a switch takes from what is attached to it and from the words after it: what was taken,
and the rest; no answer if a value is missing or is one too many. What is attached to a switch of
one dash without a value are further switches of one letter. -/
def takeSwitch (grammar : Grammar κ) (switch : Switch κ) (single : Bool) (attached : Option Text)
    (rest : List (Word κ)) : Option (List (Taken κ) × List (Word κ)) :=
  if switch.takesValue then
    match attached, rest with
    | some value, _ => some ([.switch switch.key (valueOf value)], rest)
    | none, .plain value :: rest => some ([.switch switch.key (valueOf value)], rest)
    | none, _ => none
  else
    match attached with
    | none => some ([.switch switch.key none], rest)
    | some [] => none
    | some (c :: more) =>
      match if single then grammar.find? ['-', c] else none with
      | none => none
      | some next =>
        (takeSwitch grammar next single (if more.isEmpty then none else some more) rest).map
          fun r => (.switch switch.key none :: r.1, r.2)
termination_by (attached.getD []).length
decreasing_by
  split <;> simp

theorem length_of_takeSwitch {grammar : Grammar κ} {switch : Switch κ} {single : Bool}
    {attached : Option Text} {words rest : List (Word κ)} {taken : List (Taken κ)}
    (h : takeSwitch grammar switch single attached words = some (taken, rest)) :
    rest.length ≤ words.length := by
  fun_induction takeSwitch grammar switch single attached words generalizing taken with
  | case7 switch _ c more next _ ih =>
    obtain ⟨r, hr, hrest⟩ := Option.map_eq_some_iff.1 h
    obtain ⟨-, rfl⟩ := Prod.mk.inj hrest
    exact ih hr
  | _ => simp_all

/-! ## The whole line -/

namespace Scanned

/-- Something taken before everything else. -/
def precede (taken : List (Taken κ)) (scanned : Scanned κ) : Scanned κ :=
  { scanned with taken := taken ++ scanned.taken }

/-- A word that is left over before everything else. -/
def leave (word : Text) (scanned : Scanned κ) : Scanned κ :=
  { scanned with leftovers := word :: scanned.leftovers }

/-- Nothing is taken, and the line is faulty. -/
def fault : Scanned κ :=
  ⟨[], [], false⟩

end Scanned

/-- What words hold; `wanted` tells whether the operands are still to come. -/
def scanWords (grammar : Grammar κ) (wanted : Bool) : List (Word κ) → Scanned κ
  | [] => ⟨[], [], !wanted⟩
  | .switch none _ _ text :: rest => (scanWords grammar wanted rest).leave text
  | .switch (some switch) single attached _ :: rest =>
    match _h : takeSwitch grammar switch single attached rest with
    | none => .fault
    | some (taken, rest) => (scanWords grammar wanted rest).precede taken
  | word :: rest =>
    match _h : if wanted then takeOperands grammar.operands (word :: rest) else none with
    | some (operands, rest) => (scanWords grammar false rest).precede [.operands operands]
    | none => (scanWords grammar wanted rest).leave word.text
termination_by words => words.length
decreasing_by
  · simp
  · have := length_of_takeSwitch _h
    simp only [List.length_cons]
    omega
  · split at _h
    · exact length_of_takeOperands _h
    · simp at _h
  · simp

/-- What a command line holds. -/
def scan (grammar : Grammar κ) (line : List Text) : Scanned κ :=
  match grammar.classifyAll? line with
  | none => .fault
  | some words => scanWords grammar true words

end FrameScript.Cli
