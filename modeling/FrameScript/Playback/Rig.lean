import FrameScript.Input.Compiler
import FrameScript.Playback.Report

/-!
# Rigs

A rig is what instructions are played on: a clock, a device that events are sent to, a request to
cancel that may come at any time, and somebody who takes notice. Clock and device may fail.

An instruction is a delta, or a frame that is compiled when its turn comes, against the last frame
that could be compiled. `Rig.perform` plays one instruction; the device may fail in the middle of
it, and then the frame counts as the last one all the same.
-/

namespace FrameScript

/-- A clock, a device, a request to cancel and a listener, over a world of states `σ` with times
`τ`. Waiting tells whether the run is to be cancelled. -/
structure Rig (σ τ : Type) where
  now : EStateM Failure σ τ
  wait : τ → EStateM Failure σ Bool
  send : Event → EStateM Failure σ Unit
  isCancelled : σ → Bool
  note : Notice τ → σ → σ

/-- What can be played. -/
inductive Instruction where
  | frame (frame : Frame)
  | delta (delta : Delta)
  deriving DecidableEq

namespace Instruction

/-- The delta of an instruction that comes after the frame `previous`. -/
def resolve (compiler : Compiler) (previous : Option Frame) :
    Instruction → Except Failure Delta
  | frame f => compiler.compile f previous
  | delta d => .ok d

/-- The last frame once an instruction has been resolved. -/
def successor (previous : Option Frame) : Instruction → Option Frame
  | frame f => some f
  | delta _ => previous

end Instruction

/-- What came of an instruction: the last frame, the failure if there was one, and the state. -/
structure Performance (σ : Type) where
  previous : Option Frame
  failure : Option Failure
  state : σ

namespace Rig

variable {σ τ : Type}

/-- Sends events until one of them fails. -/
def sendAll (rig : Rig σ τ) : List Event → σ → Option Failure × σ
  | [], s => (none, s)
  | event :: rest, s =>
    match rig.send event s with
    | .ok _ s => sendAll rig rest s
    | .error failure s => (some failure, s)

/-- Plays one instruction after the frame `previous`. -/
def perform (rig : Rig σ τ) (compiler : Compiler) (previous : Option Frame)
    (instruction : Instruction) (s : σ) : Performance σ :=
  match instruction.resolve compiler previous with
  | .error failure => ⟨previous, some failure, s⟩
  | .ok delta =>
    let (failure, s) := rig.sendAll delta.events s
    ⟨instruction.successor previous, failure, s⟩

end Rig

/-- A player that takes instructions one by one: those that are left, how many have been taken,
and the last frame. It is for hosts that decide on their own when the next instruction is played;
runs go through their instructions in the same steps. -/
structure Player where
  rest : List Instruction
  position : Nat
  previous : Option Frame

namespace Player

/-- A player that has taken none of its instructions. -/
def load (instructions : List Instruction) : Player :=
  ⟨instructions, 0, none⟩

/-- Plays the next instruction, if there is one. -/
def step? {σ τ : Type} (rig : Rig σ τ) (compiler : Compiler) (player : Player) (s : σ) :
    Option (Player × Option Failure × σ) :=
  match player.rest with
  | [] => none
  | instruction :: rest =>
    let done := rig.perform compiler player.previous instruction s
    some (⟨rest, player.position + 1, done.previous⟩, done.failure, done.state)

end Player

end FrameScript
