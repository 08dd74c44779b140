import Chip8.Instruction.Assembly
import Chip8.Machine.Execute
import Chip8.Machine.Report

/-!
# Steps

A step fetches the word at the program counter, moves past it and executes it.
A paused machine does nothing. A value that is no instruction word stops the
machine where it is; a return from an empty stack stops it past the return.
-/

namespace Chip8
namespace Machine

/-- The word at the program counter. -/
def fetch (machine : Machine) : Except Fault Int :=
  match machine.memory.read machine.counter with
  | .error fault => .error fault
  | .ok high =>
      let low := machine.memory.get (Address.wrap (machine.counter + 1))
      .ok (high.toNat * 256 + low.toNat)

/-- The fault that an instruction's failure becomes, with the report of the machine it met. -/
def reported (machine : Machine) (word : Opcode) : Fault -> Fault
  | .stackUnderflow =>
      .emptyReturn
        (machine.crashReport machine.counter word.toNat word.decode.assembly) machine.counter
  | fault => fault

/-- Run a delivered value as the instruction at the program counter. -/
def deliver (console : Console) (value : Int) : Action Machine Unit := fun machine =>
  match Opcode.ofInt? value with
  | none =>
      .error
        (.undecodable value (some machine.counter)
          (machine.crashReport machine.counter value unknownInstruction))
        machine
  | some word =>
      let advanced := { machine with counter := advance machine.counter }
      match execute console advanced word.decode with
      | .ok final => .ok () final
      | .error fault => .error (machine.reported word fault) advanced

/-- The value the machine runs next: the one the console forces on it, or the word in memory. -/
def fetched (console : Console) (machine : Machine) : Except Fault Int :=
  match console.forced with
  | some value => .ok value
  | none => machine.fetch

/-- One step. -/
def step (console : Console) : Action Machine Unit := fun machine =>
  if machine.paused then .ok () machine
  else
    match machine.fetched console with
    | .error fault => .error fault machine
    | .ok value => deliver console value machine

/-- Some steps in turn, stopping at the first fault. -/
def steps (action : Action Machine Unit) : Nat -> Action Machine Unit
  | 0, machine => .ok () machine
  | count + 1, machine =>
      match action machine with
      | .ok () next => steps action count next
      | .error fault stopped => .error fault stopped

end Machine
end Chip8
