import Chip8.Machine
import Chip8.Text.Hex

/-!
# Register dumps

The dump of a machine shows its registers from `VF` down to `V0`, the index
register, both timers, the instruction at fault with its address, and the call
stack from the bottom up.
-/

namespace Chip8

/-- The name of the emulator. -/
def applicationName : String := "VIPChip-8 Emulator"

/-- The line that opens what the emulator prints. -/
def introduction : String := applicationName ++ " V1.0.0 -- "

namespace Machine

/-- What stands for an instruction that could not be decoded. -/
def unknownInstruction : String := "???"

/-- The registers from `VF` down to `V0`. -/
def registerDump (machine : Machine) : String :=
  String.join (machine.registers.values.toList.reverse.map fun byte => Text.hex 2 byte.toNat)

/-- The call stack from the bottom up. -/
def stackDump (machine : Machine) : String :=
  match machine.calls.fromBottom with
  | [] => " (Empty)"
  | items => String.join (items.map fun item => " 0x" ++ Text.hex 3 item)

/-- The machine's registers and stack, with an instruction and its address. -/
def dump (machine : Machine) (address opcode : Int) (instruction : String) : String :=
  "V: 0x" ++ machine.registerDump ++
    " I: 0x" ++ Text.hex 4 machine.index ++
    " DT: 0x" ++ Text.hex 2 machine.delay ++
    " ST: 0x" ++ Text.hex 2 machine.sound ++
    " PC: 0x" ++ Text.hex 3 address ++
    " OP: 0x" ++ Text.hex 4 opcode ++
    " IN: " ++ instruction ++
    "\nStack:" ++ machine.stackDump

/-- What is reported when an instruction stops the machine. -/
def crashReport (machine : Machine) (address opcode : Int) (instruction : String) : String :=
  "Emulation halted.\n\n" ++ introduction ++ "Debug info:\n" ++
    machine.dump address opcode instruction

end Machine
end Chip8
