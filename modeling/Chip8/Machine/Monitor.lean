import Chip8.Machine.Step

/-!
# The monitor

What a bench monitor does to a machine between its steps: set registers and
timers, place an instruction at the program counter and run it, look at memory
and screen, and switch the machine off and on again.
-/

namespace Chip8

/-- Values to put into a machine; what is not named stays as it is. -/
structure Assignment where
  counter : Option Int := none
  index : Option Int := none
  delay : Option Int := none
  sound : Option Int := none
  /-- The waiting register; an inner `none` lets the machine run on. -/
  awaiting : Option (Option Int) := none
  /-- Registers and their values, put in one after the other. -/
  registers : List (Int × Int) := []
  /-- Values put on the call stack one after the other. -/
  calls : List Int := []

namespace Machine

/-- Put values into registers one after the other. -/
def assignRegisters : List (Int × Int) -> Action Machine Unit
  | [], machine => .ok () machine
  | (index, value) :: rest, machine =>
      match machine.registers.assign index value with
      | .error fault => .error fault machine
      | .ok registers => assignRegisters rest { machine with registers }

/-- Put values into the machine; the registers come before the call stack. -/
def assign (values : Assignment) : Action Machine Unit := fun machine =>
  let set := {
    machine with
    counter := values.counter.getD machine.counter
    index := values.index.getD machine.index
    delay := values.delay.getD machine.delay
    sound := values.sound.getD machine.sound
    awaiting := values.awaiting.getD machine.awaiting }
  match assignRegisters values.registers set with
  | .error fault stopped => .error fault stopped
  | .ok () final => .ok () { final with calls := values.calls.foldl CallStack.push final.calls }

/-- Write one value at a location. -/
def poke (location value : Int) : Action Machine Unit := fun machine =>
  match machine.memory.write location value with
  | .error fault => .error fault machine
  | .ok memory => .ok () { machine with memory }

/-- Write an instruction word at the program counter. -/
def placeWord (word : Int) : Action Machine Unit := do
  poke (<- get).counter (word / 256)
  poke (((<- get).counter + 1) % 4096) (word % 256)

/-- Put values into the machine, place an instruction word, and run it. -/
def runWord (console : Console) (word : Int) (values : Assignment) : Action Machine Unit := do
  assign values
  placeWord word
  step console

/-- Write a block of bytes at a location. -/
def writeBlock (location : Int) (block : List UInt8) : Action Machine Unit := fun machine =>
  match machine.memory.writeBlock location block with
  | .error fault => .error fault machine
  | .ok memory => .ok () { machine with memory }

/-- Lay a program into memory. -/
def insert (program : List UInt8) : Action Machine Unit :=
  writeBlock programStart program

/-- Replace the machine by one switched on with a program; a program that does not fit changes
nothing. -/
def reset (program : Option (List UInt8)) : Action Machine Unit := fun machine =>
  match boot program with
  | .error fault => .error fault machine
  | .ok fresh => .ok () fresh

/-- Flip the cells at some points in turn; each result tells whether a lit cell went dark. -/
def flipPoints : List (Int × Int) -> Machine -> List Bool × Machine
  | [], machine => ([], machine)
  | (x, y) :: rest, machine =>
      let (screen, erased) := machine.screen.flip x y
      let (results, final) := flipPoints rest { machine with screen }
      (erased :: results, final)

/-- Count the steps that complete, up to a number of them, and tell the fault that ended them. -/
def countSteps (action : Action Machine Unit) : Nat -> Machine -> Nat × Option Fault × Machine
  | 0, machine => (0, none, machine)
  | count + 1, machine =>
      match action machine with
      | .error fault stopped => (0, some fault, stopped)
      | .ok () next =>
          let (done, fault, final) := countSteps action count next
          (done + 1, fault, final)

end Machine

namespace Screen

/-- The cells of each row. -/
def rows (screen : Screen 64 32) : List (List Bool) :=
  (List.range 32).map fun row => (screen.cells.toList.drop (row * 64)).take 64

/-- The value of four cells, the leftmost counting most. -/
def nibbleOf (cells : List Bool) : Nat :=
  cells.foldl (fun value cell => value * 2 + cell.toNat) 0

/-- A row of cells as hexadecimal digits, four cells to a digit. -/
def rowHex (cells : List Bool) : String :=
  String.ofList <| (List.range 16).map fun digit =>
    Nat.digitChar (nibbleOf ((cells.drop (digit * 4)).take 4))

end Screen
end Chip8
