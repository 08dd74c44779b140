import Chip8.Registers
import Chip8.Screen

/-!
# The machine

Everything a program can see or change: memory, registers, index register,
program counter, timers, call stack, screen, and the register that waits for a
key. The machine also counts the random values its program has taken.
-/

namespace Chip8

/-- The glyphs of the sixteen digits, five bytes each. -/
def font : List UInt8 := [
  0xF0, 0x90, 0x90, 0x90, 0xF0,
  0x20, 0x60, 0x20, 0x20, 0x70,
  0xF0, 0x10, 0xF0, 0x80, 0xF0,
  0xF0, 0x10, 0xF0, 0x10, 0xF0,
  0x90, 0x90, 0xF0, 0x10, 0x10,
  0xF0, 0x80, 0xF0, 0x10, 0xF0,
  0xF0, 0x80, 0xF0, 0x90, 0xF0,
  0xF0, 0x10, 0x20, 0x40, 0x40,
  0xF0, 0x90, 0xF0, 0x90, 0xF0,
  0xF0, 0x90, 0xF0, 0x10, 0xF0,
  0xF0, 0x90, 0xF0, 0x90, 0x90,
  0xE0, 0x90, 0xE0, 0x90, 0xE0,
  0xF0, 0x80, 0x80, 0x80, 0xF0,
  0xE0, 0x90, 0x90, 0x90, 0xE0,
  0xF0, 0x80, 0xF0, 0x80, 0xF0,
  0xF0, 0x80, 0xF0, 0x80, 0x80]

/-- The number of bytes in a glyph. -/
def glyphSize : Nat := 5

/-- Where a program is loaded and starts. -/
def programStart : Int := 0x200

/-- The machine a program runs on. -/
structure Machine where
  memory : Memory 4096
  registers : Registers := .zero
  /-- The index register. -/
  index : Int := 0
  /-- The program counter. -/
  counter : Int := programStart
  /-- The delay timer. -/
  delay : Int := 0
  /-- The sound timer. -/
  sound : Int := 0
  /-- The register that waits for the next key, if the machine is paused. -/
  awaiting : Option Int := none
  calls : CallStack := {}
  screen : Screen 64 32 := .dark
  /-- How many random values the program has taken. -/
  drawn : Nat := 0
  deriving DecidableEq, Repr

/-- What a machine is plugged into. -/
structure Console where
  /-- The keys that are held down. -/
  held : Fin 16 -> Bool
  /-- The random values, in the order in which a program takes them. -/
  random : Nat -> Int
  /-- Whether a left shift leaves its flag in the high bit, where it was found. -/
  highBitFlag : Bool := false
  /-- A value that every fetch delivers in place of memory's, if any. -/
  forced : Option Int := none

namespace Machine

/-- A machine switched on with no program. -/
def powerOn : Machine where
  memory := Memory.blank.place 0 font

/-- The machine with a program laid into memory. -/
def load (machine : Machine) (program : List UInt8) : Except Fault Machine :=
  (machine.memory.writeBlock programStart program).map fun memory => { machine with memory }

/-- A machine switched on with a program, if one is given. -/
def boot : Option (List UInt8) -> Except Fault Machine
  | none => .ok powerOn
  | some program => powerOn.load program

/-- Whether the machine waits for a key. -/
def paused (machine : Machine) : Bool :=
  machine.awaiting.isSome

/-- Whether the tone sounds. -/
def sounding (machine : Machine) : Bool :=
  machine.sound > 0

/-- Count one timer down. -/
def countDown (timer : Int) : Int :=
  if timer > 0 then timer - 1 else timer

/-- Count both timers down. -/
def tickTimers (machine : Machine) : Machine :=
  { machine with delay := countDown machine.delay, sound := countDown machine.sound }

/-- Hand a key to the machine; the result tells whether the machine was waiting for it. -/
def pressKey (key : Int) : Action Machine Bool := fun machine =>
  match machine.awaiting with
  | none => .ok false machine
  | some waiting =>
      match locate? 16 waiting with
      | none => .error .noSuchRegister machine
      | some x =>
          .ok true {
            machine with
            registers := machine.registers.set x (UInt8.ofNat (key % 16).toNat)
            awaiting := none }

end Machine
end Chip8
