import Chip8.Instruction
import Chip8.Machine

/-!
# Executing instructions

An instruction acts on a machine whose program counter has already moved past
it. Only a return from an empty stack, and reading a delay timer that holds no
byte, can fail; a machine whose timers hold bytes never meets the second.
-/

namespace Chip8
namespace Machine

/-- The byte in a register. -/
def v (machine : Machine) (x : Register) : UInt8 :=
  machine.registers.get x

/-- The machine with a byte put into a register. -/
def setV (machine : Machine) (x : Register) (byte : UInt8) : Machine :=
  { machine with registers := machine.registers.set x byte }

/-- The machine with a flag put into `VF`, and then a result into a register. -/
def setFlagged (machine : Machine) (x : Register) (flag result : UInt8) : Machine :=
  (machine.setV flagRegister flag).setV x result

/-- The flag of a condition. -/
def flagOf (condition : Bool) : UInt8 :=
  if condition then 1 else 0

/-- The program counter moved past one instruction. -/
def advance (counter : Int) : Int :=
  (counter + 2) % 4096

/-- Skip one instruction when a condition holds. -/
def skipIf (machine : Machine) (condition : Bool) : Machine :=
  if condition then { machine with counter := advance machine.counter } else machine

/-- The address some cells after the one the index register points at. -/
def cellAt (machine : Machine) (offset : Nat) : Address :=
  Address.wrap (machine.index + offset)

/-- Memory with bytes written from a location on, going on from zero past the end. -/
def storeFrom (memory : Memory 4096) (location : Int) : List UInt8 -> Memory 4096
  | [] => memory
  | byte :: rest => storeFrom (memory.set (Address.wrap location) byte) (location + 1) rest

/-- The machine with bytes written from where the index register points. -/
def storeBytes (machine : Machine) (bytes : List UInt8) : Machine :=
  { machine with memory := storeFrom machine.memory machine.index bytes }

/-- Whether the key that a value names is down; values past the last key name none. -/
def keyDown (console : Console) (value : UInt8) : Bool :=
  if named : value.toNat < 16 then console.held ⟨value.toNat, named⟩ else false

/-- The hundreds, tens and units of a byte. -/
def decimalDigits (value : UInt8) : List UInt8 :=
  [value / 100, value / 10 % 10, value % 10]

/-- The columns of the set bits of a sprite row, from the left. -/
def setColumns (row : UInt8) : List Nat :=
  (List.range 8).filter fun column => row.toNat.testBit (7 - column)

/-- The points that a sprite of the given height flips when it is drawn at a place. -/
def spritePoints (machine : Machine) (left top : UInt8) (height : Nat) : List (Int × Int) :=
  (List.range height).flatMap fun row =>
    (setColumns (machine.memory.get (machine.cellAt row))).map fun column =>
      ((left.toNat + column : Nat), (top.toNat + row : Nat))

/-- Draw a sprite. `VF` is cleared before the place is read, and set when a lit cell goes dark. -/
def drawSprite (machine : Machine) (x y : Register) (height : Nibble) : Machine :=
  let cleared := machine.setV flagRegister 0
  let points := cleared.spritePoints (cleared.v x) (cleared.v y) height.val
  let (screen, erased) := cleared.screen.flipAll points
  let drawn := { cleared with screen }
  if erased then drawn.setV flagRegister 1 else drawn

/-- The flag a left shift leaves. -/
def shiftLeftFlag (console : Console) (value : UInt8) : UInt8 :=
  if console.highBitFlag then value &&& 0x80 else value >>> 7

/-- The random byte the program takes next. -/
def nextRandom (console : Console) (machine : Machine) : UInt8 :=
  UInt8.ofNat (console.random machine.drawn % 256).toNat

/-- The machine after an instruction, its program counter already past it. -/
def execute (console : Console) (machine : Machine) : Instruction -> Except Fault Machine
  | .clearScreen => .ok { machine with screen := .dark }
  | .ret =>
      match machine.calls.pop with
      | .error fault => .error fault
      | .ok (target, calls) => .ok { machine with counter := target, calls }
  | .jump target => .ok { machine with counter := target.val }
  | .call target =>
      .ok { machine with counter := target.val, calls := machine.calls.push machine.counter }
  | .skipIfByte x byte => .ok (machine.skipIf (machine.v x == byte))
  | .skipUnlessByte x byte => .ok (machine.skipIf (machine.v x != byte))
  | .skipIfSame x y => .ok (machine.skipIf (machine.v x == machine.v y))
  | .load x byte => .ok (machine.setV x byte)
  | .addByte x byte => .ok (machine.setV x (machine.v x + byte))
  | .copy x y => .ok (machine.setV x (machine.v y))
  | .or x y => .ok (machine.setV x (machine.v x ||| machine.v y))
  | .and x y => .ok (machine.setV x (machine.v x &&& machine.v y))
  | .xor x y => .ok (machine.setV x (machine.v x ^^^ machine.v y))
  | .add x y =>
      .ok (machine.setFlagged x
        (flagOf ((machine.v x).toNat + (machine.v y).toNat > 255)) (machine.v x + machine.v y))
  | .sub x y =>
      .ok (machine.setFlagged x (flagOf (machine.v x > machine.v y)) (machine.v x - machine.v y))
  | .shiftRight x => .ok (machine.setFlagged x (machine.v x &&& 1) (machine.v x >>> 1))
  | .subFrom x y =>
      .ok (machine.setFlagged x (flagOf (machine.v y > machine.v x)) (machine.v y - machine.v x))
  | .shiftLeft x =>
      .ok (machine.setFlagged x (shiftLeftFlag console (machine.v x)) (machine.v x <<< 1))
  | .skipUnlessSame x y => .ok (machine.skipIf (machine.v x != machine.v y))
  | .loadIndex address => .ok { machine with index := address.val }
  | .jumpFromV0 base =>
      .ok { machine with counter := ((base.val + (machine.v offsetRegister).toNat) % 4096 : Nat) }
  | .random x mask =>
      .ok { machine.setV x (nextRandom console machine &&& mask) with drawn := machine.drawn + 1 }
  | .draw x y height => .ok (machine.drawSprite x y height)
  | .skipIfKey x => .ok (machine.skipIf (keyDown console (machine.v x)))
  | .skipUnlessKey x => .ok (machine.skipIf (!keyDown console (machine.v x)))
  | .readDelay x => (byteOf machine.delay).map (machine.setV x)
  | .awaitKey x => .ok { machine with awaiting := some x.val }
  | .setDelay x => .ok { machine with delay := (machine.v x).toNat }
  | .setSound x => .ok { machine with sound := (machine.v x).toNat }
  | .addIndex x =>
      .ok { machine with index := (machine.index + (machine.v x).toNat) % 4096 }
  | .loadGlyph x => .ok { machine with index := glyphSize * (machine.v x).toNat }
  | .storeDecimal x => .ok (machine.storeBytes (decimalDigits (machine.v x)))
  | .store x => .ok (machine.storeBytes (machine.registers.upTo x))
  | .restore x =>
      .ok {
        machine with
        registers := machine.registers.loadUpTo x fun other =>
          machine.memory.get (machine.cellAt other.val) }
  | .nop => .ok machine

end Machine
end Chip8
