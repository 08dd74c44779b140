import Chip8.Fault
import Chip8.Opcode

/-!
# Instructions

An instruction holds exactly the operands that its execution uses. Every word
decodes: words that no instruction claims do nothing.
-/

namespace Chip8

/-- An instruction of the machine with its operands. -/
inductive Instruction
  /-- Darken the whole screen. -/
  | clearScreen
  /-- Return from a subroutine. -/
  | ret
  /-- Go to an address. -/
  | jump (target : Address)
  /-- Go to a subroutine. -/
  | call (target : Address)
  /-- Skip the next instruction when a register equals a byte. -/
  | skipIfByte (x : Register) (byte : UInt8)
  /-- Skip the next instruction when a register differs from a byte. -/
  | skipUnlessByte (x : Register) (byte : UInt8)
  /-- Skip the next instruction when two registers are equal. -/
  | skipIfSame (x y : Register)
  /-- Put a byte into a register. -/
  | load (x : Register) (byte : UInt8)
  /-- Add a byte to a register, setting no flag. -/
  | addByte (x : Register) (byte : UInt8)
  /-- Copy the second register to the first. -/
  | copy (x y : Register)
  /-- Bitwise disjunction. -/
  | or (x y : Register)
  /-- Bitwise conjunction. -/
  | and (x y : Register)
  /-- Bitwise exclusive disjunction. -/
  | xor (x y : Register)
  /-- Addition with a carry flag. -/
  | add (x y : Register)
  /-- First register less the second, with a flag for no borrow. -/
  | sub (x y : Register)
  /-- Shift right by one, keeping the bit shifted out. -/
  | shiftRight (x : Register)
  /-- Second register less the first, with a flag for no borrow. -/
  | subFrom (x y : Register)
  /-- Shift left by one, keeping the bit shifted out. -/
  | shiftLeft (x : Register)
  /-- Skip the next instruction when two registers differ. -/
  | skipUnlessSame (x y : Register)
  /-- Point the index register at an address. -/
  | loadIndex (address : Address)
  /-- Go to an address offset by `V0`. -/
  | jumpFromV0 (base : Address)
  /-- Put a masked random value into a register. -/
  | random (x : Register) (mask : UInt8)
  /-- Draw a sprite of the given height at the place two registers name. -/
  | draw (x y : Register) (height : Nibble)
  /-- Skip the next instruction when the key a register names is down. -/
  | skipIfKey (x : Register)
  /-- Skip the next instruction unless the key a register names is down. -/
  | skipUnlessKey (x : Register)
  /-- Read the delay timer. -/
  | readDelay (x : Register)
  /-- Wait for a key. -/
  | awaitKey (x : Register)
  /-- Set the delay timer. -/
  | setDelay (x : Register)
  /-- Set the sound timer. -/
  | setSound (x : Register)
  /-- Move the index register on. -/
  | addIndex (x : Register)
  /-- Point the index register at the glyph of a digit. -/
  | loadGlyph (x : Register)
  /-- Store the three decimal digits of a register. -/
  | storeDecimal (x : Register)
  /-- Store the registers up to the given one. -/
  | store (x : Register)
  /-- Load the registers up to the given one. -/
  | restore (x : Register)
  /-- Do nothing. -/
  | nop
  deriving DecidableEq, Repr

namespace Opcode

/-- Words of family `0` are matched whole. -/
def decodeSystem (word : Opcode) : Instruction :=
  if word.x = 0 ∧ word.y = 0xE ∧ word.n = 0 then .clearScreen
  else if word.x = 0 ∧ word.y = 0xE ∧ word.n = 0xE then .ret
  else .nop

/-- Words of family `8` are told apart by their last nibble. -/
def decodeArithmetic (word : Opcode) : Instruction :=
  match word.n with
  | 0x0 => .copy word.x word.y
  | 0x1 => .or word.x word.y
  | 0x2 => .and word.x word.y
  | 0x3 => .xor word.x word.y
  | 0x4 => .add word.x word.y
  | 0x5 => .sub word.x word.y
  | 0x6 => .shiftRight word.x
  | 0x7 => .subFrom word.x word.y
  | 0xE => .shiftLeft word.x
  | _ => .nop

/-- Words of family `E` are told apart by their last byte. -/
def decodeKey (word : Opcode) : Instruction :=
  if word.byteValue = 0x9E then .skipIfKey word.x
  else if word.byteValue = 0xA1 then .skipUnlessKey word.x
  else .nop

/-- Words of family `F` are told apart by their last byte. -/
def decodeDevice (word : Opcode) : Instruction :=
  match word.byteValue with
  | 0x07 => .readDelay word.x
  | 0x0A => .awaitKey word.x
  | 0x15 => .setDelay word.x
  | 0x18 => .setSound word.x
  | 0x1E => .addIndex word.x
  | 0x29 => .loadGlyph word.x
  | 0x33 => .storeDecimal word.x
  | 0x55 => .store word.x
  | 0x65 => .restore word.x
  | _ => .nop

/-- The instruction a word stands for; the last family is `F`. -/
def decode (word : Opcode) : Instruction :=
  match word.family with
  | 0x0 => word.decodeSystem
  | 0x1 => .jump word.address
  | 0x2 => .call word.address
  | 0x3 => .skipIfByte word.x word.byte
  | 0x4 => .skipUnlessByte word.x word.byte
  | 0x5 => .skipIfSame word.x word.y
  | 0x6 => .load word.x word.byte
  | 0x7 => .addByte word.x word.byte
  | 0x8 => word.decodeArithmetic
  | 0x9 => .skipUnlessSame word.x word.y
  | 0xA => .loadIndex word.address
  | 0xB => .jumpFromV0 word.address
  | 0xC => .random word.x word.byte
  | 0xD => .draw word.x word.y word.n
  | 0xE => word.decodeKey
  | _ => word.decodeDevice

/-- The word that a delivered value is. -/
def read (value : Int) : Except Fault Opcode :=
  match ofInt? value with
  | some word => .ok word
  | none => .error (.undecodable value none "")

end Opcode
end Chip8
