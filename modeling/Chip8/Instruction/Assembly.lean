import Chip8.Instruction
import Chip8.Text.Hex

/-!
# Assembly text

The text of an instruction shows its operation and each of its operands, in
lower-case hexadecimal. The pattern of an instruction is the shape of the words
that encode it.
-/

namespace Chip8
namespace Instruction

/-- The name of a register. -/
def registerName (x : Register) : String :=
  "V" ++ Text.hex 1 x.val

/-- A byte operand. -/
def byteOperand (byte : UInt8) : String :=
  "0x" ++ Text.hex 2 byte.toNat

/-- An address operand. -/
def addressOperand (address : Address) : String :=
  "0x" ++ Text.hex 3 address.val

/-- An operation on a register and a byte. -/
def withByte (operation : String) (x : Register) (byte : UInt8) : String :=
  operation ++ " " ++ registerName x ++ ", " ++ byteOperand byte

/-- An operation on two registers. -/
def withPair (operation : String) (x y : Register) : String :=
  operation ++ " " ++ registerName x ++ ", " ++ registerName y

/-- The assembly text of an instruction. -/
def assembly : Instruction -> String
  | clearScreen => "CLS"
  | ret => "RET"
  | jump target => "JP " ++ addressOperand target
  | call target => "CALL " ++ addressOperand target
  | skipIfByte x byte => withByte "SE" x byte
  | skipUnlessByte x byte => withByte "SNE" x byte
  | skipIfSame x y => withPair "SE" x y
  | load x byte => withByte "LD" x byte
  | addByte x byte => withByte "ADD" x byte
  | copy x y => withPair "LD" x y
  | or x y => withPair "OR" x y
  | and x y => withPair "AND" x y
  | xor x y => withPair "XOR" x y
  | add x y => withPair "ADD" x y
  | sub x y => withPair "SUB" x y
  | shiftRight x => "SHR " ++ registerName x
  | subFrom x y => withPair "SUBN" x y
  | shiftLeft x => "SHL " ++ registerName x
  | skipUnlessSame x y => withPair "SNE" x y
  | loadIndex address => "LD I, " ++ addressOperand address
  | jumpFromV0 base => "JP V0, " ++ addressOperand base
  | random x mask => withByte "RND" x mask
  | draw x y height => withPair "DRW" x y ++ ", 0x" ++ Text.hex 1 height.val
  | skipIfKey x => "SKP " ++ registerName x
  | skipUnlessKey x => "SKNP " ++ registerName x
  | readDelay x => "LD " ++ registerName x ++ ", DT"
  | awaitKey x => "LD " ++ registerName x ++ ", K"
  | setDelay x => "LD DT, " ++ registerName x
  | setSound x => "LD ST, " ++ registerName x
  | addIndex x => "ADD I, " ++ registerName x
  | loadGlyph x => "LD F, " ++ registerName x
  | storeDecimal x => "LD B, " ++ registerName x
  | store x => "LD [I], " ++ registerName x
  | restore x => "LD " ++ registerName x ++ ", [I]"
  | nop => "NOP"

/-- The pattern of the words that encode an instruction. -/
def pattern : Instruction -> String
  | clearScreen => "00E0"
  | ret => "00EE"
  | jump _ => "1nnn"
  | call _ => "2nnn"
  | skipIfByte _ _ => "3xkk"
  | skipUnlessByte _ _ => "4xkk"
  | skipIfSame _ _ => "5xy0"
  | load _ _ => "6xkk"
  | addByte _ _ => "7xkk"
  | copy _ _ => "8xy0"
  | or _ _ => "8xy1"
  | and _ _ => "8xy2"
  | xor _ _ => "8xy3"
  | add _ _ => "8xy4"
  | sub _ _ => "8xy5"
  | shiftRight _ => "8xy6"
  | subFrom _ _ => "8xy7"
  | shiftLeft _ => "8xyE"
  | skipUnlessSame _ _ => "9xy0"
  | loadIndex _ => "Annn"
  | jumpFromV0 _ => "Bnnn"
  | random _ _ => "Cxkk"
  | draw _ _ _ => "Dxyn"
  | skipIfKey _ => "Ex9E"
  | skipUnlessKey _ => "ExA1"
  | readDelay _ => "Fx07"
  | awaitKey _ => "Fx0A"
  | setDelay _ => "Fx15"
  | setSound _ => "Fx18"
  | addIndex _ => "Fx1E"
  | loadGlyph _ => "Fx29"
  | storeDecimal _ => "Fx33"
  | store _ => "Fx55"
  | restore _ => "Fx65"
  | nop => "NOP"

/-- The assembly text of each delivered value, up to the first that is no word. -/
def disassemble (values : List Int) : Except Fault (List String) :=
  values.mapM fun value => (Opcode.read value).map fun word => word.decode.assembly

end Instruction
end Chip8
