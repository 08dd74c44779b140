import Chip8.Fault
import Chip8.Location
import Chip8.Memory
import Chip8.Opcode

/-!
# Registers and the call stack

Sixteen byte registers, and the addresses to return to, the latest on top.
-/

namespace Chip8

/-- The register `V0`, which jumps are offset by. -/
def offsetRegister : Register := ⟨0, by decide⟩

/-- The register `VF`, which takes flags. -/
def flagRegister : Register := ⟨15, by decide⟩

/-- The registers `V0` to `VF`. -/
structure Registers where
  values : Vector UInt8 16
  deriving DecidableEq, Repr

namespace Registers

/-- Registers holding zero everywhere. -/
def zero : Registers :=
  ⟨Vector.replicate 16 0⟩

/-- The byte in a register. -/
def get (registers : Registers) (x : Register) : UInt8 :=
  registers.values[x]

/-- Registers with one of them replaced. -/
def set (registers : Registers) (x : Register) (byte : UInt8) : Registers :=
  ⟨registers.values.set x.val byte x.isLt⟩

@[simp] theorem get_set_same (registers : Registers) (x : Register) (byte : UInt8) :
    (registers.set x byte).get x = byte := by
  simp [get, set]

@[simp] theorem get_set_of_ne
    {registers : Registers} {x other : Register} {byte : UInt8}
    (distinct : other ≠ x) :
    (registers.set x byte).get other = registers.get other := by
  have apart : x.val ≠ other.val := fun equal => distinct (Fin.ext equal.symm)
  simp [get, set, apart]

/-- Registers with a value put into the one an index names; the index is checked first. -/
def assign (registers : Registers) (index value : Int) : Except Fault Registers :=
  match locate? 16 index with
  | some x => (byteOf value).map (registers.set x)
  | none => .error .noSuchRegister

/-- The bytes of the registers from `V0` up to the given one. -/
def upTo (registers : Registers) (x : Register) : List UInt8 :=
  registers.values.toList.take (x.val + 1)

/-- Registers with those up to the given one replaced by what `source` holds for each. -/
def loadUpTo (registers : Registers) (x : Register) (source : Register -> UInt8) : Registers :=
  ⟨Vector.ofFn fun other => if other ≤ x then source other else registers.get other⟩

theorem get_loadUpTo
    (registers : Registers) (x other : Register) (source : Register -> UInt8) :
    (registers.loadUpTo x source).get other =
      if other ≤ x then source other else registers.get other := by
  simp [get, loadUpTo]

end Registers

/-- Values to return to, the latest on top. -/
structure CallStack where
  items : List Int := []
  deriving DecidableEq, Repr

namespace CallStack

/-- The stack with a value put on top. -/
def push (stack : CallStack) (item : Int) : CallStack :=
  ⟨item :: stack.items⟩

/-- The top of the stack and the stack below it. -/
def pop (stack : CallStack) : Except Fault (Int × CallStack) :=
  match stack.items with
  | [] => .error .stackUnderflow
  | item :: rest => .ok (item, ⟨rest⟩)

/-- How many values the stack holds. -/
def size (stack : CallStack) : Nat :=
  stack.items.length

/-- The values from the bottom up. -/
def fromBottom (stack : CallStack) : List Int :=
  stack.items.reverse

@[simp] theorem pop_push (stack : CallStack) (item : Int) :
    (stack.push item).pop = .ok (item, stack) := rfl

@[simp] theorem fromBottom_push (stack : CallStack) (item : Int) :
    (stack.push item).fromBottom = stack.fromBottom ++ [item] := by
  simp [fromBottom, push]

end CallStack
end Chip8
