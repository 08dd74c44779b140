import Chip8.Host.Opening
import Chip8.Location

/-!
# Memory

A bank of bytes whose size never changes. Single cells are addressed from
either end. A block is written whole or not at all: one that would end past the
last cell is refused, and one addressed from the end has to end before it.
-/

namespace Chip8

/-- The largest size that can be asked for. -/
def largestSize : Int := 0x7FFFFFFFFFFFFFFF

/-- A host can hold a store of a size. -/
def Host.HasRoom (host : Host) (size : Int) : Prop :=
  size ≤ largestSize ∧ size ≤ host.largestBlock

instance Host.decidableHasRoom (host : Host) (size : Int) : Decidable (host.HasRoom size) :=
  inferInstanceAs (Decidable (_ ∧ _))

/-- The number of cells of a store, when a host can lay it out. -/
def cellCount (host : Host) (size : Int) : Except Fault Nat :=
  if size < -largestSize - 1 ∨ largestSize < size then .error .sizeOutOfRange
  else if size < 0 then .error .negativeSize
  else if host.largestBlock < size then .error .outOfMemory
  else .ok size.toNat

/-- The byte that a number is. -/
def byteOf (value : Int) : Except Fault UInt8 :=
  if 0 ≤ value ∧ value ≤ 255 then .ok (UInt8.ofNat value.toNat) else .error .notAByte

/-- A bank of `size` bytes. -/
structure Memory (size : Nat) where
  cells : Vector UInt8 size
  deriving DecidableEq, Repr

namespace Memory

variable {size : Nat}

/-- Memory holding zero everywhere. -/
def blank : Memory size :=
  ⟨Vector.replicate size 0⟩

/-- The byte in a cell. -/
def get (memory : Memory size) (cell : Fin size) : UInt8 :=
  memory.cells[cell]

/-- Memory with one cell replaced. -/
def set (memory : Memory size) (cell : Fin size) (byte : UInt8) : Memory size :=
  ⟨memory.cells.set cell.val byte cell.isLt⟩

@[simp] theorem get_set_same (memory : Memory size) (cell : Fin size) (byte : UInt8) :
    (memory.set cell byte).get cell = byte := by
  simp [get, set]

@[simp] theorem get_set_of_ne
    {memory : Memory size} {cell other : Fin size} {byte : UInt8}
    (distinct : other ≠ cell) :
    (memory.set cell byte).get other = memory.get other := by
  have apart : cell.val ≠ other.val := fun equal => distinct (Fin.ext equal.symm)
  simp [get, set, apart]

/-- The byte at a location. -/
def read (memory : Memory size) (location : Int) : Except Fault UInt8 :=
  match locate? size location with
  | some cell => .ok (memory.get cell)
  | none => .error .noSuchCell

/-- Memory with a value written at a location; the location is checked before the value. -/
def write (memory : Memory size) (location value : Int) : Except Fault (Memory size) :=
  match locate? size location with
  | some cell => (byteOf value).map (memory.set cell)
  | none => .error .noSuchCell

/-- Memory with a block laid over the cells from `start` on, cut at the end. -/
def place (memory : Memory size) (start : Nat) : List UInt8 -> Memory size
  | [] => memory
  | byte :: rest =>
      let written := if inside : start < size then memory.set ⟨start, inside⟩ byte else memory
      written.place (start + 1) rest

/-- Refuses a location past the last cell. -/
def checkOverflow (size : Nat) (last : Int) : Except Fault Unit :=
  if last > size - 1 then .error (.memoryOverflow last) else .ok ()

/-- The first cell of a block of the given length at a location. -/
def blockStart? (size length : Nat) (location : Int) : Option Nat :=
  if 0 ≤ location then some location.toNat
  else if -size ≤ location ∧ location + length < 0 then some (location + size).toNat
  else none

/-- Memory with a block written at a location. -/
def writeBlock (memory : Memory size) (location : Int) (block : List UInt8) :
    Except Fault (Memory size) :=
  match checkOverflow size (location + block.length - 1) with
  | .error fault => .error fault
  | .ok () =>
      if block.isEmpty then .ok memory
      else
        match blockStart? size block.length location with
        | some start => .ok (memory.place start block)
        | none => .error .unevenBlock

/-- The bytes from `start` on, cut at the end. -/
def slice (memory : Memory size) (start length : Nat) : List UInt8 :=
  (memory.cells.toList.drop start).take length

end Memory
end Chip8
