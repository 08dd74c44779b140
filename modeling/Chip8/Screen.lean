import Chip8.Fault
import Chip8.Location
import Chip8.Memory

/-!
# The screen

A grid of cells, dark or lit, stored row by row. Drawing flips one cell at a
time and tells whether a lit cell went dark. A coordinate past an edge is
brought back by one width or height, once; a point that is still off the grid
then falls on another row, or on no cell at all.
-/

namespace Chip8

/-- A screen of the given width and height. -/
structure Screen (width height : Int) where
  cells : Vector Bool (width * height).toNat
  deriving DecidableEq, Repr

namespace Screen

variable {width height : Int}

/-- A screen with every cell dark. -/
def dark : Screen width height :=
  ⟨Vector.replicate _ false⟩

/-- A dark screen, when a host can lay out one of these dimensions. -/
def create (host : Host) (width height : Int) : Except Fault (Screen width height) :=
  (cellCount host (width * height)).map fun _ => dark

/-- A coordinate brought back by one length of its axis when it lies past an end. -/
def wrapOnce (length coordinate : Int) : Int :=
  if coordinate ≥ length then coordinate - length
  else if coordinate < 0 then coordinate + length
  else coordinate

/-- The place of a point's cell in the rows laid end to end. -/
def linear (width x y : Int) : Int :=
  x + y * width

/-- The cell that drawing at a point flips. -/
def target? (width height x y : Int) : Option (Fin (width * height).toNat) :=
  let place := linear width (wrapOnce width x) (wrapOnce height y)
  if inside : 0 ≤ place ∧ place < width * height then
    some ⟨place.toNat, by omega⟩
  else
    none

/-- The screen with the cell at a point flipped, and whether that cell went dark. -/
def flip (screen : Screen width height) (x y : Int) : Screen width height × Bool :=
  match target? width height x y with
  | some cell =>
      let lit := screen.cells[cell]
      (⟨screen.cells.set cell.val (!lit) cell.isLt⟩, lit)
  | none => (screen, false)

/-- The screen with the cells at some points flipped in turn, and whether any of them went dark. -/
def flipAll (screen : Screen width height) :
    List (Int × Int) -> Screen width height × Bool
  | [] => (screen, false)
  | (x, y) :: rest =>
      let (flipped, erased) := screen.flip x y
      let (final, erasedLater) := flipped.flipAll rest
      (final, erased || erasedLater)

/-- Whether the cell at a point is lit, the point's place counted from either end of the grid. -/
def pixel (screen : Screen width height) (x y : Int) : Except Fault Bool :=
  match locate? (width * height).toNat (linear width x y) with
  | some cell => .ok screen.cells[cell]
  | none => .error .noSuchCell

/-- The places of the lit cells, in ascending order. -/
def lit (screen : Screen width height) : List Nat :=
  (screen.cells.toList.zipIdx.filter (·.1)).map (·.2)

/-- One byte for each cell, one for a lit cell and zero for a dark one. -/
def bytes (screen : Screen width height) : List UInt8 :=
  screen.cells.toList.map fun cell => if cell then 1 else 0

@[simp] theorem length_bytes (screen : Screen width height) :
    screen.bytes.length = (width * height).toNat := by
  simp [bytes]

end Screen
end Chip8
