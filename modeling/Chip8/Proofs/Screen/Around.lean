import Chip8.Proofs.Screen.Parity
import Mathlib.Tactic.Linarith

/-!
# Around the edges of a screen

A coordinate that is off the screen by no more than a length of its axis comes
back to its remainder by that length. Points that near are drawn as on a torus:
each falls on the cell in its column and row modulo the sides, which is never
off the grid, and two of them share a cell only where they agree modulo both.
-/

namespace Chip8
namespace Screen

variable {width height : Int} {screen : Screen width height} {x y x' y' : Int}

/-- A point on a screen with cells, or off it by no more than one width and one height. -/
structure Near (width height x y : Int) : Prop where
  wide : 0 < width
  high : 0 < height
  left : -width ≤ x
  right : x < 2 * width
  top : -height ≤ y
  bottom : y < 2 * height

/-- The place of the cell in a column and a row that are counted around the edges. -/
def around (width height x y : Int) : Int :=
  linear width (x % width) (y % height)

/-- A coordinate that comes back once is its remainder. -/
theorem wrapOnce_eq_emod
    {length coordinate : Int}
    (low : -length ≤ coordinate)
    (high : coordinate < 2 * length) :
    wrapOnce length coordinate = coordinate % length := by
  unfold wrapOnce
  split_ifs with past before
  · rw [← Int.sub_emod_right, Int.emod_eq_of_lt (by omega) (by omega)]
  · rw [← Int.add_emod_right, Int.emod_eq_of_lt (by omega) (by omega)]
  · rw [Int.emod_eq_of_lt (by omega) (by omega)]

/-- A near point is drawn on the cell around the edges. -/
theorem Near.place_eq_around (near : Near width height x y) :
    place width height x y = around width height x y := by
  rw [place, wrapOnce_eq_emod near.left near.right, wrapOnce_eq_emod near.top near.bottom, around]

/-- A cell counted around the edges is on the grid. -/
theorem around_mem_grid (wide : 0 < width) (high : 0 < height) (x y : Int) :
    0 ≤ around width height x y ∧ around width height x y < width * height := by
  have column := Int.emod_nonneg x wide.ne'
  have columnBound := Int.emod_lt_of_pos x wide
  have row := Int.emod_nonneg y high.ne'
  have rowBound := Int.emod_lt_of_pos y high
  unfold around linear
  constructor
  · positivity
  · nlinarith

/-- Cells counted around the edges are the same in equal columns and rows only. -/
theorem around_eq_around_iff (wide : 0 < width) :
    around width height x y = around width height x' y' ↔
      x % width = x' % width ∧ y % height = y' % height := by
  unfold around linear
  constructor
  · intro same
    have columns := congrArg (· % width) same
    simp only [Int.add_mul_emod_self_right, Int.emod_emod_of_dvd _ (dvd_refl width)] at columns
    rw [columns] at same
    exact ⟨columns, mul_right_cancel₀ wide.ne' (add_left_cancel same)⟩
  · rintro ⟨columns, rows⟩
    rw [columns, rows]

/-- A near point has a target, the cell around the edges. -/
theorem Near.exists_target (near : Near width height x y) :
    ∃ cell : Fin (width * height).toNat,
      target? width height x y = some cell ∧ (cell.val : Int) = around width height x y := by
  obtain ⟨nonnegative, within⟩ := around_mem_grid near.wide near.high x y
  have named : ((around width height x y).toNat : Int) = around width height x y :=
    Int.toNat_of_nonneg nonnegative
  refine ⟨⟨(around width height x y).toNat, by omega⟩, target?_eq_some_iff.mpr ?_, named⟩
  rw [near.place_eq_around, named]

/-- Near points have the same target where they agree modulo the sides only. -/
theorem Near.target?_eq_iff (near : Near width height x y) (near' : Near width height x' y') :
    target? width height x y = target? width height x' y' ↔
      x % width = x' % width ∧ y % height = y' % height := by
  obtain ⟨cell, targeted, named⟩ := near.exists_target
  obtain ⟨cell', targeted', named'⟩ := near'.exists_target
  rw [targeted, targeted', Option.some.injEq, Fin.ext_iff, ← around_eq_around_iff near.wide,
    ← named, ← named', Int.natCast_inj]

/-- A point that has a target flips it and nothing else, and tells whether it was lit. -/
theorem flips_of_target
    {cell : Fin (width * height).toNat}
    (targeted : target? width height x y = some cell) :
    (screen.flip x y).2 = screen.cells.get cell ∧
      ∀ other, (screen.flip x y).1.cells.get other =
        (screen.cells.get other ^^ decide (other = cell)) := by
  constructor
  · simp [flip, targeted, get_eq_getElem]
  · intro other
    rw [cells_flip, target?_eq_some_iff.mp targeted]
    congr 1
    apply decide_eq_decide.mpr
    rw [Int.natCast_inj, eq_comm, Fin.ext_iff]

end Screen
end Chip8
