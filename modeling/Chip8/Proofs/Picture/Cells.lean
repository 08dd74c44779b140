import Chip8.Picture

/-!
# Cells and their places

The cells of a frame are numbered row by row, and each is as wide as the scale
says. So a place belongs to one cell, which division finds.
-/

namespace Chip8
namespace Picture

variable {scale columns rows cell column row x : Nat}

/-- A place lies in the stretch of a cell just where the cell is what it comes to when scaled
down. -/
theorem within_iff (scaled : 0 < scale) :
    column * scale ≤ x ∧ x < column * scale + scale ↔ x / scale = column := by
  rw [Nat.div_eq_iff scaled]
  omega

/-- A cell stands in a column and a row just where its number is made of the two. -/
theorem cell_at_iff (within : cell < columns * rows) :
    cell % columns = column ∧ cell / columns = row ↔
      column < columns ∧ row < rows ∧ cell = column + row * columns := by
  have wide : 0 < columns := Nat.pos_of_lt_mul_right within
  constructor
  · rintro ⟨rfl, rfl⟩
    exact ⟨Nat.mod_lt cell wide, Nat.div_lt_of_lt_mul within, (Nat.mod_add_div' cell columns).symm⟩
  · rintro ⟨narrow, _, rfl⟩
    rw [Nat.add_mul_mod_self_right, Nat.mod_eq_of_lt narrow, Nat.add_mul_div_right _ _ wide,
      Nat.div_eq_of_lt narrow, Nat.zero_add]
    exact ⟨rfl, rfl⟩

theorem place_lt (narrow : column < columns) (high : row < rows) :
    column + row * columns < columns * rows := by
  have rest : (row + 1) * columns ≤ rows * columns := Nat.mul_le_mul_right columns high
  rw [Nat.add_mul, Nat.one_mul] at rest
  rw [Nat.mul_comm columns rows]
  omega

end Picture
end Chip8
