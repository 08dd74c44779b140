/-!
# Locations counted from either end

A store of `size` cells is addressed by whole numbers: from zero upwards they
count from its first cell, and below zero they count back from its end.
-/

namespace Chip8

/-- The cell that a location names in a store of the given size. -/
def locate? (size : Nat) (location : Int) : Option (Fin size) :=
  if forward : 0 ≤ location ∧ location < size then
    some ⟨location.toNat, by omega⟩
  else if backward : -size ≤ location ∧ location < 0 then
    some ⟨(location + size).toNat, by omega⟩
  else
    none

theorem locate?_of_lt {size : Nat} {location : Int}
    (nonnegative : 0 ≤ location) (bounded : location < size) :
    locate? size location = some ⟨location.toNat, by omega⟩ := by
  rw [locate?, dif_pos ⟨nonnegative, bounded⟩]

@[simp] theorem locate?_val {size : Nat} (cell : Fin size) :
    locate? size cell.val = some cell := by
  rw [locate?_of_lt (by omega) (by omega)]
  simp

end Chip8
