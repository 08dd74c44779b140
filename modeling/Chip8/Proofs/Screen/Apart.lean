import Chip8.Proofs.Screen.Parity
import Mathlib.Data.List.Nodup

/-!
# Points on places of their own

Where no two of some points fall on the same place, each of them flips a cell
that the others leave alone. A cell then differs afterwards exactly where one of
the points falls on it, and a lit cell goes dark exactly where one of them falls
on a cell that was lit before the first of them was drawn.
-/

namespace Chip8
namespace Screen

variable {width height : Int} {screen : Screen width height}

/-- The places on which some points fall, whether or not the grid has them. -/
def places (width height : Int) (points : List (Int × Int)) : List Int :=
  points.map fun (x, y) => place width height x y

@[simp] theorem places_cons (width height : Int) (point : Int × Int) (rest : List (Int × Int)) :
    places width height (point :: rest) =
      place width height point.1 point.2 :: places width height rest := rfl

theorem hits_eq_count (cell : Int) (points : List (Int × Int)) :
    hits width height cell points = (places width height points).count cell := by
  rw [places, List.count, List.countP_map]
  apply List.countP_congr
  intro point _
  simp

/-- A cell differs after points on places of their own exactly where one of them falls on it. -/
theorem cells_flipAll_of_nodup
    {points : List (Int × Int)}
    (apart : (places width height points).Nodup)
    (cell : Fin (width * height).toNat) :
    (screen.flipAll points).1.cells.get cell =
      (screen.cells.get cell ^^ decide ((cell.val : Int) ∈ places width height points)) := by
  rw [cells_flipAll, hits_eq_count, apart.count]
  by_cases struck : (cell.val : Int) ∈ places width height points <;> simp [struck]

/-- A cell on which a point does not fall is as it was. -/
theorem cells_flip_of_ne
    {x y : Int}
    {cell : Fin (width * height).toNat}
    (elsewhere : place width height x y ≠ (cell.val : Int)) :
    (screen.flip x y).1.cells.get cell = screen.cells.get cell := by
  simp [cells_flip, elsewhere]

/-- Of points on places of their own, one makes a lit cell go dark exactly where one of them falls
on a cell that was lit before the first. -/
theorem erased_flipAll_iff_of_nodup
    {points : List (Int × Int)}
    (apart : (places width height points).Nodup) :
    (screen.flipAll points).2 = true ↔
      ∃ cell : Fin (width * height).toNat,
        (cell.val : Int) ∈ places width height points ∧ screen.cells.get cell = true := by
  induction points generalizing screen with
  | nil => simp [flipAll, places]
  | cons point rest hypothesis =>
      rw [places_cons] at apart
      obtain ⟨unshared, restApart⟩ := List.nodup_cons.mp apart
      -- The cells of the later points are not the one that the first point flips.
      have untouched (cell : Fin (width * height).toNat)
          (struck : (cell.val : Int) ∈ places width height rest) :
          (screen.flip point.1 point.2).1.cells.get cell = screen.cells.get cell := by
        apply cells_flip_of_ne
        intro same
        rw [← same] at struck
        exact unshared struck
      have either : (screen.flipAll (point :: rest)).2 =
          ((screen.flip point.1 point.2).2 ||
            ((screen.flip point.1 point.2).1.flipAll rest).2) := rfl
      rw [either, Bool.or_eq_true, erased_flip_iff, hypothesis restApart, ← exists_or]
      apply exists_congr
      intro cell
      rw [places_cons, List.mem_cons, or_and_right, eq_comm]
      apply or_congr_right
      apply and_congr_right
      intro struck
      rw [untouched cell struck]

end Screen
end Chip8
