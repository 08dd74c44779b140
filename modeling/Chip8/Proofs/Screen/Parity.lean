import Chip8.Screen
import Mathlib.Data.List.Induction
import Mathlib.Data.Nat.Bits

/-!
# A screen is the parity of its flips

A cell is lit exactly when the points drawn on it since the screen was last
cleared are odd in number. A point falls on the cell at its place, which is
taken after each coordinate was brought back once; a point whose place lies
outside the grid flips nothing. So the order of points does not matter, and a
point drawn twice might as well not have been drawn.
-/

namespace Chip8
namespace Screen

variable {width height : Int} {screen : Screen width height} {x y : Int}

/-- Something that is done to a screen. -/
inductive Mark
  /-- A point is drawn. -/
  | flip (point : Int × Int)
  /-- Every cell goes dark. -/
  | clear

/-- The place of the cell that drawing at a point flips, whether or not the grid has it. -/
def place (width height x y : Int) : Int :=
  linear width (wrapOnce width x) (wrapOnce height y)

/-- The screen with marks made on it in turn. -/
def draw (screen : Screen width height) (marks : List Mark) : Screen width height :=
  marks.foldl
    (fun drawn mark =>
      match mark with
      | .flip (x, y) => (drawn.flip x y).1
      | .clear => .dark)
    screen

/-- The points drawn since the last clearing. -/
def pointsDrawn (marks : List Mark) : List (Int × Int) :=
  marks.foldl
    (fun points mark =>
      match mark with
      | .flip point => points ++ [point]
      | .clear => [])
    []

/-- How many of some points fall on the cell at a place. -/
def hits (width height cell : Int) (points : List (Int × Int)) : Nat :=
  points.countP fun (x, y) => place width height x y = cell

@[simp] theorem draw_append_flip (marks : List Mark) (point : Int × Int) :
    screen.draw (marks ++ [.flip point]) = ((screen.draw marks).flip point.1 point.2).1 := by
  simp [draw]

@[simp] theorem draw_append_clear (marks : List Mark) :
    screen.draw (marks ++ [.clear]) = dark := by
  simp [draw]

@[simp] theorem pointsDrawn_append_flip (marks : List Mark) (point : Int × Int) :
    pointsDrawn (marks ++ [.flip point]) = pointsDrawn marks ++ [point] := by
  simp [pointsDrawn]

@[simp] theorem pointsDrawn_append_clear (marks : List Mark) :
    pointsDrawn (marks ++ [.clear]) = [] := by
  simp [pointsDrawn]

/-! ## One point -/

theorem target?_of_outside
    (outside : ¬(0 ≤ place width height x y ∧ place width height x y < width * height)) :
    target? width height x y = none :=
  dif_neg outside

/-- A point has a target where its place lies on the grid. -/
theorem target?_eq_some_iff {cell : Fin (width * height).toNat} :
    target? width height x y = some cell ↔ place width height x y = (cell.val : Int) := by
  have within := cell.isLt
  by_cases inside : 0 ≤ place width height x y ∧ place width height x y < width * height
  · have targeted : target? width height x y =
        some ⟨(place width height x y).toNat, by omega⟩ := dif_pos inside
    simp only [targeted, Option.some.injEq, Fin.ext_iff]
    omega
  · simp only [target?_of_outside inside, reduceCtorEq, false_iff]
    omega

/-- A point off the grid changes nothing. -/
theorem flip_of_outside
    (outside : ¬(0 ≤ place width height x y ∧ place width height x y < width * height)) :
    screen.flip x y = (screen, false) := by
  simp [flip, target?_of_outside outside]

theorem get_eq_getElem {size : Nat} (cells : Vector Bool size) (cell : Fin size) :
    cells.get cell = getElem cells cell.val cell.isLt := rfl

/-- No cell of a dark screen is lit. -/
theorem cells_dark (cell : Fin (width * height).toNat) :
    (dark : Screen width height).cells.get cell = false := by
  simp only [dark, get_eq_getElem, Vector.getElem_replicate]

/-- A point flips the cell at its place and no other. -/
theorem cells_flip (cell : Fin (width * height).toNat) :
    (screen.flip x y).1.cells.get cell =
      (screen.cells.get cell ^^ decide (place width height x y = (cell.val : Int))) := by
  unfold flip
  cases targeted : target? width height x y with
  | none =>
      have elsewhere : place width height x y ≠ (cell.val : Int) := by
        rw [ne_eq, ← target?_eq_some_iff, targeted]
        exact Option.some_ne_none cell ∘ Eq.symm
      simp [elsewhere]
  | some struck =>
      rw [target?_eq_some_iff.mp targeted]
      by_cases same : struck = cell
      · subst same
        simp [get_eq_getElem]
      · have apart : struck.val ≠ cell.val := fun equal => same (Fin.ext equal)
        have unstruck : (struck.val : Int) ≠ cell.val := by omega
        simp [get_eq_getElem, apart, unstruck]

/-- A point tells that a lit cell goes dark exactly where the cell at its place is lit. -/
theorem erased_flip_iff :
    (screen.flip x y).2 = true ↔
      ∃ cell : Fin (width * height).toNat,
        place width height x y = (cell.val : Int) ∧ screen.cells.get cell = true := by
  unfold flip
  cases targeted : target? width height x y with
  | none =>
      simp only [Bool.false_eq_true, false_iff, not_exists, not_and]
      intro cell named
      rw [← target?_eq_some_iff, targeted] at named
      contradiction
  | some struck =>
      constructor
      · intro lit
        exact ⟨struck, target?_eq_some_iff.mp targeted, lit⟩
      · rintro ⟨cell, named, lit⟩
        rw [← target?_eq_some_iff, targeted] at named
        cases named
        exact lit

/-! ## Many points -/

theorem bodd_hits_cons (cell : Int) (point : Int × Int) (rest : List (Int × Int)) :
    (hits width height cell (point :: rest)).bodd =
      (decide (place width height point.1 point.2 = cell) ^^
        (hits width height cell rest).bodd) := by
  by_cases struck : place width height point.1 point.2 = cell <;>
    simp [hits, struck]

/-- What some points leave of a cell depends on whether an odd number of them falls on it. -/
theorem cells_flipAll (points : List (Int × Int)) (cell : Fin (width * height).toNat) :
    (screen.flipAll points).1.cells.get cell =
      (screen.cells.get cell ^^ (hits width height cell.val points).bodd) := by
  induction points generalizing screen with
  | nil => simp [flipAll, hits]
  | cons point rest hypothesis =>
      calc (screen.flipAll (point :: rest)).1.cells.get cell
          = ((screen.flip point.1 point.2).1.cells.get cell ^^
              (hits width height cell.val rest).bodd) := hypothesis
        _ = (screen.cells.get cell ^^ (hits width height cell.val (point :: rest)).bodd) := by
          rw [cells_flip, bodd_hits_cons, Bool.xor_assoc]

theorem flipAll_append (points more : List (Int × Int)) :
    (screen.flipAll (points ++ more)).1 = ((screen.flipAll points).1.flipAll more).1 := by
  induction points generalizing screen with
  | nil => rfl
  | cons point rest hypothesis => exact hypothesis

/-- Screens whose cells are the same are the same. -/
theorem ext_cells
    {first second : Screen width height}
    (same : ∀ cell : Fin (width * height).toNat, first.cells.get cell = second.cells.get cell) :
    first = second := by
  obtain ⟨cells⟩ := first
  obtain ⟨others⟩ := second
  have equal : cells = others := Vector.ext fun index within => same ⟨index, within⟩
  rw [equal]

/-- Points that fall on each cell as often, up to an even number, leave the same screen. -/
theorem flipAll_congr
    {points others : List (Int × Int)}
    (even : ∀ cell,
      (hits width height cell points).bodd = (hits width height cell others).bodd) :
    (screen.flipAll points).1 = (screen.flipAll others).1 := by
  apply ext_cells
  intro cell
  rw [cells_flipAll, cells_flipAll, even]

/-- Marks on a dark screen come down to the points drawn since the last clearing. -/
theorem draw_dark (marks : List Mark) :
    (dark : Screen width height).draw marks = (dark.flipAll (pointsDrawn marks)).1 := by
  induction marks using List.reverseRecOn with
  | nil => rfl
  | append_singleton marks mark hypothesis =>
      cases mark with
      | flip point =>
          rw [draw_append_flip, hypothesis, pointsDrawn_append_flip, flipAll_append]
          rfl
      | clear =>
          rw [draw_append_clear, pointsDrawn_append_clear]
          rfl

theorem draw_append_flips (marks : List Mark) (points : List (Int × Int)) :
    screen.draw (marks ++ points.map .flip) = ((screen.draw marks).flipAll points).1 := by
  induction points generalizing marks with
  | nil => simp [flipAll]
  | cons point rest hypothesis =>
      rw [List.map_cons, List.append_cons, hypothesis, draw_append_flip]
      rfl

theorem cells_draw_dark (marks : List Mark) (cell : Fin (width * height).toNat) :
    ((dark : Screen width height).draw marks).cells.get cell =
      (hits width height cell.val (pointsDrawn marks)).bodd := by
  rw [draw_dark, cells_flipAll, cells_dark, Bool.false_xor]

theorem bytes_getElem? (screen : Screen width height) (cell : Fin (width * height).toNat) :
    screen.bytes[cell.val]? = some (if screen.cells.get cell then 1 else 0) := by
  have laid : screen.cells.toList[cell.val]? = some (screen.cells.get cell) := by
    simp [get_eq_getElem]
  rw [bytes, List.getElem?_map, laid]
  rfl

theorem eq_dark_of_create
    {host : Host}
    (created : create host width height = .ok screen) :
    screen = dark := by
  unfold create at created
  cases counted : cellCount host (width * height) with
  | error fault => simp [counted, Except.map] at created
  | ok count => simpa [counted, Except.map, eq_comm] using created

/-! ## Screens under marks -/

/-- A cell of a marked screen shows whether an odd number of points fell on it. -/
theorem bytes_draw_dark (marks : List Mark) {cell : Nat} (within : (cell : Int) < width * height) :
    ((dark : Screen width height).draw marks).bytes[cell]? =
      some (UInt8.ofNat (hits width height cell (pointsDrawn marks) % 2)) := by
  have shown := bytes_getElem? ((dark : Screen width height).draw marks) ⟨cell, by omega⟩
  rw [cells_draw_dark, Nat.bodd, Nat.testBit_zero] at shown
  rw [shown]
  rcases Nat.mod_two_eq_zero_or_one (hits width height cell (pointsDrawn marks)) with even | odd
  · simp [even]
  · simp [odd]

/-- A point makes a lit cell go dark where its place lies on the grid and an odd number of points
fell there before. -/
theorem erased_flip_draw_dark_iff (marks : List Mark) :
    (((dark : Screen width height).draw marks).flip x y).2 = true ↔
      (0 ≤ place width height x y ∧ place width height x y < width * height) ∧
        hits width height (place width height x y) (pointsDrawn marks) % 2 = 1 := by
  rw [erased_flip_iff]
  constructor
  · rintro ⟨cell, named, lit⟩
    have within := cell.isLt
    rw [cells_draw_dark, ← named, Nat.bodd, Nat.testBit_zero, decide_eq_true_eq] at lit
    exact ⟨by omega, lit⟩
  · rintro ⟨⟨nonnegative, within⟩, odd⟩
    have named : place width height x y = ((place width height x y).toNat : Int) :=
      (Int.toNat_of_nonneg nonnegative).symm
    refine ⟨⟨(place width height x y).toNat, by omega⟩, named, ?_⟩
    rw [cells_draw_dark, Nat.bodd, Nat.testBit_zero, decide_eq_true_eq, ← named]
    exact odd

theorem draw_append_flips_of_perm
    {points others : List (Int × Int)}
    (marks : List Mark)
    (reordered : points.Perm others) :
    screen.draw (marks ++ points.map .flip) = screen.draw (marks ++ others.map .flip) := by
  rw [draw_append_flips, draw_append_flips]
  apply flipAll_congr
  intro cell
  rw [hits, reordered.countP_eq, hits]

theorem draw_append_flips_twice
    (marks : List Mark)
    (point : Int × Int)
    (points : List (Int × Int)) :
    screen.draw (marks ++ (point :: point :: points).map .flip) =
      screen.draw (marks ++ points.map .flip) := by
  rw [draw_append_flips, draw_append_flips]
  apply flipAll_congr
  intro cell
  rw [bodd_hits_cons, bodd_hits_cons, ← Bool.xor_assoc, Bool.xor_self, Bool.false_xor]

/-- After marks on a new screen each cell shows whether the points that fell on it since the last
clearing were odd in number. One more point makes a lit cell go dark exactly where its place lies on
the grid and they were; one whose place does not changes nothing. Points may be drawn in any order,
and two equal ones cancel each other. -/
theorem cells_eq_parity (width height : Int) (marks : List Mark) :
    (∀ (host : Host) (start : Screen width height),
      create host width height = .ok start -> start = dark) ∧
    (∀ cell : Nat, (cell : Int) < width * height ->
      ((dark : Screen width height).draw marks).bytes[cell]? =
        some (UInt8.ofNat (hits width height cell (pointsDrawn marks) % 2))) ∧
    (∀ x y,
      (((dark : Screen width height).draw marks).flip x y).2 = true ↔
        (0 ≤ place width height x y ∧ place width height x y < width * height) ∧
          hits width height (place width height x y) (pointsDrawn marks) % 2 = 1) ∧
    (∀ x y,
      ¬(0 ≤ place width height x y ∧ place width height x y < width * height) ->
      ((dark : Screen width height).draw marks).flip x y = (dark.draw marks, false)) ∧
    (∀ points others : List (Int × Int), points.Perm others ->
      (dark : Screen width height).draw (marks ++ points.map .flip) =
        dark.draw (marks ++ others.map .flip)) ∧
    (∀ (point : Int × Int) (points : List (Int × Int)),
      (dark : Screen width height).draw (marks ++ (point :: point :: points).map .flip) =
        dark.draw (marks ++ points.map .flip)) := by
  refine ⟨fun host start => eq_dark_of_create, ?_, ?_, ?_, ?_, ?_⟩
  · exact fun cell => bytes_draw_dark marks
  · exact fun x y => erased_flip_draw_dark_iff marks
  · exact fun x y => flip_of_outside
  · exact fun points others => draw_append_flips_of_perm marks
  · exact draw_append_flips_twice marks

/-- A screen of two negative sides has cells too. Of these points, one comes before a clearing, two
fall on the last cell, coming from different columns, and one falls off the grid. -/
theorem cells_eq_parity_negativeSides :
    create {} (-3) (-2) = .ok (dark : Screen (-3) (-2)) ∧
      ((dark : Screen (-3) (-2)).draw
        [.flip (2, -2), .clear, .flip (2, -2), .flip (-1, -1), .flip (5, -1)]).bytes[5]? =
          some 0 ∧
      (((dark : Screen (-3) (-2)).draw [.flip (2, -2)]).flip 5 (-1)).2 = true := by
  refine ⟨rfl, ?_, ?_⟩
  · exact (cells_eq_parity (-3) (-2)
      [.flip (2, -2), .clear, .flip (2, -2), .flip (-1, -1), .flip (5, -1)]).2.1 5 (by decide)
  · exact ((cells_eq_parity (-3) (-2) [.flip (2, -2)]).2.2.1 5 (-1)).mpr (by decide)

end Screen
end Chip8
