import Chip8.Proofs.Screen.Apart
import Chip8.Machine.Execute
import Mathlib.Data.List.Nodup
import Mathlib.Data.Nat.Bitwise
import Mathlib.Tactic.IntervalCases

/-!
# Sprites

A drawing word names a sprite: rows of eight bits read from memory, and the
point at which they are drawn. Each set bit has a spot on the screen, counted in
rows laid end to end, and two bits never share one: columns lie less than a
row's length apart, and rows less than the screen's height. The points that a
drawing flips fall exactly on the spots of the set bits, once on each.
-/

namespace Chip8

/-- Rows of eight bits, and the point at which they are drawn. -/
structure Sprite where
  left : Nat
  top : Nat
  height : Nat
  /-- The bits of each row, the leftmost one counting most. -/
  bits : Nat -> UInt8

namespace Sprite

/-- The sprite has a set bit in a row and a column, counted from the top and from the left. -/
def IsSet (sprite : Sprite) (row column : Nat) : Prop :=
  row < sprite.height ∧ column < 8 ∧ sprite.bits row &&& (0x80 >>> UInt8.ofNat column) ≠ 0

/-- A coordinate less the length of its axis, once, when it lies past the end. -/
def onceAround (length coordinate : Nat) : Nat :=
  if coordinate ≥ length then coordinate - length else coordinate

/-- The place of the bit in a row and a column, whether or not the screen has a cell there. -/
def spot (sprite : Sprite) (row column : Nat) : Nat :=
  onceAround 64 (sprite.left + column) + 64 * onceAround 32 (sprite.top + row)

/-- A set bit of the sprite is drawn on a cell. -/
def Covers (sprite : Sprite) (cell : Nat) : Prop :=
  ∃ row column, sprite.IsSet row column ∧ sprite.spot row column = cell

/-- The rows and columns of the set bits, row by row. -/
def setBits (sprite : Sprite) : List (Nat × Nat) :=
  (List.range sprite.height).flatMap fun row =>
    (Machine.setColumns (sprite.bits row)).map fun column => (row, column)

/-- The points at which the set bits are drawn. -/
def points (sprite : Sprite) : List (Int × Int) :=
  sprite.setBits.map fun (row, column) =>
    ((sprite.left + column : Nat), (sprite.top + row : Nat))

variable {sprite : Sprite}

/-! ## Spots -/

theorem onceAround_cases (length coordinate : Nat) :
    onceAround length coordinate = coordinate ∧ coordinate < length ∨
      onceAround length coordinate + length = coordinate := by
  unfold onceAround
  split <;> omega

theorem wrapOnce_natCast (length coordinate : Nat) :
    Screen.wrapOnce length coordinate = onceAround length coordinate := by
  unfold Screen.wrapOnce onceAround
  split_ifs <;> omega

/-- Two bits of a sprite no higher than the screen do not share a spot. -/
theorem spot_injective
    {row column row' column' : Nat}
    (low : sprite.height ≤ 32)
    (within : row < sprite.height ∧ column < 8)
    (within' : row' < sprite.height ∧ column' < 8)
    (same : sprite.spot row column = sprite.spot row' column') :
    row = row' ∧ column = column' := by
  unfold spot at same
  -- Whichever coordinates come around, the columns agree modulo 64, so they are the same.
  rcases onceAround_cases 64 (sprite.left + column) with _ | _ <;>
    rcases onceAround_cases 64 (sprite.left + column') with _ | _ <;>
      rcases onceAround_cases 32 (sprite.top + row) with _ | _ <;>
        rcases onceAround_cases 32 (sprite.top + row') with _ | _ <;> omega

/-- The place of a point at which a bit is drawn is the bit's spot. -/
theorem place_eq_spot (row column : Nat) :
    Screen.place 64 32 (sprite.left + column : Nat) (sprite.top + row : Nat) =
      sprite.spot row column := by
  have across : Screen.wrapOnce 64 (sprite.left + column : Nat) = _ := wrapOnce_natCast 64 _
  have down : Screen.wrapOnce 32 (sprite.top + row : Nat) = _ := wrapOnce_natCast 32 _
  rw [Screen.place, Screen.linear, across, down, spot]
  omega

/-! ## Set bits -/

/-- A bit is set where the mask of its column meets the row. -/
theorem testBit_iff (row : UInt8) {column : Nat} (inside : column < 8) :
    row.toNat.testBit (7 - column) = true ↔ row &&& (0x80 >>> UInt8.ofNat column) ≠ 0 := by
  have mask : ((0x80 : UInt8) >>> UInt8.ofNat column).toNat = 2 ^ (7 - column) := by
    interval_cases column <;> rfl
  rw [ne_eq, ← UInt8.toNat_inj, UInt8.toNat_and, mask, Nat.and_two_pow]
  cases row.toNat.testBit (7 - column) <;> simp

theorem mem_setColumns {row : UInt8} {column : Nat} :
    column ∈ Machine.setColumns row ↔
      column < 8 ∧ row &&& (0x80 >>> UInt8.ofNat column) ≠ 0 := by
  rw [Machine.setColumns, List.mem_filter, List.mem_range]
  exact and_congr_right fun inside => testBit_iff row inside

theorem mem_setBits {row column : Nat} :
    (row, column) ∈ sprite.setBits ↔ sprite.IsSet row column := by
  simp [setBits, IsSet, mem_setColumns]

/-- Each set bit is listed once. -/
theorem nodup_setBits : sprite.setBits.Nodup := by
  rw [setBits, List.nodup_flatMap]
  constructor
  · intro row _
    have columns : (Machine.setColumns (sprite.bits row)).Nodup := List.nodup_range.filter _
    exact columns.map (Prod.mk_right_injective row)
  · refine List.nodup_range.imp ?_
    intro row row' apart bit member member'
    obtain ⟨column, _, rfl⟩ := List.mem_map.mp member
    obtain ⟨column', _, equal⟩ := List.mem_map.mp member'
    exact apart (congrArg Prod.fst equal).symm

/-! ## Points -/

theorem places_points :
    Screen.places 64 32 sprite.points =
      sprite.setBits.map fun (row, column) => (sprite.spot row column : Int) := by
  rw [Screen.places, points, List.map_map]
  apply List.map_congr_left
  rintro ⟨row, column⟩ _
  exact place_eq_spot row column

/-- Some point falls on a cell exactly where a set bit is drawn on it. -/
theorem mem_places_points {cell : Nat} :
    (cell : Int) ∈ Screen.places 64 32 sprite.points ↔ sprite.Covers cell := by
  rw [places_points, List.mem_map]
  constructor
  · rintro ⟨⟨row, column⟩, listed, same⟩
    exact ⟨row, column, mem_setBits.mp listed, Int.ofNat.inj same⟩
  · rintro ⟨row, column, set, rfl⟩
    exact ⟨(row, column), mem_setBits.mpr set, rfl⟩

/-- A cell is covered or not, which can be looked up. -/
instance decidableCovers (sprite : Sprite) (cell : Nat) : Decidable (sprite.Covers cell) :=
  decidable_of_iff _ mem_places_points

/-- The points of a sprite no higher than the screen fall on places of their own. -/
theorem nodup_places_points (low : sprite.height ≤ 32) :
    (Screen.places 64 32 sprite.points).Nodup := by
  rw [places_points]
  apply nodup_setBits.map_on
  rintro ⟨row, column⟩ listed ⟨row', column'⟩ listed' same
  obtain ⟨inside, within, _⟩ := mem_setBits.mp listed
  obtain ⟨inside', within', _⟩ := mem_setBits.mp listed'
  obtain ⟨rfl, rfl⟩ :=
    spot_injective low ⟨inside, within⟩ ⟨inside', within'⟩ (Int.ofNat.inj same)
  rfl

end Sprite

namespace Machine

/-- The sprite that a drawing word names. `VF` counts as zero where it is a coordinate. -/
def sprite (machine : Machine) (word : Opcode) : Sprite where
  left := if word.x.val = 0xF then 0 else (machine.v word.x).toNat
  top := if word.y.val = 0xF then 0 else (machine.v word.y).toNat
  height := word.n.val
  bits row := machine.memory.get (Address.wrap (machine.index + row))

theorem height_sprite_le (machine : Machine) (word : Opcode) :
    (machine.sprite word).height ≤ 32 := by
  have bound := word.n.isLt
  change word.n.val ≤ 32
  omega

/-- The coordinate that a register gives once `VF` is cleared. -/
theorem toNat_v_cleared (machine : Machine) (x : Register) :
    ((machine.setV flagRegister 0).v x).toNat =
      if x.val = 0xF then 0 else (machine.v x).toNat := by
  split
  · rename_i last
    obtain rfl : x = flagRegister := Fin.ext last
    simp [v, setV]
  · rename_i other
    have apart : x ≠ flagRegister := fun same => other (congrArg Fin.val same)
    simp [v, setV, apart]

/-- A drawing flips the points of the sprite that its word names. -/
theorem spritePoints_eq_points (machine : Machine) (word : Opcode) :
    let cleared := machine.setV flagRegister 0
    cleared.spritePoints (cleared.v word.x) (cleared.v word.y) word.n.val =
      (machine.sprite word).points := by
  intro cleared
  simp only [spritePoints, Sprite.points, Sprite.setBits, List.map_flatMap, List.map_map]
  rw [toNat_v_cleared, toNat_v_cleared]
  rfl

end Machine
end Chip8
