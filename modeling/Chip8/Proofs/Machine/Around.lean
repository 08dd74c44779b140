import Chip8.Proofs.Machine.Drawing
import Chip8.Proofs.Screen.Around
import Mathlib.Data.Fintype.Card

/-!
# Drawing around the edges

A sprite whose corner is on the screen is drawn as on a torus: what is past an
edge goes on at the opposite one, and nothing falls off the grid. Each of its
bits has a cell of its own, which changes exactly where the bit is set, so as
many cells change as the sprite has set bits.
-/

namespace Chip8

/-- How many bits of a byte are set. -/
def setBitCount (byte : UInt8) : Nat :=
  (List.range 8).countP (byte.toNat.testBit ·)

/-- As many columns of a row are drawn as its byte has set bits. -/
theorem length_setColumns (row : UInt8) :
    (Machine.setColumns row).length = setBitCount row := by
  have reversed : (List.range 8).map (7 - ·) = (List.range 8).reverse := rfl
  calc (Machine.setColumns row).length
      = (List.range 8).countP fun column => row.toNat.testBit (7 - column) :=
        List.countP_eq_length_filter.symm
    _ = ((List.range 8).map (7 - ·)).countP (row.toNat.testBit ·) := by
        rw [List.countP_map]
        rfl
    _ = setBitCount row := by
        rw [reversed, List.countP_reverse, setBitCount]

namespace Sprite

variable {sprite : Sprite} {row column : Nat}

/-- The sprite's corner is on the screen, and it is no higher than the screen. -/
structure OnScreen (sprite : Sprite) : Prop where
  left : sprite.left < 64
  top : sprite.top < 32
  low : sprite.height ≤ 32

/-- The cell of the bit in a row and a column, both counted around the edges of the screen. -/
def torusSpot (sprite : Sprite) (row column : Nat) : Nat :=
  (sprite.left + column) % 64 + 64 * ((sprite.top + row) % 32)

theorem OnScreen.near
    (onScreen : sprite.OnScreen)
    (inside : row < sprite.height ∧ column < 8) :
    Screen.Near 64 32 (sprite.left + column : Nat) (sprite.top + row : Nat) := by
  obtain ⟨left, top, low⟩ := onScreen
  constructor <;> omega

/-- The bits of a sprite on the screen are drawn around the edges. -/
theorem OnScreen.spot_eq_torusSpot
    (onScreen : sprite.OnScreen)
    (inside : row < sprite.height ∧ column < 8) :
    sprite.spot row column = sprite.torusSpot row column := by
  have place := (onScreen.near inside).place_eq_around
  rw [place_eq_spot, Screen.around, Screen.linear] at place
  unfold torusSpot
  omega

theorem torusSpot_lt (sprite : Sprite) (row column : Nat) :
    sprite.torusSpot row column < 2048 := by
  unfold torusSpot
  omega

/-- A cell on which a bit may be drawn is covered exactly where the bit is set. -/
theorem covers_spot_iff
    (low : sprite.height ≤ 32)
    (inside : row < sprite.height ∧ column < 8) :
    sprite.Covers (sprite.spot row column) ↔ sprite.IsSet row column := by
  constructor
  · rintro ⟨row', column', set, same⟩
    obtain ⟨rfl, rfl⟩ := spot_injective low ⟨set.1, set.2.1⟩ inside same
    exact set
  · intro set
    exact ⟨row, column, set, rfl⟩

theorem length_setBits (sprite : Sprite) :
    sprite.setBits.length =
      ((List.range sprite.height).map fun row => setBitCount (sprite.bits row)).sum := by
  simp [setBits, List.length_flatMap, length_setColumns]

/-- A sprite on the screen covers as many cells as it has set bits. -/
theorem OnScreen.card_covers (onScreen : sprite.OnScreen) :
    (Finset.univ.filter fun cell : Fin 2048 => sprite.Covers cell.val).card =
      sprite.setBits.length := by
  have inside {bit : Nat × Nat} (listed : bit ∈ sprite.setBits.toFinset) :
      bit.1 < sprite.height ∧ bit.2 < 8 := by
    have set := mem_setBits.mp (List.mem_toFinset.mp listed)
    exact ⟨set.1, set.2.1⟩
  rw [← List.toFinset_card_of_nodup nodup_setBits]
  symm
  -- Each set bit goes to its cell, and every covered cell is that of a set bit.
  refine Finset.card_bij
    (fun bit _ => ⟨sprite.torusSpot bit.1 bit.2, sprite.torusSpot_lt bit.1 bit.2⟩) ?_ ?_ ?_
  · intro bit listed
    have set := mem_setBits.mp (List.mem_toFinset.mp listed)
    rw [Finset.mem_filter]
    exact ⟨Finset.mem_univ _, bit.1, bit.2, set, onScreen.spot_eq_torusSpot (inside listed)⟩
  · intro bit listed bit' listed' same
    have spots : sprite.spot bit.1 bit.2 = sprite.spot bit'.1 bit'.2 := by
      rw [onScreen.spot_eq_torusSpot (inside listed), onScreen.spot_eq_torusSpot (inside listed')]
      exact congrArg Fin.val same
    obtain ⟨rows, columns⟩ := spot_injective onScreen.low (inside listed) (inside listed') spots
    exact Prod.ext rows columns
  · intro cell covered
    obtain ⟨row, column, set, spot⟩ := (Finset.mem_filter.mp covered).2
    refine ⟨(row, column), List.mem_toFinset.mpr (mem_setBits.mpr set), Fin.ext ?_⟩
    rw [← spot, onScreen.spot_eq_torusSpot ⟨set.1, set.2.1⟩]

end Sprite

namespace Machine

variable {console : Console} {machine next : Machine} {word : Opcode}

/-- A machine shows a sprite on top of what an earlier one showed, as on a torus. -/
structure DrawsAround (sprite : Sprite) (before after : Machine) : Prop where
  /-- The cell of a bit changes exactly where the bit is set. -/
  bits : ∀ row column, row < sprite.height -> column < 8 ->
    ∃ cell : Fin 2048, cell.val = sprite.torusSpot row column ∧
      (after.screen.cells.get cell ≠ before.screen.cells.get cell ↔ sprite.IsSet row column)
  /-- A cell that changes is that of a set bit. -/
  others : ∀ cell : Fin 2048, after.screen.cells.get cell ≠ before.screen.cells.get cell ->
    ∃ row column, sprite.IsSet row column ∧ cell.val = sprite.torusSpot row column
  /-- As many cells change as there are set bits. -/
  count :
    (Finset.univ.filter fun cell : Fin 2048 =>
        after.screen.cells.get cell ≠ before.screen.cells.get cell).card =
      ((List.range sprite.height).map fun row => setBitCount (sprite.bits row)).sum

/-- A cell changes under a drawing exactly where the sprite covers it. -/
theorem Draws.changed_iff
    {sprite : Sprite}
    (draws : Draws sprite machine next)
    (cell : Fin 2048) :
    next.screen.cells.get cell ≠ machine.screen.cells.get cell ↔ sprite.Covers cell.val := by
  rw [draws.cells]
  by_cases covered : sprite.Covers cell.val <;> simp [covered]

/-- A sprite on the screen is drawn as on a torus. -/
theorem Draws.around
    {sprite : Sprite}
    (draws : Draws sprite machine next)
    (onScreen : sprite.OnScreen) :
    DrawsAround sprite machine next where
  bits row column inside within := by
    have spot := onScreen.spot_eq_torusSpot ⟨inside, within⟩
    refine ⟨⟨sprite.torusSpot row column, sprite.torusSpot_lt row column⟩, rfl, ?_⟩
    rw [draws.changed_iff, ← Sprite.covers_spot_iff onScreen.low ⟨inside, within⟩, spot]
  others cell changed := by
    obtain ⟨row, column, set, spot⟩ := (draws.changed_iff cell).mp changed
    refine ⟨row, column, set, ?_⟩
    rw [← spot, onScreen.spot_eq_torusSpot ⟨set.1, set.2.1⟩]
  count := by
    rw [← sprite.length_setBits, ← onScreen.card_covers]
    exact congrArg Finset.card (Finset.filter_congr fun cell _ => draws.changed_iff cell)

/-- The sprite of a word that takes its corner from registers other than `VF` is on the screen where
they name a cell. -/
theorem onScreen_sprite
    (across : word.x.val ≠ 0xF)
    (down : word.y.val ≠ 0xF)
    (left : (machine.v word.x).toNat < 64)
    (top : (machine.v word.y).toNat < 32) :
    (machine.sprite word).OnScreen where
  left := by simpa [sprite, across] using left
  top := by simpa [sprite, down] using top
  low := machine.height_sprite_le word

/-- A near point is drawn on the cell in its column and row modulo the sides of the screen: that
cell is on the grid, it changes, no other does, and whether it was lit is told. Two near points are
drawn on the same cell where they agree modulo both sides only. So a step on a running machine that
fetches a drawing word, with a corner on the screen that `VF` has no part in, draws its sprite as on
a torus: each bit has a cell that changes exactly where the bit is set, no other cell changes, and
as many cells change as there are set bits in the sprite's bytes. -/
theorem draw_goes_around :
    (∀ {width height x y : Int} (screen : Screen width height),
      Screen.Near width height x y ->
      ∃ cell : Fin (width * height).toNat,
        (cell.val : Int) = x % width + y % height * width ∧
        (screen.flip x y).2 = screen.cells.get cell ∧
        ∀ other, (screen.flip x y).1.cells.get other =
          (screen.cells.get other ^^ decide (other = cell))) ∧
    (∀ {width height x y x' y' : Int},
      Screen.Near width height x y ->
      Screen.Near width height x' y' ->
      (Screen.target? width height x y = Screen.target? width height x' y' ↔
        x % width = x' % width ∧ y % height = y' % height)) ∧
    (∀ {console : Console} {machine : Machine} {word : Opcode},
      machine.paused = false ->
      machine.fetched console = .ok word.toNat ->
      word.family.val = 0xD ->
      word.x.val ≠ 0xF ->
      word.y.val ≠ 0xF ->
      (machine.v word.x).toNat < 64 ->
      (machine.v word.y).toNat < 32 ->
      (machine.sprite word).left = (machine.v word.x).toNat ∧
        (machine.sprite word).top = (machine.v word.y).toNat ∧
        ∃ next, step console machine = .ok () next ∧
          DrawsAround (machine.sprite word) machine next) := by
  refine ⟨?_, ?_, ?_⟩
  · intro width height x y screen near
    obtain ⟨cell, targeted, named⟩ := near.exists_target
    exact ⟨cell, named, Screen.flips_of_target targeted⟩
  · intro width height x y x' y' near near'
    exact near.target?_eq_iff near'
  · intro console machine word running fetched draws across down left top
    obtain ⟨next, steps, shown⟩ := exists_draws_of_step running fetched draws
    refine ⟨by simp [sprite, across], by simp [sprite, down], next, steps, ?_⟩
    exact shown.around (onScreen_sprite across down left top)

/-- The glyph of zero, drawn two columns before the right edge and two rows before the bottom: it
goes on at both opposite edges, and all of its fourteen set bits are drawn. On a smaller screen, a
point past two edges shares its cell with one on the screen. -/
theorem draw_goes_around_corner :
    (∃ cell : Fin 15, cell.val = 14 ∧
      ((Screen.dark : Screen 5 3).flip (-1) 5).1.cells.get cell = true) ∧
    Screen.target? 5 3 (-1) 5 = Screen.target? 5 3 4 2 ∧
    ∃ (console : Console) (machine next : Machine),
      machine.paused = false ∧
      machine.fetched console = .ok (Opcode.ofNat 0xD015).toNat ∧
      machine.v (Opcode.ofNat 0xD015).x = 62 ∧ machine.v (Opcode.ofNat 0xD015).y = 30 ∧
      step console machine = .ok () next ∧
      (Finset.univ.filter fun cell : Fin 2048 =>
        next.screen.cells.get cell ≠ machine.screen.cells.get cell).card = 14 ∧
      ∃ cell : Fin 2048, cell.val = 1 ∧
        next.screen.cells.get cell ≠ machine.screen.cells.get cell := by
  obtain ⟨flips, targets, draws⟩ := draw_goes_around
  have near : Screen.Near 5 3 (-1) 5 := by constructor <;> decide
  have near' : Screen.Near 5 3 4 2 := by constructor <;> decide
  let console : Console := {
    held := fun _ => false, random := fun _ => 7, forced := some 0xD015 }
  let machine : Machine := {
    powerOn with
    registers := (Registers.zero.set offsetRegister 62).set ⟨1, by decide⟩ 30 }
  refine ⟨?_, (targets near near').mpr (by decide), console, machine, ?_⟩
  · obtain ⟨cell, named, _, flipped⟩ := flips Screen.dark near
    refine ⟨cell, Int.ofNat.inj named, ?_⟩
    rw [flipped, Screen.cells_dark, decide_eq_true rfl, Bool.false_xor]
  · have running : machine.paused = false := rfl
    have fetched : machine.fetched console = .ok (Opcode.ofNat 0xD015).toNat := rfl
    obtain ⟨_, _, next, steps, shown⟩ :=
      draws running fetched rfl (by decide) (by decide) (by decide) (by decide)
    refine ⟨next, running, fetched, rfl, rfl, steps, shown.count.trans (by decide +kernel), ?_⟩
    obtain ⟨cell, spot, changed⟩ := shown.bits 2 3 (by decide) (by decide)
    have set : (machine.sprite (Opcode.ofNat 0xD015)).IsSet 2 3 := by
      unfold Sprite.IsSet
      decide +kernel
    exact ⟨cell, spot.trans (by decide +kernel), changed.mpr set⟩

end Machine
end Chip8
