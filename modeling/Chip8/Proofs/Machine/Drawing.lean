import Chip8.Proofs.Machine.Effects
import Chip8.Proofs.Machine.Reading
import Chip8.Proofs.Machine.Sprite

/-!
# Drawing

A step that draws flips exactly the cells that the set bits of its sprite are
drawn on, each of them once. Its flag tells whether one of these cells was lit
before the step: bits are drawn one after the other, but none is drawn on a cell
that an earlier one has flipped. Drawn again, the sprite flips the same cells
back, since `VF`, which the first drawing wrote, is no coordinate of the second.
-/

namespace Chip8
namespace Machine

/-- A machine shows a sprite on top of what an earlier one showed, its instruction done. -/
structure Draws (sprite : Sprite) (before after : Machine) : Prop where
  /-- The cells that the sprite covers have changed. -/
  cells : ∀ cell : Fin 2048,
    after.screen.cells.get cell =
      (before.screen.cells.get cell ^^ decide (sprite.Covers cell.val))
  /-- The flag is one where a covered cell was lit. -/
  struck : after.v flagRegister = 1 ↔
    ∃ cell : Fin 2048, sprite.Covers cell.val ∧ before.screen.cells.get cell = true
  /-- The flag is zero where no covered cell was lit. -/
  missed : after.v flagRegister = 0 ↔
    ¬∃ cell : Fin 2048, sprite.Covers cell.val ∧ before.screen.cells.get cell = true
  /-- The other registers are as they were. -/
  registers : ∀ r, r ≠ flagRegister -> after.v r = before.v r
  /-- Nothing else has changed but the program counter. -/
  rest : after = {
    before with
    counter := (before.counter + 2) % 4096
    registers := after.registers
    screen := after.screen }

/-- What a drawing looks at is as an earlier machine has it, the flag left out. -/
structure SameCanvas (before after : Machine) : Prop where
  memory : after.memory = before.memory
  index : after.index = before.index
  registers : ∀ r, r ≠ flagRegister -> after.v r = before.v r
  screen : after.screen = before.screen

variable {console : Console} {machine next later final : Machine} {word : Opcode}

/-! ## One drawing -/

/-- A drawing flips the points of the sprite that its word names. -/
theorem spriteFlips_eq (machine : Machine) (word : Opcode) :
    machine.spriteFlips word.x word.y word.n =
      machine.screen.flipAll (machine.sprite word).points := by
  rw [spriteFlips, spritePoints_eq_points]
  rfl

theorem flagOf_eq_one_iff {condition : Bool} : flagOf condition = 1 ↔ condition = true := by
  cases condition <;> decide

theorem flagOf_eq_zero_iff {condition : Bool} : flagOf condition = 0 ↔ ¬condition = true := by
  cases condition <;> decide

theorem erased_spriteFlips_iff (machine : Machine) (word : Opcode) :
    (machine.spriteFlips word.x word.y word.n).2 = true ↔
      ∃ cell : Fin 2048,
        (machine.sprite word).Covers cell.val ∧ machine.screen.cells.get cell = true := by
  rw [spriteFlips_eq, Screen.erased_flipAll_iff_of_nodup
    (Sprite.nodup_places_points (machine.height_sprite_le word))]
  exact exists_congr fun cell => and_congr_left' Sprite.mem_places_points

theorem cells_spriteFlips (machine : Machine) (word : Opcode) (cell : Fin 2048) :
    (machine.spriteFlips word.x word.y word.n).1.cells.get cell =
      (machine.screen.cells.get cell ^^ decide ((machine.sprite word).Covers cell.val)) := by
  rw [spriteFlips_eq]
  refine (Screen.cells_flipAll_of_nodup
    (Sprite.nodup_places_points (machine.height_sprite_le word)) cell).trans ?_
  congr 1
  exact decide_eq_decide.mpr Sprite.mem_places_points

/-- Executing a drawing word shows its sprite. -/
theorem draws_drawSprite (machine : Machine) (word : Opcode) :
    Draws (machine.sprite word) machine
      (machine.advanced.drawSprite word.x word.y word.n) := by
  have flips : machine.advanced.spriteFlips word.x word.y word.n =
      machine.spriteFlips word.x word.y word.n := rfl
  rw [drawSprite_eq_flips, flips]
  refine ⟨?_, ?_, ?_, ?_, ?_⟩
  · exact cells_spriteFlips machine word
  · rw [← erased_spriteFlips_iff, ← flagOf_eq_one_iff]
    simp [v]
  · rw [← erased_spriteFlips_iff, ← flagOf_eq_zero_iff]
    simp [v]
  · intro r unflagged
    exact Registers.get_set_of_ne unflagged
  · rfl

/-- A step on a running machine that fetches a drawing word completes and shows the sprite. -/
theorem exists_draws_of_step
    (running : machine.paused = false)
    (fetched : machine.fetched console = .ok word.toNat)
    (draws : word.family.val = 0xD) :
    ∃ next, step console machine = .ok () next ∧ Draws (machine.sprite word) machine next := by
  have decoded : word.decode = .draw word.x word.y word.n :=
    Opcode.decode_eq_of_codedBy ⟨draws, rfl, rfl, rfl⟩
  refine ⟨_, step_of_execute running fetched ?_, draws_drawSprite machine word⟩
  rw [decoded]
  rfl

/-- Two set bits of a sprite that a word names are not drawn on the same spot. A step on a running
machine that fetches the word flips the cells that the set bits are drawn on and no other. The flag
is one where one of these cells was lit before the step, and zero where none was. Nothing else
changes but the program counter. -/
theorem draw_flips_covered
    (running : machine.paused = false)
    (fetched : machine.fetched console = .ok word.toNat)
    (draws : word.family.val = 0xD) :
    (∀ row column row' column',
      (machine.sprite word).IsSet row column ->
      (machine.sprite word).IsSet row' column' ->
      (machine.sprite word).spot row column = (machine.sprite word).spot row' column' ->
      row = row' ∧ column = column') ∧
    ∃ next, step console machine = .ok () next ∧ Draws (machine.sprite word) machine next := by
  refine ⟨?_, exists_draws_of_step running fetched draws⟩
  rintro row column row' column' ⟨inside, within, _⟩ ⟨inside', within', _⟩ same
  exact Sprite.spot_injective (machine.height_sprite_le word)
    ⟨inside, within⟩ ⟨inside', within'⟩ same

/-- The glyph of zero at the corner of the screen, with a lit cell under it: it goes on at the left
edge, and its last three rows fall off the grid. -/
theorem draw_flips_covered_corner :
    ∃ (console : Console) (machine next : Machine),
      machine.paused = false ∧
      machine.fetched console = .ok (Opcode.ofNat 0xD005).toNat ∧
      (Opcode.ofNat 0xD005).family.val = 0xD ∧
      machine.v offsetRegister = 62 ∧ machine.screen = (Screen.dark.flip 63 30).1 ∧
      step console machine = .ok () next ∧
      next.v flagRegister = 1 ∧
      next.screen.cells.get (1983 : Fin 2048) = false ∧
      next.screen.cells.get (1985 : Fin 2048) = true ∧
      next.screen.cells.get (62 : Fin 2048) = false := by
  let console : Console := {
    held := fun _ => false, random := fun _ => 7, forced := some 0xD005 }
  let machine : Machine := {
    powerOn with
    registers := Registers.zero.set offsetRegister 62
    screen := (Screen.dark.flip 63 30).1 }
  have running : machine.paused = false := rfl
  have fetched : machine.fetched console = .ok (Opcode.ofNat 0xD005).toNat := rfl
  obtain ⟨_, next, steps, draws⟩ := draw_flips_covered running fetched rfl
  refine ⟨console, machine, next, running, fetched, rfl, rfl, rfl, steps, ?_, ?_, ?_, ?_⟩
  · exact draws.struck.mpr ⟨1983, by decide +kernel, by decide +kernel⟩
  · rw [draws.cells]
    decide +kernel
  · rw [draws.cells]
    decide +kernel
  · rw [draws.cells]
    decide +kernel

/-! ## Two drawings -/

/-- The same word names the same sprite where memory, index register and registers are the same but
for the flag. -/
theorem SameCanvas.sprite_eq (same : SameCanvas machine later) (word : Opcode) :
    later.sprite word = machine.sprite word := by
  have coordinate (x : Register) :
      (if x.val = 0xF then 0 else (later.v x).toNat) =
        if x.val = 0xF then 0 else (machine.v x).toNat := by
    split
    · rfl
    · rename_i other
      rw [same.registers x fun last => other (congrArg Fin.val last)]
  unfold sprite
  rw [coordinate, coordinate, same.memory, same.index]

/-- A drawing leaves what it looks at, the screen and the flag left out. -/
theorem Draws.sprite_eq
    {sprite : Sprite}
    (draws : Draws sprite machine next)
    (same : SameCanvas next later)
    (word : Opcode) :
    later.sprite word = machine.sprite word := by
  have kept : SameCanvas { machine with screen := next.screen } next := {
    memory := by rw [draws.rest]
    index := by rw [draws.rest]
    registers := draws.registers
    screen := rfl }
  exact (same.sprite_eq word).trans (kept.sprite_eq word)

/-- A sprite drawn twice leaves the screen as it was. -/
theorem Draws.screen_eq_of_twice
    {sprite : Sprite}
    (first : Draws sprite machine next)
    (second : Draws sprite later final)
    (same : SameCanvas next later) :
    final.screen = machine.screen := by
  apply Screen.ext_cells
  intro cell
  calc final.screen.cells.get cell
      = (next.screen.cells.get cell ^^ decide (sprite.Covers cell.val)) := by
        rw [← same.screen]
        exact second.cells cell
    _ = ((machine.screen.cells.get cell ^^ decide (sprite.Covers cell.val)) ^^
          decide (sprite.Covers cell.val)) :=
        congrArg (· ^^ decide (sprite.Covers cell.val)) (first.cells cell)
    _ = machine.screen.cells.get cell := by
        rw [Bool.xor_assoc, Bool.xor_self, Bool.xor_false]

/-- The flag of the second drawing is one where a covered cell was dark before the first. -/
theorem Draws.struck_of_twice
    {sprite : Sprite}
    (first : Draws sprite machine next)
    (second : Draws sprite later final)
    (same : SameCanvas next later) :
    final.v flagRegister = 1 ↔
      ∃ cell : Fin 2048, sprite.Covers cell.val ∧ machine.screen.cells.get cell = false := by
  rw [second.struck, same.screen]
  apply exists_congr
  intro cell
  apply and_congr_right
  intro covered
  rw [first.cells, decide_eq_true covered, Bool.xor_true]
  simp

/-- A drawing completes and shows its sprite, with a flag that tells whether a covered cell was lit.
When the word is run again, with memory, index register, screen and registers as the first drawing
left them, `VF` left out, the screen is as it was at first. The second flag then tells whether a
covered cell was dark before the first drawing; on a screen that was dark all over, whether the
sprite covers any cell. -/
theorem draw_twice_restores
    (running : machine.paused = false)
    (fetched : machine.fetched console = .ok word.toNat)
    (draws : word.family.val = 0xD) :
    ∃ next, step console machine = .ok () next ∧
      Draws (machine.sprite word) machine next ∧
      ∀ (again : Console) (later : Machine),
        SameCanvas next later ->
        later.paused = false ->
        later.fetched again = .ok word.toNat ->
        ∃ final, step again later = .ok () final ∧
          final.screen = machine.screen ∧
          (final.v flagRegister = 1 ↔
            ∃ cell : Fin 2048,
              (machine.sprite word).Covers cell.val ∧ machine.screen.cells.get cell = false) ∧
          (machine.screen = .dark ->
            (final.v flagRegister = 1 ↔
              ∃ cell : Fin 2048, (machine.sprite word).Covers cell.val)) := by
  obtain ⟨next, steps, first⟩ := exists_draws_of_step running fetched draws
  refine ⟨next, steps, first, ?_⟩
  intro again later same goesOn refetched
  obtain ⟨final, stepsAgain, second⟩ := exists_draws_of_step goesOn refetched draws
  rw [first.sprite_eq same] at second
  have struck := first.struck_of_twice second same
  refine ⟨final, stepsAgain, first.screen_eq_of_twice second same, struck, ?_⟩
  intro blank
  rw [struck, blank]
  apply exists_congr
  intro cell
  have unlit : (Screen.dark : Screen 64 32).cells.get cell = false := by
    simp only [Screen.dark, Screen.get_eq_getElem, Vector.getElem_replicate]
  exact and_iff_left unlit

/-- A glyph drawn at the place that `VF` names, which counts as zero, and drawn again by a machine
that has set `VF` to something else in between. -/
theorem draw_twice_restores_glyph :
    ∃ (console : Console) (machine next later final : Machine),
      machine.paused = false ∧
      machine.fetched console = .ok (Opcode.ofNat 0xDFF5).toNat ∧
      (Opcode.ofNat 0xDFF5).family.val = 0xD ∧
      step console machine = .ok () next ∧
      later = next.setV flagRegister 200 ∧
      step console later = .ok () final ∧
      final.screen = .dark ∧
      final.v flagRegister = 1 := by
  let console : Console := {
    held := fun _ => false, random := fun _ => 7, forced := some 0xDFF5 }
  have fetched : powerOn.fetched console = .ok (Opcode.ofNat 0xDFF5).toNat := rfl
  obtain ⟨next, steps, first, again⟩ := draw_twice_restores rfl fetched rfl
  have same : SameCanvas next (next.setV flagRegister 200) :=
    ⟨rfl, rfl, fun r unflagged => v_setV_of_ne 200 unflagged, rfl⟩
  have goesOn : (next.setV flagRegister 200).paused = false := by
    rw [first.rest]
    rfl
  obtain ⟨final, stepsAgain, restored, _, flagged⟩ := again console _ same goesOn rfl
  refine ⟨console, powerOn, next, _, final, rfl, fetched, rfl, steps, rfl, stepsAgain, restored, ?_⟩
  exact (flagged rfl).mpr ⟨0, by decide +kernel⟩

end Machine
end Chip8
