import Chip8.Machine.Monitor

/-!
# Blocks are written whole

A block of bytes is laid over cells that follow one another and no other cell
changes, or it is refused and none changes. Which of the two it is hangs on its
location, its length and the size of memory alone. A machine switched on with a
program therefore holds the font, the program and zeros, and only a program that
would run past the end of memory is refused.
-/

namespace Chip8
namespace Memory

variable {size start k : Nat} {memory before after : Memory size} {cell : Fin size}
  {location : Int} {block : List UInt8}

/-- A block lies over the cells from one on, and the other cells are what they were. -/
structure Overlays (start : Nat) (block : List UInt8) (before after : Memory size) : Prop where
  fits : start + block.length ≤ size
  inside : ∀ (cell : Fin size) (k : Nat) (within : k < block.length),
    cell.val = start + k -> after.get cell = block[k]
  outside : ∀ cell : Fin size,
    cell.val < start ∨ start + block.length ≤ cell.val -> after.get cell = before.get cell

/-! ## Laying bytes over cells -/

theorem get_place_of_outside (outside : cell.val < start ∨ start + block.length ≤ cell.val) :
    (memory.place start block).get cell = memory.get cell := by
  induction block generalizing memory start with
  | nil => rfl
  | cons byte rest hypothesis =>
      rw [List.length_cons] at outside
      rw [place, hypothesis (by omega)]
      split
      · apply get_set_of_ne
        rintro rfl
        dsimp only at outside
        omega
      · rfl

theorem get_place_of_inside (within : k < block.length) (stands : cell.val = start + k) :
    (memory.place start block).get cell = block[k] := by
  induction block generalizing memory start k with
  | nil => exact absurd within (Nat.not_lt_zero k)
  | cons byte rest hypothesis =>
      rw [place]
      cases k with
      | zero =>
          have inside : start < size := by omega
          have first : cell = ⟨start, inside⟩ := Fin.ext stands
          rw [get_place_of_outside (.inl (by omega)), dif_pos inside, first]
          exact get_set_same memory _ byte
      | succ k => exact hypothesis (Nat.lt_of_succ_lt_succ within) (by omega)

theorem overlays_place (fits : start + block.length ≤ size) :
    Overlays start block memory (memory.place start block) where
  fits := fits
  inside _ _ within stands := get_place_of_inside within stands
  outside _ beyond := get_place_of_outside beyond

/-- The cells before a block, the block, and the cells after it. -/
theorem Overlays.toList_eq (overlays : Overlays start block before after) :
    after.cells.toList =
      before.cells.toList.take start ++
        (block ++ before.cells.toList.drop (start + block.length)) := by
  have fits := overlays.fits
  have early : (before.cells.toList.take start).length = start := by
    simp
    omega
  apply List.ext_getElem
  · simp
    omega
  · intro place within _
    rw [Vector.length_toList] at within
    have inside := overlays.inside ⟨place, within⟩ (place - start)
    have outside := overlays.outside ⟨place, within⟩
    simp only [get, Fin.getElem_fin] at inside outside
    simp only [List.getElem_append, early, Vector.getElem_toList, List.getElem_take,
      List.getElem_drop]
    split
    · exact outside (.inl ‹_›)
    · split
      · exact inside ‹_› (by omega)
      · rw [outside (.inr (by omega))]
        congr 1
        omega

/-! ## Writing a block -/

/-- How writing a block ends. -/
inductive Written (memory : Memory size) (location : Int) (block : List UInt8) :
    Except Fault (Memory size) -> Prop
  /-- The block would end past the last cell. -/
  | overflow
      (past : size < location + block.length) :
      Written memory location block (.error (.memoryOverflow (location + block.length - 1)))
  /-- There are no bytes to write. -/
  | empty
      (fits : location ≤ size)
      (nothing : block = []) :
      Written memory location block (.ok memory)
  /-- The block is laid over the cells from one on. -/
  | laid (start : Nat)
      (filled : block ≠ [])
      (fits : start + block.length ≤ size)
      (stands : start = location ∨
        location < 0 ∧ location + block.length < 0 ∧ start = location + size) :
      Written memory location block (.ok (memory.place start block))
  /-- The block is counted from the end of memory, and begins before its first cell or does not end
  before its last. -/
  | uneven
      (filled : block ≠ [])
      (fromEnd : location < 0)
      (fits : location + block.length ≤ size)
      (misplaced : location < -size ∨ 0 ≤ location + block.length) :
      Written memory location block (.error .unevenBlock)

/-- Writing a block ends in one of these ways. -/
theorem written (memory : Memory size) (location : Int) (block : List UInt8) :
    Written memory location block (memory.writeBlock location block) := by
  unfold writeBlock checkOverflow
  by_cases past : location + block.length - 1 > (size : Int) - 1
  · rw [if_pos past]
    exact .overflow (by omega)
  · rw [if_neg past]
    by_cases nothing : block = []
    · subst nothing
      simp only [List.length_nil] at past
      exact .empty (by omega) rfl
    · have nonempty : block.isEmpty = false := by simpa using nothing
      simp only [nonempty, blockStart?]
      by_cases forward : 0 ≤ location
      · rw [if_pos forward]
        exact .laid location.toNat nothing (by omega) (.inl (by omega))
      · rw [if_neg forward]
        -- The end is counted from the end too, so a block that reached the last cell would end at
        -- cell zero, before its start.
        by_cases placed : -(size : Int) ≤ location ∧ location + block.length < 0
        · rw [if_pos placed]
          exact .laid (location + size).toNat nothing (by omega)
            (.inr ⟨by omega, placed.2, by omega⟩)
        · rw [if_neg placed]
          exact .uneven nothing (by omega) (by omega) (by omega)

/-- A block that was written lies over the cells from its location on, counted from the end of
memory where the location is negative. -/
theorem exists_overlays_of_ok (writes : memory.writeBlock location block = .ok after) :
    ∃ start : Nat,
      Overlays start block memory after ∧
        (0 ≤ location -> start = location) ∧
        (location < 0 -> block ≠ [] -> start = location + size) := by
  have ends := written memory location block
  rw [writes] at ends
  cases ends with
  | empty fits nothing =>
      subst nothing
      have inside : location.toNat + ([] : List UInt8).length ≤ size := by
        rw [List.length_nil]
        omega
      exact ⟨location.toNat, overlays_place inside, fun _ => by omega,
        fun _ filled => absurd rfl filled⟩
  | laid start filled fits stands =>
      exact ⟨start, overlays_place fits, fun _ => by omega, fun _ _ => by omega⟩

/-- A block is refused where it would run past the end of memory, or is counted from the end and
misplaced there. -/
theorem writeBlock_eq_error_iff {fault : Fault} :
    memory.writeBlock location block = .error fault ↔
      size < location + block.length ∧ fault = .memoryOverflow (location + block.length - 1) ∨
        block ≠ [] ∧ location < 0 ∧ location + block.length ≤ size ∧
          (location < -size ∨ 0 ≤ location + block.length) ∧ fault = .unevenBlock := by
  have ends := written memory location block
  generalize memory.writeBlock location block = result at ends
  cases ends with
  | overflow past => grind
  | empty fits nothing => grind
  | laid start filled fits stands => grind
  | uneven filled fromEnd fits misplaced => grind

theorem writeBlock_of_past (past : size < location + block.length) :
    memory.writeBlock location block = .error (.memoryOverflow (location + block.length - 1)) :=
  writeBlock_eq_error_iff.mpr (.inl ⟨past, rfl⟩)

/-- From its first cell on, memory takes every block that ends in it. -/
theorem exists_overlays_of_fits
    (memory : Memory size)
    (forward : 0 ≤ location)
    (fits : location + block.length ≤ size) :
    ∃ after, memory.writeBlock location block = .ok after ∧
      Overlays location.toNat block memory after := by
  cases writes : memory.writeBlock location block with
  | error fault =>
      rcases writeBlock_eq_error_iff.mp writes with ⟨past, -⟩ | ⟨-, fromEnd, -⟩ <;> omega
  | ok after =>
      obtain ⟨start, overlays, stands, -⟩ := exists_overlays_of_ok writes
      obtain rfl : start = location.toNat := by
        have place := stands forward
        omega
      exact ⟨after, rfl, overlays⟩

end Memory

namespace Machine

/-- The bytes of memory with the font from its first cell on, a program where programs start, and
zeros in the cells between and after them. -/
def image (program : List UInt8) : List UInt8 :=
  font ++ List.replicate 432 0 ++ (program ++ List.replicate (3584 - program.length) 0)

/-- The font is a block written like any other. -/
theorem writeBlock_font :
    ∃ memory, (Memory.blank : Memory 4096).writeBlock 0 font = .ok memory ∧
      powerOn = { memory } :=
  ⟨_, rfl, rfl⟩

theorem length_font : font.length = 80 := rfl

theorem toList_powerOn : powerOn.memory.cells.toList = font ++ List.replicate 4016 0 := by
  obtain ⟨memory, writes, switchedOn⟩ := writeBlock_font
  obtain ⟨start, overlays, stands, -⟩ := Memory.exists_overlays_of_ok writes
  obtain rfl : start = 0 := by
    have place := stands (Int.le_refl 0)
    omega
  rw [switchedOn, overlays.toList_eq, Memory.blank, Vector.toList_replicate, List.drop_replicate,
    length_font]
  rfl

/-- Zeros go from the font up to where programs start, and from the end of a program on. -/
theorem overlaid_powerOn_eq_image {program : List UInt8} (fits : program.length ≤ 3584) :
    powerOn.memory.cells.toList.take 512 ++
        (program ++ powerOn.memory.cells.toList.drop (512 + program.length)) =
      image program := by
  have before : powerOn.memory.cells.toList.take 512 = font ++ List.replicate 432 0 := by
    rw [toList_powerOn, List.take_append, List.take_of_length_le (by rw [length_font]; omega),
      length_font, List.take_replicate]
    rfl
  have beyond : powerOn.memory.cells.toList.drop (512 + program.length) =
      List.replicate (3584 - program.length) 0 := by
    rw [toList_powerOn, List.drop_append, List.drop_of_length_le (by rw [length_font]; omega),
      length_font, List.drop_replicate, List.nil_append]
    congr 1
    omega
  rw [before, beyond, image]

theorem image_nil : powerOn.memory.cells.toList = image [] := by
  have fits : ([] : List UInt8).length ≤ 3584 := by decide
  have whole := overlaid_powerOn_eq_image fits
  rw [List.nil_append, List.length_nil, Nat.add_zero, List.take_append_drop] at whole
  exact whole

/-- A program is laid where programs start, if it ends in memory. -/
theorem exists_boot_of_fits
    {program : Option (List UInt8)}
    (fits : (program.getD []).length ≤ 3584) :
    ∃ machine, boot program = .ok machine ∧
      machine.memory.cells.toList = image (program.getD []) := by
  cases program with
  | none => exact ⟨powerOn, rfl, image_nil⟩
  | some block =>
      rw [Option.getD_some] at fits ⊢
      have room : programStart + block.length ≤ (4096 : Nat) := by
        simp only [programStart]
        omega
      obtain ⟨memory, writes, overlays⟩ :=
        Memory.exists_overlays_of_fits powerOn.memory (by decide) room
      refine ⟨{ powerOn with memory }, ?_, ?_⟩
      · simp only [boot, load, writes]
        rfl
      · exact overlays.toList_eq.trans (overlaid_powerOn_eq_image fits)

/-- A program that would end past memory is refused. -/
theorem boot_of_past
    {program : Option (List UInt8)}
    (past : 3584 < (program.getD []).length) :
    boot program = .error (.memoryOverflow (programStart + (program.getD []).length - 1)) := by
  cases program with
  | none => exact absurd past (by decide)
  | some block =>
      rw [Option.getD_some] at past ⊢
      have crowded : ((4096 : Nat) : Int) < programStart + block.length := by
        simp only [programStart]
        omega
      simp only [boot, load, Memory.writeBlock_of_past crowded]
      rfl

/-- A block that is written to a machine's memory changes nothing else; one that is refused changes
nothing at all. -/
theorem writeBlock_cases (location : Int) (block : List UInt8) (machine : Machine) :
    (∃ memory start,
      writeBlock location block machine = .ok () { machine with memory } ∧
        Memory.Overlays start block machine.memory memory) ∨
      ∃ fault, writeBlock location block machine = .error fault machine := by
  unfold writeBlock
  cases writes : machine.memory.writeBlock location block with
  | error fault => exact .inr ⟨fault, rfl⟩
  | ok memory =>
      obtain ⟨start, overlays, -⟩ := Memory.exists_overlays_of_ok writes
      exact .inl ⟨memory, start, rfl, overlays⟩

/-- A block that is written lies over the cells from its location on, or from that many cells before
the end of memory, and no other cell is changed. It is refused where it would run past the end of
memory, or where it is counted from the end and begins before the first cell or does not end before
the last; then nothing is changed. So from the first cell on just the blocks that end in memory are
written, and a machine is switched on with just the programs that do. It then holds the font, the
program where programs start, and zeros. -/
theorem blocks_written_whole
    {size : Nat}
    (memory : Memory size)
    (location : Int)
    (block : List UInt8) :
    (∀ after, memory.writeBlock location block = .ok after ->
      ∃ start : Nat,
        Memory.Overlays start block memory after ∧
          (0 ≤ location -> start = location) ∧
          (location < 0 -> block ≠ [] -> start = location + size)) ∧
    (∀ fault, memory.writeBlock location block = .error fault ↔
      size < location + block.length ∧ fault = .memoryOverflow (location + block.length - 1) ∨
        block ≠ [] ∧ location < 0 ∧ location + block.length ≤ size ∧
          (location < -size ∨ 0 ≤ location + block.length) ∧ fault = .unevenBlock) ∧
    (0 ≤ location ->
      ((∃ after, memory.writeBlock location block = .ok after) ↔
        location + block.length ≤ size)) ∧
    (∀ machine : Machine,
      (∃ memory start,
        writeBlock location block machine = .ok () { machine with memory } ∧
          Memory.Overlays start block machine.memory memory) ∨
        ∃ fault, writeBlock location block machine = .error fault machine) ∧
    ∀ program : Option (List UInt8),
      ((program.getD []).length ≤ 3584 ->
        ∃ machine, boot program = .ok machine ∧
          machine.memory.cells.toList = image (program.getD [])) ∧
      (3584 < (program.getD []).length ->
        boot program = .error (.memoryOverflow (programStart + (program.getD []).length - 1))) := by
  refine ⟨fun _ => Memory.exists_overlays_of_ok, fun _ => Memory.writeBlock_eq_error_iff, ?_,
    writeBlock_cases location block, ?_⟩
  · intro forward
    constructor
    · rintro ⟨after, writes⟩
      obtain ⟨start, overlays, stands, -⟩ := Memory.exists_overlays_of_ok writes
      have fits := overlays.fits
      have place := stands forward
      omega
    · intro fits
      obtain ⟨after, writes, -⟩ := Memory.exists_overlays_of_fits memory forward fits
      exact ⟨after, writes⟩
  · exact fun program => ⟨exists_boot_of_fits, boot_of_past⟩

/-- Two bytes three cells before the end of memory, and a program that just ends in memory. -/
theorem blocks_written_whole_fromEnd :
    (∃ after : Memory 4,
      (Memory.blank : Memory 4).writeBlock (-3) [1, 2] = .ok after ∧
        Memory.Overlays 1 [1, 2] Memory.blank after) ∧
    ∃ machine,
      boot (some (List.replicate 3584 1)) = .ok machine ∧
        machine.memory.cells.toList = image (List.replicate 3584 1) := by
  obtain ⟨overlays, -, -, -, boots⟩ :=
    blocks_written_whole (Memory.blank : Memory 4) (-3) [1, 2]
  constructor
  · obtain ⟨start, overlaid, -, stands⟩ := overlays _ rfl
    obtain rfl : start = 1 := by
      have place := stands (by decide) (by decide)
      omega
    exact ⟨_, rfl, overlaid⟩
  · exact (boots (some (List.replicate 3584 1))).1 (Nat.le_of_eq List.length_replicate)

end Machine
end Chip8
