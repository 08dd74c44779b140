import Chip8.Proofs.Instruction.Coding
import Chip8.Proofs.Machine.Frame
import Chip8.Proofs.Machine.Stepping

/-!
# The effects of a word

What a step may change is told by the word it runs. A register or a cell that
differs after the step is one that the word's instruction writes, each other
part of the machine differs under a few words only, and a word that no
instruction claims moves the program counter and does nothing else. A step
takes the next random value or none.
-/

namespace Chip8

/-- The registers that an instruction may write. -/
def Instruction.WritesRegister : Instruction -> Register -> Prop
  | .load x _, r | .addByte x _, r | .copy x _, r => r = x
  | .or x _, r | .and x _, r | .xor x _, r => r = x
  | .random x _, r | .readDelay x, r => r = x
  | .add x _, r | .sub x _, r | .subFrom x _, r => r = x ∨ r = flagRegister
  | .shiftRight x, r | .shiftLeft x, r => r = x ∨ r = flagRegister
  | .draw _ _ _, r => r = flagRegister
  | .restore x, r => r ≤ x
  | _, _ => False

/-- How many cells an instruction may write, from the one that the index register points at. -/
def Instruction.cellsWritten : Instruction -> Nat
  | .storeDecimal _ => 3
  | .store x => x.val + 1
  | _ => 0

/-- The registers that a word may write. -/
def Opcode.MayWrite (word : Opcode) (r : Register) : Prop :=
  (word.family.val ∈ [0x6, 0x7, 0xC] ∧ r = word.x) ∨
  (word.family.val = 0x8 ∧ word.n.val ∈ [0x0, 0x1, 0x2, 0x3] ∧ r = word.x) ∨
  (word.family.val = 0x8 ∧ word.n.val ∈ [0x4, 0x5, 0x6, 0x7, 0xE] ∧
    (r = word.x ∨ r = flagRegister)) ∨
  (word.family.val = 0xD ∧ r = flagRegister) ∨
  (word.family.val = 0xF ∧ word.byteValue = 0x07 ∧ r = word.x) ∨
  (word.family.val = 0xF ∧ word.byteValue = 0x65 ∧ r ≤ word.x)

/-- The word may change a part of the machine. -/
def Opcode.Touches (word : Opcode) : Component -> Prop
  | .memory => word.family.val = 0xF ∧ word.byteValue ∈ [0x33, 0x55]
  | .registers => ∃ r, word.MayWrite r
  | .index => word.family.val = 0xA ∨ (word.family.val = 0xF ∧ word.byteValue ∈ [0x1E, 0x29])
  | .counter => True
  | .delay => word.family.val = 0xF ∧ word.byteValue = 0x15
  | .sound => word.family.val = 0xF ∧ word.byteValue = 0x18
  | .awaiting => word.family.val = 0xF ∧ word.byteValue = 0x0A
  | .calls => word.family.val = 0x2 ∨ word.toNat = 0x00EE
  | .screen => word.toNat = 0x00E0 ∨ word.family.val = 0xD
  | .drawn => word.family.val = 0xC

namespace Machine

/-- What differs between two machines may have been changed by the word. -/
structure EffectsOf (word : Opcode) (before after : Machine) : Prop where
  parts : ∀ component, ¬after.Agree before component -> word.Touches component
  registers : ∀ r, after.v r ≠ before.v r -> word.MayWrite r
  memory : ∀ cell, after.memory.get cell ≠ before.memory.get cell ->
    (word.family.val = 0xF ∧ word.byteValue = 0x33 ∧
      ∃ k ≤ 2, cell = Address.wrap (before.index + (k : Nat))) ∨
    (word.family.val = 0xF ∧ word.byteValue = 0x55 ∧
      ∃ k ≤ word.x.val, cell = Address.wrap (before.index + (k : Nat)))
  drawn : after.drawn = before.drawn + if word.family.val = 0xC then 1 else 0

variable {console : Console} {machine final : Machine} {instruction : Instruction}
  {word : Opcode}

/-! ## Single registers and cells -/

theorem v_setV_of_ne {x r : Register} (byte : UInt8) (other : r ≠ x) :
    (machine.setV x byte).v r = machine.v r :=
  Registers.get_set_of_ne other

theorem v_setFlagged_of_ne
    {x r : Register}
    (flag result : UInt8)
    (other : r ≠ x)
    (unflagged : r ≠ flagRegister) :
    (machine.setFlagged x flag result).v r = machine.v r := by
  rw [setFlagged, v_setV_of_ne result other, v_setV_of_ne flag unflagged]

theorem v_drawSprite_of_ne
    (x y : Register)
    (height : Nibble)
    {r : Register}
    (unflagged : r ≠ flagRegister) :
    (machine.drawSprite x y height).v r = machine.v r := by
  have cleared : (machine.setV flagRegister 0).v r = machine.v r := v_setV_of_ne 0 unflagged
  simp only [drawSprite]
  split
  · rw [v_setV_of_ne 1 unflagged]
    exact cleared
  · exact cleared

/-- Executing an instruction leaves every register alone that the instruction does not write. -/
theorem v_execute_of_not_writesRegister
    {r : Register}
    (executed : execute console machine instruction = .ok final)
    (spared : ¬instruction.WritesRegister r) :
    final.v r = machine.v r := by
  cases instruction with
  | load | addByte | copy | or | and | xor | random =>
      cases executed
      exact v_setV_of_ne _ spared
  | add | sub | shiftRight | subFrom | shiftLeft =>
      cases executed
      obtain ⟨other, unflagged⟩ := not_or.mp spared
      exact v_setFlagged_of_ne _ _ other unflagged
  | draw x y height =>
      cases executed
      exact v_drawSprite_of_ne x y height spared
  | restore x =>
      cases executed
      exact (Registers.get_loadUpTo _ _ _ _).trans (if_neg spared)
  | readDelay x =>
      cases read : byteOf machine.delay with
      | error fault => simp [execute, read, Except.map] at executed
      | ok byte =>
          simp only [execute, read, Except.map, Except.ok.injEq] at executed
          subst executed
          exact v_setV_of_ne byte spared
  | _ =>
      have same : final.registers = machine.registers :=
        agree_of_execute .registers executed (by simp [Instruction.writes])
      simp only [v, same]

theorem get_storeFrom_of_ne
    {memory : Memory 4096}
    {location : Int}
    {bytes : List UInt8}
    {cell : Address}
    (apart : ∀ k < bytes.length, cell ≠ Address.wrap (location + (k : Nat))) :
    (storeFrom memory location bytes).get cell = memory.get cell := by
  induction bytes generalizing memory location with
  | nil => rfl
  | cons byte rest hypothesis =>
      have first : cell ≠ Address.wrap location := by
        simpa using apart 0 (by simp)
      rw [storeFrom, hypothesis, Memory.get_set_of_ne first]
      intro k within
      have next := apart (k + 1) (by simpa using within)
      rwa [Int.natCast_add, Int.add_comm (k : Int), ← Int.add_assoc] at next

/-- Executing an instruction leaves every cell alone that the instruction does not write. -/
theorem get_execute_of_not_written
    {cell : Address}
    (executed : execute console machine instruction = .ok final)
    (apart : ∀ k < instruction.cellsWritten,
      cell ≠ Address.wrap (machine.index + (k : Nat))) :
    final.memory.get cell = machine.memory.get cell := by
  cases instruction with
  | storeDecimal x =>
      cases executed
      exact get_storeFrom_of_ne apart
  | store x =>
      cases executed
      apply get_storeFrom_of_ne
      intro k within
      apply apart
      simp only [Registers.upTo, List.length_take] at within
      exact Nat.lt_of_lt_of_le within (Nat.min_le_left _ _)
  | _ =>
      have same : final.memory = machine.memory :=
        agree_of_execute .memory executed (by simp [Instruction.writes])
      rw [same]

theorem exists_written_of_differs
    {cell : Address}
    (executed : execute console machine instruction = .ok final)
    (differs : final.memory.get cell ≠ machine.memory.get cell) :
    ∃ k < instruction.cellsWritten, cell = Address.wrap (machine.index + (k : Nat)) := by
  refine Decidable.byContradiction fun unwritten => differs ?_
  apply get_execute_of_not_written executed
  intro k within named
  exact unwritten ⟨k, within, named⟩

/-! ## Random values -/

theorem drawn_execute (executed : execute console machine instruction = .ok final) :
    (final.drawn = machine.drawn + 1 ∧ ∃ x mask, instruction = .random x mask) ∨
      (final.drawn = machine.drawn ∧ ∀ x mask, instruction ≠ .random x mask) := by
  cases instruction with
  | random x mask =>
      cases executed
      exact .inl ⟨rfl, x, mask, rfl⟩
  | _ =>
      refine .inr ⟨agree_of_execute .drawn executed (by simp [Instruction.writes]), ?_⟩
      intro x mask
      simp

/-- Of the random values, executing an instruction looks at the next one at most. -/
theorem execute_congr_random
    {other : Nat -> Int}
    (same : ∀ x mask, instruction = .random x mask ->
      other machine.drawn = console.random machine.drawn) :
    execute { console with random := other } machine instruction =
      execute console machine instruction := by
  cases instruction with
  | random x mask => simp [execute, nextRandom, same x mask rfl]
  | _ => rfl

/-! ## Words -/

theorem mayWrite_of_codedBy
    {r : Register}
    (coded : instruction.CodedBy word)
    (written : instruction.WritesRegister r) :
    word.MayWrite r := by
  unfold Opcode.MayWrite
  cases instruction <;> simp_all [Instruction.WritesRegister, Instruction.CodedBy]

theorem exists_writesRegister (written : Component.registers ∈ instruction.writes) :
    ∃ r, instruction.WritesRegister r := by
  cases instruction with
  | draw => exact ⟨flagRegister, rfl⟩
  | restore x => exact ⟨x, Fin.le_refl x⟩
  | load x | addByte x | copy x | or x | and x | xor x | random x | readDelay x => exact ⟨x, rfl⟩
  | add x | sub x | shiftRight x | subFrom x | shiftLeft x => exact ⟨x, .inl rfl⟩
  | _ => simp [Instruction.writes] at written

theorem touches_of_codedBy
    {component : Component}
    (coded : instruction.CodedBy word)
    (written : component ∈ instruction.writes) :
    word.Touches component := by
  cases component with
  | registers =>
      obtain ⟨r, writes⟩ := exists_writesRegister written
      exact ⟨r, mayWrite_of_codedBy coded writes⟩
  | _ =>
      unfold Opcode.Touches
      cases instruction <;> simp_all [Instruction.writes, Instruction.CodedBy]

theorem family_ne_of_codedBy
    (coded : instruction.CodedBy word)
    (other : ∀ x mask, instruction ≠ .random x mask) :
    word.family.val ≠ 0xC := by
  cases instruction with
  | random x mask => exact absurd rfl (other x mask)
  | clearScreen | ret =>
      simp only [Instruction.CodedBy, Opcode.toNat] at coded
      omega
  | nop => obtain ⟨family, _⟩ | ⟨family, _⟩ | ⟨family, _⟩ | ⟨family, _⟩ := coded <;> omega
  | _ => simp_all [Instruction.CodedBy]

/-- A machine that only moved its program counter shows effects of every word but a random one. -/
theorem effectsOf_advanced (settled : word.family.val ≠ 0xC) :
    EffectsOf word machine machine.advanced where
  parts component differs := by
    cases component <;> trivial
  registers r differs := absurd rfl differs
  memory cell differs := absurd rfl differs
  drawn := by simp [settled, advanced]

/-- What executing a word's instruction changes is what the word may change. -/
theorem effectsOf_execute (executed : execute console machine.advanced word.decode = .ok final) :
    EffectsOf word machine final := by
  have coded := Opcode.codedBy_decode word
  generalize word.decode = instruction at executed coded
  refine ⟨?_, ?_, ?_, ?_⟩
  · intro component differs
    by_cases written : component ∈ instruction.writes
    · exact touches_of_codedBy coded written
    · have same := agree_of_execute component executed written
      cases component <;> trivial
  · intro r differs
    by_cases written : instruction.WritesRegister r
    · exact mayWrite_of_codedBy coded written
    · exact absurd (v_execute_of_not_writesRegister executed written) differs
  · intro cell differs
    obtain ⟨k, within, named⟩ := exists_written_of_differs executed differs
    cases instruction with
    | storeDecimal x =>
        obtain ⟨family, byte, rfl⟩ := coded
        exact .inl ⟨family, byte, k, Nat.le_of_lt_succ within, named⟩
    | store x =>
        obtain ⟨family, byte, rfl⟩ := coded
        exact .inr ⟨family, byte, k, Nat.le_of_lt_succ within, named⟩
    | _ => simp [Instruction.cellsWritten] at within
  · rcases drawn_execute executed with ⟨taken, x, mask, rfl⟩ | ⟨kept, other⟩
    · rw [if_pos coded.1]
      exact taken
    · rw [if_neg (family_ne_of_codedBy coded other)]
      exact kept

/-! ## Steps -/

/-- A step on a running machine that fetches a word executes the word's instruction. -/
theorem step_eq_of_fetched
    (running : machine.paused = false)
    (fetched : machine.fetched console = .ok word.toNat) :
    step console machine =
      match execute console machine.advanced word.decode with
      | .ok final => .ok () final
      | .error fault => .error (machine.reported word fault) machine.advanced := by
  cases executes : execute console machine.advanced word.decode with
  | ok final => exact step_of_execute running fetched executes
  | error fault => exact step_of_execute_error running fetched executes

/-- An instruction that fails takes no random value. -/
theorem family_ne_of_execute_error
    {fault : Fault}
    (fails : execute console machine word.decode = .error fault) :
    word.family.val ≠ 0xC := by
  apply family_ne_of_codedBy (Opcode.codedBy_decode word)
  intro x mask random
  rw [random] at fails
  contradiction

/-- A step on a running machine that fetches a word changes no more than the word may change, part
by part, register by register and cell by cell. One family of words takes a random value, and takes
just the next one: no other value of the source has a part in a step. A word that no instruction
claims moves the program counter on and changes nothing else. -/
theorem step_effects
    (running : machine.paused = false)
    (fetched : machine.fetched console = .ok word.toNat) :
    EffectsOf word machine (Action.after (step console) machine) ∧
    (∀ other : Nat -> Int,
      (word.family.val = 0xC -> other machine.drawn = console.random machine.drawn) ->
      step { console with random := other } machine = step console machine) ∧
    (word.Unassigned ->
      step console machine =
        .ok () { machine with counter := (machine.counter + 2) % 4096 }) := by
  refine ⟨?_, ?_, ?_⟩
  · cases executes : execute console machine.advanced word.decode with
    | ok final =>
        rw [Action.after_of_ok (step_of_execute running fetched executes)]
        exact effectsOf_execute executes
    | error fault =>
        rw [Action.after_of_error (step_of_execute_error running fetched executes)]
        exact effectsOf_advanced (family_ne_of_execute_error executes)
  · intro other same
    have refetched : machine.fetched { console with random := other } = .ok word.toNat := fetched
    rw [step_eq_of_fetched running refetched, step_eq_of_fetched running fetched,
      execute_congr_random]
    intro x mask random
    apply same
    have coded := Opcode.codedBy_decode word
    rw [random] at coded
    exact coded.1
  · intro unassigned
    rw [step_eq_of_fetched running fetched, Opcode.decode_of_unassigned unassigned]
    rfl

/-- The decimal digits of `V3`, stored past the end of memory by a word that the console forces. -/
theorem step_effects_storeDecimal :
    ({ powerOn with index := 0xFFF }.paused = false) ∧
      { powerOn with index := 0xFFF }.fetched
          { held := fun _ => false, random := fun _ => 7, forced := some 0xF333 } =
        .ok (Opcode.ofNat 0xF333).toNat ∧
      EffectsOf (Opcode.ofNat 0xF333) { powerOn with index := 0xFFF }
        (Action.after
          (step { held := fun _ => false, random := fun _ => 7, forced := some 0xF333 })
          { powerOn with index := 0xFFF }) := by
  refine ⟨rfl, rfl, ?_⟩
  exact (step_effects rfl rfl).1

end Machine
end Chip8
