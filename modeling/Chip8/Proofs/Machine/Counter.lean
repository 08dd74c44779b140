import Chip8.Proofs.Machine.Effects
import Chip8.Proofs.Machine.Integrity

/-!
# Where the program goes on

After a step the program counter is at the target of a jump, a call or a
return, two words on where a skip is taken, and one word on otherwise, counted
around the end of memory. Skips come in pairs of opposite conditions: in any
state one word of a pair skips and the other does not. A value that names no
key is a key that is never down.
-/

namespace Chip8

/-- Two words with opposite conditions on the same operands. -/
def Opcode.Opposes (first second : Opcode) : Prop :=
  (first.family.val = 0x3 ∧ second.family.val = 0x4 ∧
    first.x = second.x ∧ first.byte = second.byte) ∨
  (first.family.val = 0x5 ∧ second.family.val = 0x9 ∧
    first.x = second.x ∧ first.y = second.y) ∨
  (first.family.val = 0xE ∧ second.family.val = 0xE ∧
    first.byteValue = 0x9E ∧ second.byteValue = 0xA1 ∧ first.x = second.x)

/-- The word is of a family in which words have conditions on which they skip. -/
def Opcode.MaySkip (word : Opcode) : Prop :=
  word.family.val ∈ [0x3, 0x4, 0x5, 0x9, 0xE]

/-- The word neither jumps nor has a condition on which it skips. -/
structure Opcode.Straight (word : Opcode) : Prop where
  family : word.family.val ∉ [0x1, 0x2, 0x3, 0x4, 0x5, 0x9, 0xB]
  onward : word.toNat ≠ 0x00EE
  unkeyed : word.family.val = 0xE -> word.byteValue ∉ [0x9E, 0xA1]

namespace Machine

/-- The value names a key that is held down. -/
def NamesHeld (console : Console) (value : UInt8) : Prop :=
  ∃ key : Fin 16, value.toNat = key.val ∧ console.held key = true

/-- The condition of a word holds on which it skips the next one. -/
def Skips (console : Console) (machine : Machine) (word : Opcode) : Prop :=
  (word.family.val = 0x3 ∧ machine.v word.x = word.byte) ∨
  (word.family.val = 0x4 ∧ machine.v word.x ≠ word.byte) ∨
  (word.family.val = 0x5 ∧ machine.v word.x = machine.v word.y) ∨
  (word.family.val = 0x9 ∧ machine.v word.x ≠ machine.v word.y) ∨
  (word.family.val = 0xE ∧ word.byteValue = 0x9E ∧ NamesHeld console (machine.v word.x)) ∨
  (word.family.val = 0xE ∧ word.byteValue = 0xA1 ∧ ¬NamesHeld console (machine.v word.x))

/-- The program of a machine goes on where a word takes it. -/
structure GoesOn (console : Console) (word : Opcode) (before after : Machine) : Prop where
  jump : word.family.val ∈ [0x1, 0x2] -> after.counter = word.address.val
  offset : word.family.val = 0xB ->
    after.counter = (word.address.val + (before.v offsetRegister).toNat) % 4096
  ret : word.toNat = 0x00EE -> before.calls.pop = .ok (after.counter, after.calls)
  skip : Skips console before word -> after.counter = (before.counter + 4) % 4096
  next : word.family.val ∉ [0x1, 0x2, 0xB] -> word.toNat ≠ 0x00EE -> ¬Skips console before word ->
    after.counter = (before.counter + 2) % 4096

/-- A step completes and passes over the next word. -/
def StepSkips (console : Console) (machine : Machine) : Prop :=
  ∃ next, step console machine = .ok () next ∧ next.counter = (machine.counter + 4) % 4096

variable {console other : Console} {machine rival final : Machine} {word first second : Opcode}
  {instruction : Instruction}

/-! ## Conditions -/

theorem keyDown_iff {value : UInt8} : keyDown console value = true ↔ NamesHeld console value := by
  unfold keyDown NamesHeld
  split
  · rename_i named
    constructor
    · intro held
      exact ⟨⟨value.toNat, named⟩, rfl, held⟩
    · rintro ⟨key, same, held⟩
      obtain rfl : key = ⟨value.toNat, named⟩ := Fin.ext same.symm
      exact held
  · rename_i unnamed
    simp only [Bool.false_eq_true, false_iff, not_exists]
    rintro key ⟨same, _⟩
    omega

/-- A value past the last key names none. -/
theorem not_namesHeld_of_le {value : UInt8} (past : 16 ≤ value.toNat) :
    ¬NamesHeld console value := by
  rintro ⟨key, same, _⟩
  omega

theorem Skips.maySkip (skips : Skips console machine word) : word.MaySkip := by
  obtain ⟨family, _⟩ | ⟨family, _⟩ | ⟨family, _⟩ | ⟨family, _⟩ | ⟨family, _⟩ | ⟨family, _⟩ := skips
  all_goals simp [Opcode.MaySkip, family]

/-- A word with a condition is no jump. -/
theorem family_not_mem_of_maySkip (conditional : word.MaySkip) :
    word.family.val ∉ [0x0, 0x1, 0x2, 0xB] := by
  simp only [Opcode.MaySkip, List.mem_cons, List.not_mem_nil, or_false] at conditional
  simp only [List.mem_cons, List.not_mem_nil, or_false, not_or]
  omega

theorem not_skips_of_family (other : word.family.val ∈ [0x0, 0x1, 0x2, 0xB]) :
    ¬Skips console machine word :=
  fun skips => family_not_mem_of_maySkip skips.maySkip other

theorem not_skips_of_straight (straight : word.Straight) : ¬Skips console machine word := by
  obtain ⟨family, _, unkeyed⟩ := straight
  simp only [List.mem_cons, List.not_mem_nil, or_false, not_or] at family unkeyed
  rintro (⟨same, _⟩ | ⟨same, _⟩ | ⟨same, _⟩ | ⟨same, _⟩ | ⟨same, code, _⟩ | ⟨same, code, _⟩)
  · exact family.2.2.1 same
  · exact family.2.2.2.1 same
  · exact family.2.2.2.2.1 same
  · exact family.2.2.2.2.2.1 same
  · exact (unkeyed same).1 code
  · exact (unkeyed same).2 code

/-- Words below 0x1000 are those of the first family. -/
theorem family_of_toNat_lt (small : word.toNat < 0x1000) : word.family.val = 0x0 := by
  unfold Opcode.toNat at small
  omega

theorem toNat_ne_of_family (other : word.family.val ≠ 0x0) : word.toNat ≠ 0x00EE :=
  fun same => other (family_of_toNat_lt (by omega))

/-- Words of some families have no condition, and are no jumps. -/
theorem straight_of_family
    (steady : word.family.val ∉ [0x0, 0x1, 0x2, 0x3, 0x4, 0x5, 0x9, 0xB, 0xE]) :
    word.Straight := by
  simp only [List.mem_cons, List.not_mem_nil, or_false, not_or] at steady
  constructor
  · simp [steady]
  · exact toNat_ne_of_family steady.1
  · intro family
    exact absurd family steady.2.2.2.2.2.2.2.2

theorem straight_of_unassigned (unassigned : word.Unassigned) : word.Straight := by
  obtain ⟨family, other⟩ | ⟨family, _⟩ | ⟨family, other⟩ | ⟨family, _⟩ := unassigned
  · constructor
    · simp [family]
    · intro same
      simp [same] at other
    · simp [family]
  · exact straight_of_family (by simp [family])
  · constructor
    · simp [family]
    · exact toNat_ne_of_family (by simp [family])
    · exact fun _ => other
  · exact straight_of_family (by simp [family])

/-- An instruction that does not write the program counter is that of a straight word. -/
theorem straight_of_codedBy
    (coded : instruction.CodedBy word)
    (spared : Component.counter ∉ instruction.writes) :
    word.Straight := by
  cases instruction with
  | nop => exact straight_of_unassigned coded
  | clearScreen =>
      have code : word.toNat = 0x00E0 := coded
      have family : word.family.val = 0x0 := family_of_toNat_lt (by omega)
      constructor
      · simp [family]
      · omega
      · simp [family]
  | ret | call | jump | jumpFromV0 => simp [Instruction.writes] at spared
  | skipIfByte | skipUnlessByte | skipIfSame | skipUnlessSame | skipIfKey | skipUnlessKey =>
      simp [Instruction.writes] at spared
  | _ => exact straight_of_family (by simp [coded.1])

/-! ## Instructions -/

theorem counter_skipIf (machine : Machine) (condition : Bool) :
    (machine.advanced.skipIf condition).counter =
      if condition then (machine.counter + 4) % 4096 else (machine.counter + 2) % 4096 := by
  rw [skipIf_eq]
  cases condition with
  | false => rfl
  | true =>
      simp only [advanced, advance, if_true]
      omega

/-- A word that goes straight on takes the program to the next one. -/
theorem goesOn_of_straight
    (straight : word.Straight)
    (moved : final.counter = (machine.counter + 2) % 4096) :
    GoesOn console word machine final := by
  have family := straight.family
  simp only [List.mem_cons, List.not_mem_nil, or_false, not_or] at family
  constructor
  · simp [family]
  · simp [family]
  · exact fun coded => absurd coded straight.onward
  · exact fun skips => absurd skips (not_skips_of_straight straight)
  · exact fun _ _ _ => moved

/-- A word with a condition takes the program past the next one where the condition holds. -/
theorem goesOn_skipIf
    {condition : Bool}
    (conditional : word.MaySkip)
    (same : condition = true ↔ Skips console machine word) :
    GoesOn console word machine (machine.advanced.skipIf condition) := by
  have family := family_not_mem_of_maySkip conditional
  simp only [List.mem_cons, List.not_mem_nil, or_false, not_or] at family
  constructor
  · simp [family]
  · simp [family]
  · exact fun coded => absurd coded (toNat_ne_of_family family.1)
  · intro skips
    rw [counter_skipIf, if_pos (same.mpr skips)]
  · intro _ _ holds
    rw [counter_skipIf, if_neg fun condition => holds (same.mp condition)]

/-- A word that is a jump takes the program to its target. -/
theorem goesOn_of_jump
    (family : word.family.val ∈ [0x1, 0x2])
    (moved : final.counter = word.address.val) :
    GoesOn console word machine final := by
  have either := family
  simp only [List.mem_cons, List.not_mem_nil, or_false] at either
  have among : word.family.val ∈ [0x0, 0x1, 0x2, 0xB] := by
    simp only [List.mem_cons, List.not_mem_nil, or_false]
    omega
  constructor
  · exact fun _ => moved
  · omega
  · exact fun coded => absurd coded (toNat_ne_of_family (by omega))
  · exact fun skips => absurd skips (not_skips_of_family among)
  · simp only [List.mem_cons, List.not_mem_nil, or_false, not_or]
    omega

/-- An instruction takes the program where its word does. -/
theorem goesOn_of_codedBy
    (coded : instruction.CodedBy word)
    (executed : execute console machine.advanced instruction = .ok final) :
    GoesOn console word machine final := by
  cases instruction with
  | ret =>
      have code : word.toNat = 0x00EE := coded
      have family : word.family.val = 0x0 := family_of_toNat_lt (by omega)
      constructor
      · simp [family]
      · simp [family]
      · intro _
        cases items : machine.calls.items with
        | nil => simp [execute, CallStack.pop, advanced, items] at executed
        | cons target rest =>
            simp only [execute, CallStack.pop, advanced, items, Except.ok.injEq] at executed
            subst executed
            simp [CallStack.pop, items]
      · exact fun skips => absurd skips (not_skips_of_family (by simp [family]))
      · exact fun _ other => absurd coded other
  | jump target | call target =>
      cases executed
      obtain ⟨family, rfl⟩ := coded
      exact goesOn_of_jump (by simp [family]) rfl
  | jumpFromV0 base =>
      cases executed
      obtain ⟨family, rfl⟩ := coded
      constructor
      · simp [family]
      · exact fun _ => Int.natCast_emod _ _
      · exact fun same => absurd same (toNat_ne_of_family (by simp [family]))
      · exact fun skips => absurd skips (not_skips_of_family (by simp [family]))
      · simp [family]
  | skipIfByte x byte | skipUnlessByte x byte =>
      cases executed
      obtain ⟨family, rfl, rfl⟩ := coded
      apply goesOn_skipIf (by simp [Opcode.MaySkip, family])
      simp [Skips, family, v, advanced]
  | skipIfSame x y | skipUnlessSame x y =>
      cases executed
      obtain ⟨family, rfl, rfl⟩ := coded
      apply goesOn_skipIf (by simp [Opcode.MaySkip, family])
      simp [Skips, family, v, advanced]
  | skipIfKey x | skipUnlessKey x =>
      cases executed
      obtain ⟨family, code, rfl⟩ := coded
      apply goesOn_skipIf (by simp [Opcode.MaySkip, family])
      simp [Skips, family, code, v, advanced, ← keyDown_iff]
  | _ =>
      -- The rest leave the program counter where fetching the word has moved it.
      apply goesOn_of_straight (straight_of_codedBy coded (by simp [Instruction.writes]))
      exact agree_of_execute .counter executed (by simp [Instruction.writes])

/-! ## Steps -/

/-- The program of a running machine goes on where the word takes it, unless the word is a return
and there is nothing to return to. -/
theorem WellFormed.exists_goesOn
    (wellFormed : machine.WellFormed)
    (running : machine.paused = false)
    (fetched : machine.fetched console = .ok word.toNat) :
    (∃ next, step console machine = .ok () next ∧ GoesOn console word machine next) ∨
      word.toNat = 0x00EE ∧ machine.calls.items = [] ∧
        ∃ fault stopped, step console machine = .error fault stopped := by
  cases executes : Machine.execute console machine.advanced word.decode with
  | ok final =>
      exact .inl ⟨final, step_of_execute running fetched executes,
        goesOn_of_codedBy (Opcode.codedBy_decode word) executes⟩
  | error fault =>
      obtain ⟨returns, empty, _⟩ := wellFormed.advanced.execute_eq_error executes
      exact .inr ⟨Opcode.decode_eq_ret_iff.mp returns, empty, _, _,
        step_of_execute_error running fetched executes⟩

/-- A step skips exactly where the condition of its word holds. -/
theorem WellFormed.stepSkips_iff
    (wellFormed : machine.WellFormed)
    (running : machine.paused = false)
    (fetched : machine.fetched console = .ok word.toNat)
    (conditional : word.MaySkip) :
    StepSkips console machine ↔ Skips console machine word := by
  have family := family_not_mem_of_maySkip conditional
  have onward : word.toNat ≠ 0x00EE := toNat_ne_of_family fun same => family (by simp [same])
  obtain ⟨next, steps, goes⟩ | ⟨returns, _⟩ := wellFormed.exists_goesOn running fetched
  · constructor
    · rintro ⟨after, stepsTo, past⟩
      obtain rfl : next = after := by
        rw [steps] at stepsTo
        cases stepsTo
        rfl
      by_cases met : Skips console machine word
      · exact met
      · -- One word on is never two words on, around the end of memory either.
        have moved := goes.next (fun among => family (.tail _ among)) onward met
        omega
    · intro met
      exact ⟨next, steps, goes.skip met⟩
  · exact absurd returns onward

theorem maySkip_of_opposes (opposes : first.Opposes second) : first.MaySkip ∧ second.MaySkip := by
  obtain ⟨family, family', _⟩ | ⟨family, family', _⟩ | ⟨family, family', _⟩ := opposes
  all_goals simp [Opcode.MaySkip, family, family']

/-- Of two words with opposite conditions the condition of one holds. -/
theorem skips_iff_not_skips_of_opposes
    (opposes : first.Opposes second)
    (held : other.held = console.held)
    (registers : rival.registers = machine.registers) :
    Skips console machine first ↔ ¬Skips other rival second := by
  have value (r : Register) : rival.v r = machine.v r := by
    rw [v, registers, v]
  have named (byte : UInt8) : NamesHeld other byte ↔ NamesHeld console byte := by
    rw [NamesHeld, held, NamesHeld]
  obtain ⟨family, family', x, byte⟩ | ⟨family, family', x, y⟩ | ⟨family, family', code, code', x⟩ :=
    opposes
  · simp [Skips, family, family', x, byte, value]
  · simp [Skips, family, family', x, y, value]
  · simp [Skips, family, family', code, code', x, value, named]

/-- A paused machine runs no word and stays where it is. A step of a running machine takes the
program where its word goes on; it completes, unless the word is a return and the call stack is
empty. Whatever state a running machine is in, and whether a word is in memory or forced on it, the
step skips with exactly one of two words with opposite conditions. The word that skips where a key
is down does not skip where its register names no key. -/
theorem step_moves_counter (wellFormed : machine.WellFormed) :
    (machine.paused = true -> ∀ console, step console machine = .ok () machine) ∧
    (machine.paused = false ->
      (∀ (console : Console) (word : Opcode),
        machine.fetched console = .ok word.toNat ->
        (∃ next, step console machine = .ok () next ∧ GoesOn console word machine next) ∨
          word.toNat = 0x00EE ∧ machine.calls.items = [] ∧
            ∃ fault stopped, step console machine = .error fault stopped) ∧
      (∀ (console other : Console) (rival : Machine) (first second : Opcode),
        first.Opposes second ->
        other.held = console.held ->
        rival = { machine with memory := rival.memory } ->
        machine.fetched console = .ok first.toNat ->
        rival.fetched other = .ok second.toNat ->
        (StepSkips console machine ↔ ¬StepSkips other rival)) ∧
      (∀ (console : Console) (word : Opcode),
        word.family.val = 0xE ->
        word.byteValue = 0x9E ->
        16 ≤ (machine.v word.x).toNat ->
        machine.fetched console = .ok word.toNat ->
        ¬StepSkips console machine)) := by
  refine ⟨fun waiting _ => step_of_paused waiting, fun running => ⟨?_, ?_, ?_⟩⟩
  · intro console word fetched
    exact wellFormed.exists_goesOn running fetched
  · intro console other rival first second opposes held same fetched fetched'
    have registers : rival.registers = machine.registers := by rw [same]
    have running' : rival.paused = false := by
      rw [same]
      exact running
    obtain ⟨conditional, conditional'⟩ := maySkip_of_opposes opposes
    have rivalFormed : rival.WellFormed := same ▸ wellFormed.with_memory rival.memory
    rw [wellFormed.stepSkips_iff running fetched conditional,
      rivalFormed.stepSkips_iff running' fetched' conditional']
    exact skips_iff_not_skips_of_opposes opposes held registers
  · intro console word family code past fetched
    have conditional : word.MaySkip := by simp [Opcode.MaySkip, family]
    rw [wellFormed.stepSkips_iff running fetched conditional]
    have unnamed : ¬NamesHeld console (machine.v word.x) := not_namesHeld_of_le past
    simp [Skips, family, code, unnamed]

/-- At the last cell of memory and with a register that names no key: a skip goes on in the cell
numbered three, and of each pair of words that are forced on the machine one skips. -/
theorem step_moves_counter_lastCell :
    ∃ (forcing : Int -> Console) (machine : Machine),
      machine.WellFormed ∧ machine.paused = false ∧
      machine.counter = 0xFFF ∧ machine.v (Opcode.ofNat 0x31C8).x = 200 ∧
      (∃ next, step (forcing 0x31C8) machine = .ok () next ∧ next.counter = 3) ∧
      ¬StepSkips (forcing 0x41C8) machine ∧
      ¬StepSkips (forcing 0xE19E) machine ∧
      StepSkips (forcing 0xE1A1) machine := by
  let forcing (word : Int) : Console := {
    held := fun _ => false, random := fun _ => 7, forced := some word }
  let machine : Machine := {
    powerOn with
    counter := 0xFFF
    registers := Registers.zero.set ⟨1, by decide⟩ 200 }
  have wellFormed : machine.WellFormed := {
    counter := ⟨by decide, by decide⟩
    index := wellFormed_powerOn.index
    delay := wellFormed_powerOn.delay
    sound := wellFormed_powerOn.sound
    awaiting := wellFormed_powerOn.awaiting
    calls := wellFormed_powerOn.calls }
  obtain ⟨_, running⟩ := step_moves_counter wellFormed
  obtain ⟨goes, pairs, unnamed⟩ := running rfl
  have bytes := pairs (forcing 0x31C8) (forcing 0x41C8) machine (Opcode.ofNat 0x31C8)
    (Opcode.ofNat 0x41C8) (.inl (by decide)) rfl rfl rfl rfl
  have keys := pairs (forcing 0xE19E) (forcing 0xE1A1) machine (Opcode.ofNat 0xE19E)
    (Opcode.ofNat 0xE1A1) (.inr (.inr (by decide))) rfl rfl rfl rfl
  have unskipped := unnamed (forcing 0xE19E) (Opcode.ofNat 0xE19E) rfl rfl (by decide) rfl
  have skipped : ∃ next, step (forcing 0x31C8) machine = .ok () next ∧ next.counter = 3 := by
    obtain ⟨next, steps, goesOn⟩ | ⟨returns, _⟩ := goes (forcing 0x31C8) (Opcode.ofNat 0x31C8) rfl
    · exact ⟨next, steps, goesOn.skip (.inl (by decide))⟩
    · exact absurd returns (by decide)
  exact ⟨forcing, machine, wellFormed, rfl, rfl, rfl, skipped, bytes.mp skipped, unskipped,
    Classical.not_not.mp fun still => unskipped (keys.mpr still)⟩

end Machine
end Chip8
