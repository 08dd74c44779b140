import Chip8.Proofs.Instruction.Coding
import Chip8.Proofs.Machine.Integrity

/-!
# The faults of a step

A step on a running machine meets a fault in exactly two situations: the value
handed to it is no instruction word, or it returns with no call to return from.
The first leaves the machine as it was and the second moves its program counter
past the return. Either message shows the registers and the stack that the
machine had before the step, with the address and the value of the instruction
at fault.
-/

namespace Chip8

/-- A report stands above the sentence that names the word. -/
theorem Fault.message_undecodable
    {opcode : Int}
    {address : Option Int}
    {report : String}
    (filled : report.isEmpty = false) :
    (undecodable opcode address report).message =
      report ++ "\n\n" ++ invalidOpcode opcode address := by
  have choice : (undecodable opcode address report).message =
      if report.isEmpty then invalidOpcode opcode address
      else report ++ "\n\n" ++ invalidOpcode opcode address := rfl
  rw [choice, filled]
  rfl

namespace Machine

theorem isEmpty_crashReport (machine : Machine) (address opcode : Int) (instruction : String) :
    (machine.crashReport address opcode instruction).isEmpty = false := by
  unfold crashReport
  rw [String.append_assoc, String.append_assoc]
  simp [String.isEmpty]

variable {console : Console} {machine : Machine} {value : Int}

/-- A step on a well-formed running machine is refused its value, returns without a call, or
completes. -/
theorem WellFormed.step_cases
    (wellFormed : machine.WellFormed)
    (delivered : machine.fetched console = .ok value)
    (running : machine.paused = false) :
    ((value < 0 ∨ 0xFFFF < value) ∧
      step console machine =
        .error
          (.undecodable value (some machine.counter)
            (machine.crashReport machine.counter value unknownInstruction))
          machine) ∨
    ((value = 0x00EE ∧ machine.calls.items = []) ∧
      step console machine =
        .error
          (.emptyReturn (machine.crashReport machine.counter value "RET") machine.counter)
          machine.advanced) ∨
    ((0 ≤ value ∧ value ≤ 0xFFFF ∧ ¬(value = 0x00EE ∧ machine.calls.items = [])) ∧
      ∃ next, step console machine = .ok () next) := by
  have outcome := stepped console machine
  generalize step console machine = result at outcome
  cases outcome with
  | paused waiting =>
      rw [running] at waiting
      contradiction
  | unfetched _ unread =>
      rw [delivered] at unread
      contradiction
  | undecodable _ read outside =>
      cases delivered.symm.trans read
      exact .inl ⟨outside, rfl⟩
  | @executed word next _ read executes =>
      cases delivered.symm.trans read
      have bound := word.toNat_lt
      refine .inr (.inr ⟨⟨by omega, by omega, ?_⟩, next, rfl⟩)
      rintro ⟨coded, empty⟩
      have returns : word.decode = .ret := Opcode.decode_eq_ret_iff.mpr (by omega)
      have underflow : machine.advanced.calls.items = [] := empty
      rw [returns] at executes
      simp [Machine.execute, CallStack.pop, underflow] at executes
  | @failed word fault _ read fails =>
      cases delivered.symm.trans read
      obtain ⟨returns, empty, rfl⟩ := wellFormed.advanced.execute_eq_error fails
      have coded := Opcode.decode_eq_ret_iff.mp returns
      refine .inr (.inl ⟨⟨by omega, empty⟩, ?_⟩)
      simp [reported, returns, Instruction.assembly]

/-- A step on a paused machine does nothing. On a running one it is refused exactly the values that
are no words, and then leaves everything as it was; it meets an empty call stack exactly at the
word of a return, and then moves the program counter and nothing else; and it completes otherwise.
Each message shows the machine from before the step. -/
theorem step_faults_exact
    (wellFormed : machine.WellFormed)
    (delivered : machine.fetched console = .ok value) :
    (machine.paused = true -> step console machine = .ok () machine) ∧
    (machine.paused = false ->
      ((∃ opcode address report stopped,
          step console machine = .error (.undecodable opcode address report) stopped) ↔
        value < 0 ∨ 0xFFFF < value) ∧
      ((∃ report address stopped,
          step console machine = .error (.emptyReturn report address) stopped) ↔
        value = 0x00EE ∧ machine.calls.items = []) ∧
      ((∃ next, step console machine = .ok () next) ↔
        0 ≤ value ∧ value ≤ 0xFFFF ∧ ¬(value = 0x00EE ∧ machine.calls.items = [])) ∧
      (∀ opcode address report stopped,
        step console machine = .error (.undecodable opcode address report) stopped ->
        opcode = value ∧ address = some machine.counter ∧ stopped = machine ∧
        (Fault.undecodable opcode address report).message =
          "Emulation halted.\n\n" ++ introduction ++ "Debug info:\n" ++
            machine.dump machine.counter value "???" ++ "\n\n" ++
            Fault.invalidOpcode value (some machine.counter)) ∧
      (∀ report address stopped,
        step console machine = .error (.emptyReturn report address) stopped ->
        stopped = { machine with counter := (machine.counter + 2) % 4096 } ∧
        (Fault.emptyReturn report address).message =
          "Emulation halted.\n\n" ++ introduction ++ "Debug info:\n" ++
            machine.dump machine.counter value "RET" ++
            "\n\nReturned from address 0x" ++ Text.hex 3 machine.counter ++
            " with an empty stack")) := by
  refine ⟨step_of_paused, fun running => ?_⟩
  rcases wellFormed.step_cases delivered running with
    ⟨outside, refused⟩ | ⟨⟨coded, empty⟩, returned⟩ | ⟨inside, next, completed⟩
  · have uncoded : value ≠ 0x00EE := by omega
    have excluded : ¬(0 ≤ value ∧ value ≤ 0xFFFF) := by omega
    refine ⟨by simp [refused, outside], by simp [refused, uncoded], ?_, ?_, by simp [refused]⟩
    · simp only [refused, reduceCtorEq, exists_false, false_iff]
      exact fun bounds => excluded ⟨bounds.1, bounds.2.1⟩
    · intro opcode address report stopped fails
      rw [refused] at fails
      cases fails
      exact ⟨rfl, rfl, rfl, Fault.message_undecodable (isEmpty_crashReport _ _ _ _)⟩
  · have inside : ¬(value < 0 ∨ 0xFFFF < value) := by omega
    refine ⟨by simp [returned, inside], by simp [returned, coded, empty],
      by simp [returned, coded, empty], by simp [returned], ?_⟩
    intro report address stopped fails
    rw [returned] at fails
    cases fails
    exact ⟨rfl, rfl⟩
  · obtain ⟨nonnegative, bounded, matched⟩ := inside
    have inside : ¬(value < 0 ∨ 0xFFFF < value) := by omega
    exact ⟨by simp [completed, inside], by simp [completed, matched],
      by simp [completed, nonnegative, bounded, matched], by simp [completed],
      by simp [completed]⟩

/-- A return that a console forces on a machine just switched on. -/
theorem step_faults_exact_emptyReturn :
    powerOn.WellFormed ∧
      powerOn.fetched { held := fun _ => false, random := fun _ => 0, forced := some 0x00EE } =
        .ok 0x00EE ∧
      ∃ report address stopped,
        step { held := fun _ => false, random := fun _ => 0, forced := some 0x00EE } powerOn =
          .error (.emptyReturn report address) stopped := by
  have delivered :
      powerOn.fetched { held := fun _ => false, random := fun _ => 0, forced := some 0x00EE } =
        .ok 0x00EE := rfl
  have faults := step_faults_exact wellFormed_powerOn delivered
  exact ⟨wellFormed_powerOn, delivered, ((faults.2 rfl).2.1).mpr ⟨rfl, rfl⟩⟩

end Machine
end Chip8
