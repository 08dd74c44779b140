import Chip8.Machine.Step

/-!
# How steps end

A step ends in one of five ways, and each way says what the machine had before
it and what it has after it. The ways in which executing an instruction fails
are two, and only a return from an empty call stack is met by a machine whose
timers hold bytes.
-/

namespace Chip8

/-- The state after an action, whether the action completed or a fault stopped it. -/
def Action.after {State Result : Type} (action : Action State Result) (state : State) : State :=
  match action state with
  | .ok _ final => final
  | .error _ final => final

namespace Action

variable {State Result : Type} {action : Action State Result} {state final : State}

theorem after_of_ok {result : Result} (completed : action state = .ok result final) :
    after action state = final := by
  simp [after, completed]

theorem after_of_error {fault : Fault} (stopped : action state = .error fault final) :
    after action state = final := by
  simp [after, stopped]

theorem after_bind_of_ok
    {Other : Type}
    {result : Result}
    (completed : action state = .ok result final)
    (next : Result -> Action State Other) :
    after (action >>= next) state = after (next result) final := by
  change (match EStateM.bind action next state with
    | .ok _ last => last
    | .error _ last => last) = _
  simp [EStateM.bind, completed, after]

theorem after_bind_of_error
    {Other : Type}
    {fault : Fault}
    (stopped : action state = .error fault final)
    (next : Result -> Action State Other) :
    after (action >>= next) state = final := by
  change (match EStateM.bind action next state with
    | .ok _ last => last
    | .error _ last => last) = _
  simp [EStateM.bind, stopped]

/-- Two actions in turn complete where the first completes and the second completes after it. -/
theorem bind_eq_ok
    {Other : Type}
    {next : Result -> Action State Other}
    {other : Other} :
    (action >>= next) state = .ok other final ↔
      ∃ result middle, action state = .ok result middle ∧ next result middle = .ok other final := by
  change EStateM.bind action next state = _ ↔ _
  cases outcome : action state <;> simp [EStateM.bind, outcome, and_assoc]

/-- Two actions in turn are stopped where the first is, or the second after it. -/
theorem bind_eq_error
    {Other : Type}
    {next : Result -> Action State Other}
    {fault : Fault} :
    (action >>= next) state = .error fault final ↔
      action state = .error fault final ∨
        ∃ result middle,
          action state = .ok result middle ∧ next result middle = .error fault final := by
  change EStateM.bind action next state = _ ↔ _
  cases outcome : action state <;> simp [EStateM.bind, outcome, and_assoc]

end Action

namespace Machine

/-- The machine with its program counter moved past one instruction. -/
def advanced (machine : Machine) : Machine :=
  { machine with counter := advance machine.counter }

/-- How a step on a machine may end. -/
inductive Stepped (console : Console) (machine : Machine) :
    EStateM.Result Fault Machine Unit -> Prop
  /-- The machine waits for a key. -/
  | paused
      (waiting : machine.paused = true) :
      Stepped console machine (.ok () machine)
  /-- Nothing could be fetched. -/
  | unfetched {fault : Fault}
      (running : machine.paused = false)
      (fetched : machine.fetched console = .error fault) :
      Stepped console machine (.error fault machine)
  /-- What was fetched is no instruction word. -/
  | undecodable {value : Int}
      (running : machine.paused = false)
      (fetched : machine.fetched console = .ok value)
      (outside : value < 0 ∨ 0xFFFF < value) :
      Stepped console machine
        (.error
          (.undecodable value (some machine.counter)
            (machine.crashReport machine.counter value unknownInstruction))
          machine)
  /-- The instruction was executed. -/
  | executed {word : Opcode} {final : Machine}
      (running : machine.paused = false)
      (fetched : machine.fetched console = .ok word.toNat)
      (executes : execute console machine.advanced word.decode = .ok final) :
      Stepped console machine (.ok () final)
  /-- The instruction failed. -/
  | failed {word : Opcode} {fault : Fault}
      (running : machine.paused = false)
      (fetched : machine.fetched console = .ok word.toNat)
      (fails : execute console machine.advanced word.decode = .error fault) :
      Stepped console machine (.error (machine.reported word fault) machine.advanced)

/-- Every step ends in one of these ways. -/
theorem stepped (console : Console) (machine : Machine) :
    Stepped console machine (step console machine) := by
  unfold step
  cases running : machine.paused with
  | true => exact .paused running
  | false =>
      cases fetched : machine.fetched console with
      | error fault => exact .unfetched running fetched
      | ok value =>
          simp only [Bool.false_eq_true, if_false, deliver]
          cases decoded : Opcode.ofInt? value with
          | none =>
              exact .undecodable running fetched (Opcode.ofInt?_eq_none_iff.mp decoded)
          | some word =>
              rw [Opcode.ofInt?_eq_some_iff.mp decoded] at fetched
              cases executes : execute console machine.advanced word.decode with
              | ok final =>
                  simp only [advanced] at executes
                  simp only [executes]
                  exact .executed running fetched executes
              | error fault =>
                  simp only [advanced] at executes
                  simp only [executes]
                  exact .failed running fetched executes

/-- A paused machine is left alone. -/
theorem step_of_paused
    {console : Console}
    {machine : Machine}
    (waiting : machine.paused = true) :
    step console machine = .ok () machine := by
  simp [step, waiting]

/-- A step on a running machine executes the word it fetches. -/
theorem step_of_execute
    {console : Console}
    {machine final : Machine}
    {word : Opcode}
    (running : machine.paused = false)
    (fetched : machine.fetched console = .ok word.toNat)
    (executes : execute console machine.advanced word.decode = .ok final) :
    step console machine = .ok () final := by
  have decoded : Opcode.ofInt? word.toNat = some word := Opcode.ofInt?_eq_some_iff.mpr rfl
  simp only [advanced] at executes
  simp [step, running, fetched, deliver, decoded, executes]

theorem step_of_execute_error
    {console : Console}
    {machine : Machine}
    {word : Opcode}
    {fault : Fault}
    (running : machine.paused = false)
    (fetched : machine.fetched console = .ok word.toNat)
    (fails : execute console machine.advanced word.decode = .error fault) :
    step console machine = .error (machine.reported word fault) machine.advanced := by
  have decoded : Opcode.ofInt? word.toNat = some word := Opcode.ofInt?_eq_some_iff.mpr rfl
  simp only [advanced] at fails
  simp [step, running, fetched, deliver, decoded, fails, advanced]

/-- The instruction that the next step executes, if it executes one. -/
def next? (console : Console) (machine : Machine) : Option Instruction :=
  if machine.paused then none
  else
    match machine.fetched console with
    | .error _ => none
    | .ok value => (Opcode.ofInt? value).map Opcode.decode

theorem next?_of_paused
    {console : Console}
    {machine : Machine}
    (waiting : machine.paused = true) :
    machine.next? console = none := by
  simp [next?, waiting]

theorem next?_eq_some_iff
    {console : Console}
    {machine : Machine}
    {instruction : Instruction} :
    machine.next? console = some instruction ↔
      machine.paused = false ∧
        ∃ word : Opcode,
          machine.fetched console = .ok word.toNat ∧ word.decode = instruction := by
  constructor
  · intro found
    unfold next? at found
    split at found
    · contradiction
    · rename_i running
      cases fetched : machine.fetched console with
      | error fault => simp [fetched] at found
      | ok value =>
          simp only [fetched, Option.map_eq_some_iff, Opcode.ofInt?_eq_some_iff] at found
          obtain ⟨word, rfl, decoded⟩ := found
          exact ⟨by simpa using running, word, rfl, decoded⟩
  · rintro ⟨running, word, fetched, rfl⟩
    have decoded : Opcode.ofInt? word.toNat = some word := Opcode.ofInt?_eq_some_iff.mpr rfl
    simp [next?, running, fetched, decoded]

/-- A key means nothing to a machine that waits for none. -/
theorem pressKey_of_running
    {machine : Machine}
    (key : Int)
    (running : machine.awaiting = none) :
    pressKey key machine = .ok false machine := by
  simp [pressKey, running]

/-- The machine once the register that waits has taken a key. -/
def takeKey (machine : Machine) (x : Register) (key : Int) : Machine :=
  { machine with
    registers := machine.registers.set x (UInt8.ofNat (key % 16).toNat)
    awaiting := none }

/-- A key goes to the register that waits for it. -/
theorem pressKey_of_awaiting
    {machine : Machine}
    {x : Register}
    (key : Int)
    (waiting : machine.awaiting = some (x.val : Int)) :
    pressKey key machine = .ok true (machine.takeKey x key) := by
  simp [pressKey, waiting, takeKey]

/-- Executing an instruction fails in two ways only. -/
theorem execute_eq_error
    {console : Console}
    {machine : Machine}
    {instruction : Instruction}
    {fault : Fault}
    (fails : execute console machine instruction = .error fault) :
    (instruction = .ret ∧ machine.calls.items = [] ∧ fault = .stackUnderflow) ∨
      (∃ x, instruction = .readDelay x) ∧ byteOf machine.delay = .error fault := by
  cases instruction with
  | ret =>
      left
      cases items : machine.calls.items with
      | nil =>
          simp only [execute, CallStack.pop, items, Except.error.injEq] at fails
          exact ⟨rfl, rfl, fails.symm⟩
      | cons target rest => simp [execute, CallStack.pop, items] at fails
  | readDelay x =>
      right
      refine ⟨⟨x, rfl⟩, ?_⟩
      cases read : byteOf machine.delay with
      | error cause => simpa [execute, read, Except.map] using fails
      | ok byte => simp [execute, read, Except.map] at fails
  | _ => cases fails

end Machine
end Chip8
