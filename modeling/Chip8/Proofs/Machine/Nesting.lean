import Chip8.Proofs.Machine.Bracket
import Chip8.Proofs.Machine.Moves

/-!
# Calls and returns nest

The log of a run holds the calls and returns that it executes, whether or not
they fail. At every moment the call stack holds the addresses behind the calls
that the log leaves open. So a return goes on behind the call that it closes,
and fails exactly when there is none to close.
-/

namespace Chip8

/-- The bracket that an instruction at an address is, if it is one. -/
def Instruction.bracket? (address : Int) : Instruction -> Option Bracket
  | .call _ => some (.call address)
  | .ret => some .ret
  | _ => none

@[simp] theorem Instruction.bracket?_call (address : Int) (target : Address) :
    (call target).bracket? address = some (.call address) := rfl

@[simp] theorem Instruction.bracket?_ret (address : Int) :
    ret.bracket? address = some .ret := rfl

namespace Machine

/-- The call or return that the next step executes, if it executes one. -/
def bracket? (console : Console) (machine : Machine) : Option Bracket :=
  (machine.next? console).bind (Instruction.bracket? machine.counter)

/-- The call or return that a move executes, if it executes one. -/
def moveBracket? (console : Console) (machine : Machine) : Move -> Option Bracket
  | .step held => machine.bracket? (console.holding held)
  | _ => none

/-- The calls and returns that some moves execute, in order. -/
def log (console : Console) : List Move -> Machine -> List Bracket
  | [], _ => []
  | move :: rest, machine =>
      (machine.moveBracket? console move).toList ++
        log console rest (Action.after (perform console move) machine)

/-- The call stack holds the addresses behind the calls that a log leaves open. -/
def Nests (machine : Machine) (log : List Bracket) : Prop :=
  machine.calls.fromBottom = (Bracket.unmatched log).map advance

section Steps

variable {console : Console} {machine final : Machine} {log : List Bracket}

theorem bracket?_of_next?
    {instruction : Instruction}
    (executes : machine.next? console = some instruction) :
    machine.bracket? console = instruction.bracket? machine.counter := by
  simp [bracket?, executes]

theorem bracket?_of_next?_none (idle : machine.next? console = none) :
    machine.bracket? console = none := by
  simp [bracket?, idle]

/-- A return takes the address it goes to from the top of the stack. -/
theorem fromBottom_of_execute_ret
    (executed : execute console machine .ret = .ok final) :
    machine.calls.fromBottom = final.calls.fromBottom ++ [final.counter] := by
  cases items : machine.calls.items with
  | nil => simp [execute, CallStack.pop, items] at executed
  | cons target rest =>
      simp only [execute, CallStack.pop, items, Except.ok.injEq] at executed
      subst executed
      simp [CallStack.fromBottom, items]

theorem Nests.of_calls_eq
    (nests : machine.Nests log)
    (same : final.calls = machine.calls) :
    final.Nests log := by
  rw [Nests, same]
  exact nests

/-- Executing an instruction keeps the call stack in step with the log. -/
theorem Nests.execute
    {address : Int}
    {instruction : Instruction}
    (nests : machine.Nests log)
    (past : machine.counter = advance address)
    (executed : machine.execute console instruction = .ok final) :
    final.Nests (log ++ (instruction.bracket? address).toList) := by
  unfold Nests at nests ⊢
  cases instruction with
  | call target =>
      cases executed
      simp [nests, past]
  | ret =>
      have taken := fromBottom_of_execute_ret executed
      rw [nests] at taken
      simp [taken]
  | _ =>
      have same : final.calls = machine.calls :=
        agree_of_execute .calls executed (by simp [Instruction.writes])
      change final.calls.fromBottom = (Bracket.unmatched (log ++ [])).map advance
      rw [same, nests, List.append_nil]

/-- A step keeps the call stack in step with the log, also when it fails. -/
theorem Nests.step (nests : machine.Nests log) :
    (Action.after (step console) machine).Nests
      (log ++ (machine.bracket? console).toList) := by
  have outcome := stepped console machine
  unfold Action.after
  generalize Machine.step console machine = result at outcome
  cases outcome with
  | paused waiting =>
      simpa [bracket?_of_next?_none (next?_of_paused waiting)] using nests
  | unfetched running unread =>
      have idle : machine.next? console = none := by simp [next?, running, unread]
      simpa [bracket?_of_next?_none idle] using nests
  | undecodable running delivered outside =>
      have refused := Opcode.ofInt?_eq_none_iff.mpr outside
      have idle : machine.next? console = none := by
        simp [next?, running, delivered, refused]
      simpa [bracket?_of_next?_none idle] using nests
  | @executed word _ running delivered executes =>
      have executing := next?_eq_some_iff.mpr ⟨running, word, delivered, rfl⟩
      rw [bracket?_of_next? executing]
      have kept : machine.advanced.Nests log := nests.of_calls_eq rfl
      exact kept.execute rfl executes
  | @failed word fault running delivered fails =>
      have executing := next?_eq_some_iff.mpr ⟨running, word, delivered, rfl⟩
      rw [bracket?_of_next? executing]
      have kept : machine.advanced.Nests log := nests.of_calls_eq rfl
      rcases execute_eq_error fails with ⟨returns, empty, _⟩ | ⟨⟨x, reads⟩, _⟩
      · -- The stack is empty and stays so; the log leaves nothing open to close.
        have bottom : machine.calls.fromBottom = [] := by
          simpa [CallStack.fromBottom, advanced] using empty
        have noneOpen : Bracket.unmatched log = [] := by
          unfold Nests at nests
          simpa [bottom] using nests.symm
        unfold Nests at kept ⊢
        rw [kept, returns, Instruction.bracket?_ret]
        simp [noneOpen]
      · rw [reads]
        change machine.advanced.Nests (log ++ [])
        rw [List.append_nil]
        exact kept

theorem calls_after_press (machine : Machine) (key : Int) :
    (Action.after (perform console (.press key)) machine).calls = machine.calls := by
  cases awaiting : machine.awaiting with
  | none =>
      rw [Action.after_of_ok (perform_press_of_ok (pressKey_of_running key awaiting))]
  | some waiting =>
      cases named : locate? 16 waiting with
      | none =>
          have refused : pressKey key machine = .error .noSuchRegister machine := by
            simp [pressKey, awaiting, named]
          rw [Action.after_of_error (perform_press_of_error refused)]
      | some x =>
          have taken : pressKey key machine = .ok true (machine.takeKey x key) := by
            simp [pressKey, awaiting, named, takeKey]
          rw [Action.after_of_ok (perform_press_of_ok taken)]
          rfl

theorem Nests.perform (nests : machine.Nests log) (move : Move) :
    (Action.after (perform console move) machine).Nests
      (log ++ (machine.moveBracket? console move).toList) := by
  cases move with
  | step held => exact nests.step
  | press key => simpa [moveBracket?] using nests.of_calls_eq (calls_after_press machine key)
  | countDown =>
      change machine.tickTimers.Nests (log ++ [])
      rw [List.append_nil]
      exact nests.of_calls_eq rfl

/-- A run keeps the call stack in step with the log. -/
theorem Nests.run (nests : machine.Nests log) (moves : List Move) :
    (machine.run console moves).Nests (log ++ machine.log console moves) := by
  induction moves generalizing machine log with
  | nil =>
      change machine.Nests (log ++ [])
      rw [List.append_nil]
      exact nests
  | cons move rest hypothesis =>
      have made : (Action.after (Machine.perform console move) machine).Nests
          (log ++ (machine.moveBracket? console move).toList) := nests.perform move
      have continued := hypothesis made
      rw [List.append_assoc] at continued
      exact continued

/-- A return with something on the stack goes to the top of it. -/
theorem step_ret_of_concat
    {below : List Int}
    {target : Int}
    (returns : machine.next? console = some .ret)
    (stacked : machine.calls.fromBottom = below ++ [target]) :
    ∃ next, Machine.step console machine = .ok () next ∧
      next.counter = target ∧ next.calls.fromBottom = below := by
  obtain ⟨running, word, delivered, decoded⟩ := next?_eq_some_iff.mp returns
  have items : machine.calls.items = target :: below.reverse := by
    simpa [CallStack.fromBottom] using congrArg List.reverse stacked
  have executes : Machine.execute console machine.advanced word.decode =
      .ok { machine.advanced with counter := target, calls := ⟨below.reverse⟩ } := by
    simp [decoded, Machine.execute, CallStack.pop, advanced, items]
  exact ⟨_, step_of_execute running delivered executes, rfl, by simp [CallStack.fromBottom]⟩

/-- A return with nothing on the stack fails, and leaves the stack alone. -/
theorem step_ret_of_nil
    (returns : machine.next? console = some .ret)
    (bare : machine.calls.fromBottom = []) :
    ∃ report stopped, Machine.step console machine =
        .error (.emptyReturn report machine.counter) stopped ∧
      stopped.calls = machine.calls := by
  obtain ⟨running, word, delivered, decoded⟩ := next?_eq_some_iff.mp returns
  have items : machine.calls.items = [] := by
    simpa [CallStack.fromBottom] using bare
  have fails : Machine.execute console machine.advanced word.decode = .error .stackUnderflow := by
    simp [decoded, Machine.execute, CallStack.pop, advanced, items]
  exact ⟨_, _, step_of_execute_error running delivered fails, rfl⟩

end Steps

/-- After any run of a machine just switched on, the call stack holds, from the bottom up, the
addresses behind the calls of the log that no return has closed. A return that is executed next
goes on behind the call that it closes, and leaves on the stack what was there at that call; it
fails exactly when the log leaves no call open, which is when no call has a balanced log behind it,
and then it leaves the stack alone. -/
theorem calls_nest
    {program : Option (List UInt8)}
    {machine : Machine}
    (booted : boot program = .ok machine)
    (console : Console)
    (moves : List Move) :
    (machine.run console moves).calls.fromBottom =
        (Bracket.unmatched (machine.log console moves)).map (fun address => (address + 2) % 4096) ∧
      ∀ held,
        (machine.run console moves).next? (console.holding held) = some .ret ->
        (∀ earlier address inner,
          machine.log console moves = earlier ++ .call address :: inner ->
          Bracket.Balanced inner ->
          ∃ next,
            perform console (.step held) (machine.run console moves) = .ok () next ∧
            next.counter = (address + 2) % 4096 ∧
            next.calls.fromBottom =
              (Bracket.unmatched earlier).map (fun address => (address + 2) % 4096)) ∧
        ((∃ fault stopped,
            perform console (.step held) (machine.run console moves) = .error fault stopped) ↔
          Bracket.unmatched (machine.log console moves) = []) ∧
        (Bracket.unmatched (machine.log console moves) = [] ↔
          ¬∃ earlier address inner,
            machine.log console moves = earlier ++ .call address :: inner ∧
            Bracket.Balanced inner) ∧
        ∀ fault stopped,
          perform console (.step held) (machine.run console moves) = .error fault stopped ->
          (∃ report, fault = .emptyReturn report (machine.run console moves).counter) ∧
          stopped.calls = (machine.run console moves).calls := by
  have fresh : machine.Nests [] := by
    obtain ⟨memory, rfl⟩ := boot_eq_ok booted
    rfl
  have nests : (machine.run console moves).calls.fromBottom =
      (Bracket.unmatched (machine.log console moves)).map advance := fresh.run moves
  refine ⟨nests, fun held returns => ?_⟩
  have closes :
      ∀ earlier address inner,
        machine.log console moves = earlier ++ .call address :: inner ->
        Bracket.Balanced inner ->
        ∃ next,
          perform console (.step held) (machine.run console moves) = .ok () next ∧
          next.counter = (address + 2) % 4096 ∧
          next.calls.fromBottom =
            (Bracket.unmatched earlier).map (fun address => (address + 2) % 4096) := by
    intro earlier address inner parts balanced
    rw [parts, Bracket.unmatched_of_balanced earlier address balanced, List.map_append] at nests
    exact step_ret_of_concat returns nests
  have noneOpen_of_fails :
      ∀ fault stopped,
        perform console (.step held) (machine.run console moves) = .error fault stopped ->
        Bracket.unmatched (machine.log console moves) = [] := by
    intro fault stopped fails
    apply Decidable.byContradiction
    intro someOpen
    obtain ⟨earlier, address, inner, parts, balanced⟩ :=
      Bracket.exists_balanced_of_unmatched someOpen
    obtain ⟨next, completed, _⟩ := closes earlier address inner parts balanced
    cases completed.symm.trans fails
  have fails_of_noneOpen (noneOpen : Bracket.unmatched (machine.log console moves) = []) :
      ∃ report stopped,
        perform console (.step held) (machine.run console moves) =
          .error (.emptyReturn report (machine.run console moves).counter) stopped ∧
        stopped.calls = (machine.run console moves).calls := by
    rw [noneOpen] at nests
    exact step_ret_of_nil returns nests
  refine ⟨closes, ⟨?_, ?_⟩, Bracket.unmatched_eq_nil_iff, ?_⟩
  · rintro ⟨fault, stopped, fails⟩
    exact noneOpen_of_fails fault stopped fails
  · intro noneOpen
    obtain ⟨report, stopped, fails, _⟩ := fails_of_noneOpen noneOpen
    exact ⟨_, stopped, fails⟩
  · intro fault stopped fails
    obtain ⟨report, left, underflows, kept⟩ :=
      fails_of_noneOpen (noneOpen_of_fails fault stopped fails)
    cases fails.symm.trans underflows
    exact ⟨⟨report, rfl⟩, kept⟩

/-- A program whose call returns, and which then returns once more. -/
theorem calls_nest_callReturn :
    boot (some [0x22, 0x02, 0x00, 0xEE]) =
        .ok { powerOn with memory := powerOn.memory.place 0x200 [0x22, 0x02, 0x00, 0xEE] } ∧
      ∃ machine, boot (some [0x22, 0x02, 0x00, 0xEE]) = .ok machine ∧
        ∃ fault stopped,
          perform { held := fun _ => false, random := fun _ => 0 } (.step fun _ => false)
            (machine.run { held := fun _ => false, random := fun _ => 0 }
              [.step fun _ => false, .step fun _ => false]) =
            .error fault stopped := by
  have booted : boot (some [0x22, 0x02, 0x00, 0xEE]) =
      .ok { powerOn with memory := powerOn.memory.place 0x200 [0x22, 0x02, 0x00, 0xEE] } := rfl
  refine ⟨booted, _, booted, ?_⟩
  have nest := calls_nest booted { held := fun _ => false, random := fun _ => 0 }
    [.step fun _ => false, .step fun _ => false]
  exact ((nest.2 (fun _ => false) (by decide +kernel)).2.1).mpr (by decide +kernel)

end Machine
end Chip8
