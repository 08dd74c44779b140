import Chip8.Proofs.Machine.Integrity

/-!
# Runs of a machine

What happens to a machine comes in moves: a step with some keys held, a key
handed over, a count of the timers. A run is a list of moves, made one after
the other whether or not a fault stops some of them. A machine switched on with
a program is well formed after every run, and the only fault that a step of it
ever meets is a return without a call.
-/

namespace Chip8

/-- Something that happens to a machine. -/
inductive Move
  /-- A step while exactly these keys are held. -/
  | step (held : Fin 16 -> Bool)
  /-- A key is handed over. -/
  | press (key : Int)
  /-- The timers are counted down. -/
  | countDown

/-- The console with exactly these keys held. -/
def Console.holding (console : Console) (held : Fin 16 -> Bool) : Console :=
  { console with held }

namespace Machine

/-- Make a move. -/
def perform (console : Console) : Move -> Action Machine Unit
  | .step held => step (console.holding held)
  | .press key => discard (pressKey key)
  | .countDown => modify tickTimers

/-- The machine after some moves; a move that a fault stops does not keep the others from being
made. -/
def run (console : Console) : List Move -> Machine -> Machine
  | [], machine => machine
  | move :: rest, machine => run console rest (Action.after (perform console move) machine)

theorem perform_press_of_ok
    {console : Console}
    {machine next : Machine}
    {key : Int}
    {taken : Bool}
    (pressed : pressKey key machine = .ok taken next) :
    perform console (.press key) machine = .ok () next := by
  change (do discard (pressKey key) : Action Machine Unit) machine = _
  simp [discard, Functor.discard, Functor.mapConst, EStateM.map, pressed]

theorem perform_press_of_error
    {console : Console}
    {machine next : Machine}
    {key : Int}
    {fault : Fault}
    (refused : pressKey key machine = .error fault next) :
    perform console (.press key) machine = .error fault next := by
  change (do discard (pressKey key) : Action Machine Unit) machine = _
  simp [discard, Functor.discard, Functor.mapConst, EStateM.map, refused]

namespace WellFormed

variable {console : Console} {machine : Machine}

theorem after_perform (wellFormed : machine.WellFormed) (move : Move) :
    (Action.after (perform console move) machine).WellFormed := by
  cases move with
  | step held => exact wellFormed.after_step
  | press key =>
      obtain ⟨taken, next, pressed, kept⟩ := wellFormed.pressKey key
      rw [Action.after_of_ok (perform_press_of_ok pressed)]
      exact kept
  | countDown => exact wellFormed.tickTimers

/-- Every run leaves a well-formed machine well formed. -/
theorem run (wellFormed : machine.WellFormed) (moves : List Move) :
    (machine.run console moves).WellFormed := by
  induction moves generalizing machine with
  | nil => exact wellFormed
  | cons move rest hypothesis => exact hypothesis (wellFormed.after_perform move)

/-- Where memory is what is fetched from, a move fails only as a return without a call. -/
theorem perform_cases
    (wellFormed : machine.WellFormed)
    (unforced : console.forced = none)
    (move : Move) :
    (∃ next, perform console move machine = .ok () next) ∨
      ∃ held report next,
        move = .step held ∧
        perform console move machine =
          .error (.emptyReturn report machine.counter) next := by
  cases move with
  | step held =>
      change (∃ next, step (console.holding held) machine = .ok () next) ∨ _
      cases outcome : step (console.holding held) machine with
      | ok result next => exact .inl ⟨next, rfl⟩
      | error fault next =>
          rcases wellFormed.step_eq_error outcome with ⟨report, rfl⟩ | ⟨value, forced, _⟩
          · exact .inr ⟨held, report, next, rfl, outcome⟩
          · have absent : (console.holding held).forced = none := unforced
            rw [absent] at forced
            contradiction
  | press key =>
      obtain ⟨taken, next, pressed, _⟩ := wellFormed.pressKey key
      exact .inl ⟨next, perform_press_of_ok pressed⟩
  | countDown => exact .inl ⟨machine.tickTimers, rfl⟩

end WellFormed

/-- A machine switched on with a program that fits is well formed after every run, with its stores
laid out, and whatever move comes next completes or is a return without a call. -/
theorem moves_keep_wellFormed
    (program : Option (List UInt8))
    (fits : (program.getD []).length ≤ 3584)
    (console : Console)
    (unforced : console.forced = none)
    (moves : List Move) :
    ∃ machine, boot program = .ok machine ∧
      (machine.run console moves).WellFormed ∧
      (machine.run console moves).LaidOut ∧
      ∀ move,
        (∃ next, perform console move (machine.run console moves) = .ok () next) ∨
          ∃ held report address next,
            move = .step held ∧
            perform console move (machine.run console moves) =
              .error (.emptyReturn report address) next := by
  obtain ⟨machine, booted⟩ := exists_boot fits
  have wellFormed : (machine.run console moves).WellFormed :=
    (WellFormed.of_boot booted).run moves
  refine ⟨machine, booted, wellFormed, laidOut _, ?_⟩
  intro move
  rcases wellFormed.perform_cases unforced move with completed | ⟨held, report, next, made, fails⟩
  · exact .inl completed
  · exact .inr ⟨held, report, _, next, made, fails⟩

/-- A program that waits for a key and then returns. -/
theorem moves_keep_wellFormed_awaitReturn :
    ([0xF0, 0x0A, 0x00, 0xEE] : List UInt8).length ≤ 3584 ∧
      ∃ machine, boot (some [0xF0, 0x0A, 0x00, 0xEE]) = .ok machine ∧
        (machine.run { held := fun _ => false, random := fun _ => -3 }
          [.step fun _ => true, .press 20, .countDown]).WellFormed := by
  obtain ⟨machine, booted, wellFormed, _⟩ :=
    moves_keep_wellFormed (some [0xF0, 0x0A, 0x00, 0xEE]) (by decide)
      { held := fun _ => false, random := fun _ => -3 } rfl
      [.step fun _ => true, .press 20, .countDown]
  exact ⟨by decide, machine, booted, wellFormed⟩

end Machine
end Chip8
