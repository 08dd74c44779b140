import Chip8.Proofs.Session.Rounds

/-!
# What a fault leaves of a session

A return from an empty call stack stops a tick in the middle of its steps. The
session then has the machine of the steps that completed, moved past the return,
and nothing pending; everything that a tick does after its steps is left out. A
poll has put the session on its new schedule by then. However a run ends, the
session is no longer running, and a session that runs cannot be run again.
-/

namespace Chip8
namespace Machine

/-- Some steps in turn are stopped where some of them complete and the next one is stopped. -/
theorem steps_eq_error_iff
    {action : Action Machine Unit}
    {total : Nat}
    {machine stopped : Machine}
    {fault : Fault} :
    steps action total machine = .error fault stopped ↔
      ∃ count middle,
        count < total ∧ steps action count machine = .ok () middle ∧
          action middle = .error fault stopped := by
  induction total generalizing machine with
  | zero =>
      constructor
      · intro fails
        contradiction
      · rintro ⟨count, _, within, _⟩
        contradiction
  | succ total hypothesis =>
      cases outcome : action machine with
      | ok result next =>
          simp only [steps, outcome, hypothesis]
          constructor
          · rintro ⟨count, middle, within, completed, fails⟩
            refine ⟨count + 1, middle, Nat.succ_lt_succ within, ?_, fails⟩
            simp only [steps, outcome, completed]
          · rintro ⟨count, middle, within, completed, fails⟩
            cases count with
            | zero =>
                cases completed
                rw [outcome] at fails
                contradiction
            | succ count =>
                simp only [steps, outcome] at completed
                exact ⟨count, middle, Nat.lt_of_succ_lt_succ within, completed, fails⟩
      | error cause last =>
          simp only [steps, outcome]
          constructor
          · intro fails
            exact ⟨0, machine, Nat.succ_pos total, rfl, outcome.trans fails⟩
          · rintro ⟨count, middle, within, completed, fails⟩
            cases count with
            | zero =>
                cases completed
                exact outcome.symm.trans fails
            | succ count =>
                simp only [steps, outcome] at completed
                contradiction

/-- A step that returns from an empty call stack has moved past the return, and done no more. -/
theorem eq_advanced_of_emptyReturn
    {console : Console}
    {machine stopped : Machine}
    {report : String}
    {address : Int}
    (fails : step console machine = .error (.emptyReturn report address) stopped) :
    stopped = machine.advanced := by
  have outcome := stepped console machine
  generalize made : step console machine = result at outcome
  rw [fails] at made
  cases outcome with
  | paused | executed => contradiction
  | unfetched running unread =>
      -- Memory that cannot be read is another fault.
      cases made
      unfold fetched fetch Memory.read at unread
      grind
  | undecodable => cases made
  | failed => exact (EStateM.Result.error.inj made).2

end Machine

/-! ## Faults that are no empty return -/

/-- Whether a fault is a return from an empty call stack. -/
def Fault.isEmptyReturn : Fault -> Bool
  | .emptyReturn _ _ => true
  | _ => false

/-- A machine that takes a press meets no empty return. -/
theorem Machine.isEmptyReturn_eq_false_of_receive
    {pending : Option Int}
    {machine stopped : Machine}
    {fault : Fault}
    (fails : receive pending machine = .error fault stopped) :
    fault.isEmptyReturn = false := by
  cases pending with
  | none => contradiction
  | some key =>
      simp only [receive] at fails
      split at fails
      · contradiction
      · rename_i refused
        cases fails
        unfold pressKey at refused
        split at refused
        · contradiction
        · split at refused
          · cases refused
            rfl
          · contradiction

theorem Wave.isEmptyReturn_eq_false_of_ofFrequency
    {host : Host}
    {frequency : Float}
    {fault : Fault}
    (fails : ofFrequency host frequency = .error fault) :
    fault.isEmptyReturn = false := by
  unfold ofFrequency cycleLength at fails
  grind [Fault.isEmptyReturn]

/-- A speaker that sounds meets no empty return. -/
theorem Speaker.isEmptyReturn_eq_false_of_sound
    {host : Host}
    {speaker : Speaker}
    {tone : Option Float}
    {fault : Fault}
    (fails : (speaker.sound host tone).2.1 = some fault) :
    fault.isEmptyReturn = false := by
  cases voice : speaker.voice with
  | silent => cases tone <;> simp [sound, play, playUnpitched, voice] at fails
  | bell => cases tone <;> simp [sound, play, playUnpitched, voice] at fails
  | mixer loaded =>
      cases tone with
      | none =>
          simp only [sound, playUnpitched, voice, Option.some.injEq] at fails
          rw [← fails]
          rfl
      | some frequency =>
          simp only [sound, play, voice, playWave] at fails
          split at fails
          · contradiction
          · split at fails
            · rename_i unbuilt
              cases fails
              exact Wave.isEmptyReturn_eq_false_of_ofFrequency unbuilt
            · contradiction

namespace Session

variable {τ : Type} {session final stopped : Session τ}

theorem onMachine_eq_ok
    {Result : Type}
    {action : Action Machine Result}
    {result : Result} :
    onMachine action session = .ok result final ↔
      ∃ machine, action session.machine = .ok result machine ∧
        final = { session with machine } := by
  unfold onMachine
  cases action session.machine with
  | error fault machine => simp
  | ok other machine =>
      constructor
      · intro completed
        cases completed
        exact ⟨machine, rfl, rfl⟩
      · rintro ⟨_, completed, rfl⟩
        cases completed
        rfl

theorem onMachine_eq_error
    {Result : Type}
    {action : Action Machine Result}
    {fault : Fault} :
    onMachine action session = .error fault stopped ↔
      ∃ machine, action session.machine = .error fault machine ∧
        stopped = { session with machine } := by
  unfold onMachine
  cases action session.machine with
  | ok result machine => simp
  | error other machine =>
      constructor
      · intro fails
        cases fails
        exact ⟨machine, rfl, rfl⟩
      · rintro ⟨_, fails, rfl⟩
        cases fails
        rfl

theorem isEmptyReturn_eq_false_of_soundTone
    {fault : Fault}
    (fails : soundTone session = .error fault stopped) :
    fault.isEmptyReturn = false := by
  unfold soundTone at fails
  split at fails
  · split at fails
    rename_i sounds
    split at fails
    · contradiction
    · cases fails
      exact Speaker.isEmptyReturn_eq_false_of_sound (congrArg (fun sounded => sounded.2.1) sounds)
  · contradiction

/-! ## Ticks and polls -/

/-- A fault stops a tick after some of its steps: the pending press is handed over, that many steps
are complete, and the step after them fails. -/
structure FailsAfter (session : Session τ) (count : Nat) (failing : Machine) (fault : Fault) :
    Prop where
  within : count < session.stepsPerTick
  reached :
    (do
      Machine.receive session.pending
      Machine.steps (Machine.step session.console) count : Action Machine Unit) session.machine =
      .ok () failing
  fails : ∃ stopped, Machine.step session.console failing = .error fault stopped

/-- The session at such a fault: the machine has moved past the instruction that failed, and nothing
is pending. -/
def stoppedAt (session : Session τ) (failing : Machine) : Session τ :=
  { session with pending := none, machine := failing.advanced }

/-- A tick meets an empty return where one of its steps does, and is stopped there. -/
theorem tick_eq_emptyReturn_iff
    {report : String}
    {address : Int} :
    tick session = .error (.emptyReturn report address) stopped ↔
      ∃ count failing,
        session.FailsAfter count failing (.emptyReturn report address) ∧
          stopped = session.stoppedAt failing := by
  rw [tick_eq, Action.bind_eq_error, deliverPress_eq, onMachine_eq_error]
  constructor
  · rintro (⟨_, unreceived, _⟩ | ⟨_, delivered, delivers, plays⟩)
    · have other := Machine.isEmptyReturn_eq_false_of_receive unreceived
      contradiction
    · obtain ⟨met, received, rfl⟩ := onMachine_eq_ok.mp delivers
      rcases Action.bind_eq_error.mp plays with unstepped | ⟨_, stepped, _, finishes⟩
      · obtain ⟨last, steps, rfl⟩ := onMachine_eq_error.mp unstepped
        obtain ⟨count, failing, within, completed, fails⟩ := Machine.steps_eq_error_iff.mp steps
        obtain rfl := Machine.eq_advanced_of_emptyReturn fails
        refine ⟨count, failing, ⟨within, ?_, _, fails⟩, rfl⟩
        exact Action.bind_eq_ok.mpr ⟨_, met, received, completed⟩
      · have other := isEmptyReturn_eq_false_of_soundTone (finish_eq_error finishes)
        contradiction
  · rintro ⟨count, failing, ⟨within, reached, last, fails⟩, rfl⟩
    obtain ⟨_, met, received, completed⟩ := Action.bind_eq_ok.mp reached
    obtain rfl := Machine.eq_advanced_of_emptyReturn fails
    right
    refine ⟨(), { session with pending := none, machine := met }, ?_, ?_⟩
    · exact onMachine_eq_ok.mpr ⟨met, received, rfl⟩
    · apply Action.bind_eq_error.mpr
      left
      apply onMachine_eq_error.mpr
      refine ⟨failing.advanced, ?_, rfl⟩
      exact Machine.steps_eq_error_iff.mpr ⟨count, failing, within, completed, fails⟩

section Scheduling

variable [TimeScale τ] [Add τ] [Sub τ] [LE τ] [DecidableLE τ] {now : τ}

/-- A poll is on its new schedule when its tick meets an empty return, and reports nothing. -/
theorem poll_of_emptyReturn
    {count : Nat}
    {failing : Machine}
    {report : String}
    {address : Int}
    (due : ¬session.elapsed now ≤ session.interval)
    (spaced : ¬session.interval ≤ TimeScale.zero)
    (failed : session.FailsAfter count failing (.emptyReturn report address)) :
    session.poll now =
      .error (.emptyReturn report address) ((session.rescheduled now).stoppedAt failing) := by
  have again : (session.rescheduled now).FailsAfter count failing (.emptyReturn report address) :=
    ⟨failed.within, failed.reached, failed.fails⟩
  have stops := tick_eq_emptyReturn_iff.mpr ⟨count, failing, again, rfl⟩
  have ended := polled session now
  generalize session.poll now = result at ended
  cases ended with
  | early early => contradiction
  | unspaced _ empty => contradiction
  | failed _ _ fails =>
      cases stops.symm.trans fails
      rfl
  | unreported _ _ ticks | ticked _ _ ticks =>
      rw [stops] at ticks
      contradiction

end Scheduling
end Session

/-! ## Runs -/

namespace TimedSession

variable {κ τ : Type} [Clock κ τ] [TimeScale τ] [Add τ] [Sub τ]
  [LE τ] [DecidableLE τ] [LT τ] [DecidableLT τ]
  {timed : TimedSession κ τ}

/-- However a run ends, the session does not run afterwards. -/
theorem running_after_run
    (idle : timed.session.running = false)
    (script : List Round) :
    (Action.after (run script) timed).session.running = false := by
  rw [after_run idle]
  rfl

/-- A session that runs is not run again. -/
theorem run_of_running
    (running : timed.session.running = true)
    (script : List Round) :
    run script timed = .error .alreadyRunning timed := by
  simp [run, running]

/-- A round that runs the session again is refused, and leaves the mark to the run that it is part
of. -/
theorem rounds_of_reenter
    (running : timed.session.running = true)
    (rest script : List Round) :
    rounds (.reenter :: rest) timed = (do modify ask; run script) timed := by
  have asked : timed.ask.session.running = true := running
  exact (run_of_running asked script).symm

/-- A return from an empty call stack stops a tick in the middle of its steps: the machine is left
past the return, nothing is pending, and the session is as it was otherwise. A poll has put the
session on its new schedule by then. However a run ends, the session does not run afterwards; while
it runs its mark is kept, and it is not run again. -/
theorem faults_stop
    (session : Session τ)
    (now : τ)
    (timed : TimedSession κ τ)
    (script : List Round) :
    (∀ report address stopped,
      session.tick = .error (.emptyReturn report address) stopped ↔
        ∃ count failing,
          session.FailsAfter count failing (.emptyReturn report address) ∧
            stopped = session.stoppedAt failing) ∧
    (¬session.elapsed now ≤ session.interval ->
      ¬session.interval ≤ TimeScale.zero ->
      ∀ count failing report address,
        session.FailsAfter count failing (.emptyReturn report address) ->
          session.poll now =
            .error (.emptyReturn report address)
              ((session.rescheduled now).stoppedAt failing)) ∧
    (timed.session.running = false ->
      (Action.after (run script) timed).session.running = false) ∧
    (timed.session.running = true ->
      run script timed = .error .alreadyRunning timed) ∧
    (Action.after (rounds script) timed).session.running = timed.session.running ∧
    (timed.session.running = true ->
      ∀ rest,
        rounds (.reenter :: rest) timed = (do modify ask; run script) timed) := by
  refine ⟨?_, ?_, ?_, ?_, ?_, ?_⟩
  · intro report address stopped
    exact Session.tick_eq_emptyReturn_iff
  · intro due spaced count failing report address failed
    exact Session.poll_of_emptyReturn due spaced failed
  · intro idle
    exact running_after_run idle script
  · intro running
    exact run_of_running running script
  · exact running_after_rounds script timed
  · intro running rest
    exact rounds_of_reenter running rest script

/-- A machine on which the console forces returns, and a second in which sixty ticks are due. -/
theorem faults_stop_forcedReturn :
    ∃ (session : Session Rat) (timed : TimedSession (SteppingClock Rat) Rat),
      Session.start {} {
        Devices.bare with
        console := { held := fun _ => false, random := fun _ => 0, forced := some 0x00EE } }
        Machine.powerOn 0 = .ok session ∧
      timed = { session, clock := { now := 1, step := 0 } } ∧
      (∃ report address,
        session.poll 1 =
          .error (.emptyReturn report address)
            ((session.rescheduled 1).stoppedAt Machine.powerOn)) ∧
      (Action.after (run [.idle, .idle]) timed).session.running = false ∧
      run [.idle, .idle] (timed.mark true) = .error .alreadyRunning (timed.mark true) ∧
      rounds [.reenter] (timed.mark true) =
        (do modify ask; run [.idle, .idle]) (timed.mark true) := by
  obtain ⟨session, started, idle, due, spaced, failed⟩ :
      ∃ session : Session Rat,
        Session.start {} {
          Devices.bare with
          console := { held := fun _ => false, random := fun _ => 0, forced := some 0x00EE } }
          Machine.powerOn 0 = .ok session ∧
        session.running = false ∧
        ¬session.elapsed 1 ≤ session.interval ∧
        ¬session.interval ≤ TimeScale.zero ∧
        session.FailsAfter 0 Machine.powerOn
          (.emptyReturn
            (Machine.powerOn.crashReport Machine.powerOn.counter 0x00EE "RET")
            Machine.powerOn.counter) := by
    refine ⟨_, rfl, rfl, by decide +kernel, by decide +kernel, ⟨by decide, rfl, ?_⟩⟩
    exact ⟨_, rfl⟩
  let timed : TimedSession (SteppingClock Rat) Rat :=
    { session, clock := { now := 1, step := 0 } }
  obtain ⟨_, polls, ends, _, _, _⟩ := faults_stop session 1 timed [.idle, .idle]
  obtain ⟨_, _, _, refused, _, reenters⟩ := faults_stop session 1 (timed.mark true) [.idle, .idle]
  refine ⟨session, timed, started, rfl, ?_, ends idle, refused rfl, reenters rfl []⟩
  exact ⟨_, _, polls due spaced _ _ _ _ failed⟩

end TimedSession
end Chip8
