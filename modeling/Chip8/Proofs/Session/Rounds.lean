import Chip8.Proofs.Session.Polling
import Chip8.Session.Run

/-!
# Rounds of a run

A round that goes on asks the keypad, hears what it has to tell, polls, and
sleeps where the next tick is not due yet. Only the poll can stop it. No round
touches the mark of a session that runs.
-/

namespace Chip8

/-- The session with what a round tells. -/
def Round.tell {τ : Type} (session : Session τ) : Round -> Session τ
  | .press key => { session with pending := some key }
  | .hold held => { session with console := { session.console with held } }
  | _ => session

/-- Whether the run goes on once a round has told what it has to tell. -/
def Round.goesOn : Round -> Bool
  | .idle | .press _ | .hold _ => true
  | .reenter | .fail _ | .quit => false

namespace TimedSession

variable {κ τ : Type} [Clock κ τ] [TimeScale τ] [Add τ] [Sub τ]

section Sleeping

variable [LT τ] [DecidableLT τ]

theorem sleepUntilDue_eq (timed : TimedSession κ τ) :
    sleepUntilDue timed =
      .ok ()
        (if TimeScale.zero < timed.session.wait (Clock.read timed.clock).1 then
          sleep (timed.session.wait (Clock.read timed.clock).1)
            { timed with clock := (Clock.read timed.clock).2 }
        else { timed with clock := (Clock.read timed.clock).2 }) := rfl

/-- A sleep leaves the session as it is, but for what is recorded. -/
theorem exists_after_sleepUntilDue (timed : TimedSession κ τ) :
    ∃ events,
      (Action.after sleepUntilDue timed).session = { timed.session with events } := by
  rw [Action.after_of_ok (sleepUntilDue_eq timed)]
  split
  · exact ⟨_, rfl⟩
  · exact ⟨_, rfl⟩

end Sleeping

variable [LE τ] [DecidableLE τ]

/-- Polling a session with a clock polls the session at the time that the clock shows. -/
theorem poll_eq (timed : TimedSession κ τ) :
    poll timed =
      match timed.session.poll (Clock.read timed.clock).1 with
      | .ok ticked session => .ok ticked ⟨session, (Clock.read timed.clock).2⟩
      | .error fault session => .error fault ⟨session, (Clock.read timed.clock).2⟩ := rfl

theorem session_poll_of_ok
    {timed polled : TimedSession κ τ}
    {ticked : Bool}
    (polls : poll timed = .ok ticked polled) :
    timed.session.poll (Clock.read timed.clock).1 = .ok ticked polled.session := by
  rw [poll_eq] at polls
  split at polls
  · rename_i completed
    cases polls
    exact completed
  · contradiction

theorem after_poll (timed : TimedSession κ τ) :
    Action.after poll timed =
      ⟨Action.after (Session.poll (Clock.read timed.clock).1) timed.session,
        (Clock.read timed.clock).2⟩ := by
  unfold Action.after
  rw [poll_eq]
  cases timed.session.poll (Clock.read timed.clock).1 <;> rfl

variable [LT τ] [DecidableLT τ] {timed stopped polled : TimedSession κ τ}

/-- The session once the keypad has told what it has to tell. -/
def hear (round : Round) (timed : TimedSession κ τ) : TimedSession κ τ :=
  timed.ask.onSession round.tell

theorem rounds_of_goesOn
    {round : Round}
    (goesOn : round.goesOn = true)
    (rest : List Round) :
    (rounds (round :: rest) : Action (TimedSession κ τ) Unit) =
      (do modify (hear round); finishRound; rounds rest) := by
  cases round with
  | idle | press | hold => rfl
  | reenter | fail | quit => contradiction

/-- A round that does not go on has asked the keypad and done no more. -/
theorem after_rounds_of_not_goesOn
    {round : Round}
    (ends : round.goesOn = false)
    (rest : List Round)
    (timed : TimedSession κ τ) :
    Action.after (rounds (round :: rest)) timed = timed.ask := by
  cases round with
  | idle | press | hold => contradiction
  | reenter | fail | quit => rfl

theorem finishRound_eq :
    (finishRound : Action (TimedSession κ τ) Unit) = (do let _ <- poll; sleepUntilDue) := by
  funext timed
  change EStateM.bind (EStateM.map _ poll) _ timed = EStateM.bind poll _ timed
  cases outcome : poll timed <;> simp [EStateM.bind, EStateM.map, outcome]

/-- Where the poll of a round completes, the session sleeps and the other rounds follow. -/
theorem after_rounds_of_ok
    {round : Round}
    {ticked : Bool}
    (goesOn : round.goesOn = true)
    (polls : poll (hear round timed) = .ok ticked polled)
    (rest : List Round) :
    Action.after (rounds (round :: rest)) timed =
      Action.after (rounds rest) (Action.after sleepUntilDue polled) := by
  have finishes : finishRound (hear round timed) = sleepUntilDue polled := by
    rw [finishRound_eq]
    change EStateM.bind poll (fun _ => sleepUntilDue) (hear round timed) = _
    simp [EStateM.bind, polls]
  rw [rounds_of_goesOn goesOn]
  change Action.after (do finishRound; rounds rest : Action (TimedSession κ τ) Unit)
    (hear round timed) = _
  rw [Action.after_of_ok (sleepUntilDue_eq polled)]
  exact Action.after_bind_of_ok (finishes.trans (sleepUntilDue_eq polled)) _

/-- Where the poll of a round fails, the rounds end. -/
theorem after_rounds_of_error
    {round : Round}
    {fault : Fault}
    (goesOn : round.goesOn = true)
    (fails : poll (hear round timed) = .error fault stopped)
    (rest : List Round) :
    Action.after (rounds (round :: rest)) timed = stopped := by
  have finishes : finishRound (hear round timed) = .error fault stopped := by
    rw [finishRound_eq]
    change EStateM.bind poll (fun _ => sleepUntilDue) (hear round timed) = _
    simp [EStateM.bind, fails]
  rw [rounds_of_goesOn goesOn]
  change Action.after (do finishRound; rounds rest : Action (TimedSession κ τ) Unit)
    (hear round timed) = _
  exact Action.after_bind_of_error finishes _

/-- All through its rounds a session keeps its mark. -/
theorem running_after_rounds (script : List Round) (timed : TimedSession κ τ) :
    (Action.after (rounds script) timed).session.running = timed.session.running := by
  induction script generalizing timed with
  | nil => rfl
  | cons round rest hypothesis =>
      cases goesOn : round.goesOn with
      | false =>
          rw [after_rounds_of_not_goesOn goesOn]
          rfl
      | true =>
          have heard : (hear round timed).session.running = timed.session.running := by
            cases round <;> rfl
          have polls : (Action.after poll (hear round timed)).session.running =
              timed.session.running := by
            rw [after_poll, ← heard]
            exact (Session.sameSetup_after_poll _ _).running
          cases outcome : poll (hear round timed) with
          | ok ticked polled =>
              obtain ⟨events, slept⟩ := exists_after_sleepUntilDue polled
              rw [Action.after_of_ok outcome] at polls
              rw [after_rounds_of_ok goesOn outcome, hypothesis, slept]
              exact polls
          | error fault stopped =>
              rw [Action.after_of_error outcome] at polls
              rw [after_rounds_of_error goesOn outcome]
              exact polls

/-- A run of a session that does not run goes through its rounds with the mark set. -/
theorem after_run (idle : timed.session.running = false) (script : List Round) :
    Action.after (run script) timed =
      (Action.after (rounds script) (timed.mark true)).mark false := by
  unfold Action.after run
  rw [idle]
  cases rounds script (timed.mark true) <;> rfl

end TimedSession
end Chip8
