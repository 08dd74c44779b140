import Chip8.Session

/-!
# Running a session

A running session goes in rounds: it asks the keypad what there is to tell,
polls, and sleeps until the next tick is due. It ends when the keypad asks to
quit or when a fault stops it, and is then no longer running.
-/

namespace Chip8

/-- What the keypad tells in a round. -/
inductive Round
  /-- Nothing. -/
  | idle
  /-- A press. -/
  | press (key : Int)
  /-- Which keys are held from now on. -/
  | hold (held : Fin 16 -> Bool)
  /-- The session is to be run again while it runs. -/
  | reenter
  /-- The keypad fails. -/
  | fail (fault : Fault)
  /-- The session is to end. -/
  | quit

/-- A session with the clock it runs by. -/
structure TimedSession (κ τ : Type) where
  session : Session τ
  clock : κ

namespace TimedSession

variable {κ τ : Type} [Clock κ τ] [TimeScale τ] [Add τ] [Sub τ]
  [LE τ] [DecidableLE τ] [LT τ] [DecidableLT τ]

/-- Change the session. -/
def onSession (change : Session τ -> Session τ) (timed : TimedSession κ τ) : TimedSession κ τ :=
  { timed with session := change timed.session }

/-- Read the clock. -/
def readClock : Action (TimedSession κ τ) τ := fun timed =>
  let (now, clock) := Clock.read timed.clock
  .ok now { timed with clock }

/-- Poll at the time the clock shows. -/
def poll : Action (TimedSession κ τ) Bool := do
  let now <- readClock
  fun timed =>
    match timed.session.poll now with
    | .ok ticked session => .ok ticked { timed with session }
    | .error fault session => .error fault { timed with session }

/-- Sleep for a time. -/
def sleep (time : τ) (timed : TimedSession κ τ) : TimedSession κ τ where
  session := timed.session.note (.slept time)
  clock := Clock.sleep timed.clock time

/-- Sleep until the next tick is due, if it is not due yet. -/
def sleepUntilDue : Action (TimedSession κ τ) Unit := do
  let now <- readClock
  modify fun timed =>
    let time := timed.session.wait now
    if TimeScale.zero < time then timed.sleep time else timed

/-- The part of a round that follows what the keypad told. -/
def finishRound : Action (TimedSession κ τ) Unit := do
  discard poll
  sleepUntilDue

/-- The session once the keypad was asked. -/
def ask (timed : TimedSession κ τ) : TimedSession κ τ :=
  timed.onSession (Session.note .asked)

/-- Rounds in turn; when none is left the session ends. -/
def rounds : List Round -> Action (TimedSession κ τ) Unit
  | [] => modify ask
  | .quit :: _ => modify ask
  | .reenter :: _ => do
      modify ask
      throw .alreadyRunning
  | .fail fault :: _ => do
      modify ask
      throw fault
  | .idle :: rest => do
      modify ask
      finishRound
      rounds rest
  | .press key :: rest => do
      modify fun timed => timed.ask.onSession fun session => { session with pending := some key }
      finishRound
      rounds rest
  | .hold held :: rest => do
      modify fun timed =>
        timed.ask.onSession fun session =>
          { session with console := { session.console with held } }
      finishRound
      rounds rest

/-- The session marked as running or not. -/
def mark (running : Bool) (timed : TimedSession κ τ) : TimedSession κ τ :=
  timed.onSession fun session => { session with running }

/-- Run the session; however the run ends, the session is no longer running. -/
def run (script : List Round) : Action (TimedSession κ τ) Unit := fun timed =>
  if timed.session.running then .error .alreadyRunning timed
  else
    match rounds script (timed.mark true) with
    | .ok () final => .ok () (final.mark false)
    | .error fault final => .error fault (final.mark false)

end TimedSession
end Chip8
