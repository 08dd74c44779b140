import Chip8.Choice
import Chip8.Machine.Step
import Chip8.Picture
import Chip8.Speaker
import Chip8.Time

/-!
# Sessions

A session runs a machine on a host, tick by tick. A tick hands the pending
press to the machine, runs a fixed number of steps, counts the timers down
unless the machine waits for a key, sounds or silences the tone, and shows the
screen. Ticks are due one interval apart: a poll runs one tick when more than
an interval has passed since the last, and carries what is over into the next.
About once a second the title tells how many ticks and steps were run.
-/

namespace Chip8

/-- How many ticks a second is to have. -/
inductive TickRate (τ : Type)
  | whole (rate : Int)
  | fractional (rate : τ)

/-- What happened in a session. -/
inductive Event (τ : Type)
  /-- The keypad was asked what it has to tell. -/
  | asked
  /-- The tone was to sound. -/
  | tone (frequency : Option Float)
  /-- The tone was to stop. -/
  | silence
  /-- A frame was shown. -/
  | frame (screen : Screen 64 32)
  /-- The title was set. -/
  | title (text : String)
  /-- The host was called. -/
  | call (call : HostCall)
  /-- The session slept. -/
  | slept (time : τ)

/-- How a session is to run; what is not given has a default. -/
structure Pace (τ : Type) where
  rate : Choice (TickRate τ) := .unset
  stepsPerTick : Choice Int := .unset
  tone : Choice Float := .unset

/-- What a session is plugged into. -/
structure Devices where
  host : Host := {}
  console : Console
  picture : Picture
  speaker : Speaker

/-- A machine that runs on a host. -/
structure Session (τ : Type) where
  machine : Machine
  host : Host
  console : Console
  picture : Picture
  speaker : Speaker
  /-- The press not yet collected. -/
  pending : Option Int := none
  /-- The frequency of the tone, unless it was left out. -/
  tone : Option Float
  stepsPerTick : Nat
  /-- The time from one tick to the next. -/
  interval : τ
  /-- When the last tick was due. -/
  lastTick : τ
  /-- From when on the next report is made. -/
  nextReport : τ
  /-- How many ticks were run since the last report. -/
  ticks : Nat := 0
  /-- How many steps they were made of. -/
  operations : Nat := 0
  running : Bool := false
  /-- What happened, the latest first. -/
  events : List (Event τ) := []

/-- How many ticks a second has by default. -/
def standardTickRate : Int := 60

/-- How many steps a tick has by default. -/
def standardStepsPerTick : Int := 10

/-- The frequency of the tone by default. -/
def standardTone : Float := 440

/-- The title that reports how many ticks and steps were run. -/
def reportTitle (ticks operations : Int) : String :=
  applicationName ++ " - " ++ toString ticks ++ " TPS, " ++ toString operations ++ " OPS"

namespace TickRate

variable {τ : Type} [TimeScale τ] [LE τ] [DecidableLE τ] [Div τ]

/-- Whether the rate is above zero. -/
def isPositive : TickRate τ -> Bool
  | whole rate => !(rate ≤ 0)
  | fractional rate => !(rate ≤ TimeScale.zero)

/-- The rate as a number of the scale. -/
def number : TickRate τ -> Except Fault τ
  | whole rate => TimeScale.ofInt rate
  | fractional rate => .ok rate

/-- The interval between two ticks. -/
def interval (rate : TickRate τ) : Except Fault τ :=
  rate.number.map (TimeScale.second / ·)

end TickRate

namespace Session

variable {τ : Type}

/-- The session with an event added to what happened. -/
def note (event : Event τ) (session : Session τ) : Session τ :=
  { session with events := event :: session.events }

/-- The session with calls on the host added to what happened. -/
def noteCalls (calls : List HostCall) (session : Session τ) : Session τ :=
  { session with events := (calls.map Event.call).reverse ++ session.events }

/-- Run an action of the machine within the session. -/
def onMachine {Result : Type} (action : Action Machine Result) : Action (Session τ) Result :=
  fun session =>
    match action session.machine with
    | .ok result machine => .ok result { session with machine }
    | .error fault machine => .error fault { session with machine }

/-- Put a title on the picture. -/
def entitle (title : String) (session : Session τ) : Session τ :=
  let shown := { session with picture := session.picture.entitle title }
  (shown.note (.title title)).noteCalls (session.picture.titleCalls title)

/-- Report numbers of ticks and steps in the title. -/
def report (ticks operations : Int) (session : Session τ) : Session τ :=
  session.entitle (reportTitle ticks operations)

/-- Hand the pending press to the machine; it is then no longer pending. -/
def deliverPress : Action (Session τ) Unit := fun session =>
  match session.pending with
  | none => .ok () session
  | some key =>
      match onMachine (Machine.pressKey key) { session with pending := none } with
      | .ok _ delivered => .ok () delivered
      | .error fault stopped => .error fault stopped

/-- Run the steps of a tick. -/
def runSteps : Action (Session τ) Unit := fun session =>
  onMachine (Machine.steps (Machine.step session.console) session.stepsPerTick) session

/-- Count the timers down, unless the machine waits for a key. -/
def countTimers (session : Session τ) : Session τ :=
  if session.machine.paused then session
  else { session with machine := session.machine.tickTimers }

/-- Sound the tone while the sound timer runs, and silence it otherwise. -/
def soundTone : Action (Session τ) Unit := fun session =>
  if session.machine.sounding then
    let (calls, fault, speaker) := session.speaker.sound session.host session.tone
    let sounded :=
      ({ session with speaker }.note (.tone session.tone)).noteCalls calls
    match fault with
    | none => .ok () sounded
    | some fault => .error fault sounded
  else
    .ok ()
      (({ session with speaker := session.speaker.stopped }.note .silence).noteCalls
        session.speaker.stopCalls)

/-- Show the machine's screen. -/
def showScreen : Action (Session τ) Unit := fun session =>
  match session.picture.present session.host (.ofScreen session.machine.screen) with
  | (calls, .ok picture) =>
      .ok ()
        (({ session with picture }.noteCalls calls).note (.frame session.machine.screen))
  | (calls, .error fault) => .error fault (session.noteCalls calls)

/-- Count a tick and its steps. -/
def countTick (session : Session τ) : Session τ :=
  { session with
    ticks := session.ticks + 1
    operations := session.operations + session.stepsPerTick }

/-- Run one tick. -/
def tick : Action (Session τ) Unit := do
  deliverPress
  runSteps
  modify countTimers
  soundTone
  showScreen
  modify countTick

section Scheduling

variable [TimeScale τ] [Add τ] [Sub τ] [Div τ] [LE τ] [DecidableLE τ] [LT τ] [DecidableLT τ]

/-- The rate that a choice asks for, when a session can have it. -/
def checkRate (choice : Choice (TickRate τ)) : Except Fault (TickRate τ) :=
  match choice.resolve (.whole standardTickRate) with
  | none => .error .tickRateMissing
  | some rate => if rate.isPositive then .ok rate else .error .tickRateNotPositive

/-- The number of steps that a choice asks for, when a tick can have it. -/
def checkSteps (choice : Choice Int) : Except Fault Nat :=
  match choice.resolve standardStepsPerTick with
  | none => .error .stepsMissing
  | some steps => if steps < 0 then .error .stepsNegative else .ok steps.toNat

/-- Set a session up at a time; the rate is checked before the number of steps. -/
def start (pace : Pace τ) (devices : Devices) (machine : Machine) (now : τ) :
    Except Fault (Session τ) := do
  let rate <- checkRate pace.rate
  let stepsPerTick <- checkSteps pace.stepsPerTick
  let interval <- rate.interval
  return report 0 0 {
    machine
    host := devices.host
    console := devices.console
    picture := devices.picture
    speaker := devices.speaker
    tone := pace.tone.resolve standardTone
    stepsPerTick
    interval
    lastTick := now
    nextReport := TimeScale.zero }

/-- Report the ticks and steps since the last report, and start to count anew. -/
def reportCounts (session : Session τ) : Session τ :=
  let reported := session.report session.ticks session.operations
  { reported with ticks := 0, operations := 0 }

/-- Make the report that is due at a time; the next is due in the next whole second. -/
def reportWhenDue (now : τ) : Action (Session τ) Unit := fun session =>
  if session.nextReport ≤ now then
    match TimeScale.wholeSeconds now with
    | .error fault => .error fault session
    | .ok seconds =>
        .ok () (reportCounts { session with nextReport := seconds + TimeScale.second })
  else
    .ok () session

/-- The time that has passed since the last tick was due. -/
def elapsed (session : Session τ) (now : τ) : τ :=
  now - session.lastTick

/-- Run a tick if one is due at a time, and tell whether one was. Where no time lies between ticks,
what has passed cannot be shared out among them. -/
def poll (now : τ) : Action (Session τ) Bool := fun session =>
  if session.elapsed now ≤ session.interval then .ok false session
  else if session.interval ≤ TimeScale.zero then .error .noInterval session
  else
    let due := now - TimeScale.remainder (session.elapsed now) session.interval
    let ticked : Action (Session τ) Bool := do
      tick
      reportWhenDue now
      return true
    ticked { session with lastTick := due }

/-- How long to wait from a time until the next tick is due. -/
def wait (session : Session τ) (now : τ) : τ :=
  session.lastTick + session.interval - now

end Scheduling
end Session
end Chip8
