import Chip8.Backend
import Chip8.ProgramFile
import Chip8.Session.Run
import Chip8.Settings

/-!
# Launching the emulator

A launch opens the picture, the keypad and the speaker, plugs a machine into
them and runs it. The program is read before anything is opened. A keypad that
does not open has the picture closed again; once all three are open they are
closed in the reverse order, however the run ends.
-/

namespace Chip8

/-- What a launch opens and closes. -/
inductive Part
  | picture
  | keypad
  | speaker
  deriving DecidableEq, Repr

/-- What happened in a launch. -/
inductive Entry (τ : Type)
  | printed (line : String)
  | called (call : HostCall)
  | opened (part : Part)
  | closed (part : Part)
  /-- Something happened in the session. -/
  | happened (event : Event τ)

/-- The call on the host that an entry records. -/
def Entry.call? {τ : Type} : Entry τ -> Option HostCall
  | called call => some call
  | happened (.call call) => some call
  | _ => none

/-- What a launch finds around it. -/
structure Surroundings where
  host : Host := {}
  /-- Whether the library that a backend needs is installed. -/
  installed : Backend -> Bool
  /-- What the name of a file leads to. -/
  file : String -> Found
  /-- The random values that the program takes. -/
  random : Nat -> Int := fun _ => 0

/-- How far a launch has come. -/
structure Launch (κ τ : Type) where
  clock : κ
  /-- The picture, once it was opened. -/
  picture : Option Picture := none
  /-- What happened, the latest first. -/
  entries : List (Entry τ) := []

/-- What holds the parts of a launch once all are open. -/
structure Parts (τ : Type) where
  picture : Picture
  keypad : Keypad τ
  speaker : Speaker

/-- The line that is printed first. -/
def banner : String :=
  introduction ++
    "Copyright (C) 2024 Gregory Maynard-Hoare, licensed under GNU Affero General Public License v3.0"

namespace Launch

variable {κ τ : Type}

/-- The launch with an entry added to what happened. -/
def note (entry : Entry τ) (launch : Launch κ τ) : Launch κ τ :=
  { launch with entries := entry :: launch.entries }

/-- The launch with calls on the host added to what happened. -/
def noteCalls (calls : List HostCall) (launch : Launch κ τ) : Launch κ τ :=
  { launch with entries := (calls.map Entry.called).reverse ++ launch.entries }

/-- The result of a part of the launch that changes nothing. -/
def settle {Result : Type} (result : Except Fault Result) : Action (Launch κ τ) Result :=
  fun launch =>
    match result with
    | .ok value => .ok value launch
    | .error fault => .error fault launch

/-- Open a part. -/
def openPart {Device : Type} (part : Part) (opening : Opening Device) :
    Action (Launch κ τ) Device := fun launch =>
  let called := launch.noteCalls opening.calls
  match opening.outcome with
  | .ok device => .ok device (called.note (.opened part))
  | .error fault => .error fault called

/-- The launch with a part closed by its calls. -/
def closePart (part : Part) (calls : List HostCall) (launch : Launch κ τ) : Launch κ τ :=
  (launch.noteCalls calls).note (.closed part)

/-- The launch with its picture closed. -/
def closePicture (picture : Picture) (launch : Launch κ τ) : Launch κ τ :=
  closePart .picture picture.closeCalls { launch with picture := some picture }

/-- The launch with all parts closed, the last one opened first. -/
def closeAll (picture : Picture) (speaker : Speaker) (launch : Launch κ τ) : Launch κ τ :=
  closePicture picture (closePart .keypad [] (closePart .speaker speaker.closeCalls launch))

/-- The file that holds the program, read. -/
def readProgram (surroundings : Surroundings) (settings : Settings) :
    Except Fault (List UInt8) :=
  ProgramFile.read surroundings.file settings.filename

/-- Open the picture. -/
def openPicture (surroundings : Surroundings) (settings : Settings) (backend : Backend) :
    Action (Launch κ τ) Picture := fun launch =>
  let opening :=
    backend.openPicture surroundings.host settings.scale settings.palette settings.cursorMode
  match openPart .picture opening launch with
  | .ok picture opened => .ok picture { opened with picture := some picture }
  | .error fault stopped => .error fault stopped

/-- Open the keypad; when it does not open, the picture is closed. -/
def openKeypad [TimeScale τ] (surroundings : Surroundings) (settings : Settings)
    (backend : Backend) (picture : Picture) : Action (Launch κ τ) (Keypad τ) := fun launch =>
  match openPart .keypad (Keypad.openFor backend surroundings.host settings.keymap) launch with
  | .ok keypad opened => .ok keypad opened
  | .error fault stopped => .error fault (closePicture picture stopped)

/-- Open the speaker. -/
def openSpeaker (surroundings : Surroundings) (settings : Settings) (backend : Backend) :
    Action (Launch κ τ) Speaker :=
  openPart .speaker ((backend.speaking settings.mute).openSpeaker surroundings.host)

/-- Open all parts. -/
def openParts [TimeScale τ] (surroundings : Surroundings) (settings : Settings)
    (backend : Backend) : Action (Launch κ τ) (Parts τ) := do
  let picture <- openPicture surroundings settings backend
  let keypad <- openKeypad surroundings settings backend picture
  let speaker <- openSpeaker surroundings settings backend
  return { picture, keypad, speaker }

/-- What the machine is plugged into. -/
def console (surroundings : Surroundings) (settings : Settings) : Console where
  held _ := false
  random := surroundings.random
  highBitFlag := Settings.chosen settings.highBitFlag

/-- How the session is to run. -/
def pace (settings : Settings) : Pace τ where
  rate := settings.tickRate.map .whole
  stepsPerTick := settings.stepsPerTick
  tone := settings.tone

/-- The devices of the session. -/
def devices (surroundings : Surroundings) (settings : Settings) (parts : Parts τ) : Devices where
  host := surroundings.host
  console := console surroundings settings
  picture := parts.picture
  speaker := parts.speaker

section Running

variable [Clock κ τ] [TimeScale τ] [Add τ] [Sub τ] [Div τ]
  [LE τ] [DecidableLE τ] [LT τ] [DecidableLT τ]

/-- Set the session of a launch up at a time. -/
def sessionAt (surroundings : Surroundings) (settings : Settings) (program : List UInt8)
    (parts : Parts τ) (now : τ) : Except Fault (Session τ) := do
  let machine <- Machine.boot (some program)
  Session.start (pace settings) (devices surroundings settings parts) machine now

/-- Set the session of a launch up by a clock, which is read once nothing in the settings is
refused; after that the picture has to have room for its title. -/
def startSession (surroundings : Surroundings) (settings : Settings) (program : List UInt8)
    (parts : Parts τ) : Action κ (Session τ) := fun clock =>
  let (now, read) := Clock.read clock
  match sessionAt surroundings settings program parts now with
  | .error fault => .error fault clock
  | .ok session =>
      match parts.picture.checkTitle surroundings.host with
      | .error fault => .error fault read
      | .ok () => .ok session read

/-- The launch after its session, with all parts closed. -/
def afterSession (launch : Launch κ τ) (timed : TimedSession κ τ) : Launch κ τ :=
  closeAll timed.session.picture timed.session.speaker {
    launch with
    clock := timed.clock
    entries := timed.session.events.map Entry.happened ++ launch.entries }

/-- Run the machine and close all parts. -/
def runParts (surroundings : Surroundings) (settings : Settings) (program : List UInt8)
    (rounds : List Round) (parts : Parts τ) : Action (Launch κ τ) Unit := fun launch =>
  match startSession surroundings settings program parts launch.clock with
  | .error fault clock => .error fault (closeAll parts.picture parts.speaker { launch with clock })
  | .ok session clock =>
      match TimedSession.run rounds { session, clock } with
      | .ok () final => .ok () (afterSession launch final)
      | .error fault final => .error fault (afterSession launch final)

/-- Launch the emulator, given what the keypad tells in each round. -/
def run (surroundings : Surroundings) (settings : Settings) (rounds : List Round) :
    Action (Launch κ τ) Unit := do
  modify (note (.printed banner))
  let backend <- settle (Backend.choose surroundings.installed settings.renderer)
  let program <- settle (readProgram surroundings settings)
  let parts <- openParts surroundings settings backend
  runParts surroundings settings program rounds parts

end Running
end Launch
end Chip8
