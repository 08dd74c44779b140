import Chip8.CommandLine
import Chip8.Launch

/-!
# The command line program

No host library is linked into the program, so it runs on the headless backend
alone, by the clock of the system, until a fault stops it.
-/

namespace Chip8

/-- What is printed when help is asked for. -/
def usage : String :=
  "usage: chip8 [options] filename\n\noptions:\n" ++
    String.join (CommandLine.Setting.all.map fun setting =>
      "  " ++ ", ".intercalate setting.spellings ++ "\n")

/-- What the program finds around it, given the content of the file that was named. -/
def surroundingsOf (content : Found) : Surroundings where
  installed _ := false
  file _ := content

/-- The session that settings ask for, set up at a time. -/
def prepare (settings : Settings) (content : Found) (now : Float) :
    Except Fault (Session Float) := do
  let surroundings := surroundingsOf content
  let backend <- Backend.choose surroundings.installed settings.renderer
  let program <- Launch.readProgram surroundings settings
  let clock : SteppingClock Float := { now, step := 0 }
  let opened : EStateM.Result Fault (Launch (SteppingClock Float) Float) (Parts Float) :=
    Launch.openParts surroundings settings backend { clock }
  match opened with
  | .error fault _ => .error fault
  | .ok parts _ =>
      Launch.sessionAt surroundings settings program parts now

/-- The system's clock, in seconds. -/
def systemTime : IO Float := do
  return Float.ofNat (<- IO.monoNanosNow) / 1000000000

/-- Tell a fault to the user. -/
def complain (message : String) (code : UInt32) : IO UInt32 := do
  (<- IO.getStderr).putStrLn message
  return code

/-- Poll and sleep until a fault stops the session. -/
partial def keepRunning (session : Session Float) : IO UInt32 := do
  match session.poll (<- systemTime) with
  | .error fault _ => complain fault.message 1
  | .ok _ polled =>
      let wait := polled.wait (<- systemTime)
      if 0 < wait then IO.sleep (wait * 1000).toUInt32
      keepRunning { polled with events := [] }

/-- What the name of a file leads to; what cannot be read counts as nothing. -/
def contentOf (filename : String) : IO Found := do
  try
    return .file (<- IO.FS.readBinFile filename).toList
  catch _ =>
    return .nothing

/-- Run the emulator with settings. -/
def runSettings (settings : Settings) : IO UInt32 := do
  IO.println banner
  match prepare settings (<- contentOf settings.filename) (<- systemTime) with
  | .error fault => complain fault.message 1
  | .ok session => keepRunning session

end Chip8

/-- Run the emulator with the settings that the command line asks for. -/
def main (arguments : List String) : IO UInt32 := do
  match Chip8.CommandLine.read arguments with
  | .error .help =>
      IO.print Chip8.usage
      return 0
  | .error (.refused complaint) => Chip8.complain ("error: " ++ complaint.message) 2
  | .ok settings => Chip8.runSettings settings
