import Chip8.Choice

/-!
# Host calls

What the emulator asks of the window system, the terminal and the sound mixer
it runs on, one constructor for each kind of call.
-/

namespace Chip8

/-- The red, green and blue of a colour. -/
structure Colour where
  red : Int
  green : Int
  blue : Int
  deriving DecidableEq, Repr

/-- A rectangle of a window, in pixels. -/
structure Area where
  left : Nat
  top : Nat
  width : Nat
  height : Nat
  deriving DecidableEq, Repr

/-- One cycle of a square wave: its length in samples, and how many of them are high. -/
structure Wave where
  length : Nat
  high : Nat
  deriving DecidableEq, Repr

/-- The samples of a cycle, the high ones first. -/
def Wave.samples (wave : Wave) : List UInt8 :=
  List.replicate wave.high 0xFF ++ List.replicate (wave.length - wave.high) 0

/-- A call on the host. -/
inductive HostCall
  /-- Start the window system. -/
  | openVideo
  /-- Stop the window system. -/
  | closeVideo
  /-- Open a window of a size. -/
  | setMode (width height : Nat)
  /-- Title the window. -/
  | setCaption (text : String)
  /-- Paint an area of the window, or all of it. -/
  | fill (colour : Colour) (area : Option Area)
  /-- Show what was painted. -/
  | flip
  /-- Choose the mixer's rate, sample size, channels, buffer and permitted deviations. -/
  | prepareMixer (rate size channels buffer allowed : Nat)
  /-- Start the mixer. -/
  | openMixer
  /-- Stop the mixer. -/
  | closeMixer
  /-- Make a sound of one cycle. -/
  | newSound (wave : Wave)
  /-- Set how loud the sound is, in tenths of the mixer's full volume. -/
  | setVolume (tenths : Nat)
  /-- Start the sound, over and over again. -/
  | loopSound
  /-- Stop the sound. -/
  | stopSound
  /-- Take the terminal over. -/
  | openScreen
  /-- Choose how visible the terminal's cursor is. -/
  | setCursor (visibility : Choice Int)
  /-- Keep the terminal from showing what is typed. -/
  | echoOff
  /-- Let the terminal show what is typed. -/
  | echoOn
  /-- Have the terminal hand over each character as it is typed. -/
  | lineModeOff
  /-- Have the terminal hand over whole lines. -/
  | lineModeOn
  /-- Give the terminal back. -/
  | closeScreen
  /-- Sound the terminal's bell. -/
  | beep
  /-- Make a pad of a size. -/
  | newPad (height width : Nat)
  /-- Write text and a number of blanks after it on the pad, in reverse video or not. -/
  | write (row column : Nat) (text : String) (blanks : Nat) (reverse : Bool)
  /-- Show the pad from its top left corner, up to a row and column of the terminal. -/
  | showPad (bottom right : Int)
  /-- Clear the terminal. -/
  | clearScreen
  /-- Show the cleared terminal. -/
  | refreshScreen
  /-- Take note of the terminal's size. -/
  | resize (height width : Int)
  /-- Start the thread that reads what is typed; it ends with the program. -/
  | startReader
  deriving DecidableEq, Repr

end Chip8
