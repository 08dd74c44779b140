import Chip8.Keypad.Keymap
import Chip8.Session

/-!
# Settings

Everything that can be chosen when the emulator is started. Only the program
has to be named.
-/

namespace Chip8

/-- What the emulator is started with. -/
structure Settings where
  /-- The file that holds the program. -/
  filename : String
  /-- The backend, by name. -/
  renderer : Choice String := .unset
  scale : Choice Int := .unset
  /-- Ticks a second. -/
  tickRate : Choice Int := .unset
  stepsPerTick : Choice Int := .unset
  /-- The frequency of the tone. -/
  tone : Choice Float := .unset
  /-- Whether the tone is muted: `0` for no, any other number for yes. -/
  mute : Choice Int := .unset
  keymap : Choice String := .unset
  /-- How visible the terminal's cursor is. -/
  cursorMode : Choice Int := .unset
  palette : Choice String := .unset
  /-- Whether a left shift leaves its flag in the high bit: `0` for no, any other number for yes. -/
  highBitFlag : Choice Int := .unset

namespace Settings

/-- The settings of a command line that names only a file. -/
def standard (filename : String) : Settings where
  filename
  tickRate := .value standardTickRate
  stepsPerTick := .value standardStepsPerTick
  tone := .value standardTone
  keymap := .value Keymap.standardText
  cursorMode := .value 0
  highBitFlag := .value 0

/-- Whether a number that stands for yes or no is chosen, and stands for yes. -/
def chosen : Choice Int -> Bool
  | .value number => number != 0
  | _ => false

end Settings
end Chip8
