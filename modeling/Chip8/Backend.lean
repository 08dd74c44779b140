import Chip8.Keypad.Idle
import Chip8.Keypad.Terminal
import Chip8.Keypad.Window
import Chip8.Picture
import Chip8.Speaker

/-!
# Backends

A backend is what picture, keypad and speaker belong to: nothing, a window
system, or a terminal. The last two need a library on the host. Where no
backend is asked for, the window system is tried first and then the terminal.
-/

namespace Chip8

/-- What picture, keypad and speaker belong to. -/
inductive Backend
  | headless
  | window
  | terminal
  deriving DecidableEq, Repr

namespace Backend

/-- The name a backend is chosen by. -/
def name : Backend -> String
  | headless => "null"
  | window => "pygame"
  | terminal => "curses"

/-- The backend of a name. -/
def ofName? (text : String) : Option Backend :=
  [headless, window, terminal].find? fun backend => backend.name = text

/-- The library a backend needs, as users know it. -/
def library? : Backend -> Option String
  | headless => none
  | window => some "PyGame"
  | terminal => some "Curses (or Windows-Curses)"

/-- The backends that are tried when none is asked for. -/
def candidates : List Backend := [window, terminal]

/-- The backend to use, given which libraries are installed. -/
def choose (installed : Backend -> Bool) : Choice String -> Except Fault Backend
  | .unset =>
      match candidates.find? installed with
      | some backend => .ok backend
      | none => .error .noHostLibrary
  | .blank => .error .backendMissing
  | .value text =>
      match ofName? text with
      | none => .error .unknownBackend
      | some backend =>
          match backend.library? with
          | none => .ok backend
          | some library =>
              if installed backend then .ok backend else .error (.hostLibraryMissing library)

/-- The backend whose speaker is used. A terminal beeps only where muting is spoken of, and a choice
without a value mutes nothing. -/
def speaking (backend : Backend) (mute : Choice Int) : Backend :=
  match mute with
  | .unset => if backend = terminal then headless else backend
  | .blank => backend
  | .value number => if number = 0 then backend else headless

/-- Open the picture of a backend. -/
def openPicture (backend : Backend) (host : Host) (scale : Choice Int) (palette : Choice String)
    (cursor : Choice Int) : Opening Picture :=
  match backend with
  | headless => Picture.openHeadless scale
  | window => Picture.openWindow host scale palette
  | terminal => Picture.openTerminal host scale cursor

/-- Open the speaker of a backend. -/
def openSpeaker (backend : Backend) (host : Host) : Opening Speaker :=
  match backend with
  | headless => Speaker.openSilent
  | window => Speaker.openMixer host
  | terminal => Speaker.openBell

end Backend

/-- The keypad of any backend. -/
inductive Keypad (τ : Type)
  | idle (keypad : IdleKeypad)
  | window (keypad : WindowKeypad)
  | terminal (keypad : TerminalKeypad τ)

namespace Keypad

variable {τ : Type} [TimeScale τ]

/-- Whether the keymaps of a backend are taken in lower case. -/
def lowercases (backend : Backend) : Bool :=
  backend = .terminal

/-- The keypad of a backend with a keymap. -/
def fresh (backend : Backend) (keymap : Keymap) : Keypad τ :=
  match backend with
  | .headless => .idle { keymap }
  | .window => .window { keymap }
  | .terminal => .terminal (.fresh keymap)

/-- The calls that open the keypad of a backend. -/
def plan (backend : Backend) : List HostCall :=
  if backend = .terminal then [.startReader] else []

/-- Open the keypad of a backend. -/
def openFor (backend : Backend) (host : Host) (keymap : Choice String) : Opening (Keypad τ) :=
  match Keymap.open? (lowercases backend) keymap with
  | .error fault => .refused fault
  | .ok keymap => host.openWith (plan backend) (fresh backend keymap)

end Keypad
end Chip8
