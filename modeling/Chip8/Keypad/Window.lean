import Chip8.Keypad.Keymap
import Chip8.Location

/-!
# The keypad of a window

A window tells when a key goes down and when it comes up again. The press not
yet collected is that of the key that went down last.
-/

namespace Chip8

/-- What a window reports. -/
inductive WindowEvent
  | keyDown (code : Int)
  | keyUp (code : Int)
  | quit
  /-- Anything else. -/
  | other
  deriving DecidableEq, Repr

/-- The code of the key that quits. -/
def escapeCode : Int := 27

/-- A keypad that follows the events of a window. -/
structure WindowKeypad where
  keymap : Keymap
  /-- The keys that are down. -/
  held : Vector Bool 16 := .replicate 16 false
  /-- The press not yet collected. -/
  pending : Option Key := none
  deriving DecidableEq, Repr

namespace WindowKeypad

/-- The keypad with a key held or not. -/
def setHeld (keypad : WindowKeypad) (key : Key) (down : Bool) : WindowKeypad :=
  { keypad with held := Key.update key down keypad.held }

/-- A mapped key goes down; it is a press unless the key was down already. -/
def press (keypad : WindowKeypad) (key : Key) : WindowKeypad :=
  if keypad.held.get key then keypad else { keypad.setHeld key true with pending := some key }

/-- Take one event in; the result tells whether it asks to quit. -/
def handle (keypad : WindowKeypad) : WindowEvent -> Bool × WindowKeypad
  | .quit => (true, keypad)
  | .other => (false, keypad)
  | .keyUp code =>
      match keypad.keymap.key? code with
      | none => (false, keypad)
      | some key => (false, keypad.setHeld key false)
  | .keyDown code =>
      if code = escapeCode then (true, keypad)
      else
        match keypad.keymap.key? code with
        | none => (false, keypad)
        | some key => (false, keypad.press key)

/-- Take events in one after the other, those after one that asks to quit too. -/
def process (keypad : WindowKeypad) : List WindowEvent -> Bool × WindowKeypad
  | [] => (false, keypad)
  | event :: rest =>
      let (quit, next) := keypad.handle event
      let (quitLater, final) := next.process rest
      (quit || quitLater, final)

/-- Whether the key that an index names is down. -/
def isDown (keypad : WindowKeypad) (index : Int) : Except Fault Bool :=
  match locate? 16 index with
  | some key => .ok (keypad.held.get key)
  | none => .error .noSuchKey

/-- Collect the press. -/
def collect (keypad : WindowKeypad) : Option Key × WindowKeypad :=
  (keypad.pending, { keypad with pending := none })

end WindowKeypad
end Chip8
