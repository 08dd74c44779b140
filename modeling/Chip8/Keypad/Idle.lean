import Chip8.Keypad.Keymap

/-!
# The idle keypad

A keypad on which no key is ever held and which never asks to quit. A press
can still be put into it.
-/

namespace Chip8

/-- A keypad that follows nothing. -/
structure IdleKeypad where
  keymap : Keymap
  /-- The press not yet collected. -/
  pending : Option Int := none
  deriving DecidableEq, Repr

namespace IdleKeypad

/-- Whether the keypad asks to quit. -/
def process (_ : IdleKeypad) : Bool := false

/-- Whether a key is down. -/
def isDown (_ : IdleKeypad) (_ : Key) : Bool := false

/-- The keypad with a press to be collected. -/
def press (keypad : IdleKeypad) (key : Int) : IdleKeypad :=
  { keypad with pending := some key }

/-- Collect the press. -/
def collect (keypad : IdleKeypad) : Option Int × IdleKeypad :=
  (keypad.pending, { keypad with pending := none })

end IdleKeypad
end Chip8
