import Chip8.Machine.Monitor
import Chip8.Text.Real
import Chip8.Text.Quoted
import Chip8.Text.Pieces
import Chip8.Text.Lowercase
import Chip8.Picture
import Chip8.Speaker
import Chip8.Time
import Chip8.Keypad.Idle
import Chip8.Keypad.Window
import Chip8.Keypad.Terminal
import Chip8.Session.Run
import Chip8.CommandLine
import Chip8.Launch
import Chip8.Main
import Chip8.Proofs.Machine.Faults
import Chip8.Proofs.Machine.Nesting
import Chip8.Proofs.Session.Tick
import Chip8.Proofs.Session.KeyWait
import Chip8.Proofs.Instruction.Coding
import Chip8.Proofs.Machine.Effects
import Chip8.Proofs.Session.Polling
import Chip8.Proofs.Session.Stops
import Chip8.Proofs.Session.Rounds
import Chip8.Proofs.Session.Alike
import Chip8.Proofs.Session.Occasions
import Chip8.Proofs.Session.Schedule
import Chip8.Proofs.Session.Laps
import Chip8.Proofs.Session.Tone
import Chip8.Proofs.Session.Sounding
import Chip8.Proofs.Text.Hex
import Chip8.Proofs.Instruction.Assembly
import Chip8.Proofs.Launch.Balance
import Chip8.Proofs.Number.Positive
import Chip8.Proofs.Session.Acceptance
import Chip8.Proofs.Machine.Reading
import Chip8.Proofs.Machine.Secrecy
import Chip8.Proofs.Screen.Parity
import Chip8.Proofs.Machine.Drawing
import Chip8.Proofs.Screen.Around
import Chip8.Proofs.Machine.Around
import Chip8.Proofs.Machine.Transfer
import Chip8.Proofs.Machine.Counter
import Chip8.Proofs.Machine.Arithmetic
import Chip8.Proofs.Keypad.Holding
import Chip8.Proofs.Keypad.Codes
import Chip8.Proofs.Keypad.Batches
import Chip8.Proofs.Keypad.Delivery
import Chip8.Proofs.Launch.Defaults
import Chip8.Proofs.Machine.Dump
import Chip8.Proofs.Session.Accounts
import Chip8.Proofs.Picture.Window
import Chip8.Proofs.Picture.Terminal
import Chip8.Proofs.Speaker.Looping
import Chip8.Proofs.Keypad.Refusal
import Chip8.Proofs.Keypad.Reader
import Chip8.Proofs.Picture.Palette
import Chip8.Proofs.Picture.Takeover
import Chip8.Proofs.Machine.Loading
