import Chip8.Text.Hex

/-!
# Faults

Everything that can stop an operation, one constructor for each cause. The
wording of a fault is `Fault.message`; operations only ever decide on causes.
-/

namespace Chip8

/-- The cause that stopped an operation. -/
inductive Fault
  /-- A value that is no 16-bit instruction word was delivered. -/
  | undecodable (opcode : Int) (address : Option Int) (report : String)
  /-- The top of an empty call stack was asked for. -/
  | stackUnderflow
  /-- A return was executed with nothing to return to. -/
  | emptyReturn (report : String) (address : Int)
  /-- A block would end past the last memory cell. -/
  | memoryOverflow (last : Int)
  /-- An index names no cell. -/
  | noSuchCell
  /-- An index names no register. -/
  | noSuchRegister
  /-- An index names no key of the keypad. -/
  | noSuchKey
  /-- A value outside 0..255 was to be stored in a byte. -/
  | notAByte
  /-- A block and the stretch of memory named for it differ in length. -/
  | unevenBlock
  /-- A store of negative size was asked for. -/
  | negativeSize
  /-- A store was asked for whose size no count can express. -/
  | sizeOutOfRange
  /-- A store was asked for that there is no room for. -/
  | outOfMemory
  /-- The machine is to tick at a rate that is not above zero. -/
  | tickRateNotPositive
  /-- A tick is to run a negative number of steps. -/
  | stepsNegative
  /-- The tick rate was left out. -/
  | tickRateMissing
  /-- The number of steps of a tick was left out. -/
  | stepsMissing
  /-- A whole number is larger than any time or rate. -/
  | numberTooLarge
  /-- A tick is due, and no time lies between it and the next. -/
  | noInterval
  /-- A running session was started again. -/
  | alreadyRunning
  /-- A clock reading has no whole second, being infinite. -/
  | endlessTime
  /-- A clock reading has no whole second, being no number. -/
  | timeNotANumber
  /-- A keymap does not define sixteen keys. -/
  | keyCount
  /-- A key is not defined by a whole number. -/
  | keyNotInteger
  /-- Two keys share a code. -/
  | keyDuplicate
  /-- A code to be lower-cased names no character. -/
  | codeNotACharacter
  /-- A code to be lower-cased is too large to be looked up. -/
  | codeTooLarge
  /-- The lower case of a code is more than one character. -/
  | codeNotOneCharacter
  /-- No keymap was given. -/
  | keymapMissing
  /-- The scale of a picture was left out. -/
  | scaleMissing
  /-- A picture is to be drawn at a scale below one. -/
  | scaleTooSmall
  /-- A picture is to be drawn at a scale no line of text can have. -/
  | scaleTooLarge
  /-- The palette of a window was left out. -/
  | paletteMissing
  /-- A palette has more than two colours. -/
  | paletteTooLong
  /-- A palette colour is not six characters long. -/
  | colourLength
  /-- A palette colour is no hexadecimal number. -/
  | colourNotHex
  /-- A tone whose frequency was left out is to be built. -/
  | frequencyMissing
  /-- A tone of frequency zero was asked for. -/
  | zeroFrequency
  /-- A tone too low for its cycle to have a length was asked for. -/
  | endlessCycle
  /-- A tone whose frequency is no number was asked for. -/
  | frequencyNotANumber
  /-- The name of the backend was left out. -/
  | backendMissing
  /-- No host library is installed. -/
  | noHostLibrary
  /-- The host library of the chosen backend is not installed. -/
  | hostLibraryMissing (library : String)
  /-- The chosen backend does not exist. -/
  | unknownBackend
  /-- The program file does not exist. -/
  | programMissing
  /-- The name of the program file leads to a directory. -/
  | programIsDirectory
  /-- The name of the program file has a null character. -/
  | programNameInvalid
  /-- The name of the program file is longer than names may be. -/
  | programNameTooLong
  /-- The host refused a call. -/
  | hostRefused
  deriving DecidableEq, Repr

namespace Fault

/-- The sentence that names an undecodable word. -/
def invalidOpcode (opcode : Int) : Option Int -> String
  | none => "Opcode 0x" ++ Text.hex 4 opcode ++ " is not a valid instruction"
  | some address =>
      "Opcode 0x" ++ Text.hex 4 opcode ++ " at address 0x" ++ Text.hex 3 address ++
        " is not a valid instruction"

/-- What is shown to the user when an operation stops. -/
def message : Fault -> String
  | undecodable opcode address report =>
      if report.isEmpty then invalidOpcode opcode address
      else report ++ "\n\n" ++ invalidOpcode opcode address
  | stackUnderflow => "Stack underflow"
  | emptyReturn report address =>
      report ++ "\n\nReturned from address 0x" ++ Text.hex 3 address ++ " with an empty stack"
  | memoryOverflow last =>
      "Memory overflow: block ends at 0x" ++ Text.hex 0 last ++ ", past the end of RAM"
  | noSuchCell => "No such cell"
  | noSuchRegister => "No such register"
  | noSuchKey => "No such key"
  | notAByte => "Value is not a byte"
  | unevenBlock => "Block does not fit its place in memory"
  | negativeSize => "Size cannot be negative"
  | sizeOutOfRange => "Size is out of range"
  | outOfMemory => "Out of memory"
  | tickRateNotPositive => "Tick rate must be above zero"
  | stepsNegative => "Steps per tick cannot be negative"
  | tickRateMissing => "No tick rate given"
  | stepsMissing => "No number of steps per tick given"
  | numberTooLarge => "Number is too large"
  | noInterval => "No time lies between two ticks"
  | alreadyRunning => "Driver is already running"
  | endlessTime => "Clock reading is infinite"
  | timeNotANumber => "Clock reading is not a number"
  | keyCount =>
      "Incorrect number of keys defined -- 16 required.  Use commas to split numbers"
  | keyNotInteger => "Defined keys are not all integer values"
  | keyDuplicate => "Duplicate keys defined"
  | codeNotACharacter => "Key code is not a character"
  | codeTooLarge => "Key code is too large"
  | codeNotOneCharacter => "Key code is not one character in lower case"
  | keymapMissing => "No keymap given"
  | scaleMissing => "No scale given"
  | scaleTooSmall => "Scale must be at least 1"
  | scaleTooLarge => "Scale is too large"
  | paletteMissing => "No palette given"
  | paletteTooLong => "Too many palette colours defined."
  | colourLength => "Palette colours must all be 6 hex digits long."
  | colourNotHex => "Invalid palette colour defined."
  | frequencyMissing => "No tone frequency given"
  | zeroFrequency => "Tone frequency cannot be zero"
  | endlessCycle => "Tone frequency is too low"
  | frequencyNotANumber => "Tone frequency is not a number"
  | backendMissing => "No backend given"
  | noHostLibrary =>
      "Neither PyGame nor Curses (or Windows-Curses) appear to be installed."
  | hostLibraryMissing library => library ++ " does not appear to be installed."
  | unknownBackend => "No such backend"
  | programMissing => "No such file"
  | programIsDirectory => "The file is a directory"
  | programNameInvalid => "The name of the file has a null character"
  | programNameTooLong => "The name of the file is too long"
  | hostRefused => "The host refused a call"

end Fault

/-- An operation on a state, which keeps the state it reached when a fault stops it. -/
abbrev Action (State Result : Type) := EStateM Fault State Result

end Chip8
