import Chip8.Settings
import Chip8.Text.Quoted
import Chip8.Text.Real

/-!
# The options of the command line

Every option has a long spelling, most have a short one as well, and all but
the request for help take one argument. Arguments are text, whole numbers or a
real number; some have to be one of a few. An argument that is the word that
ends the options leaves the value of its option out.
-/

namespace Chip8
namespace CommandLine

/-- The text of the word that ends the options. -/
def separatorText : String := "--"

/-- An option of the command line. -/
inductive Setting
  | help
  | renderer
  | scale
  | tickRate
  | stepsPerTick
  | tone
  | mute
  | keymap
  | cursorMode
  | palette
  | highBitFlag
  deriving DecidableEq, Repr

/-- Why a command line is refused. -/
inductive Complaint
  /-- An option is cut so short that it could be any of several. -/
  | ambiguous (argument : String) (candidates : List String)
  /-- An option has no argument. -/
  | argumentMissing (setting : Setting)
  /-- An option that takes no argument has one. -/
  | argumentUnwanted (setting : Setting) (argument : String)
  /-- An argument is no whole number. -/
  | notInteger (setting : Setting) (argument : String)
  /-- An argument is no real number. -/
  | notReal (setting : Setting) (argument : String)
  /-- An argument is none of those that an option can have; all are shown as they would be read. -/
  | notAmong (setting : Setting) (argument : String) (choices : List String)
  /-- No file is named. -/
  | filenameMissing
  /-- Arguments are left over. -/
  | unrecognized (arguments : List String)
  deriving DecidableEq, Repr

namespace Setting

/-- All options, in the order in which they are listed. -/
def all : List Setting :=
  [help, renderer, scale, tickRate, stepsPerTick, tone, mute, keymap, cursorMode, palette,
    highBitFlag]

/-- How an option is spelled, its short spelling before the long one. -/
def spellings : Setting -> List String
  | help => ["-h", "--help"]
  | renderer => ["-r", "--renderer"]
  | scale => ["-s", "--scale"]
  | tickRate => ["-t", "--tick_rate"]
  | stepsPerTick => ["-n", "--steps_per_tick"]
  | tone => ["--tone"]
  | mute => ["-m", "--mute"]
  | keymap => ["-k", "--keymap"]
  | cursorMode => ["--curses_cursor_mode"]
  | palette => ["--pygame_palette"]
  | highBitFlag => ["--shl_flag_quirks"]

/-- Every spelling with the option it stands for. -/
def spelled : List (String × Setting) :=
  all.flatMap fun setting => setting.spellings.map fun spelling => (spelling, setting)

/-- The option that a spelling stands for. -/
def ofSpelling? (spelling : String) : Option Setting :=
  spelled.lookup spelling

/-- What an option is called in complaints. -/
def title (setting : Setting) : String :=
  "/".intercalate setting.spellings

/-- The whole number that an argument is. -/
def integer (setting : Setting) (argument : String) : Except Complaint Int :=
  match Text.decimal? argument with
  | some value => .ok value
  | none => .error (.notInteger setting argument)

/-- The real number that an argument is. -/
def real (setting : Setting) (argument : String) : Except Complaint Float :=
  match Text.real? argument with
  | some value => .ok value
  | none => .error (.notReal setting argument)

/-- A number, when it is one of those that an option can have. -/
def integerAmong (setting : Setting) (choices : List Int) (argument : String) :
    Except Complaint Int :=
  match setting.integer argument with
  | .error complaint => .error complaint
  | .ok value =>
      if value ∈ choices then .ok value
      else .error (.notAmong setting (toString value) (choices.map toString))

/-- A text, when it is one of those that an option can have. -/
def textAmong (setting : Setting) (choices : List String) (argument : String) :
    Except Complaint String :=
  if argument ∈ choices then .ok argument
  else .error (.notAmong setting (Text.quoted argument) (choices.map Text.quoted))

/-- The names of the backends, in the order in which they are listed. -/
def backendNames : List String := ["pygame", "curses", "null"]

/-- What an argument chooses. The word that ends the options is never a value. -/
def choose {Value : Type} (argument : String) (read : String -> Except Complaint Value) :
    Except Complaint (Choice Value) :=
  if argument = separatorText then .ok .blank else (read argument).map .value

/-- The settings with one of them read from an argument. -/
def assign (setting : Setting) (argument : String) (settings : Settings) :
    Except Complaint Settings :=
  match setting with
  | help => .ok settings
  | renderer =>
      (choose argument (setting.textAmong backendNames)).map fun renderer =>
        { settings with renderer }
  | scale => (choose argument setting.integer).map fun scale => { settings with scale }
  | tickRate => (choose argument setting.integer).map fun tickRate => { settings with tickRate }
  | stepsPerTick =>
      (choose argument setting.integer).map fun stepsPerTick => { settings with stepsPerTick }
  | tone => (choose argument setting.real).map fun tone => { settings with tone }
  | mute =>
      (choose argument (setting.integerAmong [0, 1])).map fun mute => { settings with mute }
  | keymap => (choose argument .ok).map fun keymap => { settings with keymap }
  | cursorMode =>
      (choose argument (setting.integerAmong [0, 1, 2])).map fun cursorMode =>
        { settings with cursorMode }
  | palette => (choose argument .ok).map fun palette => { settings with palette }
  | highBitFlag =>
      (choose argument (setting.integerAmong [0, 1])).map fun highBitFlag =>
        { settings with highBitFlag }

end Setting

namespace Complaint

/-- A complaint about an option. -/
def about (setting : Setting) (text : String) : String :=
  "argument " ++ setting.title ++ ": " ++ text

/-- What is told to the user. -/
def message : Complaint -> String
  | ambiguous argument candidates =>
      "ambiguous option: " ++ argument ++ " could match " ++ ", ".intercalate candidates
  | argumentMissing setting => about setting "expected one argument"
  | argumentUnwanted setting argument =>
      about setting ("ignored explicit argument " ++ Text.quoted argument)
  | notInteger setting argument =>
      about setting ("invalid int value: " ++ Text.quoted argument)
  | notReal setting argument =>
      about setting ("invalid float value: " ++ Text.quoted argument)
  | notAmong setting argument choices =>
      about setting
        ("invalid choice: " ++ argument ++ " (choose from " ++ ", ".intercalate choices ++ ")")
  | filenameMissing => "the following arguments are required: filename"
  | unrecognized arguments => "unrecognized arguments: " ++ " ".intercalate arguments

end Complaint
end CommandLine
end Chip8
