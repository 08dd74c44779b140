import Chip8.CommandLine.Word

/-!
# The command line

The words of a command line are taken from left to right. The first plain word
names the program; further ones, and words that only look like options, are
left over, and a command line with words left over is refused. A request for
help ends the reading where it stands.
-/

namespace Chip8
namespace CommandLine

/-- Why no settings are read from a command line. -/
inductive Ending
  /-- Help is asked for. -/
  | help
  | refused (complaint : Complaint)
  deriving DecidableEq, Repr

/-- What was read from the words so far. -/
structure Reading where
  filename : Option String := none
  settings : Settings := .standard ""
  /-- The words left over, the latest first. -/
  left : List String := []

namespace Reading

/-- The reading with a word left over. -/
def leave (reading : Reading) (text : String) : Reading :=
  { reading with left := text :: reading.left }

/-- The reading with the program named. -/
def name (reading : Reading) (text : String) : Reading :=
  { reading with filename := some text }

/-- The reading with an option's argument read. -/
def assign (reading : Reading) (setting : Setting) (argument : String) :
    Except Ending Reading :=
  match setting.assign argument reading.settings with
  | .ok settings => .ok { reading with settings }
  | .error complaint => .error (.refused complaint)

/-- The settings that were read, once no word follows. -/
def finish (reading : Reading) : Except Ending Settings :=
  match reading.filename, reading.left.reverse with
  | none, _ => .error (.refused .filenameMissing)
  | some filename, [] => .ok { reading.settings with filename }
  | some _, left => .error (.refused (.unrecognized left))

end Reading

/-- Whether the words go on with a plain one. -/
def startsPlain : List Word -> Bool
  | .plain _ :: _ => true
  | _ => false

/-- The ending that short options bring about after a request for help in the same word. What is
none of them, and one that lacks its argument, is complained of first. -/
def helpWith (rest : List Word) : List Char -> Ending
  | [] => .help
  | character :: text =>
      match Setting.ofSpelling? (String.ofList ['-', character]) with
      | none => .refused (.argumentUnwanted .help (String.ofList (character :: text)))
      | some .help => helpWith rest text
      | some setting =>
          if text.isEmpty && !startsPlain rest then .refused (.argumentMissing setting) else .help

/-- The ending that a request for help brings about. -/
def helpEnding (rest : List Word) (long : Bool) : Option String -> Ending
  | none => .help
  | some attached =>
      if long || attached.isEmpty then .refused (.argumentUnwanted .help attached)
      else helpWith rest attached.toList

/-- Read words from left to right. -/
def readWords : List Word -> Reading -> Except Ending Reading
  | [], reading => .ok reading
  | .unknown text :: rest, reading => readWords rest (reading.leave text)
  | .separator :: rest, reading =>
      match reading.filename, rest with
      | none, .plain text :: after => readWords after (reading.name text)
      | _, others => readWords others (reading.leave separatorText)
  | .plain text :: rest, reading =>
      match reading.filename, rest with
      | none, .separator :: after => readWords after (reading.name text)
      | none, others => readWords others (reading.name text)
      | some _, others => readWords others (reading.leave text)
  | .option .help long attached :: rest, _ => .error (helpEnding rest long attached)
  | .option setting _ (some attached) :: rest, reading =>
      match reading.assign setting attached with
      | .error ending => .error ending
      | .ok next => readWords rest next
  | .option setting _ none :: rest, reading =>
      match rest with
      | .plain text :: after =>
          match reading.assign setting text with
          | .error ending => .error ending
          | .ok next => readWords after next
      | _ => .error (.refused (.argumentMissing setting))

/-- The settings that a command line asks for. -/
def read (texts : List String) : Except Ending Settings :=
  match Word.ofTexts texts with
  | .error complaint => .error (.refused complaint)
  | .ok words =>
      match readWords words {} with
      | .error ending => .error ending
      | .ok reading => reading.finish

end CommandLine
end Chip8
