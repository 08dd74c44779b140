import Chip8.CommandLine.Setting

/-!
# Words of the command line

A word is an option, the mark that ends the options, or plain. A long option
may be cut short as long as it stays the only one it could be; an argument may
be attached to a long option after an equals sign, and to a short one directly
as well. Negative numbers and words with a blank in them are plain.
-/

namespace Chip8
namespace CommandLine

/-- A word of the command line. -/
inductive Word
  | plain (text : String)
  /-- The mark that ends the options. -/
  | separator
  /-- An option, whether its long spelling is used, and the argument attached to it. -/
  | option (setting : Setting) (long : Bool) (attached : Option String)
  /-- What looks like an option and is none. -/
  | unknown (text : String)
  deriving DecidableEq, Repr

namespace Word

/-- Text before and after its first equals sign, if it has one. -/
def splitMark? : List Char -> Option (List Char × List Char)
  | [] => none
  | '=' :: rest => some ([], rest)
  | character :: rest => (splitMark? rest).map fun (before, after) => (character :: before, after)

/-- Text before its first equals sign, and the argument after it. -/
def takeMarked (text : String) : String × Option String :=
  match splitMark? text.toList with
  | none => (text, none)
  | some (before, after) => (String.ofList before, some (String.ofList after))

/-- Whether a text is spelled with two dashes. -/
def isLong (text : String) : Bool :=
  "--".toList.isPrefixOf text.toList

/-- The options that a text stands for with its spelling cut short, and what they are spelled like. -/
def completions (cut : String) : List (String × Setting) :=
  Setting.spelled.filter fun (spelling, _) => cut.toList.isPrefixOf spelling.toList

/-- Whether a character is a decimal digit of any script. -/
def isDigit (character : Char) : Bool :=
  (Text.decimalDigit? character).isSome

/-- Text without the line break it may end in. -/
def dropLineBreak (text : List Char) : List Char :=
  if text.getLast? = some '\n' then text.dropLast else text

/-- Whether text, which opens with a dash, is a negative number. -/
def isNegativeNumber (text : List Char) : Bool :=
  let magnitude := dropLineBreak (text.drop 1)
  match magnitude.dropWhile isDigit with
  | [] => !magnitude.isEmpty
  | '.' :: decimals => !decimals.isEmpty && decimals.all isDigit
  | _ => false

/-- What a text is that no option's spelling accounts for. -/
def unaccounted (text : String) : Word :=
  if isNegativeNumber text.toList || text.toList.contains ' ' then plain text else unknown text

/-- What a text is that opens with two dashes and is no option's whole spelling. -/
def ofLong (text : String) : Except Complaint Word :=
  let (cut, attached) := takeMarked text
  match completions cut with
  | [] => .ok (unaccounted text)
  | [(_, setting)] => .ok (option setting true attached)
  | several => .error (.ambiguous text (several.map (·.1)))

/-- What a text is that opens with one dash and is no option's whole spelling. -/
def ofShort (text : String) : Word :=
  let spelling := String.ofList (text.toList.take 2)
  match Setting.ofSpelling? spelling with
  | none => unaccounted text
  | some setting => option setting false (some (String.ofList (text.toList.drop 2)))

/-- What a text of two characters or more is that opens with a dash and is no whole spelling. -/
def ofDashed (text : String) : Except Complaint Word :=
  let (spelling, attached) := takeMarked text
  match Setting.ofSpelling? spelling, attached with
  | some setting, some _ => .ok (option setting (isLong spelling) attached)
  | _, _ => if isLong text then ofLong text else .ok (ofShort text)

/-- What a text is before the options have ended. -/
def ofText (text : String) : Except Complaint Word :=
  match text.toList with
  | '-' :: _ :: _ =>
      match Setting.ofSpelling? text with
      | some setting => .ok (option setting (isLong text) none)
      | none => ofDashed text
  | _ => .ok (plain text)

/-- What the texts of a command line are. -/
def ofTexts : List String -> Except Complaint (List Word)
  | [] => .ok []
  | text :: rest =>
      if text = separatorText then .ok (separator :: rest.map plain)
      else
        match ofText text with
        | .error complaint => .error complaint
        | .ok word => (ofTexts rest).map (word :: ·)

end Word
end CommandLine
end Chip8
