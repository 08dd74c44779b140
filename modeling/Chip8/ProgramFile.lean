import Chip8.Fault
import Chip8.Text.Pieces

/-!
# Program files

A program is read from a file by its name. A name that no file can have is
refused before the file is looked for: names hold no null character, and
neither a name nor one of the parts between its slashes is longer than a host
allows.
-/

namespace Chip8

/-- What a name leads to. -/
inductive Found
  | nothing
  | directory
  | file (content : List UInt8)
  deriving DecidableEq, Repr

namespace ProgramFile

/-- How many bytes a name may have. -/
def longestName : Nat := 4095

/-- How many bytes a part of a name may have. -/
def longestPart : Nat := 255

/-- Whether a part of a name leads from a directory to one that is always there. -/
def staysPut (part : String) : Bool :=
  part = "" || part = "." || part = ".."

/-- The first part of a name that has to be looked for. -/
def firstPart (name : String) : String :=
  ((Text.pieces '/' name).dropWhile staysPut).headD ""

/-- Refuses a name that no file can have. -/
def checkName (name : String) : Except Fault Unit :=
  if '\x00' ∈ name.toList then .error .programNameInvalid
  else if longestName < name.utf8ByteSize ∨ longestPart < (firstPart name).utf8ByteSize then
    .error .programNameTooLong
  else .ok ()

/-- The program in the file of a name, given what names lead to. -/
def read (look : String -> Found) (name : String) : Except Fault (List UInt8) :=
  match checkName name with
  | .error fault => .error fault
  | .ok () =>
      match look name with
      | .nothing => .error .programMissing
      | .directory => .error .programIsDirectory
      | .file content => .ok content

end ProgramFile
end Chip8
