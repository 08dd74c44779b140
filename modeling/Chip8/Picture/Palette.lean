import Chip8.Fault
import Chip8.Host.Call
import Chip8.Text.Numeral
import Chip8.Text.Pieces

/-!
# Palettes

A palette names the background and foreground colours of a window, in that
order, as comma-separated hexadecimal numbers six characters long. A colour
that is not given keeps its default.
-/

namespace Chip8

/-- The colours of dark and lit cells. -/
structure Palette where
  background : Colour
  foreground : Colour
  deriving DecidableEq, Repr

/-- The colour that a number stands for, eight bits for each of green and blue. -/
def Colour.ofNumber (number : Int) : Colour where
  red := number / 0x10000
  green := number / 0x100 % 0x100
  blue := number % 0x100

namespace Palette

/-- Light grey on dark grey. -/
def standard : Palette where
  background := .ofNumber 0x222222
  foreground := .ofNumber 0xDDDDDD

/-- The colour that a piece of a palette names. -/
def readColour (piece : String) : Except Fault Colour :=
  if piece.length ≠ 6 then .error .colourLength
  else
    match Text.hexadecimal? piece with
    | some number => .ok (.ofNumber number)
    | none => .error .colourNotHex

/-- The palette whose pieces are given, the standard one where they end early. -/
def readPieces : List String -> Except Fault Palette
  | [] => .ok standard
  | [back] => (readColour back).map fun background => { standard with background }
  | [back, fore] =>
      match readColour back with
      | .error fault => .error fault
      | .ok background => (readColour fore).map fun foreground => { background, foreground }
  | _ => .error .paletteTooLong

/-- The palette that a text names. -/
def read (text : String) : Except Fault Palette :=
  readPieces (Text.pieces ',' text)

end Palette
end Chip8
