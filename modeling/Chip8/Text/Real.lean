import Chip8.Number.Binary64
import Chip8.Text.Numeral

/-!
# Real numbers in text

A real number is written in decimal, with an optional sign, point and exponent,
or as an infinity or no number by name. Underscores may stand between digits.
-/

namespace Chip8
namespace Text

/-- Text without its underscores, when each stands between two digits. -/
def dropUnderscores? (previous : Option Char) : List Char -> Option (List Char)
  | [] => some []
  | '_' :: next :: rest =>
      if (previous.any Char.isDigit) && next.isDigit then
        (dropUnderscores? (some next) rest).map (next :: ·)
      else none
  | ['_'] => none
  | character :: rest => (dropUnderscores? (some character) rest).map (character :: ·)

/-- The digits that text opens with, and the text after them. -/
def spanDigits (text : List Char) : List Char × List Char :=
  (text.takeWhile Char.isDigit, text.dropWhile Char.isDigit)

/-- The number that ASCII digits stand for. -/
def ofDigits (digits : List Char) : Nat :=
  numberOf 10 (digits.map fun digit => digit.toNat - 48)

/-- The power of ten that text after a mantissa stands for. -/
def exponent? : List Char -> Option Int
  | [] => some 0
  | mark :: rest =>
      if mark = 'e' ∨ mark = 'E' then
        let (negative, digits) := takeSign rest
        if digits.isEmpty || !digits.all Char.isDigit then none
        else some (signed negative (ofDigits digits))
      else none

/-- The double nearest to an unsigned decimal fraction. -/
def fraction? (text : List Char) : Option Float :=
  let (whole, afterWhole) := spanDigits text
  let (decimals, afterPoint) :=
    match afterWhole with
    | '.' :: rest => spanDigits rest
    | rest => ([], rest)
  let digits := (whole ++ decimals).dropWhile (· = '0')
  if whole.isEmpty && decimals.isEmpty then none
  else
    (exponent? afterPoint).map fun exponent =>
      ofDecimal (ofDigits digits) digits.length (exponent - decimals.length)

/-- The double that an unsigned name or decimal fraction stands for. -/
def magnitude? (text : List Char) : Option Float :=
  let name := text.map Char.toLower
  if name = "inf".toList ∨ name = "infinity".toList then some (1 / 0)
  else if name = "nan".toList then some notANumber
  else fraction? text

/-- The double that the text of a real number stands for. -/
def real? (text : String) : Option Float :=
  match dropUnderscores? none (numberText text) with
  | none => none
  | some plain =>
      let (negative, rest) := takeSign plain
      (magnitude? rest).map fun magnitude => if negative then -magnitude else magnitude

end Text
end Chip8
