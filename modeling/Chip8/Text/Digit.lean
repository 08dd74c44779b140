/-!
# Decimal digits and blanks

Numbers may be written with the decimal digits of any script, and with blanks
around them. Digits of a script stand next to each other from zero to nine, so
a script is given by its zero.
-/

namespace Chip8
namespace Text

/-- The zeros of the scripts whose digits lie outside ASCII. -/
def scriptZeros : List Nat := [
  0x660, 0x6F0, 0x7C0, 0x966, 0x9E6, 0xA66, 0xAE6, 0xB66, 0xBE6, 0xC66, 0xCE6, 0xD66, 0xDE6,
  0xE50, 0xED0, 0xF20, 0x1040, 0x1090, 0x17E0, 0x1810, 0x1946, 0x19D0, 0x1A80, 0x1A90, 0x1B50,
  0x1BB0, 0x1C40, 0x1C50, 0xA620, 0xA8D0, 0xA900, 0xA9D0, 0xA9F0, 0xAA50, 0xABF0, 0xFF10,
  0x104A0, 0x10D30, 0x11066, 0x110F0, 0x11136, 0x111D0, 0x112F0, 0x11450, 0x114D0, 0x11650,
  0x116C0, 0x11730, 0x118E0, 0x11950, 0x11C50, 0x11D50, 0x11DA0, 0x16A60, 0x16AC0, 0x16B50,
  0x1D7CE, 0x1D7D8, 0x1D7E2, 0x1D7EC, 0x1D7F6, 0x1E140, 0x1E2F0, 0x1E950, 0x1FBF0]

/-- The value of a decimal digit of any script. -/
def decimalDigit? (character : Char) : Option Nat :=
  if '0' ≤ character ∧ character ≤ '9' then some (character.toNat - 48)
  else
    (scriptZeros.find? fun first => first ≤ character.toNat ∧ character.toNat < first + 10).map
      fun first => character.toNat - first

/-- Blanks that may surround a number; the separators `U+001C` to `U+001F` are not among them. -/
def isBlank (character : Char) : Bool :=
  let code := character.toNat
  (9 ≤ code && code ≤ 13) || code == 0x20 || code == 0x85 || code == 0xA0 || code == 0x1680 ||
    (0x2000 ≤ code && code ≤ 0x200A) || code == 0x2028 || code == 0x2029 || code == 0x202F ||
    code == 0x205F || code == 0x3000

/-- Text with the blanks at both ends taken off. -/
def trimBlanks (text : List Char) : List Char :=
  ((text.dropWhile isBlank).reverse.dropWhile isBlank).reverse

/-- A digit of any script as the ASCII digit of the same value; other characters stay. -/
def plainDigit (character : Char) : Char :=
  match decimalDigit? character with
  | some value => Nat.digitChar value
  | none => character

/-- The characters of a number: no blanks around them, and ASCII digits only. -/
def numberText (text : String) : List Char :=
  (trimBlanks text.toList).map plainDigit

end Text
end Chip8
