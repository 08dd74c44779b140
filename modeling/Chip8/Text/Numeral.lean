import Chip8.Text.Digit

/-!
# Whole numbers in text

A numeral has an optional sign and at least one digit; a single underscore may
stand between two digits. A hexadecimal numeral may open with `0x`, which one
underscore may follow. A decimal numeral of more than 4300 digits is refused.
-/

namespace Chip8
namespace Text

/-- The value of a digit in a base up to sixteen. -/
def digitIn? (base : Nat) (character : Char) : Option Nat :=
  let value :=
    if '0' ≤ character ∧ character ≤ '9' then some (character.toNat - 48)
    else if 'a' ≤ character ∧ character ≤ 'f' then some (character.toNat - 87)
    else if 'A' ≤ character ∧ character ≤ 'F' then some (character.toNat - 55)
    else none
  value.filter (· < base)

/-- The digits of a numeral, with single underscores between them left out. -/
def digitsIn? (base : Nat) : List Char -> Option (List Nat)
  | [] => none
  | [character] => (digitIn? base character).map ([·])
  | character :: '_' :: rest =>
      match digitIn? base character, digitsIn? base rest with
      | some digit, some digits => some (digit :: digits)
      | _, _ => none
  | character :: rest =>
      match digitIn? base character, digitsIn? base rest with
      | some digit, some digits => some (digit :: digits)
      | _, _ => none

/-- The number that digits stand for, the first counting most. -/
def numberOf (base : Nat) (digits : List Nat) : Nat :=
  digits.foldl (fun value digit => value * base + digit) 0

/-- Whether text opens with a minus sign, and the text after the sign it opens with. -/
def takeSign : List Char -> Bool × List Char
  | '-' :: rest => (true, rest)
  | '+' :: rest => (false, rest)
  | text => (false, text)

/-- A magnitude with its sign. -/
def signed (negative : Bool) (magnitude : Nat) : Int :=
  if negative then -(magnitude : Int) else magnitude

/-- The most digits that a decimal numeral may have. -/
def longestNumeral : Nat := 4300

/-- The number a decimal numeral stands for. -/
def decimal? (text : String) : Option Int :=
  let (negative, digits) := takeSign (numberText text)
  match digitsIn? 10 digits with
  | none => none
  | some digits =>
      if digits.length ≤ longestNumeral then some (signed negative (numberOf 10 digits)) else none

/-- The digits of a hexadecimal numeral after the `0x` it may open with. -/
def dropHexMark : List Char -> List Char
  | '0' :: 'x' :: '_' :: rest => rest
  | '0' :: 'X' :: '_' :: rest => rest
  | '0' :: 'x' :: rest => rest
  | '0' :: 'X' :: rest => rest
  | text => text

/-- The number a hexadecimal numeral stands for. -/
def hexadecimal? (text : String) : Option Int :=
  let (negative, digits) := takeSign (numberText text)
  (digitsIn? 16 (dropHexMark digits)).map fun digits => signed negative (numberOf 16 digits)

end Text
end Chip8
