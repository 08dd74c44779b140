/-!
# Hexadecimal fields

Numbers in listings and register dumps are written in lower-case hexadecimal,
filled with zeros to a least width. A sign counts towards the width, and a
number that needs more places is never cut.
-/

namespace Chip8
namespace Text

/-- Hexadecimal digits of a natural number, most significant first. -/
def hexDigits (value : Nat) : List Char :=
  Nat.toDigits 16 value

/-- Digits filled on the left with zeros to a least length. -/
def zeroFill (width : Nat) (digits : List Char) : List Char :=
  List.replicate (width - digits.length) '0' ++ digits

@[simp] theorem length_zeroFill (width : Nat) (digits : List Char) :
    (zeroFill width digits).length = max width digits.length := by
  simp only [zeroFill, List.length_append, List.length_replicate]
  omega

/-- A whole number in hexadecimal, at least `width` characters wide. -/
def hexField (width : Nat) : Int -> List Char
  | .ofNat value => zeroFill width (hexDigits value)
  | .negSucc value => '-' :: zeroFill (width - 1) (hexDigits (value + 1))

/-- The text of a hexadecimal field. -/
def hex (width : Nat) (value : Int) : String :=
  String.ofList (hexField width value)

@[simp] theorem toList_hex (width : Nat) (value : Int) :
    (hex width value).toList = hexField width value := by
  simp [hex]

end Text
end Chip8
