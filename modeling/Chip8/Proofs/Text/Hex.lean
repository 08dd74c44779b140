import Chip8.Text.Hex

/-!
# Hexadecimal fields are read back

A hexadecimal field stands for one number, however many zeros fill it. It has
just its least width where the number fits, and no characters but digits.
-/

namespace Chip8
namespace Text

/-- The value of a hexadecimal digit. -/
def hexDigitValue (digit : Char) : Nat :=
  if digit ≤ '9' then digit.toNat - 48 else digit.toNat - 87

/-- The number that hexadecimal digits stand for, most significant first. -/
def hexValue (digits : List Char) : Nat :=
  digits.foldl (fun value digit => value * 16 + hexDigitValue digit) 0

/-- Whether a character is a digit of a hexadecimal field. -/
def isHexDigit (character : Char) : Prop :=
  ∃ value < 16, character = Nat.digitChar value

theorem hexDigitValue_digitChar {value : Nat} (small : value < 16) :
    hexDigitValue (Nat.digitChar value) = value := by
  have every : ∀ value < 16, hexDigitValue (Nat.digitChar value) = value := by decide
  exact every value small

theorem hexValue_concat (digits : List Char) (digit : Char) :
    hexValue (digits ++ [digit]) = hexValue digits * 16 + hexDigitValue digit := by
  simp [hexValue]

@[simp] theorem hexValue_hexDigits (value : Nat) : hexValue (hexDigits value) = value := by
  induction value using Nat.strongRecOn with
  | ind value hypothesis =>
      unfold hexDigits
      rw [Nat.toDigits_eq_if (by decide)]
      split
      · rename_i small
        simp [hexValue, hexDigitValue_digitChar small]
      · rename_i large
        have rest := hypothesis (value / 16) (by omega)
        unfold hexDigits at rest
        rw [hexValue_concat, rest, hexDigitValue_digitChar (Nat.mod_lt value (by decide))]
        omega

@[simp] theorem hexValue_zeroFill (width : Nat) (digits : List Char) :
    hexValue (zeroFill width digits) = hexValue digits := by
  have zeros : ∀ count, hexValue (List.replicate count '0' ++ digits) = hexValue digits := by
    intro count
    induction count with
    | zero => rfl
    | succ count hypothesis =>
        rw [← hypothesis]
        rfl
  exact zeros _

/-- A field is read back as the number that it was written for. -/
@[simp] theorem hexValue_hexField (width value : Nat) :
    hexValue (hexField width (value : Int)) = value := by
  change hexValue (zeroFill width (hexDigits value)) = value
  simp

theorem isHexDigit_of_mem_hexDigits
    {value : Nat}
    {character : Char}
    (member : character ∈ hexDigits value) :
    isHexDigit character := by
  induction value using Nat.strongRecOn with
  | ind value hypothesis =>
      unfold hexDigits at member
      rw [Nat.toDigits_eq_if (by decide)] at member
      split at member
      · rename_i small
        exact ⟨value, small, List.mem_singleton.mp member⟩
      · rename_i large
        rcases List.mem_append.mp member with earlier | last
        · exact hypothesis (value / 16) (by omega) earlier
        · exact ⟨value % 16, Nat.mod_lt value (by decide), List.mem_singleton.mp last⟩

/-- A field of a natural number is made of digits. -/
theorem isHexDigit_of_mem_hexField
    {width value : Nat}
    {character : Char}
    (member : character ∈ hexField width (value : Int)) :
    isHexDigit character := by
  rcases List.mem_append.mp member with filled | written
  · exact ⟨0, by decide, List.eq_of_mem_replicate filled⟩
  · exact isHexDigit_of_mem_hexDigits written

theorem isHexDigit.ne
    {character other : Char}
    (digit : isHexDigit character)
    (outside : ∀ value < 16, Nat.digitChar value ≠ other) :
    character ≠ other := by
  obtain ⟨value, small, rfl⟩ := digit
  exact outside value small

/-- A number that fits in a field's width takes just that width. -/
theorem length_hexField
    {width value : Nat}
    (fits : (hexDigits value).length ≤ width) :
    (hexField width (value : Int)).length = width := by
  change (zeroFill width (hexDigits value)).length = width
  rw [length_zeroFill]
  omega

end Text
end Chip8
