import Chip8.Proofs.Text.Numeral

/-!
# How hexadecimal numbers are spelled

A hexadecimal number is spelled by digits of any script and the letters up to `f`,
with single underscores between them. A zero with a cross may stand before them, an
underscore after these two, a sign before all of it and blanks around it. Reading a
text gives a number exactly where the text spells it in this way.
-/

namespace Chip8
namespace Text

/-- The value of a letter that is a hexadecimal digit. -/
def hexLetter? (character : Char) : Option Nat :=
  if 'a' ≤ character ∧ character ≤ 'f' then some (character.toNat - 87)
  else if 'A' ≤ character ∧ character ≤ 'F' then some (character.toNat - 55)
  else none

/-- The value of a hexadecimal digit: a decimal digit of any script, or a letter. -/
def hexDigit? (character : Char) : Option Nat :=
  (decimalDigit? character).or (hexLetter? character)

/-- What may stand before hexadecimal digits: a zero with a cross, and an underscore after them. -/
inductive SpellsMark : List Char -> Prop
  | none : SpellsMark []
  | crossed {zero cross : Char}
      (value : decimalDigit? zero = some 0)
      (crosses : cross = 'x' ∨ cross = 'X') :
      SpellsMark [zero, cross]
  | apart {zero cross : Char}
      (value : decimalDigit? zero = some 0)
      (crosses : cross = 'x' ∨ cross = 'X') :
      SpellsMark [zero, cross, '_']

/-- Text spells a hexadecimal number: blanks, a sign, a mark, digits, and blanks again. -/
def SpellsHex (text : String) (number : Int) : Prop :=
  ∃ before sign mark numeral after negative digits,
    text.toList = before ++ sign ++ (mark ++ numeral) ++ after ∧
      (∀ character ∈ before ++ after, isBlank character = true) ∧
      SpellsSign sign negative ∧
      SpellsMark mark ∧
      DigitRun hexDigit? numeral digits ∧
      number = signed negative (numberOf 16 digits)

/-! ## Digits -/

variable {character : Char} {digit : Nat}

theorem hexLetter?_bounds (value : hexLetter? character = some digit) :
    digit < 16 ∧ 65 ≤ character.toNat ∧ character.toNat ≤ 102 := by
  unfold hexLetter? at value
  split at value
  · rename_i small
    have above : 97 ≤ character.toNat := small.1
    have below : character.toNat ≤ 102 := small.2
    simp only [Option.some.injEq] at value
    omega
  · split at value
    · rename_i large
      have above : 65 ≤ character.toNat := large.1
      have below : character.toNat ≤ 70 := large.2
      simp only [Option.some.injEq] at value
      omega
    · contradiction

theorem lt_sixteen_of_hexDigit (value : hexDigit? character = some digit) : digit < 16 := by
  rcases Option.or_eq_some_iff.mp value with decimal | ⟨-, letter⟩
  · exact Nat.lt_trans (lt_ten_of_decimalDigit decimal) (by decide)
  · exact (hexLetter?_bounds letter).1

theorem isSolid_of_hexDigit (value : hexDigit? character = some digit) : IsSolid character := by
  rcases Option.or_eq_some_iff.mp value with decimal | ⟨-, letter⟩
  · exact isSolid_of_decimalDigit decimal
  · obtain ⟨-, above, below⟩ := hexLetter?_bounds letter
    refine ⟨?_, ?_, ?_⟩
    · simp [isBlank]
      omega
    · rintro rfl
      exact absurd above (by decide)
    · rintro rfl
      exact absurd above (by decide)

/-- Put in ASCII a character is read as the hexadecimal digit that it is. -/
theorem digitIn?_plainDigit_eq_hexDigit? (character : Char) :
    digitIn? 16 (plainDigit character) = hexDigit? character := by
  unfold plainDigit hexDigit?
  cases value : decimalDigit? character with
  | some digit =>
      have ascii : ∀ digit < 10, digitIn? 16 (Nat.digitChar digit) = some digit := by decide
      exact ascii digit (lt_ten_of_decimalDigit value)
  | none =>
      have plain : ¬('0' ≤ character ∧ character ≤ '9') := by
        intro ascii
        simp [decimalDigit?, ascii] at value
      have letters : digitIn? 16 character = (hexLetter? character).filter (· < 16) := by
        simp only [digitIn?, hexLetter?, plain, if_false]
      rw [letters, Option.none_or]
      cases letter : hexLetter? character with
      | none => rfl
      | some digit => simp [(hexLetter?_bounds letter).1]

/-- Digits put in ASCII are read just as they are spelled. -/
theorem digitsIn?_map_plainDigit_eq_iff {numeral : List Char} {digits : List Nat} :
    digitsIn? 16 (numeral.map plainDigit) = some digits ↔
      DigitRun hexDigit? numeral digits := by
  rw [digitsIn?_eq_some_iff]
  exact DigitRun.map_iff digitIn?_plainDigit_eq_hexDigit? fun _ => plainDigit_eq_iff (by decide)

/-! ## Marks -/

variable {mark numeral core : List Char} {digits : List Nat}

/-- A zero of any script is put in ASCII as zero. -/
theorem plainDigit_eq_zero_iff : plainDigit character = '0' ↔ decimalDigit? character = some 0 := by
  unfold plainDigit
  cases value : decimalDigit? character with
  | some digit => simp
  | none =>
      have other : character ≠ '0' := by
        rintro rfl
        contradiction
      simp [other]

/-- What begins with a crossed zero once it is put in ASCII is spelled with one. -/
theorem exists_of_map_plainDigit_eq_crossed
    {cross : Char}
    {rest : List Char}
    (crosses : cross = 'x' ∨ cross = 'X')
    (plain : core.map plainDigit = '0' :: cross :: rest) :
    ∃ zero numeral,
      core = zero :: cross :: numeral ∧ decimalDigit? zero = some 0 ∧
        rest = numeral.map plainDigit := by
  obtain ⟨zero, crossed, rfl, begins, follow⟩ := List.map_eq_cons_iff.mp plain
  obtain ⟨second, numeral, rfl, marks, rfl⟩ := List.map_eq_cons_iff.mp follow
  have undigital : decimalDigit? cross = none := by
    rcases crosses with rfl | rfl <;> decide
  obtain rfl := (plainDigit_eq_iff undigital).mp marks
  exact ⟨zero, numeral, rfl, plainDigit_eq_zero_iff.mp begins, rfl⟩

/-- What begins with a crossed zero and an underscore once it is put in ASCII is spelled so. -/
theorem exists_of_map_plainDigit_eq_apart
    {cross : Char}
    {rest : List Char}
    (crosses : cross = 'x' ∨ cross = 'X')
    (plain : core.map plainDigit = '0' :: cross :: '_' :: rest) :
    ∃ zero numeral,
      core = zero :: cross :: '_' :: numeral ∧ decimalDigit? zero = some 0 ∧
        rest = numeral.map plainDigit := by
  obtain ⟨zero, marked, rfl, value, follow⟩ := exists_of_map_plainDigit_eq_crossed crosses plain
  obtain ⟨third, numeral, rfl, underscore, rfl⟩ := List.map_eq_cons_iff.mp follow.symm
  obtain rfl := (plainDigit_eq_iff (by decide)).mp underscore
  exact ⟨zero, numeral, rfl, value, rfl⟩

/-- The mark that is dropped from a text put in ASCII is the one it is spelled with. -/
theorem exists_of_dropHexMark (core : List Char) :
    ∃ mark numeral,
      core = mark ++ numeral ∧ SpellsMark mark ∧
        dropHexMark (core.map plainDigit) = numeral.map plainDigit := by
  generalize plain : core.map plainDigit = read
  unfold dropHexMark
  split
  · obtain ⟨zero, numeral, rfl, value, rfl⟩ := exists_of_map_plainDigit_eq_apart (.inl rfl) plain
    exact ⟨_, numeral, rfl, .apart value (.inl rfl), rfl⟩
  · obtain ⟨zero, numeral, rfl, value, rfl⟩ := exists_of_map_plainDigit_eq_apart (.inr rfl) plain
    exact ⟨_, numeral, rfl, .apart value (.inr rfl), rfl⟩
  · obtain ⟨zero, numeral, rfl, value, rfl⟩ := exists_of_map_plainDigit_eq_crossed (.inl rfl) plain
    exact ⟨_, numeral, rfl, .crossed value (.inl rfl), rfl⟩
  · obtain ⟨zero, numeral, rfl, value, rfl⟩ := exists_of_map_plainDigit_eq_crossed (.inr rfl) plain
    exact ⟨_, numeral, rfl, .crossed value (.inr rfl), rfl⟩
  · exact ⟨[], core, rfl, .none, plain.symm⟩

/-- Digits do not begin with a crossed zero. -/
theorem not_digitRun_of_crossed
    {zero cross : Char}
    {rest : List Char}
    (crosses : cross = 'x' ∨ cross = 'X') :
    ¬DigitRun hexDigit? (zero :: cross :: rest) digits := by
  intro run
  cases run with
  | next _ others =>
      obtain ⟨first, rest, digit, parts, value⟩ := others.exists_cons
      obtain rfl := (List.cons.inj parts).1
      have undigital : hexDigit? cross = none := by
        rcases crosses with rfl | rfl <;> decide
      rw [undigital] at value
      contradiction
  | apart => rcases crosses with mark | mark <;> exact absurd mark (by decide)

theorem dropHexMark_of_digitRun (run : DigitRun hexDigit? numeral digits) :
    dropHexMark (numeral.map plainDigit) = numeral.map plainDigit := by
  obtain ⟨mark, rest, rfl, marked, dropped⟩ := exists_of_dropHexMark numeral
  cases marked with
  | none => exact dropped
  | crossed value crosses | apart value crosses =>
      exact absurd run (not_digitRun_of_crossed crosses)

/-- A mark is dropped from the digits that follow it. -/
theorem dropHexMark_of_spells
    (marked : SpellsMark mark)
    (run : DigitRun hexDigit? numeral digits) :
    dropHexMark ((mark ++ numeral).map plainDigit) = numeral.map plainDigit := by
  have crossing : plainDigit 'x' = 'x' ∧ plainDigit 'X' = 'X' := by decide
  have underscore : plainDigit '_' = '_' := by decide
  cases marked with
  | none => exact dropHexMark_of_digitRun run
  | crossed value crosses =>
      obtain ⟨first, rest, digit, rfl, begins⟩ := run.exists_cons
      have digital : plainDigit first ≠ '_' := by
        intro mark
        obtain rfl := (plainDigit_eq_iff (by decide)).mp mark
        contradiction
      rcases crosses with rfl | rfl <;>
        simp [dropHexMark, plainDigit_eq_zero_iff.mpr value, crossing, digital]
  | apart value crosses =>
      rcases crosses with rfl | rfl <;>
        simp [dropHexMark, plainDigit_eq_zero_iff.mpr value, crossing, underscore]

/-! ## Numbers -/

/-- Marked digits follow a sign as digits without a mark do. -/
theorem SpellsMark.unsigned
    (marked : SpellsMark mark)
    (run : DigitRun hexDigit? numeral digits) :
    Unsigned (mark ++ numeral) where
  starts := by
    have digits := run.unsigned fun _ _ => isSolid_of_hexDigit
    cases marked with
    | none => exact digits.starts
    | crossed value | apart value => exact ⟨_, _, rfl, isSolid_of_decimalDigit value⟩
  ends := by
    have digits := run.unsigned fun _ _ => isSolid_of_hexDigit
    obtain ⟨earlier, last, rfl, solid⟩ := digits.ends
    exact ⟨mark ++ earlier, last, (List.append_assoc mark earlier [last]).symm, solid⟩

/-- A text is read as a hexadecimal number exactly where it spells the number. -/
theorem hexadecimal?_eq_some_iff {text : String} {number : Int} :
    hexadecimal? text = some number ↔ SpellsHex text number := by
  constructor
  · intro found
    unfold hexadecimal? at found
    cases taken : takeSign (numberText text) with
    | mk negative read =>
        obtain ⟨before, sign, core, after, parts, blank, signs, rfl⟩ :=
          exists_of_takeSign_numberText taken
        obtain ⟨mark, numeral, rfl, marked, dropped⟩ := exists_of_dropHexMark core
        simp only [taken, dropped] at found
        obtain ⟨digits, run, rfl⟩ := Option.map_eq_some_iff.mp found
        exact ⟨before, sign, mark, numeral, after, negative, digits, parts, blank, signs, marked,
          digitsIn?_map_plainDigit_eq_iff.mp run, rfl⟩
  · rintro ⟨before, sign, mark, numeral, after, negative, digits, parts, blank, signs, marked, run,
      rfl⟩
    rw [hexadecimal?, takeSign_numberText parts blank signs (marked.unsigned run)]
    simp only [dropHexMark_of_spells marked run, digitsIn?_map_plainDigit_eq_iff.mpr run,
      Option.map_some]

/-- A text spells no more than one hexadecimal number. -/
theorem SpellsHex.unique
    {text : String}
    {number other : Int}
    (first : SpellsHex text number)
    (second : SpellsHex text other) :
    number = other :=
  Option.some.inj
    ((hexadecimal?_eq_some_iff.mpr first).symm.trans (hexadecimal?_eq_some_iff.mpr second))

end Text
end Chip8
