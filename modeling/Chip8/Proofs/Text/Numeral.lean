import Chip8.Proofs.Text.Digits

/-!
# How whole numbers are spelled

A whole number is spelled by digits of any script, with single underscores between
them, a sign before them and blanks around them. Reading a text gives a number
exactly where the text spells it, so two texts that spell the same number are read
alike, whatever sign, blanks, underscores, scripts or leading zeros they have.
-/

namespace Chip8
namespace Text

/-- Text spells digits, one character for each, with at most one underscore between two of them. -/
inductive SpellsDigits : List Char -> List Nat -> Prop
  | last {character : Char} {digit : Nat}
      (value : decimalDigit? character = some digit) :
      SpellsDigits [character] [digit]
  | next {character : Char} {digit : Nat} {text : List Char} {digits : List Nat}
      (value : decimalDigit? character = some digit)
      (rest : SpellsDigits text digits) :
      SpellsDigits (character :: text) (digit :: digits)
  | apart {character : Char} {digit : Nat} {text : List Char} {digits : List Nat}
      (value : decimalDigit? character = some digit)
      (rest : SpellsDigits text digits) :
      SpellsDigits (character :: '_' :: text) (digit :: digits)

/-- A sign, if there is one, and whether it is a minus sign. -/
inductive SpellsSign : List Char -> Bool -> Prop
  | none : SpellsSign [] false
  | plus : SpellsSign ['+'] false
  | minus : SpellsSign ['-'] true

/-- Text spells a number: blanks, a sign, no more digits than may be, and blanks again. -/
def Spells (text : String) (number : Int) : Prop :=
  ∃ before sign numeral after negative digits,
    text.toList = before ++ sign ++ numeral ++ after ∧
      (∀ character ∈ before ++ after, isBlank character = true) ∧
      SpellsSign sign negative ∧
      SpellsDigits numeral digits ∧
      digits.length ≤ longestNumeral ∧
      number = signed negative (numberOf 10 digits)

/-! ## Characters -/

variable {character : Char} {digit : Nat}

theorem lt_ten_of_decimalDigit (value : decimalDigit? character = some digit) : digit < 10 := by
  unfold decimalDigit? at value
  split at value
  · rename_i ascii
    simp only [Option.some.injEq] at value
    have bounds : character.toNat ≤ 57 := ascii.2
    omega
  · obtain ⟨first, found, rfl⟩ := Option.map_eq_some_iff.mp value
    have within := List.find?_some found
    simp only [decide_eq_true_eq] at within
    omega

/-- The digits of scripts outside ASCII stand apart from all blanks. -/
theorem script_apart_from_blanks :
    ∀ first ∈ scriptZeros,
      0xA0 < first ∧ (first + 10 ≤ 0x1680 ∨ 0x1680 < first) ∧
        (first + 10 ≤ 0x2000 ∨ 0x3000 < first) := by
  decide

/-- A digit is no blank. -/
theorem isBlank_of_decimalDigit (value : decimalDigit? character = some digit) :
    isBlank character = false := by
  unfold decimalDigit? at value
  split at value
  · rename_i ascii
    have above : 48 ≤ character.toNat := ascii.1
    have below : character.toNat ≤ 57 := ascii.2
    simp [isBlank]
    omega
  · obtain ⟨first, found, rfl⟩ := Option.map_eq_some_iff.mp value
    have within := List.find?_some found
    have apart := script_apart_from_blanks first (List.mem_of_find?_eq_some found)
    simp only [decide_eq_true_eq] at within
    simp [isBlank]
    omega

/-- A character that is neither a blank nor a sign. -/
def IsSolid (character : Char) : Prop :=
  isBlank character = false ∧ character ≠ '-' ∧ character ≠ '+'

theorem isSolid_of_decimalDigit (value : decimalDigit? character = some digit) :
    IsSolid character := by
  have signs : decimalDigit? '-' = none ∧ decimalDigit? '+' = none := by decide
  refine ⟨isBlank_of_decimalDigit value, ?_, ?_⟩
  · rintro rfl
    rw [signs.1] at value
    contradiction
  · rintro rfl
    rw [signs.2] at value
    contradiction

/-- The ASCII digit of a value is read as that value. -/
theorem digitIn?_digitChar : ∀ digit < 10, digitIn? 10 (Nat.digitChar digit) = some digit := by
  decide

/-- Put in ASCII a character is read as the digit that it is in its script. -/
theorem digitIn?_plainDigit (character : Char) :
    digitIn? 10 (plainDigit character) = decimalDigit? character := by
  unfold plainDigit
  cases value : decimalDigit? character with
  | some digit => exact digitIn?_digitChar digit (lt_ten_of_decimalDigit value)
  | none =>
      have plain : ¬('0' ≤ character ∧ character ≤ '9') := by
        intro ascii
        simp [decimalDigit?, ascii] at value
      simp only [digitIn?, plain, if_false]
      split
      · rename_i letter
        have above : 97 ≤ character.toNat := letter.1
        simp
        omega
      · split
        · rename_i letter
          have above : 65 ≤ character.toNat := letter.1
          simp
          omega
        · rfl

/-- A mark that is no digit is not changed into another, and nothing else is changed into it. -/
theorem plainDigit_eq_iff
    {mark : Char}
    (plain : decimalDigit? mark = none) :
    plainDigit character = mark ↔ character = mark := by
  constructor
  · intro changed
    cases value : decimalDigit? character with
    | none => simpa [plainDigit, value] using changed
    | some digit =>
        have ascii : ∀ digit < 10, decimalDigit? (Nat.digitChar digit) ≠ none := by decide
        have digital := ascii digit (lt_ten_of_decimalDigit value)
        simp only [plainDigit, value] at changed
        rw [changed] at digital
        exact absurd plain digital
  · rintro rfl
    simp only [plainDigit, plain]

/-! ## Digits -/

variable {text : List Char} {digits : List Nat}

/-- What spells digits is a run of them. -/
theorem spellsDigits_iff : SpellsDigits text digits ↔ DigitRun decimalDigit? text digits := by
  constructor
  · intro spelled
    induction spelled with
    | last value => exact .last value
    | next value _ hypothesis => exact .next value hypothesis
    | apart value _ hypothesis => exact .apart value hypothesis
  · intro run
    induction run with
    | last value => exact .last value
    | next value _ hypothesis => exact .next value hypothesis
    | apart value _ hypothesis => exact .apart value hypothesis

/-- Digits put in ASCII are read just as they are spelled. -/
theorem digitsIn?_map_plainDigit :
    digitsIn? 10 (text.map plainDigit) = some digits ↔ SpellsDigits text digits := by
  rw [digitsIn?_eq_some_iff, spellsDigits_iff]
  exact DigitRun.map_iff digitIn?_plainDigit fun _ => plainDigit_eq_iff (by decide)

/-! ## Signs and blanks -/

variable {sign numeral core before after : List Char} {negative : Bool}

/-- The sign that is taken off a text put in ASCII is the one it is spelled with. -/
theorem takeSign_map_plainDigit_eq
    {read : List Char}
    (taken : takeSign (core.map plainDigit) = (negative, read)) :
    ∃ sign numeral,
      core = sign ++ numeral ∧ SpellsSign sign negative ∧ read = numeral.map plainDigit := by
  generalize plain : core.map plainDigit = changed at taken
  unfold takeSign at taken
  split at taken <;> cases taken
  · obtain ⟨mark, numeral, rfl, minus, rfl⟩ := List.map_eq_cons_iff.mp plain
    cases (plainDigit_eq_iff (by decide)).mp minus
    exact ⟨_, numeral, rfl, .minus, rfl⟩
  · obtain ⟨mark, numeral, rfl, plus, rfl⟩ := List.map_eq_cons_iff.mp plain
    cases (plainDigit_eq_iff (by decide)).mp plus
    exact ⟨_, numeral, rfl, .plus, rfl⟩
  · exact ⟨[], core, rfl, .none, plain.symm⟩

/-- Blanks at the ends of a text are taken off up to what is none. -/
theorem trimBlanks_append
    (blank : ∀ character ∈ before ++ after, isBlank character = true)
    (starts : ∃ first rest, core = first :: rest ∧ isBlank first = false)
    (ends : ∃ earlier last, core = earlier ++ [last] ∧ isBlank last = false) :
    trimBlanks (before ++ core ++ after) = core := by
  obtain ⟨first, rest, begun, begins⟩ := starts
  obtain ⟨earlier, last, ended, finishes⟩ := ends
  have front : (before ++ core ++ after).dropWhile isBlank = core ++ after := by
    rw [List.append_assoc, List.dropWhile_append_of_pos, begun, List.cons_append,
      List.dropWhile_cons_of_neg (by simp [begins])]
    exact fun character member => blank character (List.mem_append_left after member)
  have back : (core ++ after).reverse.dropWhile isBlank = core.reverse := by
    rw [List.reverse_append, List.dropWhile_append_of_pos, ended, List.reverse_concat,
      List.dropWhile_cons_of_neg (by simp [finishes])]
    intro character member
    exact blank character (List.mem_append_right before (List.mem_reverse.mp member))
  rw [trimBlanks, front, back, List.reverse_reverse]

/-- What is taken off both ends of a text is blank. -/
theorem exists_trimBlanks (text : List Char) :
    ∃ before after,
      text = before ++ trimBlanks text ++ after ∧
        ∀ character ∈ before ++ after, isBlank character = true := by
  let kept := text.dropWhile isBlank
  refine ⟨text.takeWhile isBlank, (kept.reverse.takeWhile isBlank).reverse, ?_, ?_⟩
  · rw [trimBlanks, List.append_assoc, ← List.reverse_append, List.takeWhile_append_dropWhile,
      List.reverse_reverse, List.takeWhile_append_dropWhile]
  · intro character member
    rcases List.mem_append.mp member with front | back
    · exact List.all_eq_true.mp List.all_takeWhile character front
    · exact List.all_eq_true.mp List.all_takeWhile character (List.mem_reverse.mp back)

/-- What follows a sign: it begins and ends with neither a blank nor a sign. -/
structure Unsigned (numeral : List Char) : Prop where
  starts : ∃ first rest, numeral = first :: rest ∧ IsSolid first
  ends : ∃ earlier last, numeral = earlier ++ [last] ∧ IsSolid last

theorem DigitRun.unsigned
    {digit? : Char -> Option Nat}
    (solid : ∀ character digit, digit? character = some digit -> IsSolid character)
    (run : DigitRun digit? numeral digits) :
    Unsigned numeral where
  starts := by
    obtain ⟨first, rest, digit, parts, value⟩ := run.exists_cons
    exact ⟨first, rest, parts, solid first digit value⟩
  ends := by
    obtain ⟨earlier, last, digit, parts, value⟩ := run.exists_concat
    exact ⟨earlier, last, parts, solid last digit value⟩

/-- A sign is taken off what follows it. -/
theorem takeSign_of_unsigned (signs : SpellsSign sign negative) (unsigned : Unsigned numeral) :
    takeSign ((sign ++ numeral).map plainDigit) = (negative, numeral.map plainDigit) := by
  cases signs with
  | minus => rfl
  | plus => rfl
  | none =>
      obtain ⟨first, rest, rfl, _, notMinus, notPlus⟩ := unsigned.starts
      rw [List.nil_append, List.map_cons, takeSign]
      · intro _ starts
        exact notMinus ((plainDigit_eq_iff (by decide)).mp (List.cons.inj starts).1)
      · intro _ starts
        exact notPlus ((plainDigit_eq_iff (by decide)).mp (List.cons.inj starts).1)

theorem trimBlanks_of_unsigned
    (blank : ∀ character ∈ before ++ after, isBlank character = true)
    (signs : SpellsSign sign negative)
    (unsigned : Unsigned numeral) :
    trimBlanks (before ++ sign ++ numeral ++ after) = sign ++ numeral := by
  rw [List.append_assoc before]
  apply trimBlanks_append blank
  · obtain ⟨first, rest, rfl, solid⟩ := unsigned.starts
    cases signs with
    | plus | minus => exact ⟨_, _, rfl, by decide⟩
    | none => exact ⟨first, rest, rfl, solid.1⟩
  · obtain ⟨earlier, last, rfl, solid⟩ := unsigned.ends
    exact ⟨sign ++ earlier, last, (List.append_assoc sign earlier [last]).symm, solid.1⟩

variable {whole : String} {read : List Char}

/-- The sign and what follows it are what is left of a text without its blanks. -/
theorem takeSign_numberText
    (parts : whole.toList = before ++ sign ++ numeral ++ after)
    (blank : ∀ character ∈ before ++ after, isBlank character = true)
    (signs : SpellsSign sign negative)
    (unsigned : Unsigned numeral) :
    takeSign (numberText whole) = (negative, numeral.map plainDigit) := by
  rw [numberText, parts, trimBlanks_of_unsigned blank signs unsigned,
    takeSign_of_unsigned signs unsigned]

/-- What is left of a text without its blanks is a sign and what follows it. -/
theorem exists_of_takeSign_numberText (taken : takeSign (numberText whole) = (negative, read)) :
    ∃ before sign numeral after,
      whole.toList = before ++ sign ++ numeral ++ after ∧
        (∀ character ∈ before ++ after, isBlank character = true) ∧
        SpellsSign sign negative ∧
        read = numeral.map plainDigit := by
  obtain ⟨before, after, parts, blank⟩ := exists_trimBlanks whole.toList
  obtain ⟨sign, numeral, core, signs, follows⟩ := takeSign_map_plainDigit_eq taken
  refine ⟨before, sign, numeral, after, ?_, blank, signs, follows⟩
  rw [List.append_assoc before, ← core, ← parts]

/-! ## Numbers -/

theorem SpellsDigits.unsigned (spelled : SpellsDigits numeral digits) : Unsigned numeral :=
  (spellsDigits_iff.mp spelled).unsigned fun _ _ => isSolid_of_decimalDigit

/-- A text is read as a number exactly where it spells the number. -/
theorem decimal?_eq_some_iff {text : String} {number : Int} :
    decimal? text = some number ↔ Spells text number := by
  constructor
  · intro found
    unfold decimal? at found
    cases taken : takeSign (numberText text) with
    | mk negative read =>
        obtain ⟨before, sign, numeral, after, parts, blank, signs, rfl⟩ :=
          exists_of_takeSign_numberText taken
        simp only [taken] at found
        split at found
        · contradiction
        · rename_i digits spelled
          split at found
          · rename_i short
            cases found
            exact ⟨before, sign, numeral, after, negative, digits, parts, blank, signs,
              digitsIn?_map_plainDigit.mp spelled, short, rfl⟩
          · contradiction
  · rintro ⟨before, sign, numeral, after, negative, digits, parts, blank, signs, spelled, short,
      rfl⟩
    rw [decimal?, takeSign_numberText parts blank signs spelled.unsigned]
    simp only [digitsIn?_map_plainDigit.mpr spelled, short, if_true]

end Text
end Chip8
