import Chip8.Text.Numeral

/-!
# Runs of digits

The digits of a number stand next to each other, one character for each, and a
single underscore may come between two of them. A function tells which digit a
character is, so the runs of every base and of every script are told alike. In
each base reading accepts just the runs of its digits.
-/

namespace Chip8
namespace Text

/-- Text is a run of digits, with at most one underscore between two of them. -/
inductive DigitRun (digit? : Char -> Option Nat) : List Char -> List Nat -> Prop
  | last {character : Char} {digit : Nat}
      (value : digit? character = some digit) :
      DigitRun digit? [character] [digit]
  | next {character : Char} {digit : Nat} {text : List Char} {digits : List Nat}
      (value : digit? character = some digit)
      (rest : DigitRun digit? text digits) :
      DigitRun digit? (character :: text) (digit :: digits)
  | apart {character : Char} {digit : Nat} {text : List Char} {digits : List Nat}
      (value : digit? character = some digit)
      (rest : DigitRun digit? text digits) :
      DigitRun digit? (character :: '_' :: text) (digit :: digits)

namespace DigitRun

variable {digit? plain? : Char -> Option Nat} {text : List Char} {digits : List Nat}

/-- A run begins with a digit. -/
theorem exists_cons (run : DigitRun digit? text digits) :
    ∃ first rest digit, text = first :: rest ∧ digit? first = some digit := by
  cases run with
  | last value | next value | apart value => exact ⟨_, _, _, rfl, value⟩

/-- A run ends with a digit. -/
theorem exists_concat (run : DigitRun digit? text digits) :
    ∃ earlier last digit, text = earlier ++ [last] ∧ digit? last = some digit := by
  induction run with
  | last value => exact ⟨[], _, _, rfl, value⟩
  | next _ _ hypothesis =>
      obtain ⟨earlier, last, digit, rfl, value⟩ := hypothesis
      exact ⟨_ :: earlier, last, digit, rfl, value⟩
  | apart _ _ hypothesis =>
      obtain ⟨earlier, last, digit, rfl, value⟩ := hypothesis
      exact ⟨_ :: '_' :: earlier, last, digit, rfl, value⟩

/-- No character holds more than one digit. -/
theorem length_le (run : DigitRun digit? text digits) : digits.length ≤ text.length := by
  induction run with
  | last => exact Nat.le_refl 1
  | next _ _ hypothesis => exact Nat.succ_le_succ hypothesis
  | apart _ _ hypothesis => exact Nat.le_succ_of_le (Nat.succ_le_succ hypothesis)

theorem forall_digits
    {holds : Nat -> Prop}
    (every : ∀ character digit, digit? character = some digit -> holds digit)
    (run : DigitRun digit? text digits) :
    ∀ digit ∈ digits, holds digit := by
  induction run with
  | last value => simpa using every _ _ value
  | next value _ hypothesis | apart value _ hypothesis =>
      exact List.forall_mem_cons.mpr ⟨every _ _ value, hypothesis⟩

/-- Digits that stand one next to the other are a run. -/
theorem of_map_eq
    (filled : text ≠ [])
    (values : text.map digit? = digits.map some) :
    DigitRun digit? text digits := by
  induction text generalizing digits with
  | nil => contradiction
  | cons character rest hypothesis =>
      obtain ⟨digit, others, rfl, value, follow⟩ := List.map_eq_cons_iff.mp values.symm
      cases rest with
      | nil =>
          rw [List.map_eq_nil_iff.mp follow]
          exact .last value.symm
      | cons => exact .next value.symm (hypothesis (List.cons_ne_nil _ _) follow.symm)

/-- A run stays one when its characters are changed into digits of the same value. -/
theorem map_iff
    {change : Char -> Char}
    (same : ∀ character, plain? (change character) = digit? character)
    (mark : ∀ character, change character = '_' ↔ character = '_') :
    DigitRun plain? (text.map change) digits ↔ DigitRun digit? text digits := by
  constructor
  · intro run
    generalize changed : text.map change = read at run
    induction run generalizing text with
    | last value =>
        obtain ⟨first, rest, rfl, rfl, empty⟩ := List.map_eq_cons_iff.mp changed
        rw [List.map_eq_nil_iff.mp empty]
        exact .last ((same first).symm.trans value)
    | next value _ hypothesis =>
        obtain ⟨first, rest, rfl, rfl, follows⟩ := List.map_eq_cons_iff.mp changed
        exact .next ((same first).symm.trans value) (hypothesis follows)
    | apart value _ hypothesis =>
        obtain ⟨first, marked, rfl, rfl, follow⟩ := List.map_eq_cons_iff.mp changed
        obtain ⟨second, rest, rfl, underscore, follows⟩ := List.map_eq_cons_iff.mp follow
        obtain rfl := (mark second).mp underscore
        exact .apart ((same first).symm.trans value) (hypothesis follows)
  · intro run
    induction run with
    | last value => exact .last ((same _).trans value)
    | next value _ hypothesis => exact .next ((same _).trans value) hypothesis
    | apart value _ hypothesis =>
        rw [List.map_cons, List.map_cons, (mark '_').mpr rfl]
        exact .apart ((same _).trans value) hypothesis

end DigitRun

variable {base : Nat} {text : List Char} {digits : List Nat}

theorem digitIn?_underscore (base : Nat) : digitIn? base '_' = none := rfl

/-- Digits are read just where they are a run in their base. -/
theorem digitsIn?_eq_some_iff :
    digitsIn? base text = some digits ↔ DigitRun (digitIn? base) text digits := by
  constructor
  · intro found
    fun_induction digitsIn? base text generalizing digits with
    | case1 | case4 | case6 => contradiction
    | case2 character =>
        obtain ⟨digit, value, rfl⟩ := Option.map_eq_some_iff.mp found
        exact .last value
    | case3 character rest digit digits read value hypothesis =>
        cases found
        exact .apart value (hypothesis read)
    | case5 character rest notLast notApart digit digits read value hypothesis =>
        cases found
        exact .next value (hypothesis read)
  · intro run
    induction run with
    | last value => simp [digitsIn?, value]
    | apart value _ hypothesis => simp [digitsIn?, value, hypothesis]
    | next value rest hypothesis =>
        obtain ⟨first, following, digit, rfl, begins⟩ := rest.exists_cons
        have digital : first ≠ '_' := by
          rintro rfl
          rw [digitIn?_underscore] at begins
          contradiction
        simp [digitsIn?, value, digital, hypothesis]

end Text
end Chip8
