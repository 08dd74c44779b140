import Chip8.Proofs.Text.Hex

/-!
# Texts told by their parts

A text that was put together can be taken apart where it can be told where each
part ends: before the first separator, or where a slot is full. A slot is a place
for a hexadecimal number in a text: a label, and a width that does not depend on
the number. Numbers that fit their slots can be read off the text that they leave,
and so can decimal numerals that a blank ends.
-/

namespace Chip8
namespace Text

/-- Two texts that go on with the same separator, or end, where it first comes up are the same up to
there and from there on. -/
theorem eq_of_append_eq_append
    {separator : Char}
    {left right after other : List Char}
    (leftFree : separator ∉ left)
    (rightFree : separator ∉ right)
    (afterStarts : after = [] ∨ ∃ rest, after = separator :: rest)
    (otherStarts : other = [] ∨ ∃ rest, other = separator :: rest)
    (same : left ++ after = right ++ other) :
    left = right ∧ after = other := by
  have cut : ∀ {text follow : List Char}, separator ∉ text ->
      (follow = [] ∨ ∃ rest, follow = separator :: rest) ->
      (text ++ follow).takeWhile (· != separator) = text := by
    intro text follow free starts
    rw [List.takeWhile_append_of_pos]
    · rcases starts with rfl | ⟨rest, rfl⟩ <;> simp
    · intro character member
      simp only [bne_iff_ne, ne_eq]
      rintro rfl
      exact free member
  have first : left = right := by
    rw [← cut leftFree afterStarts, ← cut rightFree otherStarts, same]
  rw [first] at same
  exact ⟨first, List.append_cancel_left same⟩

/-- A blank ends a decimal numeral. -/
theorem blank_notMem_toDigits (number : Nat) : ' ' ∉ Nat.toDigits 10 number := by
  intro member
  have digit := Nat.isDigit_of_mem_toDigits (by decide) (by decide) member
  contradiction

/-- A number is told by its decimal numeral. -/
theorem eq_of_toDigits_eq
    {number other : Nat}
    (same : Nat.toDigits 10 number = Nat.toDigits 10 other) :
    number = other := by
  rw [← Nat.ofDigitChars_ten_toDigits (n := number), same, Nat.ofDigitChars_ten_toDigits]

/-- A place for a hexadecimal number in a text: a label, and a width. -/
structure Slot where
  label : List Char
  width : Nat

namespace Slot

/-- A slot with a number in it. -/
def text (slot : Slot) (value : Int) : List Char :=
  slot.label ++ hexField slot.width value

/-- Slots with their numbers, one after the other. -/
def listing (entries : List (Slot × Int)) : List Char :=
  entries.flatMap fun (slot, value) => slot.text value

@[simp] theorem listing_nil : listing [] = [] := rfl

@[simp] theorem listing_cons (slot : Slot) (value : Int) (entries : List (Slot × Int)) :
    listing ((slot, value) :: entries) = slot.text value ++ listing entries := rfl

@[simp] theorem listing_append (entries more : List (Slot × Int)) :
    listing (entries ++ more) = listing entries ++ listing more :=
  List.flatMap_append

/-- A number that is not below zero, and has no more digits than the slot is wide. -/
structure Fits (slot : Slot) (value : Int) : Prop where
  nonnegative : 0 ≤ value
  narrow : (hexDigits value.toNat).length ≤ slot.width

variable {slot : Slot} {value other : Int} {rest further : List Char}

theorem Fits.of_lt
    {label : List Char}
    {width : Nat}
    (wide : 0 < width)
    (nonnegative : 0 ≤ value)
    (small : value < (Nat.pow 16 width : Nat)) :
    Fits ⟨label, width⟩ value :=
  ⟨nonnegative, (Nat.length_toDigits_le_iff (by decide) wide).mpr
    ((Int.toNat_lt nonnegative).mpr small)⟩

theorem Fits.length_hexField (fits : slot.Fits value) :
    (hexField slot.width value).length = slot.width := by
  rw [← Int.toNat_of_nonneg fits.nonnegative]
  exact Text.length_hexField fits.narrow

theorem Fits.hexValue_hexField (fits : slot.Fits value) :
    (hexValue (hexField slot.width value) : Int) = value := by
  rw [← Int.toNat_of_nonneg fits.nonnegative, Text.hexValue_hexField]

/-- A number that fits is told by the text of its slot, and so is where that text ends. -/
theorem eq_of_text_append_eq
    (fits : slot.Fits value)
    (fitsOther : slot.Fits other)
    (same : slot.text value ++ rest = slot.text other ++ further) :
    value = other ∧ rest = further := by
  simp only [text, List.append_assoc, List.append_cancel_left_eq] at same
  obtain ⟨written, ended⟩ := List.append_inj same
    (fits.length_hexField.trans fitsOther.length_hexField.symm)
  rw [← fits.hexValue_hexField, ← fitsOther.hexValue_hexField, written]
  exact ⟨rfl, ended⟩

/-- Numbers that fit are told by the text of known slots. -/
theorem eq_of_listing_append_eq
    {entries others : List (Slot × Int)}
    (slots : entries.map Prod.fst = others.map Prod.fst)
    (fits : ∀ entry ∈ entries, entry.1.Fits entry.2)
    (fitsOther : ∀ entry ∈ others, entry.1.Fits entry.2)
    (same : listing entries ++ rest = listing others ++ further) :
    entries = others ∧ rest = further := by
  induction entries generalizing others with
  | nil =>
      cases List.map_eq_nil_iff.mp slots.symm
      exact ⟨rfl, same⟩
  | cons entry entries hypothesis =>
      obtain ⟨⟨_, other⟩, others, rfl, rfl, later⟩ := List.map_eq_cons_iff.mp slots.symm
      obtain ⟨slot, value⟩ := entry
      simp only [List.forall_mem_cons] at fits fitsOther
      simp only [listing_cons, List.append_assoc] at same
      obtain ⟨rfl, remaining⟩ := eq_of_text_append_eq fits.1 fitsOther.1 same
      obtain ⟨rfl, ended⟩ := hypothesis later.symm fits.2 fitsOther.2 remaining
      exact ⟨rfl, ended⟩

/-- Numbers that fit are told by the text of one slot over and over, however many they are. -/
theorem eq_of_column_eq
    {values others : List Int}
    (labelled : slot.label ≠ [])
    (fits : ∀ value ∈ values, slot.Fits value)
    (fitsOther : ∀ value ∈ others, slot.Fits value)
    (same : listing (values.map (slot, ·)) = listing (others.map (slot, ·))) :
    values = others := by
  induction values generalizing others with
  | nil =>
      cases others with
      | nil => rfl
      | cons other others => simp [text, labelled] at same
  | cons value values hypothesis =>
      cases others with
      | nil => simp [text, labelled] at same
      | cons other others =>
          simp only [List.forall_mem_cons] at fits fitsOther
          simp only [List.map_cons, listing_cons] at same
          obtain ⟨rfl, later⟩ := eq_of_text_append_eq fits.1 fitsOther.1 same
          rw [hypothesis fits.2 fitsOther.2 later]

end Slot
end Text
end Chip8
