import Chip8.Picture
import Chip8.Proofs.Text.Hexadecimal

/-!
# What palettes are read

A palette is read where each of its one or two pieces is six characters long and
spells a hexadecimal number. The first number is the background, the second, if
there is one, the foreground, and what is not given keeps its standard colour. Six
hexadecimal digits always do, and their pairs are the components of the colour. A
number may also be spelled in six characters that are not all digits; a component
leaves its range just where it is spelled with a minus sign. What is not read is
refused before the window is opened.
-/

namespace Chip8

/-- Whether a fault is reported as one of a picture. -/
def Fault.reportsPicture : Fault -> Bool
  | scaleTooSmall | paletteTooLong | colourLength | colourNotHex => true
  | _ => false

/-- The components of a colour are such as a window can show. -/
structure Colour.InRange (colour : Colour) : Prop where
  red : 0 ≤ colour.red ∧ colour.red ≤ 255
  green : 0 ≤ colour.green ∧ colour.green ≤ 255
  blue : 0 ≤ colour.blue ∧ colour.blue ≤ 255

/-- Both colours of a palette are such as a window can show. -/
structure Palette.InRange (palette : Palette) : Prop where
  background : palette.background.InRange
  foreground : palette.foreground.InRange

/-- Six digits stand for a number of no more than 24 bits. -/
theorem Text.numberOf_lt_of_length_le_six
    {digits : List Nat}
    (short : digits.length ≤ 6)
    (small : ∀ digit ∈ digits, digit < 16) :
    numberOf 16 digits < 0x1000000 := by
  -- What was read before the digits counts as often as they leave places for it.
  have bounded : ∀ (digits : List Nat) (value : Nat), (∀ digit ∈ digits, digit < 16) ->
      digits.foldl (fun value digit => value * 16 + digit) value <
        (value + 1) * 16 ^ digits.length := by
    intro digits
    induction digits with
    | nil => simp
    | cons digit rest hypothesis =>
        intro value small
        obtain ⟨first, others⟩ := List.forall_mem_cons.mp small
        have next : value * 16 + digit + 1 ≤ (value + 1) * 16 := by omega
        have room := Nat.mul_le_mul_right (16 ^ rest.length) next
        rw [List.length_cons, Nat.pow_succ, Nat.mul_comm (16 ^ rest.length), ← Nat.mul_assoc]
        exact Nat.lt_of_lt_of_le (hypothesis (value * 16 + digit) others) room
  have powers : 16 ^ digits.length ≤ 16 ^ 6 := Nat.pow_le_pow_right (by decide) short
  have below := bounded digits 0 small
  rw [Nat.zero_add, Nat.one_mul] at below
  exact Nat.lt_of_lt_of_le below powers

namespace Palette

/-- A piece names a colour: six characters spell its number. -/
def Names (piece : String) (colour : Colour) : Prop :=
  piece.length = 6 ∧ ∃ number, Text.SpellsHex piece number ∧ colour = .ofNumber number

/-- A piece is made of six hexadecimal digits, two for each component of a colour. -/
def Digits (piece : String) (colour : Colour) : Prop :=
  ∃ red red' green green' blue blue' : Nat,
    piece.toList.map Text.hexDigit? =
        [red, red', green, green', blue, blue'].map some ∧
      colour = {
        red := 16 * red + red'
        green := 16 * green + green'
        blue := 16 * blue + blue' }

/-- Pieces tell the colours of a palette, each in the same way: the background, or the background and
the foreground. -/
inductive ToldBy (tells : String -> Colour -> Prop) : List String -> Palette -> Prop
  | background {piece : String} {background : Colour}
      (told : tells piece background) :
      ToldBy tells [piece] { standard with background }
  | both {back fore : String} {background foreground : Colour}
      (toldBack : tells back background)
      (toldFore : tells fore foreground) :
      ToldBy tells [back, fore] { background, foreground }

variable {piece text : String} {pieces : List String} {colour : Colour} {palette : Palette}
  {fault : Fault}

/-! ## Reading a palette -/

theorem readColour_eq_ok_iff : readColour piece = .ok colour ↔ Names piece colour := by
  unfold readColour Names
  split
  · rename_i long
    simp [long]
  · rename_i six
    simp only [Decidable.not_not.mp six, true_and, ← Text.hexadecimal?_eq_some_iff]
    cases Text.hexadecimal? piece <;> simp [eq_comm]

theorem reportsPicture_of_readColour (refused : readColour piece = .error fault) :
    fault.reportsPicture = true := by
  unfold readColour at refused
  split at refused
  · cases refused
    rfl
  · split at refused <;> cases refused
    rfl

/-- Pieces that name their colours are read so. -/
theorem readPieces_of_told (told : ToldBy Names pieces palette) :
    readPieces pieces = .ok palette := by
  cases told with
  | background told => simp [readPieces, readColour_eq_ok_iff.mpr told, Except.map]
  | both toldBack toldFore =>
      simp [readPieces, readColour_eq_ok_iff.mpr toldBack, readColour_eq_ok_iff.mpr toldFore,
        Except.map]

/-- Pieces name their colours, or they are refused as no pieces of a picture's palette. -/
theorem readPieces_cases (filled : pieces ≠ []) :
    (∃ palette, readPieces pieces = .ok palette ∧ ToldBy Names pieces palette) ∨
      ∃ fault, readPieces pieces = .error fault ∧ fault.reportsPicture = true := by
  unfold readPieces
  split
  · contradiction
  · rename_i back
    cases first : readColour back with
    | error fault => exact .inr ⟨fault, rfl, reportsPicture_of_readColour first⟩
    | ok background => exact .inl ⟨_, rfl, .background (readColour_eq_ok_iff.mp first)⟩
  · rename_i back fore
    cases first : readColour back with
    | error fault => exact .inr ⟨fault, rfl, reportsPicture_of_readColour first⟩
    | ok background =>
        cases second : readColour fore with
        | error fault => exact .inr ⟨fault, rfl, reportsPicture_of_readColour second⟩
        | ok foreground =>
            exact .inl ⟨_, rfl,
              .both (readColour_eq_ok_iff.mp first) (readColour_eq_ok_iff.mp second)⟩
  · exact .inr ⟨.paletteTooLong, rfl, rfl⟩

theorem read_cases (text : String) :
    (∃ palette, read text = .ok palette ∧ ToldBy Names (Text.pieces ',' text) palette) ∨
      ∃ fault, read text = .error fault ∧ fault.reportsPicture = true := by
  apply readPieces_cases
  simp [Text.pieces, List.splitOn_ne_nil]

/-! ## Components -/

/-- A number is the sum of the components of its colour; all but the first are in their range. -/
theorem ofNumber_components (number : Int) :
    let colour := Colour.ofNumber number
    number = colour.red * 0x10000 + colour.green * 0x100 + colour.blue ∧
      (0 ≤ colour.green ∧ colour.green ≤ 255) ∧
      (0 ≤ colour.blue ∧ colour.blue ≤ 255) := by
  dsimp only [Colour.ofNumber]
  omega

/-- Six characters spell no number of more than 24 bits. -/
theorem lt_of_spellsHex
    {number : Int}
    (six : piece.length = 6)
    (spelled : Text.SpellsHex piece number) :
    number < 0x1000000 := by
  obtain ⟨before, sign, mark, numeral, after, negative, digits, parts, -, -, -, run, rfl⟩ := spelled
  have long := congrArg List.length parts
  simp only [String.length_toList, six, List.length_append] at long
  have short := run.length_le
  have small := Text.numberOf_lt_of_length_le_six (by omega)
    (run.forall_digits fun _ _ => Text.lt_sixteen_of_hexDigit)
  unfold Text.signed
  split <;> omega

/-- The components of a colour are in their range unless its number is spelled with a minus sign. -/
theorem inRange_ofNumber_iff
    {number : Int}
    (six : piece.length = 6)
    (spelled : Text.SpellsHex piece number) :
    (Colour.ofNumber number).InRange ↔ 0 ≤ number := by
  have bound := lt_of_spellsHex six spelled
  obtain ⟨sum, green, blue⟩ := ofNumber_components number
  constructor
  · intro inRange
    have red := inRange.red
    omega
  · intro nonnegative
    exact ⟨by omega, green, blue⟩

/-- A named colour is in its range unless its number is spelled with a minus sign. -/
theorem Names.inRange_iff (names : Names piece colour) :
    colour.InRange ↔ ∀ number, Text.SpellsHex piece number -> 0 ≤ number := by
  obtain ⟨six, number, spelled, rfl⟩ := names
  rw [inRange_ofNumber_iff six spelled]
  constructor
  · intro nonnegative other spells
    exact spelled.unique spells ▸ nonnegative
  · intro every
    exact every number spelled

/-- Six hexadecimal digits spell the number of the colour whose components their pairs are. -/
theorem Digits.spells (digits : Digits piece colour) :
    piece.length = 6 ∧
      ∃ number : Nat, Text.SpellsHex piece number ∧ colour = .ofNumber number := by
  obtain ⟨red, red', green, green', blue, blue', values, rfl⟩ := digits
  have long := congrArg List.length values
  simp only [List.length_map, String.length_toList] at long
  have filled : piece.toList ≠ [] := by
    intro empty
    simp [empty] at values
  have run := Text.DigitRun.of_map_eq filled values
  have small := run.forall_digits fun _ _ => Text.lt_sixteen_of_hexDigit
  refine ⟨long, _, ⟨[], [], [], piece.toList, [], false, _, ?_, ?_, .none, .none, run, rfl⟩, ?_⟩
  · simp
  · simp
  · simp only [List.forall_mem_cons] at small
    simp only [Text.numberOf, List.foldl_cons, List.foldl_nil, Colour.ofNumber, Colour.mk.injEq]
    omega

theorem Digits.names (digits : Digits piece colour) : Names piece colour := by
  obtain ⟨six, number, spelled, rfl⟩ := digits.spells
  exact ⟨six, number, spelled, rfl⟩

theorem Digits.inRange (digits : Digits piece colour) : colour.InRange := by
  obtain ⟨six, number, spelled, rfl⟩ := digits.spells
  exact (inRange_ofNumber_iff six spelled).mpr (Int.natCast_nonneg number)

/-! ## Palettes in a window -/

theorem inRange_standard : standard.InRange :=
  ⟨⟨by decide, by decide, by decide⟩, ⟨by decide, by decide, by decide⟩⟩

namespace ToldBy

variable {tells others : String -> Colour -> Prop}

theorem mono
    (weaker : ∀ piece colour, tells piece colour -> others piece colour)
    (told : ToldBy tells pieces palette) :
    ToldBy others pieces palette := by
  cases told with
  | background told => exact .background (weaker _ _ told)
  | both toldBack toldFore => exact .both (weaker _ _ toldBack) (weaker _ _ toldFore)

/-- The colours of a palette are in their range where that of each piece is. -/
theorem inRange_iff
    {fits : String -> Prop}
    (each : ∀ piece colour, tells piece colour -> (colour.InRange ↔ fits piece))
    (told : ToldBy tells pieces palette) :
    palette.InRange ↔ ∀ piece ∈ pieces, fits piece := by
  cases told with
  | background told =>
      rw [List.forall_mem_singleton, ← each _ _ told]
      exact ⟨fun inRange => inRange.background, fun back => ⟨back, inRange_standard.foreground⟩⟩
  | both toldBack toldFore =>
      rw [List.forall_mem_cons, List.forall_mem_singleton, ← each _ _ toldBack,
        ← each _ _ toldFore]
      exact ⟨fun inRange => ⟨inRange.background, inRange.foreground⟩,
        fun ⟨back, fore⟩ => ⟨back, fore⟩⟩

end ToldBy
end Palette

namespace Picture

open Palette (ToldBy Names Digits)

/-- The picture in a window that was just opened. -/
def inWindow (size : Nat) (palette : Palette) : Picture where
  surface := .window palette
  scale := size
  title := applicationName

/-- Whatever text is given as a palette, at a scale that a picture can have and on a host that opens
windows. If each of its pieces, one or two, names a colour in six characters, the window is opened
and has the colours that they name, and the standard one for a colour that is not given. Otherwise
no call is made and the fault is reported as one of the picture. Pieces of six hexadecimal digits
are accepted always, and the pairs of their digits are the components of the colours, which are in
their range. Of the other pieces that are accepted just those with a minus sign before a number that
is not zero make a colour that is not. -/
theorem window_shows_palette
    {host : Host}
    {scale : Choice Int}
    {size : Nat}
    (sized : checkScale 10 scale = .ok size)
    (accepts : ∀ call ∈ windowPlan size, host.refuses call = false)
    (text : String) :
    let opening := openWindow host scale (.value text)
    let pieces := Text.pieces ',' text
    ((∃ fault, opening = .refused fault ∧ fault.reportsPicture = true ∧
        ∀ palette, ¬ToldBy Names pieces palette) ∨
      ∃ palette,
        opening = ⟨windowPlan size, .ok (inWindow size palette)⟩ ∧
        ToldBy Names pieces palette ∧
        (palette.InRange ↔
          ∀ piece ∈ pieces, ∀ number, Text.SpellsHex piece number -> 0 ≤ number)) ∧
    ∀ palette, ToldBy Digits pieces palette ->
      opening = ⟨windowPlan size, .ok (inWindow size palette)⟩ ∧ palette.InRange := by
  intro opening pieces
  have opens : ∀ palette, ToldBy Names pieces palette ->
      opening = ⟨windowPlan size, .ok (inWindow size palette)⟩ := by
    intro palette told
    have reads : Palette.read text = .ok palette := Palette.readPieces_of_told told
    simp only [opening, openWindow, windowPalette, reads, sized, inWindow]
    exact Host.openWith_of_accepts accepts _
  constructor
  · rcases Palette.read_cases text with ⟨palette, -, told⟩ | ⟨fault, refused, reports⟩
    · exact .inr ⟨palette, opens palette told, told,
        told.inRange_iff fun _ _ => Palette.Names.inRange_iff⟩
    · refine .inl ⟨fault, ?_, reports, ?_⟩
      · simp only [opening, openWindow, windowPalette, refused]
      · intro palette told
        have reads : Palette.read text = .ok palette := Palette.readPieces_of_told told
        rw [reads] at refused
        contradiction
  · intro palette told
    refine ⟨opens palette (told.mono fun _ _ => Palette.Digits.names), ?_⟩
    have every := told.inRange_iff fun _ _ digits => iff_true_intro digits.inRange
    exact every.mpr fun _ _ => trivial

/-- An orange background. -/
theorem window_shows_palette_orange :
    openWindow {} .unset (.value "ff8000") =
        ⟨windowPlan 10, .ok (inWindow 10 { Palette.standard with background := ⟨255, 128, 0⟩ })⟩ ∧
      Palette.InRange { Palette.standard with background := ⟨255, 128, 0⟩ } := by
  have sized : checkScale 10 .unset = .ok 10 := rfl
  have told : ToldBy Digits (Text.pieces ',' "ff8000")
      { Palette.standard with background := ⟨255, 128, 0⟩ } :=
    .background ⟨15, 15, 8, 0, 0, 0, by decide +kernel, rfl⟩
  exact (window_shows_palette sized (fun _ _ => rfl) "ff8000").2 _ told

/-- A minus sign and five digits are no six digits, and make a colour that no window can show. -/
theorem not_inRange_of_minus :
    ¬∀ (host : Host) (scale : Choice Int) (size : Nat),
      checkScale 10 scale = .ok size ->
      (∀ call ∈ windowPlan size, host.refuses call = false) ->
      ∀ text,
        let opening := openWindow host scale (.value text)
        (∃ fault, opening = .refused fault ∧ fault.reportsPicture = true) ∨
        ∃ palette,
          opening.outcome = .ok (inWindow size palette) ∧
          palette.InRange ∧
          ToldBy Digits (Text.pieces ',' text) palette := by
  intro every
  have opened : (openWindow {} .unset (.value "-00001")).outcome =
      .ok (inWindow 10 { Palette.standard with background := ⟨-1, 255, 255⟩ }) := rfl
  rcases every {} .unset 10 rfl (fun _ _ => rfl) "-00001" with
    ⟨fault, refused, -⟩ | ⟨palette, shown, inRange, -⟩
  · rw [refused] at opened
    contradiction
  · have same : palette = { Palette.standard with background := ⟨-1, 255, 255⟩ } := by
      simpa [inWindow] using shown.symm.trans opened
    exact absurd (same ▸ inRange.background.red.1) (by decide)

end Picture
end Chip8
