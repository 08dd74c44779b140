import Chip8.Choice
import Chip8.Fault
import Chip8.Text.Lowercase
import Chip8.Text.Numeral
import Chip8.Text.Pieces

/-!
# Keymaps

A keymap gives each of the sixteen keys a code of its own, written as sixteen
comma-separated whole numbers. Where codes are characters they are taken in
lower case.
-/

namespace Chip8

/-- One of the sixteen keys. -/
abbrev Key := Fin 16

/-- Values for all keys, with that of one key replaced. -/
def Key.update {α : Type} (key : Key) (value : α) (values : Vector α 16) : Vector α 16 :=
  values.set key.val value key.isLt

@[simp] theorem Key.get_update_same {α : Type} (key : Key) (value : α) (values : Vector α 16) :
    (key.update value values).get key = value := by
  change (values.set key.val value key.isLt)[key.val] = value
  simp

theorem Key.get_update_of_ne
    {α : Type} {key other : Key} (value : α) (values : Vector α 16)
    (distinct : other ≠ key) :
    (key.update value values).get other = values.get other := by
  have apart : key.val ≠ other.val := fun equal => distinct (Fin.ext equal.symm)
  change (values.set key.val value key.isLt)[other.val] = values[other.val]
  simp [apart]

/-- The code of each key. -/
structure Keymap where
  codes : Vector Int 16
  deriving DecidableEq, Repr

/-- The largest code of a character. -/
def largestCharacter : Int := 0x10FFFF

/-- The largest code that can be looked up as a character. -/
def largestCode : Int := 0x7FFFFFFF

/-- The lower case of a character code, when it is a single character. -/
def lowerCode (code : Int) : Except Fault Int :=
  if code < -largestCode - 1 ∨ largestCode < code then .error .codeTooLarge
  else if code < 0 ∨ largestCharacter < code then .error .codeNotACharacter
  else
    match Text.lowercase? code.toNat with
    | some lower => .ok lower
    | none => .error .codeNotOneCharacter

namespace Keymap

/-- The default keymap. -/
def standardText : String := "120,49,50,51,113,119,101,97,115,100,122,99,52,114,102,118"

/-- The code that a piece of a keymap defines. -/
def readCode (lowercase : Bool) (piece : String) : Except Fault Int :=
  match Text.decimal? piece with
  | none => .error .keyNotInteger
  | some code => if lowercase then lowerCode code else .ok code

/-- The codes that pieces define one after the other, none of them defined before. -/
def readCodes (lowercase : Bool) (earlier : List Int) :
    (pieces : List String) -> Except Fault { codes : List Int // codes.length = pieces.length }
  | [] => .ok ⟨[], rfl⟩
  | piece :: rest =>
      match readCode lowercase piece with
      | .error fault => .error fault
      | .ok code =>
          if code ∈ earlier then .error .keyDuplicate
          else
            match readCodes lowercase (code :: earlier) rest with
            | .error fault => .error fault
            | .ok ⟨codes, sized⟩ => .ok ⟨code :: codes, by simp [sized]⟩

/-- The keymap that a text defines. -/
def read (lowercase : Bool) (text : String) : Except Fault Keymap :=
  let pieces := Text.pieces ',' text
  if sixteen : pieces.length = 16 then
    (readCodes lowercase [] pieces).map fun ⟨codes, sized⟩ =>
      ⟨⟨codes.toArray, by simp [sized, sixteen]⟩⟩
  else
    .error .keyCount

/-- The keymap that a text defines, if one is given. -/
def open? (lowercase : Bool) : Choice String -> Except Fault Keymap
  | .value text => read lowercase text
  | _ => .error .keymapMissing

/-- The key that a code stands for. -/
def key? (keymap : Keymap) (code : Int) : Option Key :=
  keymap.codes.finIdxOf? code

/-- Each code with its key, in ascending order of codes. -/
def entries (keymap : Keymap) : List (Int × Nat) :=
  (keymap.codes.toList.zipIdx).mergeSort fun (first, _) (second, _) => first ≤ second

end Keymap
end Chip8
