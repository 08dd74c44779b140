/-!
# Instruction words

An instruction word is sixteen bits wide and is read as four nibbles. The first
names its family; the rest are operands, read one by one or together as a byte
or an address.
-/

namespace Chip8

/-- Half a byte. -/
abbrev Nibble := Fin 16

/-- One of the sixteen registers `V0` to `VF`. -/
abbrev Register := Fin 16

/-- A location in the machine's memory. -/
abbrev Address := Fin 4096

/-- The address that a number names, counting on from zero past the end of memory. -/
def Address.wrap (value : Int) : Address :=
  ⟨(value % 4096).toNat, by omega⟩

/-- A 16-bit instruction word. -/
structure Opcode where
  family : Nibble
  x : Nibble
  y : Nibble
  n : Nibble
  deriving DecidableEq, Repr

namespace Opcode

/-- The word as a number. -/
def toNat (word : Opcode) : Nat :=
  ((word.family.val * 16 + word.x.val) * 16 + word.y.val) * 16 + word.n.val

/-- The number formed by the last two nibbles. -/
def byteValue (word : Opcode) : Nat :=
  word.y.val * 16 + word.n.val

/-- The operand formed by the last two nibbles. -/
def byte (word : Opcode) : UInt8 :=
  UInt8.ofNat word.byteValue

/-- The operand formed by the last three nibbles. -/
def address (word : Opcode) : Address :=
  ⟨word.x.val * 256 + word.byteValue, by simp only [byteValue]; omega⟩

/-- The word whose number is `value`. -/
def ofNat (value : Nat) : Opcode where
  family := ⟨value / 4096 % 16, by omega⟩
  x := ⟨value / 256 % 16, by omega⟩
  y := ⟨value / 16 % 16, by omega⟩
  n := ⟨value % 16, by omega⟩

/-- The word whose number is `value`, when it is a 16-bit number. -/
def ofInt? (value : Int) : Option Opcode :=
  if 0 ≤ value ∧ value ≤ 0xFFFF then some (ofNat value.toNat) else none

@[simp] theorem toNat_ofNat (value : Nat) : (ofNat value).toNat = value % 65536 := by
  simp only [toNat, ofNat]
  omega

@[simp] theorem ofNat_toNat (word : Opcode) : ofNat word.toNat = word := by
  obtain ⟨⟨family, _⟩, ⟨x, _⟩, ⟨y, _⟩, ⟨n, _⟩⟩ := word
  simp only [ofNat, toNat, mk.injEq, Fin.mk.injEq]
  omega

theorem toNat_lt (word : Opcode) : word.toNat < 65536 := by
  simp only [toNat]
  omega

theorem ofInt?_eq_some_iff {value : Int} {word : Opcode} :
    ofInt? value = some word ↔ value = word.toNat := by
  constructor
  · intro decoded
    unfold ofInt? at decoded
    split at decoded
    · rename_i inRange
      cases decoded
      rw [toNat_ofNat]
      omega
    · contradiction
  · rintro rfl
    have bound := word.toNat_lt
    rw [ofInt?, if_pos (by omega), Int.toNat_natCast, ofNat_toNat]

theorem ofInt?_eq_none_iff {value : Int} :
    ofInt? value = none ↔ value < 0 ∨ 0xFFFF < value := by
  unfold ofInt?
  split <;> simp <;> omega

end Opcode
end Chip8
