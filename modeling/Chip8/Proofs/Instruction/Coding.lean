import Chip8.Instruction

/-!
# The words of the instructions

Which words stand for an instruction is read off their nibbles, and the
operands of the instruction are operands of the word. Four families have words
that no instruction claims; these stand for doing nothing. Decoding a word gives
the one instruction for which it stands.
-/

namespace Chip8
namespace Opcode

/-- No instruction claims the word. -/
def Unassigned (word : Opcode) : Prop :=
  (word.family.val = 0x0 ∧ word.toNat ∉ [0x00E0, 0x00EE]) ∨
  (word.family.val = 0x8 ∧ word.n.val ∉ [0x0, 0x1, 0x2, 0x3, 0x4, 0x5, 0x6, 0x7, 0xE]) ∨
  (word.family.val = 0xE ∧ word.byteValue ∉ [0x9E, 0xA1]) ∨
  (word.family.val = 0xF ∧
    word.byteValue ∉ [0x07, 0x0A, 0x15, 0x18, 0x1E, 0x29, 0x33, 0x55, 0x65])

end Opcode

/-- The word stands for the instruction. -/
def Instruction.CodedBy : Instruction -> Opcode -> Prop
  | .clearScreen, word => word.toNat = 0x00E0
  | .ret, word => word.toNat = 0x00EE
  | .jump target, word => word.family.val = 0x1 ∧ target = word.address
  | .call target, word => word.family.val = 0x2 ∧ target = word.address
  | .skipIfByte x byte, word => word.family.val = 0x3 ∧ x = word.x ∧ byte = word.byte
  | .skipUnlessByte x byte, word => word.family.val = 0x4 ∧ x = word.x ∧ byte = word.byte
  | .skipIfSame x y, word => word.family.val = 0x5 ∧ x = word.x ∧ y = word.y
  | .load x byte, word => word.family.val = 0x6 ∧ x = word.x ∧ byte = word.byte
  | .addByte x byte, word => word.family.val = 0x7 ∧ x = word.x ∧ byte = word.byte
  | .copy x y, word => word.family.val = 0x8 ∧ word.n.val = 0x0 ∧ x = word.x ∧ y = word.y
  | .or x y, word => word.family.val = 0x8 ∧ word.n.val = 0x1 ∧ x = word.x ∧ y = word.y
  | .and x y, word => word.family.val = 0x8 ∧ word.n.val = 0x2 ∧ x = word.x ∧ y = word.y
  | .xor x y, word => word.family.val = 0x8 ∧ word.n.val = 0x3 ∧ x = word.x ∧ y = word.y
  | .add x y, word => word.family.val = 0x8 ∧ word.n.val = 0x4 ∧ x = word.x ∧ y = word.y
  | .sub x y, word => word.family.val = 0x8 ∧ word.n.val = 0x5 ∧ x = word.x ∧ y = word.y
  | .shiftRight x, word => word.family.val = 0x8 ∧ word.n.val = 0x6 ∧ x = word.x
  | .subFrom x y, word => word.family.val = 0x8 ∧ word.n.val = 0x7 ∧ x = word.x ∧ y = word.y
  | .shiftLeft x, word => word.family.val = 0x8 ∧ word.n.val = 0xE ∧ x = word.x
  | .skipUnlessSame x y, word => word.family.val = 0x9 ∧ x = word.x ∧ y = word.y
  | .loadIndex address, word => word.family.val = 0xA ∧ address = word.address
  | .jumpFromV0 base, word => word.family.val = 0xB ∧ base = word.address
  | .random x mask, word => word.family.val = 0xC ∧ x = word.x ∧ mask = word.byte
  | .draw x y height, word =>
      word.family.val = 0xD ∧ x = word.x ∧ y = word.y ∧ height = word.n
  | .skipIfKey x, word => word.family.val = 0xE ∧ word.byteValue = 0x9E ∧ x = word.x
  | .skipUnlessKey x, word => word.family.val = 0xE ∧ word.byteValue = 0xA1 ∧ x = word.x
  | .readDelay x, word => word.family.val = 0xF ∧ word.byteValue = 0x07 ∧ x = word.x
  | .awaitKey x, word => word.family.val = 0xF ∧ word.byteValue = 0x0A ∧ x = word.x
  | .setDelay x, word => word.family.val = 0xF ∧ word.byteValue = 0x15 ∧ x = word.x
  | .setSound x, word => word.family.val = 0xF ∧ word.byteValue = 0x18 ∧ x = word.x
  | .addIndex x, word => word.family.val = 0xF ∧ word.byteValue = 0x1E ∧ x = word.x
  | .loadGlyph x, word => word.family.val = 0xF ∧ word.byteValue = 0x29 ∧ x = word.x
  | .storeDecimal x, word => word.family.val = 0xF ∧ word.byteValue = 0x33 ∧ x = word.x
  | .store x, word => word.family.val = 0xF ∧ word.byteValue = 0x55 ∧ x = word.x
  | .restore x, word => word.family.val = 0xF ∧ word.byteValue = 0x65 ∧ x = word.x
  | .nop, word => word.Unassigned

namespace Opcode

variable {word : Opcode} {instruction : Instruction}

theorem codedBy_decodeSystem (family : word.family.val = 0x0) :
    word.decodeSystem.CodedBy word := by
  unfold decodeSystem
  split
  · rename_i clears
    obtain ⟨x, y, n⟩ := clears
    simp only [Instruction.CodedBy, toNat, family, x, y, n]
    rfl
  · rename_i unclear
    split
    · rename_i returns
      obtain ⟨x, y, n⟩ := returns
      simp only [Instruction.CodedBy, toNat, family, x, y, n]
      rfl
    · rename_i unreturned
      refine .inl ⟨family, ?_⟩
      simp only [toNat]
      grind

theorem codedBy_decodeArithmetic (family : word.family.val = 0x8) :
    word.decodeArithmetic.CodedBy word := by
  unfold decodeArithmetic
  split <;> rename_i last
  case h_7 | h_9 => exact ⟨family, congrArg Fin.val last, rfl⟩
  case h_10 =>
    refine .inr (.inl ⟨family, ?_⟩)
    simp only [List.mem_cons, List.not_mem_nil]
    grind
  all_goals exact ⟨family, congrArg Fin.val last, rfl, rfl⟩

theorem codedBy_decodeKey (family : word.family.val = 0xE) :
    word.decodeKey.CodedBy word := by
  unfold decodeKey
  split
  · exact ⟨family, ‹_›, rfl⟩
  · split
    · exact ⟨family, ‹_›, rfl⟩
    · exact .inr (.inr (.inl ⟨family, by simp [*]⟩))

theorem codedBy_decodeDevice (family : word.family.val = 0xF) :
    word.decodeDevice.CodedBy word := by
  unfold decodeDevice
  split <;> rename_i last
  case h_10 =>
    refine .inr (.inr (.inr ⟨family, ?_⟩))
    simp only [List.mem_cons, List.not_mem_nil]
    grind
  all_goals exact ⟨family, last, rfl⟩

/-- A word stands for what it decodes to. -/
theorem codedBy_decode (word : Opcode) : word.decode.CodedBy word := by
  unfold decode
  split <;> rename_i family
  case h_1 => exact codedBy_decodeSystem (congrArg Fin.val family)
  case h_9 => exact codedBy_decodeArithmetic (congrArg Fin.val family)
  case h_15 => exact codedBy_decodeKey (congrArg Fin.val family)
  case h_16 => exact codedBy_decodeDevice (by grind)
  case h_2 | h_3 | h_11 | h_12 => exact ⟨congrArg Fin.val family, rfl⟩
  case h_14 => exact ⟨congrArg Fin.val family, rfl, rfl, rfl⟩
  all_goals exact ⟨congrArg Fin.val family, rfl, rfl⟩

/-- A nibble is named by its value. -/
theorem nibble_eq {nibble : Nibble} {value : Nat} (same : nibble.val = value) :
    nibble = Fin.ofNat 16 value := by
  rw [← same, Fin.ofNat_val_eq_self]

/-- A word that no instruction claims decodes to doing nothing. -/
theorem decode_of_unassigned (unassigned : word.Unassigned) : word.decode = .nop := by
  have coded := codedBy_decode word
  unfold Unassigned toNat at unassigned
  generalize word.decode = decoded at coded ⊢
  cases decoded with
  | nop => rfl
  | clearScreen | ret =>
      simp only [Instruction.CodedBy, toNat] at coded
      simp only [List.mem_cons, List.not_mem_nil, or_false, not_or] at unassigned
      omega
  | _ => simp_all [Instruction.CodedBy]

/-- A word that stands for an instruction decodes to it. -/
theorem decode_eq_of_codedBy (coded : instruction.CodedBy word) : word.decode = instruction := by
  cases instruction with
  | nop => exact decode_of_unassigned coded
  | clearScreen | ret =>
      simp only [Instruction.CodedBy] at coded
      rw [← ofNat_toNat word, coded]
      rfl
  | copy | or | and | xor | add | sub | subFrom =>
      obtain ⟨family, last, rfl, rfl⟩ := coded
      rw [decode, nibble_eq family]
      change word.decodeArithmetic = _
      rw [decodeArithmetic, nibble_eq last]
      rfl
  | shiftRight | shiftLeft =>
      obtain ⟨family, last, rfl⟩ := coded
      rw [decode, nibble_eq family]
      change word.decodeArithmetic = _
      rw [decodeArithmetic, nibble_eq last]
      rfl
  | skipIfKey | skipUnlessKey =>
      obtain ⟨family, last, rfl⟩ := coded
      rw [decode, nibble_eq family]
      change word.decodeKey = _
      rw [decodeKey, last]
      rfl
  | readDelay | awaitKey | setDelay | setSound | addIndex | loadGlyph | storeDecimal | store
  | restore =>
      obtain ⟨family, last, rfl⟩ := coded
      rw [decode, nibble_eq family]
      change word.decodeDevice = _
      rw [decodeDevice, last]
      rfl
  | jump | call | loadIndex | jumpFromV0 =>
      obtain ⟨family, rfl⟩ := coded
      rw [decode, nibble_eq family]
      rfl
  | draw =>
      obtain ⟨family, rfl, rfl, rfl⟩ := coded
      rw [decode, nibble_eq family]
      rfl
  | _ =>
      obtain ⟨family, rfl, rfl⟩ := coded
      rw [decode, nibble_eq family]
      rfl

/-- Decoding a word gives the one instruction for which it stands. -/
theorem decode_eq_iff : word.decode = instruction ↔ instruction.CodedBy word := by
  constructor
  · rintro rfl
    exact codedBy_decode word
  · exact decode_eq_of_codedBy

/-- A return is encoded by one word alone. -/
theorem decode_eq_ret_iff : word.decode = .ret ↔ word.toNat = 0x00EE :=
  decode_eq_iff

end Opcode
end Chip8
