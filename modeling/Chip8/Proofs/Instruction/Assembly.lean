import Chip8.Proofs.Machine.Effects
import Chip8.Proofs.Text.Parts

/-!
# Assembly text tells instructions apart

The assembly text of an instruction is a mnemonic, and after it the operands,
set apart by commas. Mnemonics hold no blank and operands no comma, so the text
can be taken apart again, and mnemonic and operands together leave one
instruction only. Words with one text are therefore carried out alike.
-/

namespace Chip8

/-- An operand of an assembly text. -/
inductive Operand
  | register (x : Register)
  | byte (byte : UInt8)
  | address (address : Address)
  | height (height : Nibble)
  /-- The index register. -/
  | index
  /-- The memory that the index register points at. -/
  | indexed
  | delayTimer
  | soundTimer
  /-- The next key. -/
  | key
  /-- The glyph of a digit. -/
  | glyph
  /-- The decimal digits of a register. -/
  | decimal
  deriving DecidableEq, Repr

namespace Operand

/-- An operand as it is written. -/
def text : Operand -> List Char
  | register x => 'V' :: Text.hexField 1 x.val
  | byte value => '0' :: 'x' :: Text.hexField 2 value.toNat
  | address target => '0' :: 'x' :: Text.hexField 3 target.val
  | height rows => '0' :: 'x' :: Text.hexField 1 rows.val
  | index => ['I']
  | indexed => ['[', 'I', ']']
  | delayTimer => ['D', 'T']
  | soundTimer => ['S', 'T']
  | key => ['K']
  | glyph => ['F']
  | decimal => ['B']

/-- The operand that was written; numbers are told apart by their widths. -/
def ofText : List Char -> Operand
  | 'V' :: digits => register (Opcode.ofNat (Text.hexValue digits)).n
  | '0' :: _ :: digits =>
      match digits.length with
      | 1 => height (Opcode.ofNat (Text.hexValue digits)).n
      | 2 => byte (UInt8.ofNat (Text.hexValue digits))
      | _ => address (Opcode.ofNat (Text.hexValue digits)).address
  | 'I' :: _ => index
  | '[' :: _ => indexed
  | 'D' :: _ => delayTimer
  | 'S' :: _ => soundTimer
  | 'K' :: _ => key
  | 'F' :: _ => glyph
  | _ => decimal

theorem n_ofNat_val (nibble : Nibble) : (Opcode.ofNat nibble.val).n = nibble := by
  apply Fin.ext
  exact Nat.mod_eq_of_lt nibble.isLt

theorem address_ofNat_val (target : Address) : (Opcode.ofNat target.val).address = target := by
  apply Fin.ext
  simp only [Opcode.address, Opcode.byteValue, Opcode.ofNat]
  omega

theorem ofText_text (operand : Operand) : ofText operand.text = operand := by
  have fits : ∀ width value : Nat, 0 < width -> value < 16 ^ width ->
      (Text.hexField width (value : Int)).length = width := by
    intro width value wide small
    exact Text.length_hexField ((Nat.length_toDigits_le_iff (by decide) wide).mpr small)
  cases operand with
  | register x => simp [text, ofText, n_ofNat_val]
  | byte value => simp [text, ofText, fits 2 value.toNat (by decide) value.toNat_lt]
  | address target =>
      simp [text, ofText, fits 3 target.val (by decide) target.isLt, address_ofNat_val]
  | height rows => simp [text, ofText, fits 1 rows.val (by decide) rows.isLt, n_ofNat_val]
  | _ => rfl

/-- No operand is written with a comma. -/
theorem comma_notMem_text (operand : Operand) : ',' ∉ operand.text := by
  have digits : ∀ width value : Nat, ',' ∉ Text.hexField width (value : Int) := by
    intro width value member
    exact (Text.isHexDigit_of_mem_hexField member).ne (by decide) rfl
  cases operand <;> simp [text, digits]

/-- Operands as they are written one after the other. -/
def listing : List Operand -> List Char
  | [] => []
  | first :: rest => ' ' :: first.text ++ rest.flatMap fun operand => ',' :: ' ' :: operand.text

end Operand

namespace Operand

theorem flatMap_starts (operands : List Operand) :
    (operands.flatMap fun operand => ',' :: ' ' :: operand.text) = [] ∨
      ∃ rest, (operands.flatMap fun operand => ',' :: ' ' :: operand.text) = ',' :: rest := by
  cases operands with
  | nil => exact .inl rfl
  | cons first rest => exact .inr ⟨_, rfl⟩

theorem eq_of_flatMap_eq
    {operands others : List Operand}
    (same : (operands.flatMap fun operand => ',' :: ' ' :: operand.text) =
      others.flatMap fun operand => ',' :: ' ' :: operand.text) :
    operands = others := by
  induction operands generalizing others with
  | nil =>
      cases others with
      | nil => rfl
      | cons other others => simp at same
  | cons operand operands hypothesis =>
      cases others with
      | nil => simp at same
      | cons other others =>
          simp only [List.flatMap_cons, List.cons_append, List.cons.injEq, true_and] at same
          obtain ⟨written, rest⟩ := Text.eq_of_append_eq_append operand.comma_notMem_text
            other.comma_notMem_text (flatMap_starts operands) (flatMap_starts others) same
          rw [← ofText_text operand, ← ofText_text other, written, hypothesis rest]

/-- Operands are told by the text that lists them. -/
theorem listing_injective
    {operands others : List Operand}
    (same : listing operands = listing others) :
    operands = others := by
  apply eq_of_flatMap_eq
  cases operands with
  | nil =>
      cases others with
      | nil => rfl
      | cons other others => simp [listing] at same
  | cons operand operands =>
      cases others with
      | nil => simp [listing] at same
      | cons other others =>
          simp only [listing, List.cons_append, List.cons.injEq, true_and] at same
          simp [same]

end Operand

namespace Instruction

/-- The name of the operation, as assembly text has it. -/
def mnemonic : Instruction -> String
  | clearScreen => "CLS"
  | ret => "RET"
  | jump _ | jumpFromV0 _ => "JP"
  | call _ => "CALL"
  | skipIfByte _ _ | skipIfSame _ _ => "SE"
  | skipUnlessByte _ _ | skipUnlessSame _ _ => "SNE"
  | addByte _ _ | add _ _ | addIndex _ => "ADD"
  | or _ _ => "OR"
  | and _ _ => "AND"
  | xor _ _ => "XOR"
  | sub _ _ => "SUB"
  | shiftRight _ => "SHR"
  | subFrom _ _ => "SUBN"
  | shiftLeft _ => "SHL"
  | random _ _ => "RND"
  | draw _ _ _ => "DRW"
  | skipIfKey _ => "SKP"
  | skipUnlessKey _ => "SKNP"
  | nop => "NOP"
  | load _ _ | copy _ _ | loadIndex _ | readDelay _ | awaitKey _ | setDelay _ | setSound _
  | loadGlyph _ | storeDecimal _ | store _ | restore _ => "LD"

/-- The operands that assembly text shows. -/
def operands : Instruction -> List Operand
  | jump target | call target => [.address target]
  | skipIfByte x byte | skipUnlessByte x byte | load x byte | addByte x byte | random x byte =>
      [.register x, .byte byte]
  | skipIfSame x y | copy x y | or x y | and x y | xor x y | add x y | sub x y | subFrom x y
  | skipUnlessSame x y => [.register x, .register y]
  | shiftRight x | shiftLeft x | skipIfKey x | skipUnlessKey x => [.register x]
  | loadIndex address => [.index, .address address]
  | jumpFromV0 base => [.register offsetRegister, .address base]
  | draw x y height => [.register x, .register y, .height height]
  | readDelay x => [.register x, .delayTimer]
  | awaitKey x => [.register x, .key]
  | setDelay x => [.delayTimer, .register x]
  | setSound x => [.soundTimer, .register x]
  | addIndex x => [.index, .register x]
  | loadGlyph x => [.glyph, .register x]
  | storeDecimal x => [.decimal, .register x]
  | store x => [.indexed, .register x]
  | restore x => [.register x, .indexed]
  | clearScreen | ret | nop => []

/-- The instruction that a mnemonic and operands leave. -/
def ofParts? : String -> List Operand -> Option Instruction
  | "CLS", _ => some clearScreen
  | "RET", _ => some ret
  | "NOP", _ => some nop
  | "CALL", [.address target] => some (call target)
  | "JP", [.address target] => some (jump target)
  | "JP", [_, .address base] => some (jumpFromV0 base)
  | "SE", [.register x, .byte byte] => some (skipIfByte x byte)
  | "SE", [.register x, .register y] => some (skipIfSame x y)
  | "SNE", [.register x, .byte byte] => some (skipUnlessByte x byte)
  | "SNE", [.register x, .register y] => some (skipUnlessSame x y)
  | "ADD", [.register x, .byte byte] => some (addByte x byte)
  | "ADD", [.register x, .register y] => some (add x y)
  | "ADD", [_, .register x] => some (addIndex x)
  | "OR", [.register x, .register y] => some (or x y)
  | "AND", [.register x, .register y] => some (and x y)
  | "XOR", [.register x, .register y] => some (xor x y)
  | "SUB", [.register x, .register y] => some (sub x y)
  | "SUBN", [.register x, .register y] => some (subFrom x y)
  | "SHR", [.register x] => some (shiftRight x)
  | "SHL", [.register x] => some (shiftLeft x)
  | "RND", [.register x, .byte mask] => some (random x mask)
  | "DRW", [.register x, .register y, .height height] => some (draw x y height)
  | "SKP", [.register x] => some (skipIfKey x)
  | "SKNP", [.register x] => some (skipUnlessKey x)
  | "LD", [.register x, .byte byte] => some (load x byte)
  | "LD", [.register x, .register y] => some (copy x y)
  | "LD", [.register x, .delayTimer] => some (readDelay x)
  | "LD", [.register x, .key] => some (awaitKey x)
  | "LD", [.register x, .indexed] => some (restore x)
  | "LD", [.index, .address address] => some (loadIndex address)
  | "LD", [.delayTimer, .register x] => some (setDelay x)
  | "LD", [.soundTimer, .register x] => some (setSound x)
  | "LD", [.glyph, .register x] => some (loadGlyph x)
  | "LD", [.decimal, .register x] => some (storeDecimal x)
  | "LD", [.indexed, .register x] => some (store x)
  | _, _ => none

theorem ofParts?_eq (instruction : Instruction) :
    ofParts? instruction.mnemonic instruction.operands = some instruction := by
  cases instruction <;> rfl

/-- Assembly text is the mnemonic and the operands after it. -/
theorem toList_assembly (instruction : Instruction) :
    instruction.assembly.toList =
      instruction.mnemonic.toList ++ Operand.listing instruction.operands := by
  have zero : Text.hexField 1 (offsetRegister.val : Int) = ['0'] := rfl
  cases instruction <;>
    simp [assembly, withByte, withPair, registerName, byteOperand, addressOperand, mnemonic,
      operands, Operand.listing, Operand.text, zero]

theorem blank_notMem_mnemonic (instruction : Instruction) : ' ' ∉ instruction.mnemonic.toList := by
  cases instruction <;> simp [mnemonic]

/-- Instructions are told by their assembly text. -/
theorem assembly_injective
    {instruction other : Instruction}
    (same : instruction.assembly = other.assembly) :
    instruction = other := by
  have starts : ∀ operands, Operand.listing operands = [] ∨
      ∃ rest, Operand.listing operands = ' ' :: rest := by
    intro operands
    cases operands with
    | nil => exact .inl rfl
    | cons first rest => exact .inr ⟨_, rfl⟩
  have texts := congrArg String.toList same
  rw [toList_assembly, toList_assembly] at texts
  obtain ⟨named, listed⟩ := Text.eq_of_append_eq_append instruction.blank_notMem_mnemonic
    other.blank_notMem_mnemonic (starts _) (starts _) texts
  have parts := ofParts?_eq instruction
  rw [String.toList_inj.mp named, Operand.listing_injective listed, ofParts?_eq other] at parts
  exact (Option.some.inj parts).symm

/-- A value is listed with one text where it is a word, and the text is that of its instruction. -/
theorem disassemble_eq_ok_iff
    {value : Int}
    {text : String} :
    disassemble [value] = .ok [text] ↔
      ∃ word : Opcode, value = word.toNat ∧ word.decode.assembly = text := by
  have listed : disassemble [value] =
      (Opcode.read value).map fun word => [word.decode.assembly] := by
    cases read : Opcode.read value with
    | error fault =>
        simp [disassemble, List.mapM_cons, read, Except.map, bind, Except.bind]
    | ok word =>
        simp [disassemble, List.mapM_cons, read, Except.map, bind, Except.bind, pure, Except.pure]
  rw [listed]
  constructor
  · intro shown
    cases decoded : Opcode.ofInt? value with
    | none => simp [Opcode.read, decoded, Except.map] at shown
    | some word =>
        refine ⟨word, Opcode.ofInt?_eq_some_iff.mp decoded, ?_⟩
        simpa [Opcode.read, decoded, Except.map] using shown
  · rintro ⟨word, coded, rfl⟩
    simp [Opcode.read, Opcode.ofInt?_eq_some_iff.mpr coded, Except.map]

end Instruction

namespace Machine

/-- Executing an instruction looks at the keys held, at the flag's place and at the next random
value, and at nothing else of the console. -/
theorem execute_congr_console
    {console other : Console}
    {machine : Machine}
    (held : other.held = console.held)
    (flag : other.highBitFlag = console.highBitFlag)
    (random : other.random machine.drawn = console.random machine.drawn)
    (instruction : Instruction) :
    execute other machine instruction = execute console machine instruction := by
  cases instruction with
  | random x mask => simp [execute, nextRandom, random]
  | shiftLeft x => simp [execute, shiftLeftFlag, flag]
  | skipIfKey x | skipUnlessKey x => simp [execute, keyDown, held]
  | _ => rfl

/-- What a fault of an instruction becomes is told by the instruction: only a return meets an empty
stack, and one word alone is a return. -/
theorem reported_eq_of_decode_eq
    {console : Console}
    {machine : Machine}
    {word other : Opcode}
    {fault : Fault}
    (same : word.decode = other.decode)
    (fails : execute console machine.advanced word.decode = .error fault) :
    machine.reported word fault = machine.reported other fault := by
  rcases execute_eq_error fails with ⟨returns, _, _⟩ | ⟨_, unread⟩
  · have first := Opcode.decode_eq_ret_iff.mp returns
    have second := Opcode.decode_eq_ret_iff.mp (same ▸ returns)
    rw [← Opcode.ofNat_toNat word, ← Opcode.ofNat_toNat other, first, second]
  · have plain : fault = .notAByte := by
      unfold byteOf at unread
      split at unread
      · contradiction
      · exact (Except.error.inj unread).symm
    rw [plain]
    rfl

/-- Two values that are listed with the same text stand for the same instruction, and a machine that
is delivered one or the other ends its step alike: in the same state, or with the same fault. -/
theorem step_eq_of_disassemble_eq
    {value other : Int}
    {text : String}
    (listed : Instruction.disassemble [value] = .ok [text])
    (listedOther : Instruction.disassemble [other] = .ok [text])
    {console further : Console}
    (machine : Machine)
    (held : further.held = console.held)
    (flag : further.highBitFlag = console.highBitFlag)
    (random : further.random machine.drawn = console.random machine.drawn) :
    (Opcode.read value).map Opcode.decode = (Opcode.read other).map Opcode.decode ∧
      step { further with forced := some other } machine =
        step { console with forced := some value } machine := by
  obtain ⟨word, rfl, shown⟩ := Instruction.disassemble_eq_ok_iff.mp listed
  obtain ⟨twin, rfl, shownTwin⟩ := Instruction.disassemble_eq_ok_iff.mp listedOther
  have same : word.decode = twin.decode :=
    Instruction.assembly_injective (shown.trans shownTwin.symm)
  have read : ∀ coded : Opcode, Opcode.read coded.toNat = .ok coded := by
    intro coded
    rw [Opcode.read, Opcode.ofInt?_eq_some_iff.mpr rfl]
  refine ⟨by simp [read, Except.map, same], ?_⟩
  cases paused : machine.paused with
  | true => rw [step_of_paused paused, step_of_paused paused]
  | false =>
      have executes : execute { further with forced := some (twin.toNat : Int) } machine.advanced
            twin.decode =
          execute { console with forced := some (word.toNat : Int) } machine.advanced
            word.decode := by
        rw [← same]
        apply execute_congr_console
        · exact held
        · exact flag
        · exact random
      rw [step_eq_of_fetched paused rfl, step_eq_of_fetched paused rfl, executes]
      cases outcome : execute { console with forced := some (word.toNat : Int) } machine.advanced
          word.decode with
      | ok final => rfl
      | error fault =>
          simp only
          rw [reported_eq_of_decode_eq same outcome]

/-- The last digit of a word that skips where two registers are equal is shown in no text. -/
theorem step_eq_of_disassemble_eq_skip :
    Instruction.disassemble [0x5120] = .ok ["SE V1, V2"] ∧
      Instruction.disassemble [0x512F] = .ok ["SE V1, V2"] ∧
      step { held := fun _ => false, random := fun _ => 0, forced := some 0x512F } powerOn =
        step { held := fun _ => false, random := fun _ => 0, forced := some 0x5120 } powerOn := by
  have listed : Instruction.disassemble [0x5120] = .ok ["SE V1, V2"] := by
    rfl
  have listedOther : Instruction.disassemble [0x512F] = .ok ["SE V1, V2"] := by
    rfl
  let idle : Console := { held := fun _ => false, random := fun _ => 0 }
  have held : idle.held = idle.held := rfl
  have flag : idle.highBitFlag = idle.highBitFlag := rfl
  have random : idle.random powerOn.drawn = idle.random powerOn.drawn := rfl
  refine ⟨listed, listedOther, ?_⟩
  exact (step_eq_of_disassemble_eq listed listedOther powerOn held flag random).2

end Machine
end Chip8
