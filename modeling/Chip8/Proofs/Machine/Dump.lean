import Chip8.Machine.Report
import Chip8.Proofs.Machine.Integrity
import Chip8.Proofs.Text.Parts

/-!
# Dumps lose nothing

The dump of a well-formed machine is a row of hexadecimal numbers, each in a
slot that has a label and one width whatever the number is. After them comes the
text of the instruction, which ends at the line break, and the call stack, in as
many slots as it has addresses. So a dump can be taken apart in one way only, and
two dumps are the same exactly where all that they show is the same.
-/

namespace Chip8

/-- A number that fits in sixteen bits. -/
def IsWord (value : Int) : Prop := 0 ≤ value ∧ value ≤ 0xFFFF

theorem IsAddress.isWord {value : Int} (small : IsAddress value) : IsWord value :=
  ⟨small.1, Int.le_trans small.2 (by decide)⟩

section Fits

variable {value : Int} {label : List Char}

theorem IsByte.fits (small : IsByte value) : Text.Slot.Fits ⟨label, 2⟩ value :=
  .of_lt (by decide) small.1 (Int.lt_add_one_of_le small.2)

theorem IsAddress.fits (small : IsAddress value) : Text.Slot.Fits ⟨label, 3⟩ value :=
  .of_lt (by decide) small.1 (Int.lt_add_one_of_le small.2)

theorem IsWord.fits (small : IsWord value) : Text.Slot.Fits ⟨label, 4⟩ value :=
  .of_lt (by decide) small.1 (Int.lt_add_one_of_le small.2)

end Fits

namespace Machine

open Text (Slot)

/-- The slots of the dump's first line, each with its number. -/
def dumpEntries (machine : Machine) (address opcode : Int) : List (Slot × Int) :=
  (machine.registers.values.toList.reverse.map fun byte => (⟨[], 2⟩, (byte.toNat : Int))) ++ [
    (⟨" I: 0x".toList, 4⟩, machine.index),
    (⟨" DT: 0x".toList, 2⟩, machine.delay),
    (⟨" ST: 0x".toList, 2⟩, machine.sound),
    (⟨" PC: 0x".toList, 3⟩, address),
    (⟨" OP: 0x".toList, 4⟩, opcode)]

/-- The slot of an address on the call stack. -/
def stackSlot : Slot := ⟨" 0x".toList, 3⟩

theorem toList_dump
    (machine : Machine)
    (address opcode : Int)
    (instruction : String) :
    (machine.dump address opcode instruction).toList =
      "V: 0x".toList ++ (Slot.listing (machine.dumpEntries address opcode) ++
        (" IN: ".toList ++ (instruction.toList ++
          ('\n' :: ("Stack:".toList ++ machine.stackDump.toList))))) := by
  have registers : machine.registerDump.toList =
      Slot.listing (machine.registers.values.toList.reverse.map
        fun byte => (⟨[], 2⟩, (byte.toNat : Int))) := by
    simp only [registerDump, String.toList_join, List.flatMap_map, Slot.listing, Slot.text,
      Text.toList_hex, List.nil_append]
  have broken : "\nStack:".toList = '\n' :: "Stack:".toList := by simp
  rw [dumpEntries, Slot.listing_append, ← registers]
  -- The equation of `dump` would have its literals evaluated.
  delta dump
  simp only [String.toList_append, Slot.listing_cons, Slot.listing_nil, Slot.text,
    Text.toList_hex, broken, List.append_assoc, List.nil_append, List.cons_append]

/-- A stack that is not empty is shown from the bottom up, each address in its slot. -/
theorem toList_stackDump
    {machine : Machine}
    (stacked : machine.calls.fromBottom ≠ []) :
    machine.stackDump.toList =
      Slot.listing (machine.calls.fromBottom.map (stackSlot, ·)) := by
  unfold stackDump
  split
  · contradiction
  · simp [Slot.listing, Slot.text, stackSlot, List.flatMap_map]

/-! ## What a dump is made of -/

/-- A machine that is well formed, an address, a word and the text of an instruction on one line. -/
structure Dumpable (machine : Machine) (address opcode : Int) (instruction : String) : Prop where
  wellFormed : machine.WellFormed
  address : IsAddress address
  opcode : IsWord opcode
  instruction : '\n' ∉ instruction.toList

variable {machine other : Machine} {address address' opcode opcode' : Int}
  {instruction instruction' : String}

theorem Dumpable.fits
    (dumpable : Dumpable machine address opcode instruction) :
    ∀ entry ∈ machine.dumpEntries address opcode, entry.1.Fits entry.2 := by
  obtain ⟨wellFormed, address, opcode, _⟩ := dumpable
  intro entry member
  rcases List.mem_append.mp member with inRegisters | named
  · obtain ⟨byte, _, rfl⟩ := List.mem_map.mp inRegisters
    exact (isByte_toNat byte).fits
  · simp only [List.mem_cons, List.not_mem_nil, or_false] at named
    rcases named with rfl | rfl | rfl | rfl | rfl
    · exact wellFormed.index.isWord.fits
    · exact wellFormed.delay.fits
    · exact wellFormed.sound.fits
    · exact address.fits
    · exact opcode.fits

theorem WellFormed.fits_stackSlot (wellFormed : machine.WellFormed) :
    ∀ target ∈ machine.calls.fromBottom, stackSlot.Fits target := by
  intro target member
  exact (wellFormed.calls target (List.mem_reverse.mp member)).fits

theorem stackDump_of_empty (empty : machine.calls.fromBottom = []) :
    machine.stackDump = " (Empty)" := by
  simp [stackDump, empty]

/-- A stack with addresses on it is not shown as an empty one. -/
theorem stackDump_ne_of_nonempty (stacked : machine.calls.fromBottom ≠ []) :
    machine.stackDump ≠ " (Empty)" := by
  intro same
  have texts := congrArg String.toList same
  rw [toList_stackDump stacked] at texts
  obtain ⟨target, rest, items⟩ := List.exists_cons_of_ne_nil stacked
  simp [items, Slot.text, stackSlot] at texts

/-- The stack is told by the text that shows it. -/
theorem fromBottom_eq_of_stackDump_eq
    (wellFormed : machine.WellFormed)
    (wellFormedOther : other.WellFormed)
    (same : machine.stackDump = other.stackDump) :
    machine.calls.fromBottom = other.calls.fromBottom := by
  by_cases empty : machine.calls.fromBottom = []
  · by_cases emptyOther : other.calls.fromBottom = []
    · rw [empty, emptyOther]
    · rw [stackDump_of_empty empty] at same
      exact absurd same.symm (stackDump_ne_of_nonempty emptyOther)
  · by_cases emptyOther : other.calls.fromBottom = []
    · rw [stackDump_of_empty emptyOther] at same
      exact absurd same (stackDump_ne_of_nonempty empty)
    · have texts := congrArg String.toList same
      rw [toList_stackDump empty, toList_stackDump emptyOther] at texts
      exact Slot.eq_of_column_eq (List.cons_ne_nil _ _) wellFormed.fits_stackSlot
        wellFormedOther.fits_stackSlot texts

/-- The registers, the numbers behind them and the rest of a text are told by the text. -/
theorem dumpEntries_inj
    (same : machine.dumpEntries address opcode = other.dumpEntries address' opcode') :
    machine.registers = other.registers ∧
    machine.index = other.index ∧
    machine.delay = other.delay ∧
    machine.sound = other.sound ∧
    address = address' ∧
    opcode = opcode' := by
  obtain ⟨bytes, named⟩ := List.append_inj same (by simp)
  have told : ∀ byte byte' : UInt8,
      ((⟨[], 2⟩ : Slot), (byte.toNat : Int)) = (⟨[], 2⟩, (byte'.toNat : Int)) -> byte = byte' := by
    intro byte byte' equal
    exact UInt8.toNat_inj.mp (Int.ofNat.inj (Prod.mk.inj equal).2)
  have values := Vector.toList_inj.mp (List.reverse_inj.mp ((List.map_inj_right told).mp bytes))
  simp only [List.cons.injEq, Prod.mk.injEq, true_and, and_true] at named
  exact ⟨congrArg Registers.mk values, named⟩

/-- A dump is made of its entries, the text of the instruction and the stack. -/
theorem dump_congr
    (registers : machine.registers = other.registers)
    (index : machine.index = other.index)
    (delay : machine.delay = other.delay)
    (sound : machine.sound = other.sound)
    (calls : machine.calls.fromBottom = other.calls.fromBottom) :
    machine.dump address opcode instruction = other.dump address opcode instruction := by
  have stack : machine.stackDump = other.stackDump := by
    unfold stackDump
    rw [calls]
  apply String.toList_inj.mp
  rw [toList_dump, toList_dump, dumpEntries, dumpEntries, registers, index, delay, sound, stack]

/-- A crash report is told by the dump in it. -/
theorem crashReport_eq_iff :
    machine.crashReport address opcode instruction =
        other.crashReport address' opcode' instruction' ↔
      machine.dump address opcode instruction = other.dump address' opcode' instruction' := by
  unfold crashReport
  constructor
  · intro same
    have texts := congrArg String.toList same
    simp only [String.toList_append, List.append_assoc, List.append_cancel_left_eq] at texts
    exact String.toList_inj.mp texts
  · intro same
    rw [same]

/-- Dumps that can be taken apart are the same exactly where the registers, the index register, the
timers, the address, the word, the text of the instruction and the call stack are. Crash reports
are the same where their dumps are. -/
theorem dump_eq_iff
    (dumpable : Dumpable machine address opcode instruction)
    (dumpableOther : Dumpable other address' opcode' instruction') :
    (machine.dump address opcode instruction = other.dump address' opcode' instruction' ↔
      machine.registers = other.registers ∧
      machine.index = other.index ∧
      machine.delay = other.delay ∧
      machine.sound = other.sound ∧
      address = address' ∧
      opcode = opcode' ∧
      instruction = instruction' ∧
      machine.calls.fromBottom = other.calls.fromBottom) ∧
    (machine.crashReport address opcode instruction =
        other.crashReport address' opcode' instruction' ↔
      machine.dump address opcode instruction = other.dump address' opcode' instruction') := by
  refine ⟨⟨?_, ?_⟩, crashReport_eq_iff⟩
  · intro same
    have texts := congrArg String.toList same
    rw [toList_dump, toList_dump, List.append_cancel_left_eq] at texts
    have slots : (machine.dumpEntries address opcode).map Prod.fst =
        (other.dumpEntries address' opcode').map Prod.fst := by
      simp [dumpEntries, Function.comp_def, List.map_const']
    obtain ⟨entries, further⟩ :=
      Slot.eq_of_listing_append_eq slots dumpable.fits dumpableOther.fits texts
    rw [List.append_cancel_left_eq] at further
    -- The first line break of what is left ends the text of the instruction.
    obtain ⟨instructions, below⟩ := Text.eq_of_append_eq_append dumpable.instruction
      dumpableOther.instruction (.inr ⟨_, rfl⟩) (.inr ⟨_, rfl⟩) further
    rw [List.cons_inj_right, List.append_cancel_left_eq] at below
    obtain ⟨registers, index, delay, sound, addresses, opcodes⟩ := dumpEntries_inj entries
    exact ⟨registers, index, delay, sound, addresses, opcodes, String.toList_inj.mp instructions,
      fromBottom_eq_of_stackDump_eq dumpable.wellFormed dumpableOther.wellFormed
        (String.toList_inj.mp below)⟩
  · rintro ⟨registers, index, delay, sound, rfl, rfl, rfl, calls⟩
    exact dump_congr registers index delay sound calls

/-- Two machines that are to return to the same two addresses, one the other way round. -/
theorem dump_eq_iff_swapped :
    let machine : Machine := { powerOn with calls := ⟨[0x202, 0x30A]⟩ }
    let other : Machine := { powerOn with calls := ⟨[0x30A, 0x202]⟩ }
    Dumpable machine 0x200 0x00EE "RET" ∧
    Dumpable other 0x200 0x00EE "RET" ∧
    machine.dump 0x200 0x00EE "RET" ≠ other.dump 0x200 0x00EE "RET" := by
  intro machine other
  have dumpable : Dumpable machine 0x200 0x00EE "RET" := {
    wellFormed := { wellFormed_powerOn with calls := by simp [machine, IsAddress] }
    address := by simp [IsAddress]
    opcode := by simp [IsWord]
    instruction := by simp }
  have dumpableOther : Dumpable other 0x200 0x00EE "RET" := {
    wellFormed := { wellFormed_powerOn with calls := by simp [other, IsAddress] }
    address := by simp [IsAddress]
    opcode := by simp [IsWord]
    instruction := by simp }
  refine ⟨dumpable, dumpableOther, ?_⟩
  intro same
  obtain ⟨_, _, _, _, _, _, _, calls⟩ := (dump_eq_iff dumpable dumpableOther).1.mp same
  simp [machine, other, CallStack.fromBottom] at calls

end Machine
end Chip8
