import Chip8.Proofs.Machine.Effects
import Mathlib.Data.Nat.Bitwise

/-!
# Arithmetic with a flag

Five instructions put a result into a register and tell in `VF` what the result
leaves out. Both are made of the values that the registers had before, whichever
of the two registers and `VF` are the same: the flag is written after both are
read, and the result after the flag. Where the result goes into `VF`, the flag
is lost.
-/

namespace Chip8
namespace Machine

/-- What a word of the arithmetic family with a certain last nibble makes of the values of its two
registers: a result and a flag, if it leaves a flag. -/
def flaggedOutcome? (highBitFlag : Bool) (last : Nat) (a b : Int) : Option (Int × Int) :=
  match last with
  | 0x4 => some ((a + b) % 256, if a + b > 255 then 1 else 0)
  | 0x5 => some ((a - b) % 256, if a > b then 1 else 0)
  | 0x6 => some (a / 2, a % 2)
  | 0x7 => some ((b - a) % 256, if b > a then 1 else 0)
  | 0xE => some (2 * a % 256, if a ≥ 128 then if highBitFlag then 0x80 else 1 else 0)
  | _ => none

/-- A machine has a result in a register, and a flag in `VF` unless that is the same register. -/
structure LeavesFlagged (x : Register) (result flag : Int) (before after : Machine) : Prop where
  result : ((after.v x).toNat : Int) = result
  flag : x ≠ flagRegister -> ((after.v flagRegister).toNat : Int) = flag
  others : ∀ r, r ≠ x -> r ≠ flagRegister -> after.v r = before.v r
  /-- Nothing but the registers and the program counter has changed. -/
  rest : after = {
    before with
    counter := (before.counter + 2) % 4096
    registers := after.registers }

variable {console : Console} {machine : Machine} {word : Opcode}

/-! ## Bytes as numbers -/

theorem toNat_flagOf
    {condition number : Prop}
    [Decidable condition]
    [Decidable number]
    (same : condition ↔ number) :
    ((flagOf condition).toNat : Int) = if number then 1 else 0 := by
  rw [if_congr same.symm rfl rfl]
  by_cases holds : condition <;> simp [flagOf, holds]

theorem lt_iff_toNat_lt (a b : UInt8) : a < b ↔ (a.toNat : Int) < b.toNat := by
  rw [UInt8.lt_iff_toNat_lt]
  omega

theorem toNat_sum (a b : UInt8) : ((a + b).toNat : Int) = ((a.toNat : Int) + b.toNat) % 256 := by
  rw [UInt8.toNat_add]
  omega

theorem toNat_difference (a b : UInt8) :
    ((a - b).toNat : Int) = ((a.toNat : Int) - b.toNat) % 256 := by
  have bound := b.toNat_lt
  rw [UInt8.toNat_sub]
  omega

theorem toNat_half (a : UInt8) : ((a >>> 1).toNat : Int) = (a.toNat : Int) / 2 := by
  rw [UInt8.toNat_shiftRight, Nat.shiftRight_eq_div_pow]
  exact Int.natCast_ediv a.toNat 2

theorem toNat_lowBit (a : UInt8) : ((a &&& 1).toNat : Int) = (a.toNat : Int) % 2 := by
  rw [UInt8.toNat_and, UInt8.toNat_one, Nat.and_one_is_mod]
  exact Int.natCast_emod a.toNat 2

theorem toNat_double (a : UInt8) : ((a <<< 1).toNat : Int) = 2 * (a.toNat : Int) % 256 := by
  have doubled : (a <<< 1).toNat = a.toNat * 2 % 256 := by
    rw [UInt8.toNat_shiftLeft, Nat.shiftLeft_eq]
    rfl
  omega

/-- The high bit of a byte is found where it stands, or moved down to where a flag counts one. -/
theorem toNat_shiftLeftFlag (console : Console) (a : UInt8) :
    ((shiftLeftFlag console a).toNat : Int) =
      if (a.toNat : Int) ≥ 128 then if console.highBitFlag then 0x80 else 1 else 0 := by
  have bound := a.toNat_lt
  have set : a.toNat.testBit 7 = decide ((a.toNat : Int) ≥ 128) := by
    rw [Nat.testBit_eq_decide_div_mod_eq]
    apply decide_eq_decide.mpr
    omega
  unfold shiftLeftFlag
  cases console.highBitFlag with
  | false =>
      have moved : (a >>> 7).toNat = a.toNat / 128 := by
        rw [UInt8.toNat_shiftRight, Nat.shiftRight_eq_div_pow]
        rfl
      simp only [Bool.false_eq_true, if_false, moved]
      split <;> omega
  | true =>
      have mask : (0x80 : UInt8).toNat = 2 ^ 7 := rfl
      simp only [if_true, UInt8.toNat_and, mask, Nat.and_two_pow, set]
      by_cases high : (a.toNat : Int) ≥ 128 <;> simp [high]

/-! ## One instruction -/

/-- The flag is written before the result, and the result may take its place. -/
theorem leavesFlagged_setFlagged (machine : Machine) (x : Register) (flag result : UInt8) :
    LeavesFlagged x result.toNat flag.toNat machine
      (machine.advanced.setFlagged x flag result) where
  result := by simp [setFlagged, setV, v]
  flag other := by
    have apart : flagRegister ≠ x := Ne.symm other
    simp [setFlagged, setV, v, apart]
  others r other unflagged := v_setFlagged_of_ne flag result other unflagged
  rest := rfl

/-- Executing a word that leaves a flag puts the flag into `VF` and then the result into the word's
first register, both made of what its registers held before. -/
theorem execute_eq_setFlagged
    (console : Console)
    (machine : Machine)
    {result flag : Int}
    (arithmetic : word.family.val = 0x8)
    (computes : flaggedOutcome? console.highBitFlag word.n.val
      (machine.v word.x).toNat (machine.v word.y).toNat = some (result, flag)) :
    ∃ byte bit : UInt8,
      (byte.toNat : Int) = result ∧ (bit.toNat : Int) = flag ∧
      execute console machine word.decode = .ok (machine.setFlagged word.x bit byte) := by
  unfold flaggedOutcome? at computes
  split at computes
  case h_1 last =>
    have adds : word.decode = .add word.x word.y :=
      Opcode.decode_eq_of_codedBy ⟨arithmetic, last, rfl, rfl⟩
    cases computes
    refine ⟨_, _, toNat_sum _ _, toNat_flagOf ?_, by rw [adds]; rfl⟩
    omega
  case h_2 last =>
    have subtracts : word.decode = .sub word.x word.y :=
      Opcode.decode_eq_of_codedBy ⟨arithmetic, last, rfl, rfl⟩
    cases computes
    exact ⟨_, _, toNat_difference _ _, toNat_flagOf (lt_iff_toNat_lt _ _),
      by rw [subtracts]; rfl⟩
  case h_3 last =>
    have halves : word.decode = .shiftRight word.x :=
      Opcode.decode_eq_of_codedBy ⟨arithmetic, last, rfl⟩
    cases computes
    exact ⟨_, _, toNat_half _, toNat_lowBit _, by rw [halves]; rfl⟩
  case h_4 last =>
    have subtracts : word.decode = .subFrom word.x word.y :=
      Opcode.decode_eq_of_codedBy ⟨arithmetic, last, rfl, rfl⟩
    cases computes
    exact ⟨_, _, toNat_difference _ _, toNat_flagOf (lt_iff_toNat_lt _ _),
      by rw [subtracts]; rfl⟩
  case h_5 last =>
    have doubles : word.decode = .shiftLeft word.x :=
      Opcode.decode_eq_of_codedBy ⟨arithmetic, last, rfl⟩
    cases computes
    exact ⟨_, _, toNat_double _, toNat_shiftLeftFlag console _, by rw [doubles]; rfl⟩
  case h_6 => contradiction

/-- A step on a running machine that fetches a word which leaves a flag completes. The word's first
register holds the result, `VF` holds the flag unless it is that register, and nothing else changes
but the program counter. Result and flag are made of what the word's registers held before the step,
also where the second one is `VF`. -/
theorem arithmetic_leaves_flagged
    {result flag : Int}
    (running : machine.paused = false)
    (fetched : machine.fetched console = .ok word.toNat)
    (arithmetic : word.family.val = 0x8)
    (computes : flaggedOutcome? console.highBitFlag word.n.val
      (machine.v word.x).toNat (machine.v word.y).toNat = some (result, flag)) :
    ∃ next, step console machine = .ok () next ∧
      LeavesFlagged word.x result flag machine next := by
  obtain ⟨byte, bit, rfl, rfl, executes⟩ :=
    execute_eq_setFlagged console machine.advanced arithmetic computes
  exact ⟨_, step_of_execute running fetched executes,
    leavesFlagged_setFlagged machine word.x bit byte⟩

/-- The old value of `VF` added to `V0`, past what a byte holds. -/
theorem arithmetic_leaves_flagged_carry :
    ∃ (console : Console) (machine next : Machine),
      machine.paused = false ∧
      machine.fetched console = .ok (Opcode.ofNat 0x80F4).toNat ∧
      (Opcode.ofNat 0x80F4).family.val = 0x8 ∧
      flaggedOutcome? console.highBitFlag (Opcode.ofNat 0x80F4).n.val
        (machine.v offsetRegister).toNat (machine.v flagRegister).toNat = some (44, 1) ∧
      step console machine = .ok () next ∧
      ((next.v offsetRegister).toNat : Int) = 44 ∧
      ((next.v flagRegister).toNat : Int) = 1 := by
  let console : Console := {
    held := fun _ => false, random := fun _ => 7, forced := some 0x80F4 }
  let machine : Machine := {
    powerOn with
    registers := (Registers.zero.set offsetRegister 100).set flagRegister 200 }
  have fetched : machine.fetched console = .ok (Opcode.ofNat 0x80F4).toNat := rfl
  have computes : flaggedOutcome? console.highBitFlag (Opcode.ofNat 0x80F4).n.val
      (machine.v offsetRegister).toNat (machine.v flagRegister).toNat = some (44, 1) := by
    decide +kernel
  obtain ⟨next, steps, leaves⟩ := arithmetic_leaves_flagged rfl fetched rfl computes
  exact ⟨console, machine, next, rfl, fetched, rfl, computes, steps, leaves.result,
    leaves.flag (by decide)⟩

end Machine
end Chip8
