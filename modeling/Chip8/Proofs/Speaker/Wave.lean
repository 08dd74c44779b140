import Chip8.Proofs.Number.Equality
import Chip8.Speaker

/-!
# Waves of frequencies

A frequency has a wave unless it is zero, no number, or too low for a host to hold
its cycle. The wave is one cycle, high in its first half and low in the rest. Equal
frequencies have the same wave.
-/

namespace Chip8
namespace Wave

variable {host : Host} {frequency other : Float} {wave : Wave}

/-- A wave is one cycle of a frequency: it is as long as the cycle is in whole samples, but two
samples long at least, and its first half is high. -/
def IsCycleOf (wave : Wave) (frequency : Float) : Prop :=
  ∃ samples,
    wholePart (sampleRate / frequency) = .ok samples ∧
      wave.length = max 2 samples ∧
      wave.samples =
        List.replicate (wave.length / 2) 0xFF ++
          List.replicate (wave.length - wave.length / 2) 0

/-- A frequency is so low that its cycle has no end, or more samples than a host can hold. -/
def TooLow (host : Host) (frequency : Float) : Prop :=
  wholePart (sampleRate / frequency) = .error .infinite ∨
    ∃ samples, wholePart (sampleRate / frequency) = .ok samples ∧ ¬host.HasRoom samples

/-- A length in samples is no number exactly where the frequency is none. -/
theorem wholePart_eq_notANumber_iff (nonzero : (frequency == 0) = false) :
    wholePart (sampleRate / frequency) = .error .notANumber ↔ frequency.isNaN = true := by
  have kept : (sampleRate / frequency).isNaN = frequency.isNaN := isNaN_div rfl nonzero
  rw [← kept, ← ofFloat_eq_notANumber_iff, wholePart]
  split <;> simp [*]

/-- A frequency that is not zero has a wave where its cycle is finite and a host can hold it. -/
theorem ofFrequency_eq_ok_iff (nonzero : (frequency == 0) = false) :
    ofFrequency host frequency = .ok wave ↔
      ∃ samples, wholePart (sampleRate / frequency) = .ok samples ∧ host.HasRoom samples ∧
        wave = { length := max 2 samples.toNat, high := max 2 samples.toNat / 2 } := by
  simp only [ofFrequency, cycleLength, nonzero, Host.HasRoom]
  cases found : wholePart (sampleRate / frequency) with
  | error reason => cases reason <;> simp
  | ok samples =>
      by_cases sized : samples ≤ largestSize
      · by_cases held : samples ≤ host.largestBlock
        · simp [Int.not_lt.mpr sized, Int.not_lt.mpr held, sized, held, eq_comm]
        · simp [Int.not_lt.mpr sized, Int.not_le.mp held, held]
      · simp [Int.not_le.mp sized, sized]

/-- A frequency has a wave unless it is zero, no number or too low. -/
theorem exists_fault_iff :
    (∃ fault, ofFrequency host frequency = .error fault) ↔
      (frequency == 0) = true ∨ frequency.isNaN = true ∨ TooLow host frequency := by
  cases zero : frequency == 0 with
  | true => simp [ofFrequency, cycleLength, zero]
  | false =>
      have unmade : (∃ fault, ofFrequency host frequency = .error fault) ↔
          ∀ wave, ofFrequency host frequency ≠ .ok wave := by
        cases ofFrequency host frequency <;> simp
      rw [unmade, ← wholePart_eq_notANumber_iff zero, TooLow]
      simp only [ne_eq, ofFrequency_eq_ok_iff zero]
      cases wholePart (sampleRate / frequency) with
      | error reason => cases reason <;> simp
      | ok samples => simp

/-- The wave of a frequency is one cycle of it. -/
theorem isCycleOf_of_ofFrequency (made : ofFrequency host frequency = .ok wave) :
    wave.IsCycleOf frequency := by
  cases zero : frequency == 0 with
  | true => simp [ofFrequency, cycleLength, zero] at made
  | false =>
      obtain ⟨samples, found, _, rfl⟩ := (ofFrequency_eq_ok_iff zero).mp made
      exact ⟨samples, found, by simp; omega, rfl⟩

/-- Equal frequencies have the same wave. -/
theorem ofFrequency_eq_of_beq (same : (other == frequency) = true) :
    ofFrequency host other = ofFrequency host frequency := by
  simp only [ofFrequency, cycleLength, beq_zero_eq_of_beq same]
  cases zero : frequency == 0 with
  | true => rfl
  | false => rw [div_eq_of_beq sampleRate same zero]

end Wave
end Chip8
