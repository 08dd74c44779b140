import Chip8.Proofs.Machine.Frame

/-!
# What instructions look at

Each instruction has a short list of the machine's parts that it looks at. Two
machines that agree in these end alike under the instruction: both meet the
same fault, or both complete and agree in every part that the instruction
writes. A part that is written in pieces counts as looked at, since its other
pieces stay.
-/

namespace Chip8

/-- The parts that an instruction looks at. -/
def Instruction.reads : Instruction -> List Component
  | .clearScreen | .jump _ | .loadIndex _ | .awaitKey _ | .nop => []
  | .ret => [.calls]
  | .call _ => [.counter, .calls]
  | .skipIfByte _ _ | .skipUnlessByte _ _ | .skipIfSame _ _ | .skipUnlessSame _ _ =>
      [.registers, .counter]
  | .skipIfKey _ | .skipUnlessKey _ => [.registers, .counter]
  | .load _ _ | .addByte _ _ | .copy _ _ | .or _ _ | .and _ _ | .xor _ _ => [.registers]
  | .add _ _ | .sub _ _ | .shiftRight _ | .subFrom _ _ | .shiftLeft _ => [.registers]
  | .jumpFromV0 _ | .setDelay _ | .setSound _ | .loadGlyph _ => [.registers]
  | .random _ _ => [.registers, .drawn]
  | .readDelay _ => [.registers, .delay]
  | .addIndex _ => [.registers, .index]
  | .storeDecimal _ | .store _ | .restore _ => [.memory, .registers, .index]
  | .draw _ _ _ => [.memory, .registers, .index, .screen]

namespace Machine

/-- Two executions end alike: with the same fault, or with machines that are alike in some way. -/
inductive EndsAlike (Alike : Machine -> Machine -> Prop) :
    Except Fault Machine -> Except Fault Machine -> Prop
  | ok {first second : Machine} (alike : Alike first second) :
      EndsAlike Alike (.ok first) (.ok second)
  | error (fault : Fault) : EndsAlike Alike (.error fault) (.error fault)

variable {first second : Machine}

/-- The screen that a drawing leaves, and whether a lit cell went dark. -/
def spriteFlips (machine : Machine) (x y : Register) (height : Nibble) : Screen 64 32 × Bool :=
  let cleared := machine.setV flagRegister 0
  cleared.screen.flipAll (cleared.spritePoints (cleared.v x) (cleared.v y) height.val)

/-- A drawing leaves its screen and the flag of what went dark. -/
theorem drawSprite_eq_flips (machine : Machine) (x y : Register) (height : Nibble) :
    machine.drawSprite x y height =
      { machine with
        registers :=
          machine.registers.set flagRegister (flagOf (machine.spriteFlips x y height).2)
        screen := (machine.spriteFlips x y height).1 } := by
  have again (byte : UInt8) : (machine.registers.set flagRegister 0).set flagRegister byte =
      machine.registers.set flagRegister byte := by
    simp [Registers.set]
  simp only [drawSprite, spriteFlips]
  split
  · rename_i erased
    rw [erased, ← again]
    rfl
  · rename_i kept
    rw [Bool.eq_false_iff.mpr kept]
    rfl

/-- Machines that agree in what an instruction looks at end alike under it. -/
theorem endsAlike_execute
    (console : Console)
    (instruction : Instruction)
    (alike : ∀ component ∈ instruction.reads, second.Agree first component) :
    EndsAlike (fun first second => ∀ component ∈ instruction.writes, second.Agree first component)
      (execute console first instruction) (execute console second instruction) := by
  obtain ⟨memory, registers, index, counter, delay, sound, awaiting, calls, screen, drawn⟩ := first
  obtain ⟨memory', registers', index', counter', delay', sound', awaiting', calls', screen',
    drawn'⟩ := second
  cases instruction with
  | ret =>
      simp [Instruction.reads, Agree] at alike
      subst alike
      simp only [execute]
      cases CallStack.pop calls' with
      | error fault => exact .error fault
      | ok result => exact .ok (by simp [Instruction.writes, Agree])
  | readDelay x =>
      simp [Instruction.reads, Agree] at alike
      obtain ⟨rfl, rfl⟩ := alike
      simp only [execute]
      cases byteOf delay' with
      | error fault => exact .error fault
      | ok byte => exact .ok (by simp [Instruction.writes, Agree, setV])
  | clearScreen | jump | loadIndex | awaitKey | nop =>
      exact .ok (by simp [Instruction.writes, Agree])
  | call =>
      simp [Instruction.reads, Agree] at alike
      obtain ⟨rfl, rfl⟩ := alike
      exact .ok (by simp [Instruction.writes, Agree])
  | skipIfByte | skipUnlessByte | skipIfSame | skipUnlessSame | skipIfKey | skipUnlessKey =>
      simp [Instruction.reads, Agree] at alike
      obtain ⟨rfl, rfl⟩ := alike
      exact .ok (by simp [Instruction.writes, Agree, skipIf_eq, v])
  | load | addByte | copy | or | and | xor | add | sub | shiftRight | subFrom | shiftLeft =>
      simp [Instruction.reads, Agree] at alike
      subst alike
      exact .ok (by simp [Instruction.writes, Agree, setFlagged, setV, v])
  | jumpFromV0 | setDelay | setSound | loadGlyph =>
      simp [Instruction.reads, Agree] at alike
      subst alike
      exact .ok (by simp [Instruction.writes, Agree, v])
  | random =>
      simp [Instruction.reads, Agree] at alike
      obtain ⟨rfl, rfl⟩ := alike
      exact .ok (by simp [Instruction.writes, Agree, setV, nextRandom])
  | addIndex =>
      simp [Instruction.reads, Agree] at alike
      obtain ⟨rfl, rfl⟩ := alike
      exact .ok (by simp [Instruction.writes, Agree, v])
  | storeDecimal | store =>
      simp [Instruction.reads, Agree] at alike
      obtain ⟨rfl, rfl, rfl⟩ := alike
      exact .ok (by simp [Instruction.writes, Agree, storeBytes, v])
  | restore =>
      simp [Instruction.reads, Agree] at alike
      obtain ⟨rfl, rfl, rfl⟩ := alike
      exact .ok (by simp [Instruction.writes, Agree, cellAt])
  | draw x y height =>
      simp [Instruction.reads, Agree] at alike
      obtain ⟨rfl, rfl, rfl, rfl⟩ := alike
      exact .ok (by simp [Instruction.writes, Agree, drawSprite_eq_flips, spriteFlips, setV, v,
        spritePoints, cellAt])

end Machine
end Chip8
