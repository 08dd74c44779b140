import Chip8.Machine.Execute

/-!
# What instructions leave alone

Each instruction has a short list of the machine's parts that it may write.
Whatever is not on the list is as it was once the instruction is executed. The
list is read off the instruction alone; the machine does not matter.
-/

namespace Chip8

/-- A part of the machine. -/
inductive Component
  | memory
  | registers
  | index
  | counter
  | delay
  | sound
  | awaiting
  | calls
  | screen
  | drawn
  deriving DecidableEq, Repr

/-- The parts that an instruction may write, its move past itself left out. -/
def Instruction.writes : Instruction -> List Component
  | .clearScreen => [.screen]
  | .ret | .call _ => [.counter, .calls]
  | .jump _ | .jumpFromV0 _ => [.counter]
  | .skipIfByte _ _ | .skipUnlessByte _ _ | .skipIfSame _ _ | .skipUnlessSame _ _ => [.counter]
  | .skipIfKey _ | .skipUnlessKey _ => [.counter]
  | .load _ _ | .addByte _ _ | .copy _ _ | .or _ _ | .and _ _ | .xor _ _ => [.registers]
  | .add _ _ | .sub _ _ | .shiftRight _ | .subFrom _ _ | .shiftLeft _ => [.registers]
  | .readDelay _ | .restore _ => [.registers]
  | .random _ _ => [.registers, .drawn]
  | .draw _ _ _ => [.registers, .screen]
  | .loadIndex _ | .addIndex _ | .loadGlyph _ => [.index]
  | .awaitKey _ => [.awaiting]
  | .setDelay _ => [.delay]
  | .setSound _ => [.sound]
  | .storeDecimal _ | .store _ => [.memory]
  | .nop => []

namespace Machine

/-- Two machines agree in a part. -/
def Agree (left right : Machine) : Component -> Prop
  | .memory => left.memory = right.memory
  | .registers => left.registers = right.registers
  | .index => left.index = right.index
  | .counter => left.counter = right.counter
  | .delay => left.delay = right.delay
  | .sound => left.sound = right.sound
  | .awaiting => left.awaiting = right.awaiting
  | .calls => left.calls = right.calls
  | .screen => left.screen = right.screen
  | .drawn => left.drawn = right.drawn

/-- A skip is a write of the program counter alone. -/
theorem skipIf_eq (machine : Machine) (condition : Bool) :
    machine.skipIf condition =
      { machine with
        counter := if condition then advance machine.counter else machine.counter } := by
  cases condition <;> rfl

/-- A drawing is a write of the registers and the screen alone. -/
theorem drawSprite_eq (machine : Machine) (x y : Register) (height : Nibble) :
    machine.drawSprite x y height =
      { machine with
        registers := (machine.drawSprite x y height).registers
        screen := (machine.drawSprite x y height).screen } := by
  simp only [drawSprite]
  split <;> rfl

/-- A skip spares everything but the program counter. -/
theorem agree_skipIf
    (machine : Machine)
    (condition : Bool)
    {component : Component}
    (spared : component ∉ [Component.counter]) :
    (machine.skipIf condition).Agree machine component := by
  rw [skipIf_eq]
  cases component <;> first | contradiction | rfl

/-- A drawing spares everything but the registers and the screen. -/
theorem agree_drawSprite
    (machine : Machine)
    (x y : Register)
    (height : Nibble)
    {component : Component}
    (spared : component ∉ [Component.registers, Component.screen]) :
    (machine.drawSprite x y height).Agree machine component := by
  rw [drawSprite_eq]
  cases component <;> first | contradiction | rfl

/-- Executing an instruction leaves every part alone that the instruction does not write. -/
theorem agree_of_execute
    {console : Console}
    {machine final : Machine}
    {instruction : Instruction}
    (component : Component)
    (executed : execute console machine instruction = .ok final)
    (spared : component ∉ instruction.writes) :
    final.Agree machine component := by
  cases instruction with
  | ret =>
      simp only [execute] at executed
      cases popped : machine.calls.pop with
      | error fault => simp [popped] at executed
      | ok result =>
          simp only [popped, Except.ok.injEq] at executed
          subst executed
          simp only [Instruction.writes] at spared
          cases component <;> first | contradiction | rfl
  | readDelay x =>
      simp only [execute] at executed
      cases read : byteOf machine.delay with
      | error fault => simp [read, Except.map] at executed
      | ok byte =>
          simp only [read, Except.map, Except.ok.injEq] at executed
          subst executed
          simp only [Instruction.writes] at spared
          cases component <;> first | contradiction | rfl
  | draw x y height =>
      cases executed
      exact agree_drawSprite machine x y height spared
  | skipIfByte | skipUnlessByte | skipIfSame | skipUnlessSame | skipIfKey | skipUnlessKey =>
      cases executed
      exact agree_skipIf machine _ spared
  | _ =>
      cases executed
      simp only [Instruction.writes] at spared
      cases component <;> first | contradiction | rfl

end Machine
end Chip8
