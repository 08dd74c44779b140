import Chip8.Proofs.Machine.Frame
import Chip8.Proofs.Machine.Loading
import Chip8.Proofs.Machine.Stepping

/-!
# Well-formed machines

A machine's counters, timers, waiting register and stacked addresses are plain
integers. In a well-formed machine each of them lies in the range that its use
needs, and then no step meets an index or a value out of range: a step on a
well-formed machine completes, meets a return without a call, or was handed
something that is no instruction word. Whatever happens to a well-formed
machine leaves it well formed.
-/

namespace Chip8

/-- A number that is an address of memory. -/
def IsAddress (value : Int) : Prop := 0 ≤ value ∧ value ≤ 0xFFF

/-- A number that fits in a byte. -/
def IsByte (value : Int) : Prop := 0 ≤ value ∧ value ≤ 0xFF

/-- A number that names a register. -/
def IsRegister (value : Int) : Prop := 0 ≤ value ∧ value ≤ 0xF

theorem isAddress_emod (value : Int) : IsAddress (value % 4096) := by
  unfold IsAddress
  omega

theorem isAddress_val (address : Address) : IsAddress address.val := by
  unfold IsAddress
  omega

theorem isByte_toNat (byte : UInt8) : IsByte byte.toNat := by
  have bound := byte.toNat_lt
  unfold IsByte
  omega

theorem isRegister_val (x : Register) : IsRegister x.val := by
  unfold IsRegister
  omega

/-- A value in a byte's range is a byte. -/
theorem IsByte.byteOf_eq {value : Int} (small : IsByte value) :
    byteOf value = .ok (UInt8.ofNat value.toNat) := by
  simp only [IsByte] at small
  simp [byteOf, small]

/-- Counting a timer down keeps it in a byte's range. -/
theorem isByte_countDown {timer : Int} (small : IsByte timer) :
    IsByte (Machine.countDown timer) := by
  unfold IsByte Machine.countDown at *
  split <;> omega

/-- A register's number leads to the register. -/
theorem IsRegister.exists_locate {value : Int} (named : IsRegister value) :
    ∃ x : Register, locate? 16 value = some x ∧ value = x.val := by
  simp only [IsRegister] at named
  refine ⟨⟨value.toNat, by omega⟩, locate?_of_lt (by omega) (by omega), ?_⟩
  simp
  omega

namespace Machine

/-- Every integer that the machine holds lies in its range. -/
structure WellFormed (machine : Machine) : Prop where
  counter : IsAddress machine.counter
  index : IsAddress machine.index
  delay : IsByte machine.delay
  sound : IsByte machine.sound
  awaiting : ∀ waiting, machine.awaiting = some waiting -> IsRegister waiting
  calls : ∀ target ∈ machine.calls.items, IsAddress target

/-- The machine's stores have their sizes, and their cells hold bytes or bits. -/
structure LaidOut (machine : Machine) : Prop where
  memory_length : machine.memory.cells.toList.length = 4096
  memory_byte : ∀ byte ∈ machine.memory.cells.toList, IsByte byte.toNat
  registers_length : machine.registers.values.toList.length = 16
  registers_byte : ∀ byte ∈ machine.registers.values.toList, IsByte byte.toNat
  screen_length : machine.screen.bytes.length = 2048
  screen_bit : ∀ cell ∈ machine.screen.bytes, cell = 0 ∨ cell = 1

/-- The stores of every machine are laid out. -/
theorem laidOut (machine : Machine) : machine.LaidOut where
  memory_length := by simp
  memory_byte byte _ := isByte_toNat byte
  registers_length := by simp
  registers_byte byte _ := isByte_toNat byte
  screen_length := by simp
  screen_bit cell member := by
    obtain ⟨lit, _, rfl⟩ := List.mem_map.mp member
    cases lit <;> simp

theorem wellFormed_powerOn : powerOn.WellFormed where
  counter := by simp [powerOn, programStart, IsAddress]
  index := by simp [powerOn, IsAddress]
  delay := by simp [powerOn, IsByte]
  sound := by simp [powerOn, IsByte]
  awaiting waiting found := by simp [powerOn] at found
  calls target member := by simp [powerOn] at member

theorem WellFormed.advanced {machine : Machine} (wellFormed : machine.WellFormed) :
    machine.advanced.WellFormed where
  counter := isAddress_emod _
  index := wellFormed.index
  delay := wellFormed.delay
  sound := wellFormed.sound
  awaiting := wellFormed.awaiting
  calls := wellFormed.calls

/-- What memory holds has no part in whether a machine is well formed. -/
theorem WellFormed.with_memory
    {machine : Machine}
    (wellFormed : machine.WellFormed)
    (memory : Memory 4096) :
    { machine with memory }.WellFormed where
  counter := wellFormed.counter
  index := wellFormed.index
  delay := wellFormed.delay
  sound := wellFormed.sound
  awaiting := wellFormed.awaiting
  calls := wellFormed.calls

namespace WellFormed

variable {console : Console} {machine final : Machine} {instruction : Instruction}

theorem counter_skipIf (wellFormed : machine.WellFormed) (condition : Bool) :
    IsAddress (machine.skipIf condition).counter := by
  cases condition with
  | false => exact wellFormed.counter
  | true => exact isAddress_emod _

theorem counter_execute
    (wellFormed : machine.WellFormed)
    (executed : execute console machine instruction = .ok final) :
    IsAddress final.counter := by
  cases instruction with
  | ret =>
      cases items : machine.calls.items with
      | nil => simp [execute, CallStack.pop, items] at executed
      | cons target rest =>
          simp only [execute, CallStack.pop, items, Except.ok.injEq] at executed
          subst executed
          exact wellFormed.calls target (by simp [items])
  | jump target | call target =>
      cases executed
      exact isAddress_val target
  | jumpFromV0 base =>
      cases executed
      simp only [Int.natCast_emod]
      exact isAddress_emod _
  | skipIfByte | skipUnlessByte | skipIfSame | skipUnlessSame | skipIfKey | skipUnlessKey =>
      cases executed
      exact wellFormed.counter_skipIf _
  | _ =>
      have same : final.counter = machine.counter :=
        agree_of_execute .counter executed (by simp [Instruction.writes])
      rw [same]
      exact wellFormed.counter

theorem index_execute
    (wellFormed : machine.WellFormed)
    (executed : execute console machine instruction = .ok final) :
    IsAddress final.index := by
  cases instruction with
  | loadIndex address =>
      cases executed
      exact isAddress_val address
  | addIndex x =>
      cases executed
      exact isAddress_emod _
  | loadGlyph x =>
      cases executed
      have bound := (machine.v x).toNat_lt
      simp only [IsAddress, glyphSize]
      omega
  | _ =>
      have same : final.index = machine.index :=
        agree_of_execute .index executed (by simp [Instruction.writes])
      rw [same]
      exact wellFormed.index

theorem delay_execute
    (wellFormed : machine.WellFormed)
    (executed : execute console machine instruction = .ok final) :
    IsByte final.delay := by
  cases instruction with
  | setDelay x =>
      cases executed
      exact isByte_toNat _
  | _ =>
      have same : final.delay = machine.delay :=
        agree_of_execute .delay executed (by simp [Instruction.writes])
      rw [same]
      exact wellFormed.delay

theorem sound_execute
    (wellFormed : machine.WellFormed)
    (executed : execute console machine instruction = .ok final) :
    IsByte final.sound := by
  cases instruction with
  | setSound x =>
      cases executed
      exact isByte_toNat _
  | _ =>
      have same : final.sound = machine.sound :=
        agree_of_execute .sound executed (by simp [Instruction.writes])
      rw [same]
      exact wellFormed.sound

theorem awaiting_execute
    (wellFormed : machine.WellFormed)
    (executed : execute console machine instruction = .ok final) :
    ∀ waiting, final.awaiting = some waiting -> IsRegister waiting := by
  cases instruction with
  | awaitKey x =>
      cases executed
      rintro waiting ⟨⟩
      exact isRegister_val x
  | _ =>
      have same : final.awaiting = machine.awaiting :=
        agree_of_execute .awaiting executed (by simp [Instruction.writes])
      rw [same]
      exact wellFormed.awaiting

theorem calls_execute
    (wellFormed : machine.WellFormed)
    (executed : execute console machine instruction = .ok final) :
    ∀ target ∈ final.calls.items, IsAddress target := by
  cases instruction with
  | ret =>
      cases items : machine.calls.items with
      | nil => simp [execute, CallStack.pop, items] at executed
      | cons top rest =>
          simp only [execute, CallStack.pop, items, Except.ok.injEq] at executed
          subst executed
          intro target member
          exact wellFormed.calls target (by simp [items, member])
  | call destination =>
      cases executed
      intro target member
      rcases List.mem_cons.mp member with rfl | below
      · exact wellFormed.counter
      · exact wellFormed.calls target below
  | _ =>
      have same : final.calls = machine.calls :=
        agree_of_execute .calls executed (by simp [Instruction.writes])
      rw [same]
      exact wellFormed.calls

/-- Executing an instruction leaves a well-formed machine well formed. -/
theorem execute
    (wellFormed : machine.WellFormed)
    (executed : machine.execute console instruction = .ok final) :
    final.WellFormed where
  counter := wellFormed.counter_execute executed
  index := wellFormed.index_execute executed
  delay := wellFormed.delay_execute executed
  sound := wellFormed.sound_execute executed
  awaiting := wellFormed.awaiting_execute executed
  calls := wellFormed.calls_execute executed

/-- On a well-formed machine nothing fails but a return from an empty call stack. -/
theorem execute_eq_error
    (wellFormed : machine.WellFormed)
    {fault : Fault}
    (fails : machine.execute console instruction = .error fault) :
    instruction = .ret ∧ machine.calls.items = [] ∧ fault = .stackUnderflow := by
  rcases Machine.execute_eq_error fails with underflow | ⟨_, unread⟩
  · exact underflow
  · rw [wellFormed.delay.byteOf_eq] at unread
    contradiction

/-- Memory delivers an instruction word at every address. -/
theorem exists_fetch (wellFormed : machine.WellFormed) :
    ∃ word : Opcode, machine.fetch = .ok word.toNat := by
  obtain ⟨nonnegative, bounded⟩ := wellFormed.counter
  have located : locate? 4096 machine.counter = some _ :=
    locate?_of_lt nonnegative (by omega)
  let high := machine.memory.get ⟨machine.counter.toNat, by omega⟩
  let low := machine.memory.get (Address.wrap (machine.counter + 1))
  have highBound := high.toNat_lt
  have lowBound := low.toNat_lt
  refine ⟨Opcode.ofNat (high.toNat * 256 + low.toNat), ?_⟩
  rw [Opcode.toNat_ofNat, Nat.mod_eq_of_lt (by omega)]
  simp [fetch, Memory.read, located, high, low]

/-- However a step ends, it leaves a well-formed machine well formed. -/
theorem after_step (wellFormed : machine.WellFormed) :
    (Action.after (step console) machine).WellFormed := by
  have outcome := stepped console machine
  unfold Action.after
  generalize step console machine = result at outcome
  cases outcome with
  | paused | unfetched | undecodable => exact wellFormed
  | executed running fetched executes => exact wellFormed.advanced.execute executes
  | failed => exact wellFormed.advanced

/-- A step on a well-formed machine completes, unless it returns with nothing to return to or was
handed no instruction word. -/
theorem step_eq_error
    (wellFormed : machine.WellFormed)
    {fault : Fault}
    {stopped : Machine}
    (fails : step console machine = .error fault stopped) :
    (∃ report, fault = .emptyReturn report machine.counter) ∨
      ∃ value, console.forced = some value ∧ (value < 0 ∨ 0xFFFF < value) := by
  have outcome := stepped console machine
  obtain ⟨inMemory, fetches⟩ := wellFormed.exists_fetch
  rw [fails] at outcome
  cases outcome with
  | unfetched running unread =>
      unfold fetched at unread
      split at unread
      · contradiction
      · rw [fetches] at unread
        contradiction
  | undecodable running delivered outside =>
      right
      unfold fetched at delivered
      split at delivered
      · rename_i value forced
        cases delivered
        exact ⟨_, forced, outside⟩
      · rw [fetches] at delivered
        cases delivered
        have bound := inMemory.toNat_lt
        omega
  | failed running delivered uncompleted =>
      obtain ⟨_, _, rfl⟩ := wellFormed.advanced.execute_eq_error uncompleted
      exact .inl ⟨_, rfl⟩

/-- A well-formed machine waits for no key, or for one to go into a register. -/
theorem awaiting_cases (wellFormed : machine.WellFormed) :
    machine.awaiting = none ∨ ∃ x : Register, machine.awaiting = some (x.val : Int) := by
  cases found : machine.awaiting with
  | none => exact .inl rfl
  | some waiting =>
      obtain ⟨x, _, named⟩ := (wellFormed.awaiting waiting found).exists_locate
      exact .inr ⟨x, by rw [named]⟩

theorem takeKey (wellFormed : machine.WellFormed) (x : Register) (key : Int) :
    (machine.takeKey x key).WellFormed where
  counter := wellFormed.counter
  index := wellFormed.index
  delay := wellFormed.delay
  sound := wellFormed.sound
  awaiting := by simp [Machine.takeKey]
  calls := wellFormed.calls

/-- A well-formed machine takes every key and stays well formed. -/
theorem pressKey (wellFormed : machine.WellFormed) (key : Int) :
    ∃ taken next, machine.pressKey key = .ok taken next ∧ next.WellFormed := by
  rcases wellFormed.awaiting_cases with running | ⟨x, waiting⟩
  · exact ⟨_, _, pressKey_of_running key running, wellFormed⟩
  · exact ⟨_, _, pressKey_of_awaiting key waiting, wellFormed.takeKey x key⟩

/-- Counting the timers down keeps them in range. -/
theorem tickTimers (wellFormed : machine.WellFormed) : machine.tickTimers.WellFormed where
  counter := wellFormed.counter
  index := wellFormed.index
  delay := isByte_countDown wellFormed.delay
  sound := isByte_countDown wellFormed.sound
  awaiting := wellFormed.awaiting
  calls := wellFormed.calls

end WellFormed

/-! ## Switching on -/

/-- A program that ends before memory does can be loaded. -/
theorem exists_boot
    {program : Option (List UInt8)}
    (fits : (program.getD []).length ≤ 3584) :
    ∃ machine, boot program = .ok machine := by
  obtain ⟨machine, booted, -⟩ := exists_boot_of_fits fits
  exact ⟨machine, booted⟩

/-- Loading a program changes memory alone. -/
theorem boot_eq_ok
    {program : Option (List UInt8)}
    {machine : Machine}
    (booted : boot program = .ok machine) :
    ∃ memory, machine = { powerOn with memory } := by
  cases program with
  | none =>
      cases booted
      exact ⟨powerOn.memory, rfl⟩
  | some block =>
      simp only [boot, load] at booted
      cases written : powerOn.memory.writeBlock programStart block with
      | error fault => simp [written, Except.map] at booted
      | ok memory =>
          simp only [written, Except.map, Except.ok.injEq] at booted
          exact ⟨memory, booted.symm⟩

theorem WellFormed.of_boot
    {program : Option (List UInt8)}
    {machine : Machine}
    (booted : boot program = .ok machine) :
    machine.WellFormed := by
  obtain ⟨memory, rfl⟩ := boot_eq_ok booted
  exact wellFormed_powerOn.with_memory memory

end Machine
end Chip8
