import Chip8.Proofs.Machine.Effects
import Mathlib.Tactic.IntervalCases

/-!
# Registers and digits in memory

Registers are stored in cells that follow one another, going on from zero past
the end of memory, and are restored from the same cells. No two of sixteen
cells are the same, so what one transfer lays down the other picks up, in
either order. The three decimal digits of a register are laid down in the same
way.
-/

namespace Chip8

/-- Cells fewer steps on from a location than memory has cells are apart. -/
theorem Address.eq_of_wrap_eq
    {location : Int}
    {k k' : Nat}
    (within : k < 4096)
    (within' : k' < 4096)
    (same : Address.wrap (location + k) = Address.wrap (location + k')) :
    k = k' := by
  have values := congrArg Fin.val same
  simp only [Address.wrap] at values
  omega

/-- Memories whose cells are the same are the same. -/
theorem Memory.ext_get
    {size : Nat}
    {first second : Memory size}
    (same : ∀ cell, first.get cell = second.get cell) :
    first = second := by
  obtain ⟨cells⟩ := first
  obtain ⟨others⟩ := second
  have equal : cells = others := Vector.ext fun index within => same ⟨index, within⟩
  rw [equal]

namespace Machine

variable {console : Console} {machine later : Machine} {word : Opcode} {x : Register}

/-- The registers up to one are laid into memory, from where the index register points. -/
structure Stores (x : Register) (before after : Machine) : Prop where
  cells : ∀ r ≤ x, after.memory.get (before.cellAt r.val) = before.v r
  others : ∀ cell, (∀ r ≤ x, cell ≠ before.cellAt r.val) ->
    after.memory.get cell = before.memory.get cell
  /-- Nothing but memory and the program counter has changed. -/
  rest : after = {
    before with
    counter := (before.counter + 2) % 4096
    memory := after.memory }

/-- The registers up to one are filled from memory, from where the index register points. -/
structure Restores (x : Register) (before after : Machine) : Prop where
  registers : ∀ r ≤ x, after.v r = before.memory.get (before.cellAt r.val)
  above : ∀ r, x < r -> after.v r = before.v r
  /-- Nothing but the registers and the program counter has changed. -/
  rest : after = {
    before with
    counter := (before.counter + 2) % 4096
    registers := after.registers }

/-- A byte is laid into memory as three decimal digits, from where the index register points. -/
structure SpellsOut (value : UInt8) (before after : Machine) : Prop where
  digits : ∀ k < 3, (after.memory.get (before.cellAt k)).toNat ≤ 9
  sum :
    100 * (after.memory.get (before.cellAt 0)).toNat +
      10 * (after.memory.get (before.cellAt 1)).toNat +
        (after.memory.get (before.cellAt 2)).toNat = value.toNat
  others : ∀ cell, (∀ k < 3, cell ≠ before.cellAt k) ->
    after.memory.get cell = before.memory.get cell
  /-- Nothing but memory and the program counter has changed. -/
  rest : after = {
    before with
    counter := (before.counter + 2) % 4096
    memory := after.memory }

/-- A running machine is about to run a word of family `F` with a certain last byte. -/
structure MeetsDevice (last : Nat) (console : Console) (machine : Machine) (word : Opcode) :
    Prop where
  running : machine.paused = false
  fetched : machine.fetched console = .ok word.toNat
  family : word.family.val = 0xF
  last : word.byteValue = last

/-! ## Bytes in a row of cells -/

/-- Of bytes laid down in turn, each is found in the cell it was meant for. -/
theorem get_storeFrom
    {memory : Memory 4096}
    {location : Int}
    {bytes : List UInt8}
    {k : Nat}
    (short : bytes.length ≤ 4096)
    (within : k < bytes.length) :
    (storeFrom memory location bytes).get (Address.wrap (location + k)) = bytes[k] := by
  induction bytes generalizing memory location k with
  | nil => simp at within
  | cons byte rest hypothesis =>
      rw [List.length_cons] at short within
      cases k with
      | zero =>
          -- None of the later bytes goes round to the first cell again.
          have apart : ∀ k < rest.length,
              Address.wrap (location + (0 : Nat)) ≠ Address.wrap (location + 1 + (k : Nat)) := by
            intro k inside same
            rw [Int.add_assoc, Int.add_comm 1, ← Int.natCast_succ] at same
            have equal := Address.eq_of_wrap_eq (by omega) (by omega) same
            omega
          rw [storeFrom, get_storeFrom_of_ne apart]
          simp
      | succ k =>
          have next :
              (storeFrom (memory.set (Address.wrap location) byte) (location + 1) rest).get
                (Address.wrap (location + 1 + (k : Nat))) = rest[k] :=
            hypothesis (by omega) (by omega)
          rwa [Int.add_assoc, Int.add_comm 1, ← Int.natCast_succ] at next

theorem get_storeBytes
    (machine : Machine)
    {bytes : List UInt8}
    {k : Nat}
    (short : bytes.length ≤ 4096)
    (within : k < bytes.length) :
    (machine.storeBytes bytes).memory.get (machine.cellAt k) = bytes[k] :=
  get_storeFrom short within

theorem get_storeBytes_of_ne
    (machine : Machine)
    {bytes : List UInt8}
    {cell : Address}
    (apart : ∀ k < bytes.length, cell ≠ machine.cellAt k) :
    (machine.storeBytes bytes).memory.get cell = machine.memory.get cell :=
  get_storeFrom_of_ne apart

theorem length_upTo (registers : Registers) (x : Register) :
    (registers.upTo x).length = x.val + 1 := by
  rw [Registers.upTo, List.length_take, Vector.length_toList]
  omega

theorem getElem_upTo
    {registers : Registers}
    {r : Register}
    (within : r.val < (registers.upTo x).length) :
    (registers.upTo x)[r.val] = registers.get r := by
  simp [Registers.upTo, Registers.get]

/-! ## Single transfers -/

/-- Storing the registers up to one lays each into a cell of its own. -/
theorem stores_storeBytes (machine : Machine) (x : Register) :
    Stores x machine (machine.advanced.storeBytes (machine.registers.upTo x)) where
  cells r below := by
    have bound := x.isLt
    have short : (machine.registers.upTo x).length ≤ 4096 := by
      rw [length_upTo]
      omega
    have within : r.val < (machine.registers.upTo x).length := by
      rw [length_upTo]
      exact Nat.lt_succ_of_le below
    exact (get_storeBytes machine.advanced short within).trans (getElem_upTo within)
  others cell apart := by
    apply get_storeBytes_of_ne machine.advanced
    intro k within
    rw [length_upTo] at within
    exact apart ⟨k, by omega⟩ (Nat.le_of_lt_succ within)
  rest := rfl

/-- Restoring the registers up to one fills each from its cell. -/
theorem restores_loadUpTo (machine : Machine) (x : Register) :
    Restores x machine {
      machine.advanced with
      registers := machine.registers.loadUpTo x fun r =>
        machine.memory.get (machine.cellAt r.val) } where
  registers _ below := (Registers.get_loadUpTo _ _ _ _).trans (if_pos below)
  above _ past := (Registers.get_loadUpTo _ _ _ _).trans (if_neg (Fin.not_le.mpr past))
  rest := rfl

/-- The three digits of a byte make it up again. -/
theorem spellsOut_storeBytes (machine : Machine) (value : UInt8) :
    SpellsOut value machine (machine.advanced.storeBytes (decimalDigits value)) := by
  have bound := value.toNat_lt
  have length : (decimalDigits value).length = 3 := rfl
  have digit (k : Nat) (within : k < 3) :
      (machine.advanced.storeBytes (decimalDigits value)).memory.get (machine.cellAt k) =
        (decimalDigits value)[k] :=
    get_storeBytes machine.advanced (by omega) within
  have hundreds : (value / 100).toNat = value.toNat / 100 := UInt8.toNat_div _ _
  have tens : (value / 10 % 10).toNat = value.toNat / 10 % 10 := by
    rw [UInt8.toNat_mod, UInt8.toNat_div]
    rfl
  have units : (value % 10).toNat = value.toNat % 10 := UInt8.toNat_mod _ _
  constructor
  · intro k within
    rw [digit k within]
    interval_cases k
    · change (value / 100).toNat ≤ 9
      omega
    · change (value / 10 % 10).toNat ≤ 9
      omega
    · change (value % 10).toNat ≤ 9
      omega
  · rw [digit 0 (by decide), digit 1 (by decide), digit 2 (by decide)]
    change 100 * (value / 100).toNat + 10 * (value / 10 % 10).toNat + (value % 10).toNat =
      value.toNat
    omega
  · intro cell apart
    exact get_storeBytes_of_ne machine.advanced apart
  · rfl

/-! ## Words -/

/-- A step that meets `Fx55` stores the registers up to the word's. -/
theorem MeetsDevice.exists_stores (meets : MeetsDevice 0x55 console machine word) :
    ∃ next, step console machine = .ok () next ∧ Stores word.x machine next := by
  have decoded : word.decode = .store word.x :=
    Opcode.decode_eq_of_codedBy ⟨meets.family, meets.last, rfl⟩
  refine ⟨_, step_of_execute meets.running meets.fetched ?_, stores_storeBytes machine word.x⟩
  rw [decoded]
  rfl

/-- A step that meets `Fx65` restores the registers up to the word's. -/
theorem MeetsDevice.exists_restores (meets : MeetsDevice 0x65 console machine word) :
    ∃ next, step console machine = .ok () next ∧ Restores word.x machine next := by
  have decoded : word.decode = .restore word.x :=
    Opcode.decode_eq_of_codedBy ⟨meets.family, meets.last, rfl⟩
  refine ⟨_, step_of_execute meets.running meets.fetched ?_, restores_loadUpTo machine word.x⟩
  rw [decoded]
  rfl

/-- A step that meets `Fx33` spells out the word's register. -/
theorem MeetsDevice.exists_spellsOut (meets : MeetsDevice 0x33 console machine word) :
    ∃ next, step console machine = .ok () next ∧
      SpellsOut (machine.v word.x) machine next := by
  have decoded : word.decode = .storeDecimal word.x :=
    Opcode.decode_eq_of_codedBy ⟨meets.family, meets.last, rfl⟩
  refine ⟨_, step_of_execute meets.running meets.fetched ?_,
    spellsOut_storeBytes machine (machine.v word.x)⟩
  rw [decoded]
  rfl

/-! ## Transfers in turn -/

variable {stored loaded : Machine}

theorem cellAt_eq_of_index_eq (same : later.index = machine.index) (k : Nat) :
    later.cellAt k = machine.cellAt k := by
  rw [cellAt, same, cellAt]

/-- Registers that are restored from the cells in which they were stored are as they were then. -/
theorem Restores.v_eq_of_stores
    {r : Register}
    (restores : Restores x later loaded)
    (stores : Stores x machine stored)
    (same : later.index = machine.index)
    (kept : ∀ r ≤ x, later.memory.get (machine.cellAt r.val) =
      stored.memory.get (machine.cellAt r.val))
    (below : r ≤ x) :
    loaded.v r = machine.v r := by
  rw [restores.registers r below, cellAt_eq_of_index_eq same, kept r below, stores.cells r below]

/-- Memory from which registers were restored is as it was once they are stored again. -/
theorem Stores.memory_eq_of_restores
    (stores : Stores x later stored)
    (restores : Restores x machine loaded)
    (same : later.index = machine.index)
    (unwritten : later.memory = machine.memory)
    (kept : ∀ r ≤ x, later.v r = loaded.v r) :
    stored.memory = machine.memory := by
  apply Memory.ext_get
  intro cell
  by_cases written : ∃ r ≤ x, cell = later.cellAt r.val
  · obtain ⟨r, below, rfl⟩ := written
    calc stored.memory.get (later.cellAt r.val)
        = later.v r := stores.cells r below
      _ = machine.memory.get (machine.cellAt r.val) := by
          rw [kept r below, restores.registers r below]
      _ = machine.memory.get (later.cellAt r.val) := by
          rw [cellAt_eq_of_index_eq same]
  · rw [stores.others cell fun r below named => written ⟨r, below, named⟩, unwritten]

/-- A step that meets `Fx55` completes and stores the registers up to `Vx`, and changes no cell but
theirs. When `Fx65` is met later with the same register, with the index register where it was and
those cells as the store left them, the registers up to `Vx` become what they were at the store; the
registers above, the index register and memory stay what they are at the load. When `Fx55` is met
after `Fx65` in that way, memory becomes what it was at first. A step that meets `Fx33` completes
and lays three decimal digits of `Vx` into memory, and changes no cell but theirs. -/
theorem transfers_invert :
    (∀ {console : Console} {machine : Machine} {word : Opcode},
      MeetsDevice 0x55 console machine word ->
      ∃ stored, step console machine = .ok () stored ∧
        Stores word.x machine stored ∧
        ∀ (again : Console) (later : Machine) (back : Opcode),
          MeetsDevice 0x65 again later back ->
          back.x = word.x ->
          later.index = machine.index ->
          (∀ r ≤ word.x, later.memory.get (machine.cellAt r.val) =
            stored.memory.get (machine.cellAt r.val)) ->
          ∃ loaded, step again later = .ok () loaded ∧
            (∀ r ≤ word.x, loaded.v r = machine.v r) ∧
            (∀ r, word.x < r -> loaded.v r = later.v r) ∧
            loaded.index = later.index ∧
            loaded.memory = later.memory) ∧
    (∀ {console : Console} {machine : Machine} {word : Opcode},
      MeetsDevice 0x65 console machine word ->
      ∃ loaded, step console machine = .ok () loaded ∧
        Restores word.x machine loaded ∧
        ∀ (again : Console) (later : Machine) (back : Opcode),
          MeetsDevice 0x55 again later back ->
          back.x = word.x ->
          later.index = machine.index ->
          later.memory = machine.memory ->
          (∀ r ≤ word.x, later.v r = loaded.v r) ->
          ∃ stored, step again later = .ok () stored ∧ stored.memory = machine.memory) ∧
    (∀ {console : Console} {machine : Machine} {word : Opcode},
      MeetsDevice 0x33 console machine word ->
      ∃ next, step console machine = .ok () next ∧
        SpellsOut (machine.v word.x) machine next) := by
  refine ⟨?_, ?_, MeetsDevice.exists_spellsOut⟩
  · intro console machine word meets
    obtain ⟨stored, steps, stores⟩ := meets.exists_stores
    refine ⟨stored, steps, stores, ?_⟩
    intro again later back meetsAgain same index kept
    obtain ⟨loaded, stepsAgain, restores⟩ := meetsAgain.exists_restores
    rw [same] at restores
    refine ⟨loaded, stepsAgain, ?_, restores.above, ?_, ?_⟩
    · intro r below
      exact restores.v_eq_of_stores stores index kept below
    · rw [restores.rest]
    · rw [restores.rest]
  · intro console machine word meets
    obtain ⟨loaded, steps, restores⟩ := meets.exists_restores
    refine ⟨loaded, steps, restores, ?_⟩
    intro again later back meetsAgain same index unwritten kept
    obtain ⟨stored, stepsAgain, stores⟩ := meetsAgain.exists_stores
    rw [same] at stores
    exact ⟨stored, stepsAgain, stores.memory_eq_of_restores restores index unwritten kept⟩

/-- Three registers stored around the end of memory, restored once all registers were cleared; the
same cells restored and stored again; and the digits of a register laid down there. -/
theorem transfers_invert_wrapped :
    ∃ (forcing : Int -> Console) (machine stored later loaded : Machine),
      machine.index = 0xFFE ∧ machine.v ⟨2, by decide⟩ = 254 ∧
      MeetsDevice 0x55 (forcing 0xF255) machine (Opcode.ofNat 0xF255) ∧
      step (forcing 0xF255) machine = .ok () stored ∧
      stored.memory.get ⟨0, by decide⟩ = 254 ∧
      later = { stored with registers := .zero } ∧
      MeetsDevice 0x65 (forcing 0xF265) later (Opcode.ofNat 0xF265) ∧
      step (forcing 0xF265) later = .ok () loaded ∧
      loaded.v ⟨2, by decide⟩ = 254 ∧
      MeetsDevice 0x55 (forcing 0xF255) loaded (Opcode.ofNat 0xF255) ∧
      (∃ final, step (forcing 0xF255) loaded = .ok () final ∧ final.memory = later.memory) ∧
      MeetsDevice 0x33 (forcing 0xF233) machine (Opcode.ofNat 0xF233) ∧
      ∃ spelled, step (forcing 0xF233) machine = .ok () spelled ∧
        SpellsOut 254 machine spelled := by
  let forcing (word : Int) : Console := {
    held := fun _ => false, random := fun _ => 7, forced := some word }
  let machine : Machine := {
    powerOn with
    index := 0xFFE
    registers := Registers.zero.set ⟨2, by decide⟩ 254 }
  obtain ⟨storing, restoring, spelling⟩ := transfers_invert
  have meets : MeetsDevice 0x55 (forcing 0xF255) machine (Opcode.ofNat 0xF255) :=
    ⟨rfl, rfl, rfl, rfl⟩
  obtain ⟨stored, steps, stores, back⟩ := storing meets
  let later : Machine := { stored with registers := .zero }
  have index : later.index = machine.index := by
    change stored.index = machine.index
    rw [stores.rest]
  have meetsBack : MeetsDevice 0x65 (forcing 0xF265) later (Opcode.ofNat 0xF265) := by
    refine ⟨?_, rfl, rfl, rfl⟩
    change stored.paused = false
    rw [stores.rest]
    rfl
  obtain ⟨loaded, stepsBack, restores, forth⟩ := restoring meetsBack
  obtain ⟨_, stepsToo, same, _⟩ :=
    back (forcing 0xF265) later (Opcode.ofNat 0xF265) meetsBack rfl index fun r below => rfl
  cases stepsBack.symm.trans stepsToo
  have meetsForth : MeetsDevice 0x55 (forcing 0xF255) loaded (Opcode.ofNat 0xF255) := by
    refine ⟨?_, rfl, rfl, rfl⟩
    rw [restores.rest]
    exact meetsBack.running
  have indexKept : loaded.index = later.index := by rw [restores.rest]
  have memoryKept : loaded.memory = later.memory := by rw [restores.rest]
  have meetsDigits : MeetsDevice 0x33 (forcing 0xF233) machine (Opcode.ofNat 0xF233) :=
    ⟨rfl, rfl, rfl, rfl⟩
  refine ⟨forcing, machine, stored, later, loaded, rfl, rfl, meets, steps, ?_, rfl, meetsBack,
    stepsBack, same ⟨2, by decide⟩ (Fin.le_refl _), meetsForth, ?_, meetsDigits,
    spelling meetsDigits⟩
  · exact stores.cells ⟨2, by decide⟩ (Fin.le_refl _)
  · exact forth (forcing 0xF255) loaded (Opcode.ofNat 0xF255) meetsForth rfl indexKept memoryKept
      fun r below => rfl

end Machine
end Chip8
