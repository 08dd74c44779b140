import Chip8.Proofs.Keypad.Delivery
import Chip8.Proofs.Keypad.Refusal

/-!
# A reader that goes on

The reader of a terminal takes whatever code it is given. It goes on after every
code that stands for no character and after every character, whether it stands for
a key and whether there is room for a stroke, but for three: two ask to quit, and at
the one whose lower case is two characters the reader fails.
-/

namespace Chip8

/-- A code after which the reader goes on: that of no character, or of one that neither asks to quit
nor has a lower case of two. -/
def Harmless (code : Int) : Prop :=
  code < 0 ∨
    code ≤ largestCharacter ∧ code ≠ 27 ∧ code ≠ 3 ∧ code ≠ Text.dottedCapitalI

instance (code : Int) : Decidable (Harmless code) :=
  inferInstanceAs (Decidable (_ ∨ _))

/-! ## Lower case -/

/-- No request to quit is the lower case of a character in a run, or is in one. -/
theorem lowercaseRuns_apart_from_quits :
    ∀ run ∈ Text.lowercaseRuns, ∀ quit ∈ [27, 3],
      (quit < run.1 ∨ run.2.1 < quit) ∧
        ((quit : Int) < run.1 + run.2.2.2 ∨ run.2.1 + run.2.2.2 < (quit : Int)) := by
  decide +kernel

/-- A request to quit is the lower case of itself alone. -/
theorem lowercase?_eq_quit_iff
    {code quit : Nat}
    (quits : quit ∈ [27, 3]) :
    Text.lowercase? code = some quit ↔ code = quit := by
  have plain : ∀ quit ∈ [27, 3], 0 < quit ∧ quit ≠ Text.dottedCapitalI := by decide
  obtain ⟨positive, undotted⟩ := plain quit quits
  unfold Text.lowercase?
  split
  · rename_i dotted
    simp [dotted, undotted.symm]
  · split
    · rename_i first last step distance found
      -- All codes of a run are moved by one distance, so its first and last bound where they go.
      have within := List.find?_some found
      have apart := lowercaseRuns_apart_from_quits _ (List.mem_of_find?_eq_some found) quit quits
      simp only [decide_eq_true_eq] at within apart
      simp only [Option.some.injEq]
      omega
    · simp

/-- A code is lower-cased to a request to quit only if it is that request. -/
theorem lowersTo_quit_iff
    {code : Int}
    (quit : Nat)
    (quits : quit ∈ [27, 3]) :
    LowersTo code quit ↔ code = quit := by
  constructor
  · rintro ⟨nonnegative, bounded, single⟩
    obtain ⟨lower, found, same⟩ := Option.map_eq_some_iff.mp single
    cases Int.ofNat.inj same
    have unchanged := (lowercase?_eq_quit_iff quits).mp found
    omega
  · rintro rfl
    have small : ∀ quit ∈ [27, 3], quit < 28 := by decide
    have bounded := small quit quits
    have largest : 28 ≤ largestCharacter := by decide
    exact ⟨by omega, by omega, by
      rw [Int.toNat_natCast, (lowercase?_eq_quit_iff quits).mpr rfl]
      rfl⟩

/-- Among the characters one has no single lower case. -/
theorem unlowered_iff_of_character
    {code : Int}
    {fault : Fault}
    (bounded : code ≤ largestCharacter) :
    0 ≤ code ∧ Unlowered code fault ↔
      code = Text.dottedCapitalI ∧ fault = .codeNotOneCharacter := by
  constructor
  · rintro ⟨nonnegative, unlowered⟩
    have representable : largestCharacter < largestCode := by decide
    cases unlowered with
    | tooLarge beyond => omega
    | noCharacter within outside => omega
    | twoCharacters dotted => exact ⟨dotted, rfl⟩
  · rintro ⟨dotted, rfl⟩
    exact ⟨by omega, .twoCharacters dotted⟩

namespace StrokeQueue

/-- The queue once typed codes were read that do not ask to quit. -/
def hearAll (keymap : Keymap) (queue : StrokeQueue) (codes : List Int) : StrokeQueue :=
  codes.foldl (hear keymap) queue

variable {code : Int} {fault : Fault}

/-- A code asks to quit if it is that of ESC or of CTRL+C. -/
theorem asksToQuit_iff : asksToQuit code = true ↔ code = 27 ∨ code = 3 := by
  have escape : LowersTo code 27 ↔ code = 27 := lowersTo_quit_iff 27 (by decide)
  have interrupt : LowersTo code 3 ↔ code = 3 := lowersTo_quit_iff 3 (by decide)
  rw [← escape, ← interrupt, ← lowerCode_eq_ok_iff, ← lowerCode_eq_ok_iff, asksToQuit]
  cases lowerCode code <;> simp [quits]

theorem readable_iff :
    Readable code ↔ code < 0 ∨ code ≤ largestCharacter ∧ code ≠ Text.dottedCapitalI := by
  rw [Readable]
  by_cases negative : code < 0
  · simp [negative]
  · have nonnegative : 0 ≤ code := by omega
    cases lowered : lowerCode code with
    | ok lower =>
        obtain ⟨-, bounded, single⟩ := lowerCode_eq_ok_iff.mp lowered
        have plain : code ≠ Text.dottedCapitalI := by
          rintro rfl
          contradiction
        simp [bounded, plain]
    | error fault =>
        have unlowered := lowerCode_eq_error_iff.mp lowered
        have marked : code ≤ largestCharacter -> code = Text.dottedCapitalI :=
          fun bounded => ((unlowered_iff_of_character bounded).mp ⟨nonnegative, unlowered⟩).1
        simpa [negative] using marked

theorem not_readable_iff : ¬Readable code ↔ ∃ fault, 0 ≤ code ∧ Unlowered code fault := by
  simp only [Readable, not_or, Int.not_lt, exists_and_left, ← lowerCode_eq_error_iff]
  cases lowerCode code <;> simp

theorem harmless_iff : Harmless code ↔ Readable code ∧ asksToQuit code = false := by
  have unasked : asksToQuit code = false ↔ code ≠ 27 ∧ code ≠ 3 := by
    rw [← not_or, ← asksToQuit_iff, Bool.not_eq_true]
  rw [unasked, readable_iff, Harmless]
  omega

/-! ## Turns of the reader -/

variable {keymap : Keymap} {queue : StrokeQueue} {phase : ReaderPhase}

/-- A code cannot be read if it is no negative one and has no lower case. -/
theorem readCode_eq_error_iff :
    readCode keymap queue code = .error fault ↔ 0 ≤ code ∧ Unlowered code fault := by
  rw [readCode, ← lowerCode_eq_error_iff]
  by_cases negative : code < 0
  · simp [negative, Int.not_le.mpr negative]
  · have nonnegative : 0 ≤ code := by omega
    cases lowerCode code with
    | error refusal => simp [negative, nonnegative]
    | ok lower =>
        simp only [negative, if_false]
        split
        · simp
        · cases keymap.key? lower <;> simp

theorem turn_eq_error_iff :
    turn keymap phase queue code = .error fault ↔
      (phase = .reading ∧ queue.stopped = false) ∧ 0 ≤ code ∧ Unlowered code fault := by
  cases phase with
  | ended | quitting => simp [turn]
  | reading => cases stopped : queue.stopped <;> simp [turn, stopped, readCode_eq_error_iff]

/-- A harmless code is heard, and the reader goes on. -/
theorem readCode_of_harmless (harmless : Harmless code) :
    readCode keymap queue code = .ok (.reading, queue.hear keymap code) := by
  obtain ⟨readable, unasked⟩ := harmless_iff.mp harmless
  obtain heard | ⟨unreadable, -⟩ := readCode_of_not_asks keymap queue unasked
  · exact heard
  · contradiction

/-- A code is harmless, or it asks to quit, or it cannot be read. -/
theorem harmless_or_asks_or_unlowered (code : Int) :
    Harmless code ∨ asksToQuit code = true ∨ ∃ fault, 0 ≤ code ∧ Unlowered code fault := by
  rw [harmless_iff, ← not_readable_iff]
  cases asksToQuit code <;> simp [em]

@[simp] theorem stopped_offer (queue : StrokeQueue) (stroke : Stroke) :
    (queue.offer stroke).stopped = queue.stopped := by
  unfold offer
  split <;> rfl

@[simp] theorem stopped_hear (keymap : Keymap) (queue : StrokeQueue) (code : Int) :
    (queue.hear keymap code).stopped = queue.stopped := by
  unfold hear
  split <;> simp

/-- The reader that asks to quit no longer reads. -/
theorem phase_quit_ne_reading (queue : StrokeQueue) : queue.quit.1 ≠ .reading := by
  unfold quit
  split <;> simp

variable {rest : List Int}

theorem readAll_cons_of_harmless (going : queue.stopped = false) (harmless : Harmless code) :
    readAll keymap (code :: rest) queue = readAll keymap rest (queue.hear keymap code) := by
  simp [readAll, turn, going, readCode_of_harmless harmless]

theorem readAll_cons_of_asks (going : queue.stopped = false) (asks : asksToQuit code = true) :
    readAll keymap (code :: rest) queue = .ok rest.length queue.quit.2 := by
  have silent := phase_quit_ne_reading queue
  simp only [readAll, turn, going, readCode_of_asks keymap queue asks]
  generalize queue.quit = result at silent
  obtain ⟨phase, next⟩ := result
  cases phase <;> first | contradiction | rfl

theorem readAll_cons_of_unlowered
    (going : queue.stopped = false)
    (nonnegative : 0 ≤ code)
    (unlowered : Unlowered code fault) :
    readAll keymap (code :: rest) queue = .error fault queue := by
  have refused : readCode keymap queue code = .error fault :=
    readCode_eq_error_iff.mpr ⟨nonnegative, unlowered⟩
  simp [readAll, turn, going, refused]

/-- Reading fails at the first code that cannot be read, unless one before it asks to quit. -/
theorem readAll_eq_error_iff
    {codes : List Int}
    {final : StrokeQueue}
    (going : queue.stopped = false) :
    readAll keymap codes queue = .error fault final ↔
      ∃ before code rest,
        codes = before ++ code :: rest ∧
          (∀ earlier ∈ before, Harmless earlier) ∧
          (0 ≤ code ∧ Unlowered code fault) ∧
          final = queue.hearAll keymap before := by
  induction codes generalizing queue with
  | nil => simp [readAll]
  | cons first others hypothesis =>
      constructor
      · intro failed
        obtain harmless | asks | ⟨refusal, nonnegative, unlowered⟩ :=
          harmless_or_asks_or_unlowered first
        · rw [readAll_cons_of_harmless going harmless,
            hypothesis ((stopped_hear keymap queue first).trans going)] at failed
          obtain ⟨before, code, rest, rfl, earlier, refused, rfl⟩ := failed
          exact ⟨first :: before, code, rest, rfl,
            List.forall_mem_cons.mpr ⟨harmless, earlier⟩, refused, rfl⟩
        · rw [readAll_cons_of_asks going asks] at failed
          contradiction
        · rw [readAll_cons_of_unlowered going nonnegative unlowered] at failed
          cases failed
          exact ⟨[], first, others, rfl, by simp, ⟨nonnegative, unlowered⟩, rfl⟩
      · rintro ⟨before, code, rest, split, harmless, ⟨nonnegative, unlowered⟩, rfl⟩
        cases before with
        | nil =>
            cases split
            exact readAll_cons_of_unlowered going nonnegative unlowered
        | cons first before =>
            cases split
            obtain ⟨harmless, earlier⟩ := List.forall_mem_cons.mp harmless
            rw [readAll_cons_of_harmless going harmless,
              hypothesis ((stopped_hear keymap queue first).trans going)]
            exact ⟨before, code, rest, rfl, earlier, ⟨nonnegative, unlowered⟩, rfl⟩

end StrokeQueue

/-- Whether the reader goes on after an act. -/
def Act.GoesOn {τ : Type} : Act τ -> Prop
  | .turn code => Harmless code
  | .take _ => True
  | .stop => False

namespace Exchange

variable {τ : Type} {exchange : Exchange τ} {code : Int}

/-- A harmless code is noted and heard, and the reader goes on. -/
theorem turn_of_harmless
    (reads : exchange.reads = true)
    (harmless : Harmless code) :
    exchange.turn code =
      (exchange.note code).proceed .reading
        (exchange.keypad.queue.hear exchange.keypad.keymap code) := by
  have heard := (turn_of_reads reads code).trans (StrokeQueue.readCode_of_harmless harmless)
  rw [turn_of_ok heard, if_pos reads]

/-- A code is ignored that stands for no key or finds no room. -/
theorem turn_of_ignored
    (reads : exchange.reads = true)
    (harmless : Harmless code)
    (ignored : exchange.keypad.keymap.typed? code = none ∨
      exchange.keypad.queue.hasRoom = false) :
    exchange.turn code = exchange.note code := by
  have unheard : exchange.keypad.queue.hear exchange.keypad.keymap code =
      exchange.keypad.queue := by
    unfold StrokeQueue.hear
    obtain keyless | full := ignored
    · rw [keyless]
    · cases exchange.keypad.keymap.typed? code <;> simp [StrokeQueue.offer, full]
  rw [turn_of_harmless reads harmless, unheard, ← phase_of_reads reads]
  rfl

section Acting

variable [TimeScale τ] [Add τ] [LE τ] [DecidableLE τ]

/-- After a turn the reader reads if it did before and the code was harmless. -/
theorem reads_turn_iff :
    (exchange.turn code).reads = true ↔ exchange.reads = true ∧ Harmless code := by
  cases reads : exchange.reads with
  | false =>
      have silent := (silent_act reads (.turn code)).1
      simpa [act] using silent
  | true =>
      obtain harmless | asks | ⟨fault, nonnegative, unlowered⟩ :=
        StrokeQueue.harmless_or_asks_or_unlowered code
      · rw [turn_of_harmless reads harmless]
        simpa [harmless, reads_iff, proceed] using (reads_iff.mp reads).2
      · have quits := (turn_of_reads reads code).trans (StrokeQueue.readCode_of_asks _ _ asks)
        rw [← Prod.eta exchange.keypad.queue.quit] at quits
        rw [turn_of_ok quits, if_pos reads]
        simp [StrokeQueue.harmless_iff, asks, reads_iff, proceed,
          StrokeQueue.phase_quit_ne_reading]
      · have refused := (turn_of_reads reads code).trans
          (StrokeQueue.readCode_eq_error_iff.mpr ⟨nonnegative, unlowered⟩)
        have unreadable := StrokeQueue.not_readable_iff.mpr ⟨fault, nonnegative, unlowered⟩
        rw [turn_of_error refused]
        simp [StrokeQueue.harmless_iff, unreadable, reads_iff, proceed]

theorem reads_act_iff {act : Act τ} :
    (exchange.act act).reads = true ↔ exchange.reads = true ∧ act.GoesOn := by
  cases act with
  | turn code => exact reads_turn_iff
  | take time => simp [Exchange.act, Act.GoesOn, take, reads_iff]
  | stop => simp [Exchange.act, Act.GoesOn, TerminalKeypad.stop, reads_iff]

/-- After acts the reader reads if it did before and goes on after each of them. -/
theorem reads_after_iff {acts : List (Act τ)} :
    (exchange.after acts).reads = true ↔
      exchange.reads = true ∧ ∀ act ∈ acts, act.GoesOn := by
  induction acts generalizing exchange with
  | nil => simp
  | cons act rest hypothesis =>
      rw [after_cons, hypothesis, reads_act_iff, List.forall_mem_cons, and_assoc]

end Acting

end Exchange

namespace TerminalKeypad

variable {τ : Type} {keypad final : TerminalKeypad τ} {codes : List Int} {fault : Fault}

/-- Typing fails at the one character that cannot be read, unless one before it asks to quit. -/
theorem type_eq_error_iff (characters : ∀ code ∈ codes, code ≤ largestCharacter) :
    keypad.type codes = .error fault final ↔
      keypad.queue.stopped = false ∧ fault = .codeNotOneCharacter ∧
        ∃ before rest,
          codes = before ++ (Text.dottedCapitalI : Int) :: rest ∧
            (∀ code ∈ before, Harmless code) ∧
            final =
              { keypad with queue := keypad.queue.hearAll keypad.keymap before } := by
  rw [type]
  cases going : keypad.queue.stopped with
  | true => simp
  | false =>
      simp only [Bool.false_eq_true, if_false, true_and]
      constructor
      · intro failed
        cases reading : StrokeQueue.readAll keypad.keymap codes keypad.queue with
        | ok left queue =>
            rw [reading] at failed
            contradiction
        | error refusal queue =>
            rw [reading] at failed
            cases failed
            obtain ⟨before, code, rest, rfl, harmless, refused, rfl⟩ :=
              (StrokeQueue.readAll_eq_error_iff going).mp reading
            obtain ⟨rfl, rfl⟩ :=
              (unlowered_iff_of_character (characters code (by simp))).mp refused
            exact ⟨rfl, before, rest, rfl, harmless, rfl⟩
      · rintro ⟨rfl, before, rest, rfl, harmless, rfl⟩
        have refused := (unlowered_iff_of_character
          (characters Text.dottedCapitalI (by simp))).mpr ⟨rfl, rfl⟩
        rw [(StrokeQueue.readAll_eq_error_iff going).mpr
          ⟨before, Text.dottedCapitalI, rest, rfl, harmless, refused, rfl⟩]

end TerminalKeypad

section Reader

variable {τ : Type} [TimeScale τ] [Add τ] [LE τ] [DecidableLE τ]

/-- The reader reads on, whatever waits in the queue, until a code asks to quit, it is told to stop,
or it is given the one character whose lower case is two. It fails at that character alone, and
ignores any other code that stands for no key or finds no room. -/
theorem reader_goes_on (exchange : Exchange τ) :
    (∀ acts, (exchange.after acts).reads = true ↔
      exchange.reads = true ∧ ∀ act ∈ acts, act.GoesOn) ∧
    (∀ code fault, code ≤ largestCharacter ->
      (StrokeQueue.turn exchange.keypad.keymap exchange.phase exchange.keypad.queue code =
          .error fault ↔
        exchange.reads = true ∧ code = Text.dottedCapitalI ∧ fault = .codeNotOneCharacter)) ∧
    (∀ code, exchange.reads = true -> Harmless code ->
      (exchange.turn code).typed = exchange.typed ++ [(code, exchange.waiting.length)] ∧
      (exchange.keypad.keymap.typed? code = none ∨ exchange.keypad.queue.hasRoom = false ->
        exchange.turn code = exchange.note code)) ∧
    ∀ codes fault final, (∀ code ∈ codes, code ≤ largestCharacter) ->
      (exchange.keypad.type codes = .error fault final ↔
        exchange.keypad.queue.stopped = false ∧ fault = .codeNotOneCharacter ∧
          ∃ before rest,
            codes = before ++ (Text.dottedCapitalI : Int) :: rest ∧
              (∀ code ∈ before, Harmless code) ∧
              final =
                { exchange.keypad with
                  queue := exchange.keypad.queue.hearAll exchange.keypad.keymap before }) := by
  refine ⟨fun acts => Exchange.reads_after_iff, ?_, ?_, ?_⟩
  · intro code fault character
    rw [StrokeQueue.turn_eq_error_iff, unlowered_iff_of_character character, Exchange.reads_iff]
  · intro code reads harmless
    exact ⟨congrArg Exchange.typed (Exchange.turn_of_harmless reads harmless),
      Exchange.turn_of_ignored reads harmless⟩
  · intro codes fault final characters
    exact TerminalKeypad.type_eq_error_iff characters

/-- The reader goes on after an arrow key, after no character and after a key of the keymap, and it
ignores the arrow key; it fails at the function key whose code is that of the one character. -/
theorem reader_goes_on_function_key :
    ∃ exchange : Exchange Rat,
      exchange = .fresh Exchange.standardKeymap ∧
        (exchange.after [.turn 258, .turn (-1), .turn 49]).reads = true ∧
        exchange.turn 258 = exchange.note 258 ∧
        StrokeQueue.turn exchange.keypad.keymap exchange.phase exchange.keypad.queue 0x130 =
          .error .codeNotOneCharacter ∧
        ∃ final, exchange.keypad.type [49, 0x130, 50] = .error .codeNotOneCharacter final := by
  obtain ⟨goesOn, fails, ignores, types⟩ :=
    reader_goes_on (.fresh Exchange.standardKeymap : Exchange Rat)
  refine ⟨_, rfl, (goesOn _).mpr ⟨rfl, ?_⟩, ?_, ?_, ?_⟩
  · have harmless : Harmless 258 ∧ Harmless (-1) ∧ Harmless 49 := by decide
    simpa [Act.GoesOn] using harmless
  · exact (ignores 258 rfl (by decide)).2 (.inl (by decide +kernel))
  · exact (fails 0x130 _ (by decide)).mpr ⟨rfl, rfl, rfl⟩
  · exact ⟨_, (types _ _ _ (by decide)).mpr ⟨rfl, rfl, [49], [50], rfl, by decide, rfl⟩⟩

/-- A reader of an accepted keymap fails at the one character whose lower case is two. -/
theorem not_readAll_of_dotted_capital :
    ¬∀ (text : String) (keymap : Keymap) (codes : List Int) (queue : StrokeQueue),
      Keymap.read true text = .ok keymap ->
        (∀ code ∈ codes, code ≤ largestCharacter) ->
          ∃ left final, StrokeQueue.readAll keymap codes queue = .ok left final := by
  intro survives
  have failed : StrokeQueue.readAll Exchange.standardKeymap [0x130] {} =
      .error .codeNotOneCharacter {} :=
    StrokeQueue.readAll_cons_of_unlowered rfl (by decide) (.twoCharacters rfl)
  obtain ⟨left, final, read⟩ := survives _ _ [0x130] {} Exchange.read_standardText (by decide)
  rw [failed] at read
  contradiction

end Reader

end Chip8
