import Chip8.Proofs.Keypad.Codes
import Chip8.Proofs.Keypad.Exchange

/-!
# The delivery of strokes

Reader and keypad may act in any order. Each act keeps the exchange orderly, so
every exchange that begins afresh is: no stroke is lost that was accepted, none
is delivered twice or out of order, and the request to quit is the last of them.
-/

namespace Chip8
namespace Exchange

variable {τ : Type} {exchange : Exchange τ} {keymap : Keymap}

/-- What reader and keypad keep true: the queue is never overfull, nothing but what was accepted
passes, in order, and no code is read after one that asks to quit. -/
structure Orderly (keymap : Keymap) (exchange : Exchange τ) : Prop where
  keymap_eq : exchange.keypad.keymap = keymap
  bounded : exchange.waiting.length ≤ queueRoom
  passed : exchange.taken ++ exchange.waiting =
    exchange.accepted.map .key ++ exchange.marker
  unasked : exchange.phase = .reading -> exchange.asked = false
  asked : exchange.phase = .quitting -> exchange.asked = true
  last : ∀ entry ∈ exchange.typed.dropLast, StrokeQueue.asksToQuit entry.1 = false

/-- The key of a code that does not ask to quit is queued where it is accepted. -/
theorem waiting_hear
    {code : Int}
    (bounded : exchange.waiting.length ≤ queueRoom)
    (quitsNot : StrokeQueue.asksToQuit code = false) :
    (exchange.keypad.queue.hear exchange.keypad.keymap code).waiting =
      exchange.waiting ++
        (acceptedKey? exchange.keypad.keymap
          (code, exchange.waiting.length)).toList.map .key := by
  unfold StrokeQueue.hear acceptedKey? StrokeQueue.offer
  by_cases filled : exchange.waiting.length = queueRoom
  · have room : ¬exchange.keypad.queue.hasRoom = true := by
      rw [StrokeQueue.hasRoom_iff]
      exact Nat.not_lt_of_le (Nat.le_of_eq filled.symm)
    simp only [filled, room, quitsNot]
    cases exchange.keypad.keymap.typed? code <;> simp
  · have room : exchange.keypad.queue.hasRoom = true :=
      StrokeQueue.hasRoom_iff.mpr (Nat.lt_of_le_of_ne bounded filled)
    simp only [filled, room, quitsNot]
    cases exchange.keypad.keymap.typed? code <;> simp

namespace Orderly

theorem fresh [TimeScale τ] (keymap : Keymap) :
    Orderly keymap (Exchange.fresh keymap : Exchange τ) where
  keymap_eq := rfl
  bounded := Nat.zero_le _
  passed := rfl
  unasked _ := rfl
  asked waits := by contradiction
  last entry typed := by contradiction

/-- No code typed so far asks to quit while the reader reads. -/
theorem typed_unasked
    (orderly : Orderly keymap exchange)
    (reading : exchange.phase = .reading) :
    ∀ entry ∈ exchange.typed, StrokeQueue.asksToQuit entry.1 = false := by
  have none := orderly.unasked reading
  simpa [Exchange.asked] using none

/-- The keys that were accepted are those that passed, while the reader reads. -/
theorem passed_of_reading
    (orderly : Orderly keymap exchange)
    (reading : exchange.phase = .reading) :
    exchange.taken ++ exchange.waiting = exchange.accepted.map .key := by
  have passed := orderly.passed
  rwa [marker_of_unasked (orderly.unasked reading), List.append_nil] at passed

theorem marks
    (orderly : Orderly keymap exchange)
    (waits : exchange.phase = .quitting)
    (room : exchange.keypad.queue.hasRoom = true) :
    Orderly keymap (exchange.proceed .ended (exchange.keypad.queue.push .quit)) where
  keymap_eq := orderly.keymap_eq
  bounded := StrokeQueue.length_push_le .quit room
  passed := by
    have passed := orderly.passed
    rw [marker_of_quitting waits, List.append_nil] at passed
    simp [orderly.asked waits, ← passed]
  unasked reading := by contradiction
  asked _ := orderly.asked waits
  last := orderly.last

theorem stops (orderly : Orderly keymap exchange) (reading : exchange.phase = .reading) :
    Orderly keymap (exchange.proceed .ended exchange.keypad.queue) where
  keymap_eq := orderly.keymap_eq
  bounded := orderly.bounded
  passed := by
    simpa [orderly.unasked reading] using orderly.passed_of_reading reading
  unasked _ := orderly.unasked reading
  asked quitting := by contradiction
  last := orderly.last

theorem asks
    {code : Int}
    (orderly : Orderly keymap exchange)
    (reading : exchange.phase = .reading)
    (quits : StrokeQueue.asksToQuit code = true) :
    Orderly keymap
      ((exchange.note code).proceed exchange.keypad.queue.quit.1 exchange.keypad.queue.quit.2) := by
  have passed := orderly.passed_of_reading reading
  have asked : (exchange.note code).asked = true := by simp [quits]
  have last : ∀ entry ∈ (exchange.note code).typed.dropLast,
      StrokeQueue.asksToQuit entry.1 = false := by
    simpa [note] using orderly.typed_unasked reading
  cases room : exchange.keypad.queue.hasRoom with
  | true =>
      rw [StrokeQueue.quit, if_pos room]
      exact {
        keymap_eq := orderly.keymap_eq
        bounded := StrokeQueue.length_push_le .quit room
        passed := by simp [quits, acceptedKey?_of_asks, ← passed]
        unasked := fun reading => by contradiction
        asked := fun _ => asked
        last }
  | false =>
      rw [StrokeQueue.quit, if_neg (by simp [room])]
      exact {
        keymap_eq := orderly.keymap_eq
        bounded := orderly.bounded
        passed := by simpa [acceptedKey?_of_asks, quits] using passed
        unasked := fun reading => by contradiction
        asked := fun _ => asked
        last }

theorem hears
    {code : Int}
    {phase : ReaderPhase}
    (orderly : Orderly keymap exchange)
    (reading : exchange.phase = .reading)
    (quitsNot : StrokeQueue.asksToQuit code = false)
    (goesOn : phase ≠ .quitting) :
    Orderly keymap
      ((exchange.note code).proceed phase
        (exchange.keypad.queue.hear exchange.keypad.keymap code)) := by
  have unasked : (exchange.note code).asked = false := by
    simp [orderly.unasked reading, quitsNot]
  exact {
    keymap_eq := orderly.keymap_eq
    bounded := by
      rw [waiting_proceed]
      exact StrokeQueue.length_hear_le _ code orderly.bounded
    passed := by
      simp [unasked, waiting_hear orderly.bounded quitsNot,
        ← orderly.passed_of_reading reading]
    unasked := fun _ => unasked
    asked := fun quitting => absurd quitting goesOn
    last := by simpa [note, proceed] using orderly.typed_unasked reading }

theorem turn (orderly : Orderly keymap exchange) (code : Int) :
    Orderly keymap (exchange.turn code) := by
  have turned := exchange.turned code
  generalize exchange.turn code = next at turned
  cases turned with
  | still idle => exact orderly
  | marks waits room => exact orderly.marks waits room
  | stops reading stopped => exact orderly.stops reading
  | asks reads quits => exact orderly.asks (phase_of_reads reads) quits
  | hears reads quitsNot goesOn =>
      apply orderly.hears (phase_of_reads reads) quitsNot
      obtain rfl | ⟨rfl, -⟩ := goesOn <;> decide

theorem phase_of_asked
    (orderly : Orderly keymap exchange)
    (asked : exchange.asked = true) :
    exchange.phase ≠ .reading := by
  intro reading
  have unasked := orderly.unasked reading
  rw [asked] at unasked
  contradiction

/-- The code that asks to quit is the last one that was read. -/
theorem typed_of_asked
    (orderly : Orderly keymap exchange)
    (asked : exchange.asked = true) :
    ∃ earlier code waited,
      exchange.typed = earlier ++ [(code, waited)] ∧
        StrokeQueue.asksToQuit code = true ∧
        ∀ entry ∈ earlier, StrokeQueue.asksToQuit entry.1 = false := by
  obtain ⟨entry, found, asks⟩ := List.any_eq_true.mp asked
  have last := orderly.last
  obtain empty | ⟨earlier, newest, typed⟩ := List.eq_nil_or_concat exchange.typed
  · rw [empty] at found
    contradiction
  · rw [List.concat_eq_append] at typed
    rw [typed, List.dropLast_concat] at last
    rw [typed, List.mem_append, List.mem_singleton] at found
    refine ⟨earlier, newest.1, newest.2, typed, ?_, last⟩
    obtain old | rfl := found
    · exact absurd asks (by simp [last entry old])
    · exact asks

/-- Once a code was read that asks to quit, none is read. -/
theorem silent (orderly : Orderly keymap exchange) (asked : exchange.asked = true) :
    exchange.reads = false := by
  cases reads : exchange.reads with
  | false => rfl
  | true => exact absurd (phase_of_reads reads) (orderly.phase_of_asked asked)

section Acting

variable [TimeScale τ] [Add τ] [LE τ] [DecidableLE τ]

theorem take (orderly : Orderly keymap exchange) (time : τ) :
    Orderly keymap (exchange.take time) where
  keymap_eq := (TerminalKeypad.keymap_take time exchange.keypad).trans orderly.keymap_eq
  bounded := by
    rw [waiting_take]
    exact Nat.le_trans (by simp) orderly.bounded
  passed := by
    have passed := orderly.passed
    rw [taken_take, waiting_take, accepted_take, marker_take, ← passed, List.append_assoc]
    cases exchange.waiting <;> rfl
  unasked := orderly.unasked
  asked := orderly.asked
  last := orderly.last

theorem stop (orderly : Orderly keymap exchange) : Orderly keymap (exchange.act .stop) where
  keymap_eq := orderly.keymap_eq
  bounded := orderly.bounded
  passed := orderly.passed
  unasked := orderly.unasked
  asked := orderly.asked
  last := orderly.last

theorem act (orderly : Orderly keymap exchange) (act : Act τ) :
    Orderly keymap (exchange.act act) := by
  cases act with
  | turn code => exact orderly.turn code
  | take time => exact orderly.take time
  | stop => exact orderly.stop

/-- Whatever reader and keypad do, in any order, the exchange stays orderly. -/
theorem after (orderly : Orderly keymap exchange) (acts : List (Act τ)) :
    Orderly keymap (exchange.after acts) := by
  induction acts generalizing exchange with
  | nil => exact orderly
  | cons act rest hypothesis => exact hypothesis (orderly.act act)

end Acting

end Orderly

/-! ## A reader that no longer reads -/

section Silence

variable [TimeScale τ] [Add τ] [LE τ] [DecidableLE τ]

/-- A reader that does not read stays so, and notes no code. -/
theorem silent_act (silent : exchange.reads = false) (act : Act τ) :
    (exchange.act act).reads = false ∧ (exchange.act act).typed = exchange.typed := by
  cases act with
  | turn code =>
      have turned := exchange.turned code
      rw [Exchange.act]
      generalize exchange.turn code = next at turned
      cases turned with
      | still idle => exact ⟨silent, rfl⟩
      | marks waits room => exact ⟨rfl, rfl⟩
      | stops reading stopped => exact ⟨rfl, rfl⟩
      | asks reads quits => rw [silent] at reads; contradiction
      | hears reads quitsNot goesOn => rw [silent] at reads; contradiction
  | take time => exact ⟨by simpa [reads, Exchange.act, Exchange.take] using silent, rfl⟩
  | stop => exact ⟨by simp [reads, Exchange.act, TerminalKeypad.stop], rfl⟩

theorem typed_after (silent : exchange.reads = false) (acts : List (Act τ)) :
    (exchange.after acts).typed = exchange.typed := by
  induction acts generalizing exchange with
  | nil => rfl
  | cons act rest hypothesis =>
      have kept := silent_act silent act
      exact (hypothesis kept.1).trans kept.2

/-- Nothing is accepted once a code was read that asks to quit. -/
theorem Orderly.accepted_after
    (orderly : Orderly keymap exchange)
    (asked : exchange.asked = true)
    (acts : List (Act τ)) :
    (exchange.after acts).accepted = exchange.accepted := by
  rw [accepted, accepted, typed_after (orderly.silent asked) acts,
    (orderly.after acts).keymap_eq, orderly.keymap_eq]

theorem Orderly.asked_after
    (orderly : Orderly keymap exchange)
    (asked : exchange.asked = true)
    (acts : List (Act τ)) :
    (exchange.after acts).asked = true := by
  rw [Exchange.asked, typed_after (orderly.silent asked) acts]
  exact asked

/-- No code is read once the reader was told to stop. -/
theorem typed_after_stop (exchange : Exchange τ) (acts : List (Act τ)) :
    (exchange.after (.stop :: acts)).typed = exchange.typed := by
  have silent : (exchange.act .stop).reads = false := by
    simp [reads, act, TerminalKeypad.stop]
  exact typed_after silent acts

end Silence

/-! ## The request to quit -/

/-- The reader has ended, or it finds room for the request to quit in its next turn. -/
def Settling (exchange : Exchange τ) : Prop :=
  exchange.phase = .ended ∨
    exchange.phase = .quitting ∧ exchange.keypad.queue.hasRoom = true

theorem phase_turn_of_settling (settling : exchange.Settling) (code : Int) :
    (exchange.turn code).phase = .ended := by
  have turned := exchange.turned code
  generalize exchange.turn code = next at turned
  cases turned with
  | still idle =>
      obtain ended | ⟨quitting, full⟩ := idle
      · exact ended
      · simp [Settling, quitting, full] at settling
  | marks waits room => rfl
  | stops reading stopped => rfl
  | asks reads quits => simp [Settling, phase_of_reads reads] at settling
  | hears reads quitsNot goesOn => simp [Settling, phase_of_reads reads] at settling

theorem turn_of_ended (ended : exchange.phase = .ended) (code : Int) :
    exchange.turn code = exchange := by
  have turned := exchange.turned code
  generalize exchange.turn code = next at turned
  cases turned with
  | still idle => rfl
  | marks waits room => rw [ended] at waits; contradiction
  | stops reading stopped => rw [ended] at reading; contradiction
  | asks reads quits => rw [phase_of_reads reads] at ended; contradiction
  | hears reads quitsNot goesOn => rw [phase_of_reads reads] at ended; contradiction

section Quitting

variable [TimeScale τ] [Add τ] [LE τ] [DecidableLE τ]

/-- A stroke that is taken leaves room. -/
theorem hasRoom_take (bounded : exchange.waiting.length ≤ queueRoom) (time : τ) :
    (exchange.take time).keypad.queue.hasRoom = true := by
  rw [StrokeQueue.hasRoom_iff, queue_waiting, waiting_take, List.length_tail]
  simp only [queueRoom] at bounded ⊢
  omega

theorem settling_take
    (bounded : exchange.waiting.length ≤ queueRoom)
    (silent : exchange.phase ≠ .reading)
    (time : τ) :
    (exchange.take time).Settling := by
  cases phase : exchange.phase with
  | reading => contradiction
  | quitting => exact .inr ⟨phase, hasRoom_take bounded time⟩
  | ended => exact .inl phase

theorem settling_after
    (orderly : Orderly keymap exchange)
    (settling : exchange.Settling)
    (acts : List (Act τ)) :
    (exchange.after acts).Settling := by
  induction acts generalizing exchange with
  | nil => exact settling
  | cons act rest hypothesis =>
      have kept : (exchange.act act).Settling := by
        cases act with
        | turn code => exact .inl (phase_turn_of_settling settling code)
        | take time =>
            have silent : exchange.phase ≠ .reading := by
              intro reading
              simp [Settling, reading] at settling
            exact settling_take orderly.bounded silent time
        | stop => exact settling
      exact hypothesis (orderly.act act) kept

/-- Once the reader has ended it stays so, and nothing but taking changes what waits. -/
theorem ended_act (ended : exchange.phase = .ended) (act : Act τ) :
    (exchange.act act).phase = .ended ∧
      (exchange.act act).waiting = exchange.waiting.drop (if act.takes then 1 else 0) := by
  cases act with
  | turn code =>
      have unmoved := turn_of_ended ended code
      exact ⟨(congrArg phase unmoved).trans ended, congrArg waiting unmoved⟩
  | take time => exact ⟨ended, by simp [Exchange.act, Act.takes]⟩
  | stop => exact ⟨ended, rfl⟩

theorem phase_after_of_ended (ended : exchange.phase = .ended) (acts : List (Act τ)) :
    (exchange.after acts).phase = .ended := by
  induction acts generalizing exchange with
  | nil => exact ended
  | cons act rest hypothesis => exact hypothesis (ended_act ended act).1

theorem waiting_after_of_ended (ended : exchange.phase = .ended) (acts : List (Act τ)) :
    (exchange.after acts).waiting = exchange.waiting.drop (acts.countP Act.takes) := by
  induction acts generalizing exchange with
  | nil => rfl
  | cons act rest hypothesis =>
      have kept := ended_act ended act
      rw [after_cons, hypothesis kept.1, kept.2, List.drop_drop, List.countP_cons, Nat.add_comm]

/-- A request to quit is delivered, after every key that was accepted, if there is a stroke taken,
then a turn of the reader, then as many strokes taken as may wait. -/
theorem taken_after_asked
    {later : List (Act τ)}
    (orderly : Orderly keymap exchange)
    (asked : exchange.asked = true)
    (time : τ)
    (between : List (Act τ))
    (code : Int)
    (enough : queueRoom ≤ later.countP Act.takes) :
    (exchange.after (.take time :: between ++ .turn code :: later)).taken =
      exchange.accepted.map .key ++ [.quit] := by
  have spread : exchange.after (.take time :: between ++ .turn code :: later) =
      (((exchange.take time).after between).turn code).after later := by
    simp [Exchange.act]
  -- The stroke that is taken first makes room, the turn fills it, and then the queue is emptied.
  have settled : ((exchange.take time).after between).Settling :=
    settling_after (orderly.take time)
      (settling_take orderly.bounded (orderly.phase_of_asked asked) time) between
  have placed := ((orderly.take time).after between).turn code
  have ended := phase_turn_of_settling settled code
  have empty : (exchange.after (.take time :: between ++ .turn code :: later)).waiting = [] := by
    rw [spread, waiting_after_of_ended ended]
    exact List.drop_eq_nil_of_le (Nat.le_trans placed.bounded enough)
  have ends : (exchange.after (.take time :: between ++ .turn code :: later)).phase = .ended := by
    rw [spread]
    exact phase_after_of_ended ended later
  have passed := (orderly.after (.take time :: between ++ .turn code :: later)).passed
  rw [empty, List.append_nil, orderly.accepted_after asked, marker, ends,
    orderly.asked_after asked] at passed
  exact passed

end Quitting

/-! ## A reader that goes on -/

/-- The reader ends only when it was asked to quit or told to stop. -/
def Attentive (exchange : Exchange τ) : Prop :=
  exchange.phase = .ended -> exchange.asked = true ∨ exchange.keypad.queue.stopped = true

theorem attentive_turn
    {code : Int}
    (orderly : Orderly keymap exchange)
    (attentive : exchange.Attentive)
    (readable : StrokeQueue.Readable code) :
    (exchange.turn code).Attentive := by
  intro ended
  have turned := exchange.turned code
  generalize exchange.turn code = next at turned ended
  cases turned with
  | still idle => exact attentive ended
  | marks waits room => exact .inl (orderly.asked waits)
  | stops reading stopped => exact .inr stopped
  | asks reads quits => exact .inl (by simp [quits])
  | hears reads quitsNot goesOn =>
      obtain reading | ⟨-, unreadable⟩ := goesOn
      · exact absurd (reading.symm.trans ended) (by decide)
      · contradiction

theorem taken_turn (exchange : Exchange τ) (code : Int) :
    (exchange.turn code).taken = exchange.taken := by
  have turned := exchange.turned code
  generalize exchange.turn code = next at turned
  cases turned <;> rfl

section Processing

variable [TimeScale τ] [Add τ] [LE τ] [DecidableLE τ]

theorem attentive_after
    {acts : List (Act τ)}
    (orderly : Orderly keymap exchange)
    (attentive : exchange.Attentive)
    (readable : ∀ code, .turn code ∈ acts -> StrokeQueue.Readable code) :
    (exchange.after acts).Attentive := by
  induction acts generalizing exchange with
  | nil => exact attentive
  | cons act rest hypothesis =>
      have kept : (exchange.act act).Attentive := by
        cases act with
        | turn code =>
            exact attentive_turn orderly attentive (readable code List.mem_cons_self)
        | take time =>
            simpa [Attentive, Exchange.act, Exchange.take, Exchange.asked] using attentive
        | stop => exact fun _ => .inr rfl
      exact hypothesis (orderly.act act) kept
        (fun code turns => readable code (List.mem_cons_of_mem act turns))

theorem taken_turns (exchange : Exchange τ) (codes : List Int) :
    (exchange.after (codes.map .turn)).taken = exchange.taken := by
  induction codes generalizing exchange with
  | nil => rfl
  | cons code rest hypothesis =>
      exact (hypothesis (exchange.turn code)).trans (taken_turn exchange code)

/-- However the reader gets in between, the keypad tells that it was asked to quit exactly when it
took that request. -/
theorem taken_processing (exchange : Exchange τ) (time : τ) (codes : List (List Int)) :
    ∃ strokes, (processing time codes exchange).2.taken = exchange.taken ++ strokes ∧
      ((processing time codes exchange).1 = some true ↔ .quit ∈ strokes) := by
  induction codes generalizing exchange with
  | nil => exact ⟨[], by simp [processing]⟩
  | cons turns rest hypothesis =>
      have taken := taken_turns exchange turns
      unfold processing
      generalize exchange.after (turns.map .turn) = ready at taken
      simp only [TerminalKeypad.fst_take, queue_waiting]
      cases waits : ready.waiting with
      | nil => exact ⟨[], by simp [waits, taken]⟩
      | cons stroke left =>
          cases stroke with
          | quit => exact ⟨[.quit], by simp [waits, taken]⟩
          | key struck =>
              obtain ⟨strokes, found, tells⟩ := hypothesis (ready.take time)
              refine ⟨.key struck :: strokes, ?_, by simpa using tells⟩
              simp [found, waits, taken]

/-- Where the reader does not get in between, this is how the keypad processes what waits. -/
theorem processing_undisturbed (exchange : Exchange τ) (time : τ) :
    (processing time (List.replicate (exchange.waiting.length + 1) []) exchange).1 =
        some (exchange.keypad.process time).1 ∧
      (processing time (List.replicate (exchange.waiting.length + 1) []) exchange).2.keypad =
        (exchange.keypad.process time).2 := by
  generalize waits : exchange.waiting = strokes
  induction strokes generalizing exchange with
  | nil =>
      rw [TerminalKeypad.process_eq]
      simp [processing, waits, Exchange.take]
  | cons stroke rest hypothesis =>
      rw [TerminalKeypad.process_eq, List.length_cons, List.replicate_succ]
      cases stroke with
      | quit => simp [processing, waits, Exchange.take]
      | key struck =>
          have processed := hypothesis (exchange.take time) (by simp [waits])
          simpa [processing, waits] using processed

/-- However reader and keypad take turns, the strokes pass without loss and in order. Those that
were taken and those that wait are the keys of the typed codes, but for codes that ask to quit and
for those typed while the queue was full, and after them the request to quit; that request is the
last that is read, and it is delivered; the keypad tells of it exactly when it takes it; and no code
is read once the reader was told to stop. -/
theorem strokes_delivered
    {exchange : Exchange τ}
    (keymap : Keymap)
    (acts : List (Act τ))
    (reached : exchange = (fresh keymap).after acts) :
    exchange.waiting.length ≤ queueRoom ∧
      exchange.taken ++ exchange.waiting =
        (exchange.typed.filterMap (acceptedKey? keymap)).map .key ++ exchange.marker ∧
      (exchange.asked = true ->
        (∃ earlier code waited,
          exchange.typed = earlier ++ [(code, waited)] ∧
            StrokeQueue.asksToQuit code = true ∧
            ∀ entry ∈ earlier, StrokeQueue.asksToQuit entry.1 = false) ∧
          (∀ more, (exchange.after more).typed = exchange.typed) ∧
          ∀ time between code later,
            queueRoom ≤ later.countP Act.takes ->
              (exchange.after (.take time :: between ++ .turn code :: later)).taken =
                exchange.accepted.map .key ++ [.quit]) ∧
      (∀ time codes,
        ∃ strokes,
          (processing time codes exchange).2.taken = exchange.taken ++ strokes ∧
            ((processing time codes exchange).1 = some true ↔ .quit ∈ strokes)) ∧
      (∀ time,
        (processing time (List.replicate (exchange.waiting.length + 1) []) exchange).1 =
            some (exchange.keypad.process time).1 ∧
          (processing time (List.replicate (exchange.waiting.length + 1) []) exchange).2.keypad =
            (exchange.keypad.process time).2) ∧
      (∀ more, (exchange.after (.stop :: more)).typed = exchange.typed) ∧
      ((∀ code, .turn code ∈ acts -> StrokeQueue.Readable code) ->
        exchange.phase = .ended ->
          exchange.asked = true ∨ exchange.keypad.queue.stopped = true) := by
  have orderly : Orderly keymap exchange := reached ▸ (Orderly.fresh keymap).after acts
  refine ⟨orderly.bounded, ?_, ?_, taken_processing exchange, processing_undisturbed exchange,
    typed_after_stop exchange, ?_⟩
  · have passed := orderly.passed
    rwa [accepted, orderly.keymap_eq] at passed
  · intro asked
    exact ⟨orderly.typed_of_asked asked, typed_after (orderly.silent asked),
      fun time between code later => taken_after_asked orderly asked time between code⟩
  · intro readable
    rw [reached]
    exact attentive_after (Orderly.fresh keymap) (fun ended => by contradiction) readable

/-- The keymap that the default text defines. -/
def standardKeymap : Keymap where
  codes := #v[120, 49, 50, 51, 113, 119, 101, 97, 115, 100, 122, 99, 52, 114, 102, 118]

theorem read_standardText : Keymap.read true Keymap.standardText = .ok standardKeymap :=
  eq_ok_of_toOption (by decide +kernel)

/-- A key is typed and then ESC; the request to quit is delivered after the key. -/
theorem strokes_delivered_escape :
    ∃ exchange : Exchange Rat,
      exchange = (fresh standardKeymap).after [.turn 49, .turn 27] ∧
      exchange.asked = true ∧
      (exchange.after (.take 0 :: [] ++ .turn 50 :: List.replicate 16 (.take 0))).taken =
        [.key 1, .quit] := by
  refine ⟨_, rfl, by decide +kernel, ?_⟩
  have delivered := strokes_delivered (τ := Rat) standardKeymap [.turn 49, .turn 27] rfl
  have quits := (delivered.2.2.1 (by decide +kernel)).2.2 0 [] 50 (List.replicate 16 (.take 0))
  exact (quits (by decide +kernel)).trans (by decide +kernel)

/-- The default keymap, but for the first key, which is on ESC. -/
def escapeKeymap : Keymap where
  codes := #v[27, 49, 50, 51, 113, 119, 101, 97, 115, 100, 122, 99, 52, 114, 102, 118]

/-- A keymap may give ESC to a key; that code is typed in vain, since it asks to quit. -/
theorem not_typed_keys_delivered_of_escape_key :
    ¬∀ (text : String) (keymap : Keymap) (acts : List (Act Rat)) (exchange : Exchange Rat),
      Keymap.read true text = .ok keymap ->
        exchange = (fresh keymap).after acts ->
          (exchange.taken ++ exchange.waiting).filterMap Stroke.key? =
            exchange.typed.filterMap fun (code, waiting) =>
              if waiting = queueRoom then none else keymap.typed? code := by
  intro delivers
  have read : Keymap.read true "27,49,50,51,113,119,101,97,115,100,122,99,52,114,102,118" =
      .ok escapeKeymap := eq_ok_of_toOption (by decide +kernel)
  have delivered := delivers _ escapeKeymap [.turn 27] _ read rfl
  exact absurd delivered (by decide +kernel)

end Processing

end Exchange
end Chip8
