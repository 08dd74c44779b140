import Chip8.Keypad.Terminal

/-!
# The exchange of strokes

The reader and the keypad of a terminal act in any order: the reader takes a
turn, the keypad takes one stroke, and at some time the reader is told to stop.
Whatever the order, the strokes that were taken and those that wait are the
mapped keys in the order in which they were typed, but for those typed while
the queue was full, and after them the request to quit.
-/

namespace Chip8

/-- The key that a stroke is of. -/
def Stroke.key? : Stroke -> Option Key
  | .key struck => some struck
  | .quit => none

/-- The key that a typed code stands for. -/
def Keymap.typed? (keymap : Keymap) (code : Int) : Option Key :=
  match lowerCode code with
  | .ok lower => keymap.key? lower
  | .error _ => none

namespace StrokeQueue

/-- Whether a typed code asks to quit. -/
def asksToQuit (code : Int) : Bool :=
  match lowerCode code with
  | .ok lower => quits lower
  | .error _ => false

/-- A code that the reader can read: it stands for no character, or for one whose lower case is a
single character. -/
def Readable (code : Int) : Prop :=
  code < 0 ∨ ∃ lower, lowerCode code = .ok lower

/-- The queue once a typed code was read that does not ask to quit. -/
def hear (keymap : Keymap) (queue : StrokeQueue) (code : Int) : StrokeQueue :=
  match keymap.typed? code with
  | some key => queue.offer (.key key)
  | none => queue

theorem lowerCode_of_negative {code : Int} (negative : code < 0) :
    ∃ fault, lowerCode code = .error fault := by
  unfold lowerCode
  split
  · exact ⟨_, rfl⟩
  · exact ⟨_, if_pos (.inl negative)⟩

theorem readCode_of_asks
    {code : Int}
    (keymap : Keymap)
    (queue : StrokeQueue)
    (asks : asksToQuit code = true) :
    readCode keymap queue code = .ok queue.quit := by
  unfold asksToQuit at asks
  split at asks
  · rename_i lower lowered
    have positive : ¬code < 0 := by
      intro negative
      obtain ⟨fault, refused⟩ := lowerCode_of_negative negative
      rw [refused] at lowered
      contradiction
    simp [readCode, positive, lowered, asks]
  · contradiction

/-- A code that does not ask to quit is heard, and the reader goes on unless it cannot read it. -/
theorem readCode_of_not_asks
    {code : Int}
    (keymap : Keymap)
    (queue : StrokeQueue)
    (asksNot : asksToQuit code = false) :
    readCode keymap queue code = .ok (.reading, queue.hear keymap code) ∨
      ¬Readable code ∧ queue.hear keymap code = queue ∧
        ∃ fault, readCode keymap queue code = .error fault := by
  unfold readCode hear Keymap.typed?
  unfold asksToQuit at asksNot
  by_cases negative : code < 0
  · obtain ⟨fault, refused⟩ := lowerCode_of_negative negative
    simp [negative, refused]
  · cases lowered : lowerCode code with
    | error fault =>
        right
        have unreadable : ¬Readable code := by
          rintro (below | ⟨lower, found⟩)
          · contradiction
          · rw [lowered] at found
            contradiction
        simp [negative, unreadable]
    | ok lower =>
        rw [lowered] at asksNot
        left
        cases found : keymap.key? lower <;> simp [negative, asksNot, found]

theorem hasRoom_iff {queue : StrokeQueue} :
    queue.hasRoom = true ↔ queue.waiting.length < queueRoom := by
  simp [hasRoom]

theorem length_push_le {queue : StrokeQueue} (stroke : Stroke) (room : queue.hasRoom = true) :
    (queue.push stroke).waiting.length ≤ queueRoom := by
  have shorter := hasRoom_iff.mp room
  simpa using Nat.succ_le_of_lt shorter

theorem length_hear_le
    {queue : StrokeQueue}
    (keymap : Keymap)
    (code : Int)
    (bounded : queue.waiting.length ≤ queueRoom) :
    (queue.hear keymap code).waiting.length ≤ queueRoom := by
  unfold hear
  split
  · exact length_offer_le _ bounded
  · exact bounded

end StrokeQueue

namespace TerminalKeypad

variable {τ : Type} [TimeScale τ] [Add τ] [LE τ] [DecidableLE τ]

/-- Take the oldest stroke that waits, at a time. -/
def take (time : τ) (keypad : TerminalKeypad τ) : Option Stroke × TerminalKeypad τ :=
  match keypad.queue.waiting with
  | [] => (none, keypad)
  | stroke :: rest =>
      let left := { keypad with queue := { keypad.queue with waiting := rest } }
      match stroke with
      | .key key => (some stroke, left.strike time key)
      | .quit => (some stroke, left)

@[simp] theorem fst_take (time : τ) (keypad : TerminalKeypad τ) :
    (keypad.take time).1 = keypad.queue.waiting.head? := by
  obtain ⟨keymap, heldUntil, pending, waiting, stopped⟩ := keypad
  cases waiting with
  | nil => rfl
  | cons stroke rest => cases stroke <;> rfl

@[simp] theorem queue_take (time : τ) (keypad : TerminalKeypad τ) :
    (keypad.take time).2.queue =
      { keypad.queue with waiting := keypad.queue.waiting.tail } := by
  obtain ⟨keymap, heldUntil, pending, waiting, stopped⟩ := keypad
  cases waiting with
  | nil => rfl
  | cons stroke rest => cases stroke <;> rfl

@[simp] theorem keymap_take (time : τ) (keypad : TerminalKeypad τ) :
    (keypad.take time).2.keymap = keypad.keymap := by
  obtain ⟨keymap, heldUntil, pending, waiting, stopped⟩ := keypad
  cases waiting with
  | nil => rfl
  | cons stroke rest => cases stroke <;> rfl

/-- Taking strokes does not look at the queue they were taken from. -/
theorem takeStrokes_with_queue
    (time : τ)
    (keypad : TerminalKeypad τ)
    (queue : StrokeQueue)
    (strokes : List Stroke) :
    takeStrokes time { keypad with queue } strokes =
      ((takeStrokes time keypad strokes).1, (takeStrokes time keypad strokes).2.1,
        { (takeStrokes time keypad strokes).2.2 with queue }) := by
  induction strokes generalizing keypad with
  | nil => rfl
  | cons stroke rest hypothesis =>
      cases stroke with
      | quit => rfl
      | key key => exact hypothesis (keypad.strike time key)

/-- The keypad takes strokes one at a time until none waits or one asks to quit; it tells that it
was asked exactly when it took that stroke. -/
theorem process_eq (time : τ) (keypad : TerminalKeypad τ) :
    keypad.process time =
      match (keypad.take time).1 with
      | none => (false, (keypad.take time).2)
      | some .quit => (true, (keypad.take time).2)
      | some (.key _) => (keypad.take time).2.process time := by
  obtain ⟨keymap, heldUntil, pending, waiting, stopped⟩ := keypad
  cases waiting with
  | nil => rfl
  | cons stroke rest =>
      cases stroke with
      | quit => rfl
      | key key =>
          have struck := takeStrokes_with_queue time
            (strike time { keymap, heldUntil, pending, queue := ⟨.key key :: rest, stopped⟩ } key)
            ⟨rest, stopped⟩ rest
          simp only [process, take, takeStrokes, strike] at struck ⊢
          rw [struck]

end TerminalKeypad

/-- Something that the reader or the keypad does. -/
inductive Act (τ : Type)
  /-- The reader takes a turn; this is the code it reads, if it reads one. -/
  | turn (code : Int)
  /-- The keypad takes the oldest stroke that waits, at a time. -/
  | take (time : τ)
  /-- The reader is told to stop. -/
  | stop

/-- Whether the keypad takes a stroke. -/
def Act.takes {τ : Type} : Act τ -> Bool
  | .take _ => true
  | _ => false

/-- A reader and a keypad at work, and what has passed between them. -/
structure Exchange (τ : Type) where
  phase : ReaderPhase := .reading
  keypad : TerminalKeypad τ
  /-- The codes that were read, each with how many strokes waited when it was. -/
  typed : List (Int × Nat) := []
  /-- The strokes that were taken. -/
  taken : List Stroke := []

namespace Exchange

variable {τ : Type}

/-- The strokes that wait. -/
def waiting (exchange : Exchange τ) : List Stroke :=
  exchange.keypad.queue.waiting

/-- Whether the reader reads a code in its next turn. -/
def reads (exchange : Exchange τ) : Bool :=
  exchange.phase = .reading && !exchange.keypad.queue.stopped

/-- The exchange once the reader has come to a phase and the queue to a state. -/
def proceed (exchange : Exchange τ) (phase : ReaderPhase) (queue : StrokeQueue) : Exchange τ :=
  { exchange with phase, keypad := { exchange.keypad with queue } }

/-- The exchange with a code noted as read. -/
def note (exchange : Exchange τ) (code : Int) : Exchange τ :=
  { exchange with typed := exchange.typed ++ [(code, exchange.waiting.length)] }

/-- The exchange after a turn of the reader, which ends at a code that it cannot read. -/
def turn (exchange : Exchange τ) (code : Int) : Exchange τ :=
  let noted := if exchange.reads then exchange.note code else exchange
  match StrokeQueue.turn exchange.keypad.keymap exchange.phase exchange.keypad.queue code with
  | .ok (phase, queue) => noted.proceed phase queue
  | .error _ => noted.proceed .ended exchange.keypad.queue

/-- Whether a code that asks to quit was read. -/
def asked (exchange : Exchange τ) : Bool :=
  exchange.typed.any fun (code, _) => StrokeQueue.asksToQuit code

/-- The key that a typed code is accepted for: the one it stands for, unless it asks to quit or as
many strokes waited as may. -/
def acceptedKey? (keymap : Keymap) : Int × Nat -> Option Key
  | (code, waiting) =>
      if StrokeQueue.asksToQuit code || waiting = queueRoom then none else keymap.typed? code

/-- The keys that were accepted, in the order in which they were typed. -/
def accepted (exchange : Exchange τ) : List Key :=
  exchange.typed.filterMap (acceptedKey? exchange.keypad.keymap)

/-- The request to quit, once one was read and there was room for it. -/
def marker (exchange : Exchange τ) : List Stroke :=
  if exchange.asked && exchange.phase != .quitting then [.quit] else []

/-- The reader is about to read, and nothing passed yet. -/
def fresh [TimeScale τ] (keymap : Keymap) : Exchange τ where
  keypad := .fresh keymap

section Acting

variable [TimeScale τ] [Add τ] [LE τ] [DecidableLE τ]

/-- The exchange after the keypad takes a stroke. -/
def take (exchange : Exchange τ) (time : τ) : Exchange τ where
  phase := exchange.phase
  keypad := (exchange.keypad.take time).2
  typed := exchange.typed
  taken := exchange.taken ++ (exchange.keypad.take time).1.toList

/-- The exchange after an act. -/
def act (exchange : Exchange τ) : Act τ -> Exchange τ
  | .turn code => exchange.turn code
  | .take time => exchange.take time
  | .stop => { exchange with keypad := exchange.keypad.stop }

/-- The exchange after acts in turn. -/
def after (exchange : Exchange τ) (acts : List (Act τ)) : Exchange τ :=
  acts.foldl act exchange

/-- The keypad processes what waits at a time, and the reader takes turns before each stroke is
taken; the result tells whether the keypad was asked to quit, once it is done. -/
def processing (time : τ) : List (List Int) -> Exchange τ -> Option Bool × Exchange τ
  | [], exchange => (none, exchange)
  | codes :: rest, exchange =>
      let ready := exchange.after (codes.map .turn)
      match (ready.keypad.take time).1 with
      | none => (some false, ready.take time)
      | some .quit => (some true, ready.take time)
      | some (.key _) => processing time rest (ready.take time)

end Acting

/-- How a turn of the reader may go. -/
inductive Turned (exchange : Exchange τ) (code : Int) : Exchange τ -> Prop
  /-- The reader has ended, or still waits for room. -/
  | still
      (idle : exchange.phase = .ended ∨
        exchange.phase = .quitting ∧ exchange.keypad.queue.hasRoom = false) :
      Turned exchange code exchange
  /-- The request to quit finds room. -/
  | marks
      (waits : exchange.phase = .quitting)
      (room : exchange.keypad.queue.hasRoom = true) :
      Turned exchange code (exchange.proceed .ended (exchange.keypad.queue.push .quit))
  /-- The reader was told to stop. -/
  | stops
      (reading : exchange.phase = .reading)
      (stopped : exchange.keypad.queue.stopped = true) :
      Turned exchange code (exchange.proceed .ended exchange.keypad.queue)
  /-- A code is read that asks to quit. -/
  | asks
      (reads : exchange.reads = true)
      (quits : StrokeQueue.asksToQuit code = true) :
      Turned exchange code
        ((exchange.note code).proceed exchange.keypad.queue.quit.1 exchange.keypad.queue.quit.2)
  /-- Another code is read. -/
  | hears {phase : ReaderPhase}
      (reads : exchange.reads = true)
      (quitsNot : StrokeQueue.asksToQuit code = false)
      (goesOn : phase = .reading ∨ phase = .ended ∧ ¬StrokeQueue.Readable code) :
      Turned exchange code
        ((exchange.note code).proceed phase
          (exchange.keypad.queue.hear exchange.keypad.keymap code))

variable {exchange : Exchange τ}

theorem turn_of_ok
    {code : Int}
    {phase : ReaderPhase}
    {queue : StrokeQueue}
    (turned : StrokeQueue.turn exchange.keypad.keymap exchange.phase exchange.keypad.queue code =
      .ok (phase, queue)) :
    exchange.turn code =
      (if exchange.reads then exchange.note code else exchange).proceed phase queue := by
  simp [turn, turned]

theorem turn_of_error
    {code : Int}
    {fault : Fault}
    (turned : StrokeQueue.turn exchange.keypad.keymap exchange.phase exchange.keypad.queue code =
      .error fault) :
    exchange.turn code =
      (if exchange.reads then exchange.note code else exchange).proceed .ended
        exchange.keypad.queue := by
  simp [turn, turned]

theorem reads_iff :
    exchange.reads = true ↔
      exchange.phase = .reading ∧ exchange.keypad.queue.stopped = false := by
  simp [reads]

theorem phase_of_reads (reads : exchange.reads = true) : exchange.phase = .reading :=
  (reads_iff.mp reads).1

/-- A turn of a reader that reads is the reading of a code. -/
theorem turn_of_reads (reads : exchange.reads = true) (code : Int) :
    StrokeQueue.turn exchange.keypad.keymap exchange.phase exchange.keypad.queue code =
      StrokeQueue.readCode exchange.keypad.keymap exchange.keypad.queue code := by
  obtain ⟨phase, stopped⟩ := reads_iff.mp reads
  simp [phase, StrokeQueue.turn, stopped]

/-- A reader that reads asks to quit or goes on, unless it cannot read the code. -/
theorem turned_of_reads (reads : exchange.reads = true) (code : Int) :
    Turned exchange code (exchange.turn code) := by
  have turned := turn_of_reads reads code
  cases asks : StrokeQueue.asksToQuit code with
  | true =>
      have quits := turned.trans (StrokeQueue.readCode_of_asks _ _ asks)
      rw [← Prod.eta exchange.keypad.queue.quit] at quits
      rw [turn_of_ok quits, if_pos reads]
      exact .asks reads asks
  | false =>
      obtain heard | ⟨unreadable, unheard, fault, refused⟩ :=
        StrokeQueue.readCode_of_not_asks exchange.keypad.keymap exchange.keypad.queue asks
      · rw [heard] at turned
        rw [turn_of_ok turned, if_pos reads]
        exact .hears reads asks (.inl rfl)
      · rw [refused] at turned
        rw [turn_of_error turned, if_pos reads, ← unheard]
        exact .hears reads asks (.inr ⟨rfl, unreadable⟩)

/-- A reader that waits for room to ask to quit does so once there is some. -/
theorem turned_of_quitting (quitting : exchange.phase = .quitting) (code : Int) :
    Turned exchange code (exchange.turn code) := by
  have silent : ¬exchange.reads = true := by simp [reads_iff, quitting]
  have turned : StrokeQueue.turn exchange.keypad.keymap exchange.phase
      exchange.keypad.queue code = .ok exchange.keypad.queue.quit := by
    rw [quitting]
    rfl
  cases room : exchange.keypad.queue.hasRoom with
  | true =>
      rw [StrokeQueue.quit, if_pos room] at turned
      rw [turn_of_ok turned, if_neg silent]
      exact .marks quitting room
  | false =>
      rw [StrokeQueue.quit, if_neg (by simp [room])] at turned
      rw [turn_of_ok turned, if_neg silent, ← quitting]
      exact .still (.inr ⟨quitting, room⟩)

/-- Every turn of the reader goes in one of these ways. -/
theorem turned (exchange : Exchange τ) (code : Int) :
    Turned exchange code (exchange.turn code) := by
  cases phase : exchange.phase with
  | ended =>
      have turned : StrokeQueue.turn exchange.keypad.keymap exchange.phase
          exchange.keypad.queue code = .ok (.ended, exchange.keypad.queue) := by
        rw [phase]
        rfl
      rw [turn_of_ok turned, if_neg (by simp [reads_iff, phase]), ← phase]
      exact .still (.inl phase)
  | quitting => exact turned_of_quitting phase code
  | reading =>
      cases stopped : exchange.keypad.queue.stopped with
      | true =>
          have turned : StrokeQueue.turn exchange.keypad.keymap exchange.phase
              exchange.keypad.queue code = .ok (.ended, exchange.keypad.queue) := by
            simp [phase, StrokeQueue.turn, stopped]
          rw [turn_of_ok turned, if_neg (by simp [reads_iff, stopped])]
          exact .stops phase stopped
      | false => exact turned_of_reads (reads_iff.mpr ⟨phase, stopped⟩) code

/-! ## What acts change -/

@[simp] theorem queue_waiting (exchange : Exchange τ) :
    exchange.keypad.queue.waiting = exchange.waiting := rfl

@[simp] theorem waiting_proceed
    (exchange : Exchange τ) (phase : ReaderPhase) (queue : StrokeQueue) :
    (exchange.proceed phase queue).waiting = queue.waiting := rfl

@[simp] theorem asked_proceed
    (exchange : Exchange τ) (phase : ReaderPhase) (queue : StrokeQueue) :
    (exchange.proceed phase queue).asked = exchange.asked := rfl

@[simp] theorem accepted_proceed
    (exchange : Exchange τ) (phase : ReaderPhase) (queue : StrokeQueue) :
    (exchange.proceed phase queue).accepted = exchange.accepted := rfl

@[simp] theorem taken_proceed
    (exchange : Exchange τ) (phase : ReaderPhase) (queue : StrokeQueue) :
    (exchange.proceed phase queue).taken = exchange.taken := rfl

@[simp] theorem marker_proceed
    (exchange : Exchange τ) (phase : ReaderPhase) (queue : StrokeQueue) :
    (exchange.proceed phase queue).marker =
      if exchange.asked && phase != .quitting then [.quit] else [] := rfl

@[simp] theorem taken_note (exchange : Exchange τ) (code : Int) :
    (exchange.note code).taken = exchange.taken := rfl

@[simp] theorem asked_note (exchange : Exchange τ) (code : Int) :
    (exchange.note code).asked = (exchange.asked || StrokeQueue.asksToQuit code) := by
  simp [asked, note]

@[simp] theorem accepted_note (exchange : Exchange τ) (code : Int) :
    (exchange.note code).accepted =
      exchange.accepted ++
        (acceptedKey? exchange.keypad.keymap (code, exchange.waiting.length)).toList := by
  rw [accepted, note, List.filterMap_append, accepted]
  cases found : acceptedKey? exchange.keypad.keymap (code, exchange.waiting.length) <;>
    simp [List.filterMap, found]

theorem acceptedKey?_of_asks
    {code : Int}
    {waiting : Nat}
    (keymap : Keymap)
    (asks : StrokeQueue.asksToQuit code = true) :
    acceptedKey? keymap (code, waiting) = none := by
  simp [acceptedKey?, asks]

theorem marker_of_unasked (unasked : exchange.asked = false) : exchange.marker = [] := by
  simp [marker, unasked]

theorem marker_of_quitting (quitting : exchange.phase = .quitting) : exchange.marker = [] := by
  simp [marker, quitting]

section Acting

variable [TimeScale τ] [Add τ] [LE τ] [DecidableLE τ]

@[simp] theorem keypad_take (exchange : Exchange τ) (time : τ) :
    (exchange.take time).keypad = (exchange.keypad.take time).2 := rfl

@[simp] theorem waiting_take (exchange : Exchange τ) (time : τ) :
    (exchange.take time).waiting = exchange.waiting.tail :=
  congrArg StrokeQueue.waiting (TerminalKeypad.queue_take time exchange.keypad)

@[simp] theorem taken_take (exchange : Exchange τ) (time : τ) :
    (exchange.take time).taken = exchange.taken ++ exchange.waiting.head?.toList := by
  simp [take]

@[simp] theorem accepted_take (exchange : Exchange τ) (time : τ) :
    (exchange.take time).accepted = exchange.accepted :=
  congrArg (fun keymap => exchange.typed.filterMap (acceptedKey? keymap))
    (TerminalKeypad.keymap_take time exchange.keypad)

@[simp] theorem marker_take (exchange : Exchange τ) (time : τ) :
    (exchange.take time).marker = exchange.marker := rfl

@[simp] theorem after_nil (exchange : Exchange τ) : exchange.after [] = exchange := rfl

@[simp] theorem after_cons (exchange : Exchange τ) (act : Act τ) (acts : List (Act τ)) :
    exchange.after (act :: acts) = (exchange.act act).after acts := rfl

@[simp] theorem after_append (exchange : Exchange τ) (acts more : List (Act τ)) :
    exchange.after (acts ++ more) = (exchange.after acts).after more :=
  List.foldl_append

end Acting

end Exchange
end Chip8
