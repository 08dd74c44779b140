import Chip8.Keypad.Keymap
import Chip8.Time

/-!
# The keypad of a terminal

A terminal only tells which characters are typed. A reader turns them into key
strokes, which wait in a queue until the keypad takes them; a key counts as
held for a fifth of a second after its stroke is taken. A stroke of a key that
is already held is a repeat, and no new press.
-/

namespace Chip8

/-- What waits in the queue between the reader and the keypad. -/
inductive Stroke
  | key (key : Key)
  | quit
  deriving DecidableEq, Repr

/-- How many strokes may wait. -/
def queueRoom : Nat := 16

/-- What the reader does next. -/
inductive ReaderPhase
  | reading
  /-- It waits for room to queue the request to quit. -/
  | quitting
  | ended
  deriving DecidableEq, Repr

/-- The strokes that wait, the oldest first, and whether the reader was told to stop. -/
structure StrokeQueue where
  waiting : List Stroke := []
  stopped : Bool := false
  deriving DecidableEq, Repr

namespace StrokeQueue

/-- Whether one more stroke may wait. -/
def hasRoom (queue : StrokeQueue) : Bool :=
  queue.waiting.length < queueRoom

/-- The queue with a stroke at its end. -/
def push (queue : StrokeQueue) (stroke : Stroke) : StrokeQueue :=
  { queue with waiting := queue.waiting ++ [stroke] }

/-- The queue with a stroke at its end, if there is room. -/
def offer (queue : StrokeQueue) (stroke : Stroke) : StrokeQueue :=
  if queue.hasRoom then queue.push stroke else queue

@[simp] theorem waiting_push (queue : StrokeQueue) (stroke : Stroke) :
    (queue.push stroke).waiting = queue.waiting ++ [stroke] := rfl

theorem length_offer_le
    {queue : StrokeQueue} (stroke : Stroke)
    (bounded : queue.waiting.length ≤ queueRoom) :
    (queue.offer stroke).waiting.length ≤ queueRoom := by
  unfold offer
  split
  · rename_i room
    have shorter : queue.waiting.length < queueRoom := by simpa [hasRoom] using room
    simpa using Nat.succ_le_of_lt shorter
  · exact bounded

/-- Queue the request to quit, or wait until there is room. -/
def quit (queue : StrokeQueue) : ReaderPhase × StrokeQueue :=
  if queue.hasRoom then (.ended, queue.push .quit) else (.quitting, queue)

/-- Whether a character asks to quit. -/
def quits (code : Int) : Bool :=
  code = 27 || code = 3

/-- What a typed character does; a negative code stands for no character. -/
def readCode (keymap : Keymap) (queue : StrokeQueue) (code : Int) :
    Except Fault (ReaderPhase × StrokeQueue) :=
  if code < 0 then .ok (.reading, queue)
  else
    match lowerCode code with
    | .error fault => .error fault
    | .ok lower =>
        if quits lower then .ok queue.quit
        else
          match keymap.key? lower with
          | none => .ok (.reading, queue)
          | some key => .ok (.reading, queue.offer (.key key))

/-- One turn of the reader, with the code it reads if it reads one. -/
def turn (keymap : Keymap) (phase : ReaderPhase) (queue : StrokeQueue) (code : Int) :
    Except Fault (ReaderPhase × StrokeQueue) :=
  match phase with
  | .ended => .ok (.ended, queue)
  | .quitting => .ok queue.quit
  | .reading => if queue.stopped then .ok (.ended, queue) else readCode keymap queue code

/-- Read characters until one asks to quit; the result is how many are left. -/
def readAll (keymap : Keymap) : List Int -> Action StrokeQueue Nat
  | [], queue => .ok 0 queue
  | code :: rest, queue =>
      match turn keymap .reading queue code with
      | .error fault => .error fault queue
      | .ok (.reading, next) => readAll keymap rest next
      | .ok (_, next) => .ok rest.length next

end StrokeQueue

/-- A keypad that follows what is typed. -/
structure TerminalKeypad (τ : Type) where
  keymap : Keymap
  /-- When each key stops counting as held. -/
  heldUntil : Vector τ 16
  /-- The press not yet collected. -/
  pending : Option Key := none
  queue : StrokeQueue := {}

namespace TerminalKeypad

variable {τ : Type} [TimeScale τ] [Add τ] [LE τ] [DecidableLE τ] [LT τ] [DecidableLT τ]

/-- A keypad on which nothing was typed yet. -/
def fresh (keymap : Keymap) : TerminalKeypad τ where
  keymap
  heldUntil := .replicate 16 TimeScale.zero

/-- Type characters; the result is how many were not read. -/
def type (codes : List Int) : Action (TerminalKeypad τ) Nat := fun keypad =>
  if keypad.queue.stopped then .ok codes.length keypad
  else
    match StrokeQueue.readAll keypad.keymap codes keypad.queue with
    | .ok left queue => .ok left { keypad with queue }
    | .error fault queue => .error fault { keypad with queue }

/-- The keypad once a stroke of a key is taken at a time. -/
def strike (time : τ) (keypad : TerminalKeypad τ) (key : Key) : TerminalKeypad τ :=
  { keypad with
    pending := if keypad.heldUntil.get key ≤ time then some key else keypad.pending
    heldUntil := Key.update key (time + TimeScale.keyHold) keypad.heldUntil }

/-- Take strokes at a time until one asks to quit, and tell whether one does and which are left. -/
def takeStrokes (time : τ) (keypad : TerminalKeypad τ) :
    List Stroke -> Bool × List Stroke × TerminalKeypad τ
  | [] => (false, [], keypad)
  | .quit :: rest => (true, rest, keypad)
  | .key key :: rest => takeStrokes time (strike time keypad key) rest

/-- Take the strokes that wait; the result tells whether one asks to quit. -/
def process (time : τ) (keypad : TerminalKeypad τ) : Bool × TerminalKeypad τ :=
  let (quit, left, final) := takeStrokes time keypad keypad.queue.waiting
  (quit, { final with queue := { keypad.queue with waiting := left } })

/-- Whether a key counts as held at a time. -/
def isDown (keypad : TerminalKeypad τ) (time : τ) (key : Key) : Bool :=
  time < keypad.heldUntil.get key

/-- Collect the press. -/
def collect (keypad : TerminalKeypad τ) : Option Key × TerminalKeypad τ :=
  (keypad.pending, { keypad with pending := none })

/-- Tell the reader to stop. -/
def stop (keypad : TerminalKeypad τ) : TerminalKeypad τ :=
  { keypad with queue := { keypad.queue with stopped := true } }

end TerminalKeypad
end Chip8
