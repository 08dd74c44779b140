import Chip8.Keypad.Window
import Chip8.Proofs.Keypad.Codes
import Mathlib.Data.List.Induction

/-!
# Held keys and presses of a window

A key of a window is held exactly when the last event that tells of its code
tells that it went down. The escape key going down is a request to quit and
tells of no key, even where a keymap gives its code to one. A request to quit
leaves the keypad alone, so the events around it count as if it were not there.
The press that waits is the last one of a batch: a key that goes down while it
is held makes none, and so a key comes up between two of its presses.
-/

namespace Chip8
namespace WindowEvent

/-- The event asks to quit. -/
def AsksToQuit (event : WindowEvent) : Prop :=
  event = .quit ∨ event = .keyDown escapeCode

/-- The event tells that the key of a code went down or came up. -/
def tellsOf (code : Int) : WindowEvent -> Bool
  | .keyDown struck => struck = code && struck ≠ escapeCode
  | .keyUp released => released = code
  | .quit | .other => false

/-- The last event that tells of a code tells that its key went down. -/
def LeaveDown (code : Int) (events : List WindowEvent) : Prop :=
  (events.filter (tellsOf code)).getLast? = some (.keyDown code)

instance (code : Int) (events : List WindowEvent) : Decidable (LeaveDown code events) :=
  inferInstanceAs (Decidable (_ = _))

variable {code : Int} {event : WindowEvent} {events : List WindowEvent}

/-- A request to quit tells of no key. -/
theorem AsksToQuit.tellsOf_eq_false (asks : event.AsksToQuit) (code : Int) :
    event.tellsOf code = false := by
  rcases asks with rfl | rfl <;> simp [tellsOf]

/-- The latest event decides where it tells of a code. -/
theorem leaveDown_concat_of_tellsOf (tells : event.tellsOf code = true) :
    LeaveDown code (events ++ [event]) ↔ event = .keyDown code := by
  simp [LeaveDown, tells]

/-- Where the latest event does not tell of a code, the ones before it do. -/
theorem leaveDown_concat_of_not_tellsOf (silent : event.tellsOf code = false) :
    LeaveDown code (events ++ [event]) ↔ LeaveDown code events := by
  simp [LeaveDown, silent]

/-- A key stays down until it comes up. -/
theorem LeaveDown.append
    {more : List WindowEvent}
    (down : LeaveDown code events)
    (unreleased : .keyUp code ∉ more) :
    LeaveDown code (events ++ more) := by
  induction more using List.reverseRecOn with
  | nil => simpa using down
  | append_singleton more event hypothesis =>
      rw [List.mem_append, not_or, List.mem_singleton] at unreleased
      obtain ⟨before, latest⟩ := unreleased
      rw [← List.append_assoc]
      cases tells : event.tellsOf code with
      | false => exact (leaveDown_concat_of_not_tellsOf tells).mpr (hypothesis before)
      | true =>
          apply (leaveDown_concat_of_tellsOf tells).mpr
          cases event <;> simp_all [tellsOf]

end WindowEvent

namespace WindowKeypad

open WindowEvent

/-- Something that is done with a keypad. -/
inductive Use
  /-- A batch of events is taken in. -/
  | process (batch : List WindowEvent)
  /-- The press that waits is collected. -/
  | collect

/-- The keypad after something was done with it. -/
def use (keypad : WindowKeypad) : Use -> WindowKeypad
  | .process batch => (keypad.process batch).2
  | .collect => keypad.collect.2

/-- The keypad after uses in turn. -/
def after (keypad : WindowKeypad) (uses : List Use) : WindowKeypad :=
  uses.foldl use keypad

/-- The events that are taken in during uses. -/
def events (uses : List Use) : List WindowEvent :=
  uses.flatMap fun action =>
    match action with
    | .process batch => batch
    | .collect => []

/-- The key that an event presses: one that goes down while it is not held. -/
def pressed? (keypad : WindowKeypad) : WindowEvent -> Option Key
  | .keyDown code =>
      if code = escapeCode then none
      else (keypad.keymap.key? code).filter fun key => !keypad.held.get key
  | .keyUp _ | .quit | .other => none

/-- The keys that the events of a batch press, in turn. -/
def presses (keypad : WindowKeypad) : List WindowEvent -> List Key
  | [] => []
  | event :: rest => (keypad.pressed? event).toList ++ presses (keypad.handle event).2 rest

/-- How an event is taken in. -/
inductive Handled (keypad : WindowKeypad) : WindowEvent -> Bool × WindowKeypad -> Prop
  /-- The event asks to quit. -/
  | asking {event : WindowEvent}
      (asks : event.AsksToQuit) :
      Handled keypad event (true, keypad)
  /-- The event tells of no key. -/
  | silent {event : WindowEvent}
      (unasked : ¬event.AsksToQuit)
      (untold : ∀ key, event.tellsOf (keypad.keymap.codes.get key) = false) :
      Handled keypad event (false, keypad)
  /-- A key comes up. -/
  | released {code : Int} {key : Key}
      (mapped : keypad.keymap.key? code = some key) :
      Handled keypad (.keyUp code) (false, keypad.setHeld key false)
  /-- A key goes down. -/
  | struck {code : Int} {key : Key}
      (unasked : code ≠ escapeCode)
      (mapped : keypad.keymap.key? code = some key) :
      Handled keypad (.keyDown code) (false, keypad.press key)

variable {keymap : Keymap} {keypad : WindowKeypad} {event : WindowEvent} {key : Key}
  {told : List WindowEvent}

/-! ## One event -/

/-- Every event is taken in in one of these ways. -/
theorem handled (keypad : WindowKeypad) (event : WindowEvent) :
    Handled keypad event (keypad.handle event) := by
  cases event with
  | quit => exact .asking (.inl rfl)
  | other => exact .silent (by simp [AsksToQuit]) fun key => rfl
  | keyUp code =>
      cases mapped : keypad.keymap.key? code with
      | none =>
          have untold := Keymap.key?_eq_none_iff.mp mapped
          simp only [handle, mapped]
          refine .silent (by simp [AsksToQuit]) fun key => ?_
          simp [tellsOf, Ne.symm (untold key)]
      | some key =>
          simp only [handle, mapped]
          exact .released mapped
  | keyDown code =>
      by_cases escape : code = escapeCode
      · simp only [handle, escape, if_true]
        exact .asking (.inr rfl)
      · cases mapped : keypad.keymap.key? code with
        | none =>
            have untold := Keymap.key?_eq_none_iff.mp mapped
            simp only [handle, escape, if_false, mapped]
            refine .silent (by simp [AsksToQuit, escape]) fun key => ?_
            simp [tellsOf, Ne.symm (untold key)]
        | some key =>
            simp only [handle, escape, if_false, mapped]
            exact .struck escape mapped

@[simp] theorem isDown_val (keypad : WindowKeypad) (key : Key) :
    keypad.isDown key.val = .ok (keypad.held.get key) := by
  simp [isDown]

@[simp] theorem keymap_setHeld (keypad : WindowKeypad) (key : Key) (down : Bool) :
    (keypad.setHeld key down).keymap = keypad.keymap := rfl

@[simp] theorem keymap_press (keypad : WindowKeypad) (key : Key) :
    (keypad.press key).keymap = keypad.keymap := by
  unfold press
  split <;> rfl

theorem get_held_setHeld (keypad : WindowKeypad) (key : Key) (down : Bool) (other : Key) :
    (keypad.setHeld key down).held.get other =
      if other = key then down else keypad.held.get other := by
  by_cases same : other = key
  · simp [setHeld, same]
  · simp [setHeld, same, Key.get_update_of_ne]

theorem get_held_press (keypad : WindowKeypad) (key other : Key) :
    (keypad.press key).held.get other = if other = key then true else keypad.held.get other := by
  cases held : keypad.held.get key with
  | false => simpa [press, held] using get_held_setHeld keypad key true other
  | true => by_cases same : other = key <;> simp [press, held, same]

theorem asks_handle (keypad : WindowKeypad) (event : WindowEvent) :
    (keypad.handle event).1 = true ↔ event.AsksToQuit := by
  have outcome := handled keypad event
  generalize keypad.handle event = result at outcome
  cases outcome with
  | asking asks => simp [asks]
  | silent unasked => simp [unasked]
  | released => simp [AsksToQuit]
  | struck unasked => simp [AsksToQuit, unasked]

/-- A request to quit leaves the keypad alone. -/
theorem handle_of_asksToQuit (asks : event.AsksToQuit) :
    (keypad.handle event).2 = keypad := by
  rcases asks with rfl | rfl <;> simp [handle]

/-- The press that waits after an event is the one that the event makes, if it makes one. -/
theorem pending_handle (keypad : WindowKeypad) (event : WindowEvent) :
    (keypad.handle event).2.pending = (keypad.pressed? event).or keypad.pending := by
  cases event with
  | quit | other => rfl
  | keyUp code =>
      cases mapped : keypad.keymap.key? code <;> simp [handle, mapped, setHeld, pressed?]
  | keyDown code =>
      by_cases escape : code = escapeCode
      · simp [handle, escape, pressed?]
      · cases mapped : keypad.keymap.key? code with
        | none => simp [handle, escape, mapped, pressed?]
        | some key =>
            cases held : keypad.held.get key <;>
              simp [handle, escape, mapped, pressed?, press, held, Option.filter_some]

/-! ## What is held -/

/-- A keypad with a keymap that gives each key a code of its own holds the keys that events leave
down. -/
structure Follows (keymap : Keymap) (keypad : WindowKeypad) (told : List WindowEvent) : Prop where
  mapped : keypad.keymap = keymap
  injective : keymap.Injective
  held : ∀ key, keypad.held.get key = true ↔ LeaveDown (keymap.codes.get key) told

/-- An event that tells of one key's code alone is followed where that key alone changes. -/
theorem Follows.concat
    {next : WindowKeypad}
    {down : Bool}
    (follows : Follows keymap keypad told)
    (mapped : next.keymap = keypad.keymap)
    (changed : ∀ other, next.held.get other = if other = key then down else keypad.held.get other)
    (tells : ∀ code, event.tellsOf code = decide (code = keymap.codes.get key))
    (goes : event = .keyDown (keymap.codes.get key) ↔ down = true) :
    Follows keymap next (told ++ [event]) where
  mapped := mapped.trans follows.mapped
  injective := follows.injective
  held other := by
    rw [changed]
    by_cases same : other = key
    · subst same
      rw [leaveDown_concat_of_tellsOf (by simp [tells]), goes, if_pos rfl]
    · have silent : event.tellsOf (keymap.codes.get other) = false := by
        rw [tells, decide_eq_false_iff_not]
        exact fun equal => same (follows.injective equal)
      rw [leaveDown_concat_of_not_tellsOf silent, if_neg same]
      exact follows.held other

/-- An event that tells of no key is followed where nothing changes. -/
theorem Follows.concat_of_silent
    (follows : Follows keymap keypad told)
    (untold : ∀ key, event.tellsOf (keymap.codes.get key) = false) :
    Follows keymap keypad (told ++ [event]) where
  mapped := follows.mapped
  injective := follows.injective
  held key := by
    rw [leaveDown_concat_of_not_tellsOf (untold key)]
    exact follows.held key

/-- A code that stands for a key is the key's code. -/
theorem Follows.code_eq
    {code : Int}
    (follows : Follows keymap keypad told)
    (stands : keypad.keymap.key? code = some key) :
    keymap.codes.get key = code := by
  rw [follows.mapped] at stands
  exact follows.injective.key?_eq_some_iff.mp stands

/-- A keypad that follows what was told follows one event more. -/
theorem Follows.handle (follows : Follows keymap keypad told) (event : WindowEvent) :
    Follows keymap (keypad.handle event).2 (told ++ [event]) := by
  have outcome := handled keypad event
  generalize keypad.handle event = result at outcome
  cases outcome with
  | asking asks => exact follows.concat_of_silent fun key => asks.tellsOf_eq_false _
  | silent unasked untold =>
      rw [follows.mapped] at untold
      exact follows.concat_of_silent untold
  | @released code key stands =>
      obtain rfl := follows.code_eq stands
      apply follows.concat (keymap_setHeld keypad key false) (get_held_setHeld keypad key false)
      · intro code
        simp [tellsOf, eq_comm]
      · simp
  | @struck code key unasked stands =>
      obtain rfl := follows.code_eq stands
      apply follows.concat (keymap_press keypad key) (get_held_press keypad key)
      · intro code
        simp [tellsOf, unasked, eq_comm]
      · simp

/-! ## Batches -/

@[simp] theorem process_nil (keypad : WindowKeypad) : keypad.process [] = (false, keypad) := rfl

theorem process_cons (keypad : WindowKeypad) (event : WindowEvent) (rest : List WindowEvent) :
    keypad.process (event :: rest) =
      ((keypad.handle event).1 || ((keypad.handle event).2.process rest).1,
        ((keypad.handle event).2.process rest).2) := rfl

theorem process_append (keypad : WindowKeypad) (batch more : List WindowEvent) :
    (keypad.process (batch ++ more)).2 = ((keypad.process batch).2.process more).2 := by
  induction batch generalizing keypad with
  | nil => rfl
  | cons event rest hypothesis => exact hypothesis (keypad.handle event).2

/-- A batch asks to quit where one of its events does. -/
theorem asks_process (keypad : WindowKeypad) (batch : List WindowEvent) :
    (keypad.process batch).1 = true ↔ ∃ event ∈ batch, event.AsksToQuit := by
  induction batch generalizing keypad with
  | nil => simp
  | cons event rest hypothesis =>
      rw [process_cons, Bool.or_eq_true, asks_handle, hypothesis, List.exists_mem_cons_iff]

/-- The events of a batch before and after a request to quit do what they do without it. -/
theorem process_of_asksToQuit
    (keypad : WindowKeypad)
    (earlier later : List WindowEvent)
    (asks : event.AsksToQuit) :
    (keypad.process (earlier ++ event :: later)).2 = (keypad.process (earlier ++ later)).2 := by
  rw [process_append, process_append, process_cons, handle_of_asksToQuit asks]

/-- The press that waits after a batch is the last that its events make, if they make one. -/
theorem pending_process (keypad : WindowKeypad) (batch : List WindowEvent) :
    (keypad.process batch).2.pending = (keypad.presses batch).getLast?.or keypad.pending := by
  induction batch generalizing keypad with
  | nil => rfl
  | cons event rest hypothesis =>
      calc (keypad.process (event :: rest)).2.pending
          = ((keypad.handle event).2.presses rest).getLast?.or
              (keypad.handle event).2.pending := hypothesis _
        _ = (keypad.presses (event :: rest)).getLast?.or keypad.pending := by
          rw [presses, List.getLast?_append, pending_handle, Option.or_assoc]
          cases keypad.pressed? event <;> rfl

/-- A keypad that follows what was told follows a batch more. -/
theorem Follows.process (follows : Follows keymap keypad told) (batch : List WindowEvent) :
    Follows keymap (keypad.process batch).2 (told ++ batch) := by
  induction batch generalizing keypad told with
  | nil => simpa using follows
  | cons event rest hypothesis =>
      rw [List.append_cons]
      exact hypothesis (follows.handle event)

/-! ## Whole runs -/

/-- A keypad that follows what was told follows what it is told during uses. -/
theorem Follows.after (follows : Follows keymap keypad told) (uses : List Use) :
    Follows keymap (keypad.after uses) (told ++ events uses) := by
  induction uses generalizing keypad told with
  | nil =>
      rw [events, List.flatMap_nil, List.append_nil]
      exact follows
  | cons action rest hypothesis =>
      rw [events, List.flatMap_cons, ← List.append_assoc]
      apply hypothesis
      cases action with
      | process batch => exact follows.process batch
      | collect =>
          rw [List.append_nil]
          exact ⟨follows.mapped, follows.injective, follows.held⟩

/-- Nothing is held before an event was taken in. -/
theorem Follows.fresh (injective : keymap.Injective) : Follows keymap { keymap } [] where
  mapped := rfl
  injective := injective
  held key := by
    have released : ({ keymap } : WindowKeypad).held.get key = false := by
      change (Vector.replicate 16 false)[key.val] = false
      simp
    simp [released, LeaveDown]

/-- An event that presses a key tells that it goes down, and finds it up. -/
theorem Follows.of_pressed?_eq_some
    (follows : Follows keymap keypad told)
    (pressed : keypad.pressed? event = some key) :
    event = .keyDown (keymap.codes.get key) ∧
      keymap.codes.get key ≠ escapeCode ∧
      ¬LeaveDown (keymap.codes.get key) told := by
  unfold pressed? at pressed
  split at pressed
  · rename_i code
    split at pressed
    · contradiction
    · rename_i unasked
      obtain ⟨stands, up⟩ := Option.filter_eq_some_iff.mp pressed
      obtain rfl := follows.code_eq stands
      refine ⟨rfl, unasked, ?_⟩
      rw [← follows.held]
      simpa using up
  all_goals contradiction

/-- A key comes up between two events that press it. -/
theorem Follows.released_between
    {first second : WindowEvent}
    {between : List Use}
    (follows : Follows keymap keypad told)
    (pressed : keypad.pressed? first = some key)
    (pressedAgain : ((keypad.handle first).2.after between).pressed? second = some key) :
    .keyUp (keymap.codes.get key) ∈ events between := by
  obtain ⟨goesDown, unasked, _⟩ := follows.of_pressed?_eq_some pressed
  have later := (follows.handle first).after between
  obtain ⟨_, _, up⟩ := later.of_pressed?_eq_some pressedAgain
  have down : LeaveDown (keymap.codes.get key) (told ++ [first]) := by
    apply (leaveDown_concat_of_tellsOf ?_).mpr goesDown
    simp [goesDown, tellsOf, unasked]
  by_contra unreleased
  exact up (down.append unreleased)

/-- Let a keypad of a window, with a keymap that was accepted, take in batches of events; in between
presses may be collected. A key is held exactly when the last event that tells of its code tells
that it went down. A batch asks to quit where one of its events does, and the events before and
after that one do what they do without it. The press that waits after a batch is the last among its
events that press a key; where there is none, what waited before still does. Between two events that
press a key, whatever else happens, it comes up. -/
theorem batches_hold_and_press
    {lowercase : Bool}
    {text : String}
    {keymap : Keymap}
    (accepted : Keymap.read lowercase text = .ok keymap)
    (uses : List Use) :
    let keypad := ({ keymap } : WindowKeypad).after uses
    (∀ key : Key,
      keypad.isDown key.val =
        .ok (decide (LeaveDown (keymap.codes.get key) (events uses)))) ∧
    (∀ batch, (keypad.process batch).1 = true ↔ ∃ event ∈ batch, event.AsksToQuit) ∧
    (∀ earlier event later, event.AsksToQuit ->
      (keypad.process (earlier ++ event :: later)).2 = (keypad.process (earlier ++ later)).2) ∧
    (∀ batch,
      (keypad.process batch).2.pending = (keypad.presses batch).getLast?.or keypad.pending) ∧
    (∀ first between second key,
      keypad.pressed? first = some key ->
      ((keypad.handle first).2.after between).pressed? second = some key ->
      .keyUp (keymap.codes.get key) ∈ events between) := by
  intro keypad
  have follows : Follows keymap keypad (events uses) :=
    (Follows.fresh (Keymap.injective_of_read accepted)).after uses
  refine ⟨?_, asks_process keypad, ?_, pending_process keypad, ?_⟩
  · intro key
    rw [isDown_val, Except.ok.injEq, Bool.eq_iff_iff, decide_eq_true_iff]
    exact follows.held key
  · intro earlier event later
    exact process_of_asksToQuit keypad earlier later
  · intro first between second key
    exact follows.released_between

/-- A keymap that gives ESC to key 0, and a batch in which ESC goes down between two keys: they are
held, key 0 is not, and the last press is one that follows a release; a key that goes down twice is
pressed once. -/
theorem batches_hold_and_press_escape :
    ∃ (text : String) (keymap : Keymap) (batch : List WindowEvent),
      Keymap.read false text = .ok keymap ∧
      keymap.codes.get 0 = escapeCode ∧
      batch = [.keyDown 49, .keyDown escapeCode, .keyDown 50, .keyUp 49, .keyDown 49, .keyDown 50] ∧
      (({ keymap } : WindowKeypad).process batch).1 = true ∧
      (({ keymap } : WindowKeypad).process batch).2.pending = some 1 ∧
      (({ keymap } : WindowKeypad).after [.process batch]).isDown 0 = .ok false ∧
      (({ keymap } : WindowKeypad).after [.process batch]).isDown 2 = .ok true := by
  let text := "27,49,50,51,113,119,101,97,115,100,122,99,52,114,102,118"
  let keymap : Keymap := ⟨
    #v[27, 49, 50, 51, 113, 119, 101, 97, 115, 100, 122, 99, 52, 114, 102, 118]⟩
  let batch : List WindowEvent :=
    [.keyDown 49, .keyDown escapeCode, .keyDown 50, .keyUp 49, .keyDown 49, .keyDown 50]
  have accepted : Keymap.read false text = .ok keymap := eq_ok_of_toOption (by decide +kernel)
  obtain ⟨_, asks, _, waits, _⟩ := batches_hold_and_press accepted []
  obtain ⟨held, _⟩ := batches_hold_and_press accepted [.process batch]
  refine ⟨text, keymap, batch, accepted, rfl, rfl, ?_, ?_, held 0, held 2⟩
  · exact (asks batch).mpr ⟨.keyDown escapeCode, by decide, .inr rfl⟩
  · exact (waits batch).trans (by decide +kernel)

end WindowKeypad
end Chip8
