import Chip8.Keypad.Terminal
import Mathlib.Data.List.Chain

/-!
# Held keys and presses of a terminal

On the exact scale a key of a terminal is held at a time exactly when one of its
strokes was taken less than a fifth of a second before. A stroke is a press
exactly when its key was not held just before it, so strokes that repeat fast
enough make one press, however many there are, and of the strokes taken at one
time only a key's first can be a press. The last press among them is the one
that waits to be collected.
-/

namespace Chip8
namespace TerminalKeypad

/-- Something that happens to a keypad. -/
inductive Event
  /-- The reader leaves the queue in some state. -/
  | queue (queue : StrokeQueue)
  /-- The press that waits is collected. -/
  | collect
  /-- The strokes that wait are taken at a time. -/
  | process (time : Rat)

/-- The keypad after something has happened. -/
def happen (keypad : TerminalKeypad Rat) : Event -> TerminalKeypad Rat
  | .queue queue => { keypad with queue }
  | .collect => keypad.collect.2
  | .process time => (keypad.process time).2

/-- The keypad after events in turn. -/
def after (keypad : TerminalKeypad Rat) (events : List Event) : TerminalKeypad Rat :=
  events.foldl happen keypad

/-- The times at which strokes are taken. -/
def times (events : List Event) : List Rat :=
  events.filterMap fun event =>
    match event with
    | .process time => some time
    | _ => none

/-- The stroke of a key, as a keypad took it. -/
structure Struck where
  time : Rat
  key : Key
  /-- Whether the key counted as held just before. -/
  wasDown : Bool
  /-- Whether the stroke became the press that waits. -/
  press : Bool
  deriving DecidableEq, Repr

/-- The keys of the strokes before a request to quit. -/
def batch : List Stroke -> List Key
  | .key key :: rest => key :: batch rest
  | _ => []

/-- The keypad once strokes of keys are taken at a time, one after the other. -/
def strikeAll (time : Rat) (keypad : TerminalKeypad Rat) (keys : List Key) : TerminalKeypad Rat :=
  keys.foldl (strike time) keypad

/-- The stroke of a key, as a keypad takes it at a time. -/
def struckNow (time : Rat) (keypad : TerminalKeypad Rat) (key : Key) : Struck where
  time
  key
  wasDown := keypad.isDown time key
  press := keypad.heldUntil.get key ≤ time

/-- The strokes of keys, as a keypad takes them at a time, one after the other. -/
def struckAll (time : Rat) (keypad : TerminalKeypad Rat) : List Key -> List Struck
  | [] => []
  | key :: rest => keypad.struckNow time key :: struckAll time (keypad.strike time key) rest

/-- The strokes that a keypad takes when something happens. -/
def struckBy (keypad : TerminalKeypad Rat) : Event -> List Struck
  | .process time => keypad.struckAll time (batch keypad.queue.waiting)
  | .queue _ | .collect => []

/-- The strokes that a keypad takes during events. -/
def log (keypad : TerminalKeypad Rat) : List Event -> List Struck
  | [] => []
  | event :: rest => keypad.struckBy event ++ log (keypad.happen event) rest

/-- One of some strokes holds a key down at a time. -/
def Holds (strokes : List Struck) (time : Rat) (key : Key) : Prop :=
  ∃ struck ∈ strokes, struck.key = key ∧ time < struck.time + 1 / 5

/-- The keys of the presses among some strokes. -/
def presses (strokes : List Struck) : List Key :=
  (strokes.filter (·.press)).map (·.key)

variable {keypad : TerminalKeypad Rat} {strokes : List Struck} {last time : Rat} {key : Key}

/-! ## Taking strokes at one time -/

theorem takeStrokes_eq_strikeAll
    (time : Rat)
    (keypad : TerminalKeypad Rat)
    (waiting : List Stroke) :
    (takeStrokes time keypad waiting).2.2 = strikeAll time keypad (batch waiting) := by
  induction waiting generalizing keypad with
  | nil => rfl
  | cons stroke rest hypothesis =>
      cases stroke with
      | quit => rfl
      | key key => exact hypothesis (keypad.strike time key)

theorem heldUntil_process (time : Rat) (keypad : TerminalKeypad Rat) :
    (keypad.process time).2.heldUntil =
      (strikeAll time keypad (batch keypad.queue.waiting)).heldUntil := by
  rw [← takeStrokes_eq_strikeAll]
  rfl

/-- A stroke is the press that waits where it is a press. -/
theorem pending_strike (time : Rat) (keypad : TerminalKeypad Rat) (key : Key) :
    (keypad.strike time key).pending =
      if (keypad.struckNow time key).press then some key else keypad.pending := by
  simp [strike, struckNow]

/-- The tests for a held key and for a press are complements. -/
theorem press_struckNow (time : Rat) (keypad : TerminalKeypad Rat) (key : Key) :
    (keypad.struckNow time key).press = !(keypad.struckNow time key).wasDown := by
  change decide (keypad.heldUntil.get key ≤ time) = !decide (time < keypad.heldUntil.get key)
  rw [← decide_not]
  exact decide_eq_decide.mpr Rat.not_lt.symm

theorem presses_cons (struck : Struck) (rest : List Struck) :
    presses (struck :: rest) = (if struck.press then [struck.key] else []) ++ presses rest := by
  cases pressed : struck.press <;> simp [presses, pressed]

/-- Of strokes taken at one time, the last press is the one that waits. -/
theorem pending_strikeAll (time : Rat) (keypad : TerminalKeypad Rat) (keys : List Key) :
    (strikeAll time keypad keys).pending =
      (presses (keypad.struckAll time keys)).getLast?.or keypad.pending := by
  induction keys generalizing keypad with
  | nil => rfl
  | cons key rest hypothesis =>
      calc (strikeAll time keypad (key :: rest)).pending
          = (presses (struckAll time (keypad.strike time key) rest)).getLast?.or
              (keypad.strike time key).pending := hypothesis _
        _ = (presses (keypad.struckAll time (key :: rest))).getLast?.or keypad.pending := by
          rw [struckAll, presses_cons, List.getLast?_append, pending_strike, Option.or_assoc]
          cases (keypad.struckNow time key).press <;> rfl

theorem pending_process (time : Rat) (keypad : TerminalKeypad Rat) :
    (keypad.process time).2.pending =
      (presses (keypad.struckBy (.process time))).getLast?.or keypad.pending := by
  rw [struckBy, ← pending_strikeAll, ← takeStrokes_eq_strikeAll]
  rfl

/-! ## What the strokes tell -/

/-- Each stroke is a press unless its key was held, and the key was held exactly where one of the
strokes before holds it. -/
def Told (strokes : List Struck) : Prop :=
  ∀ earlier struck later, strokes = earlier ++ struck :: later ->
    struck.press = !struck.wasDown ∧
    (struck.wasDown = true ↔ Holds earlier struck.time struck.key)

/-- A keypad holds the keys that the strokes taken up to a time hold. -/
structure Follows (keypad : TerminalKeypad Rat) (strokes : List Struck) (last : Rat) : Prop where
  told : Told strokes
  past : ∀ struck ∈ strokes, struck.time ≤ last
  held : ∀ time key, last ≤ time ->
    (time < keypad.heldUntil.get key ↔ Holds strokes time key)

theorem holds_append (strokes more : List Struck) :
    Holds (strokes ++ more) time key ↔ Holds strokes time key ∨ Holds more time key := by
  simp [Holds, or_and_right, exists_or]

theorem holds_struckNow {later : Rat} {other : Key} :
    Holds [keypad.struckNow time key] later other ↔ key = other ∧ later < time + 1 / 5 := by
  simp [Holds, struckNow]

theorem Told.concat
    {struck : Struck}
    (told : Told strokes)
    (pressed : struck.press = !struck.wasDown)
    (down : struck.wasDown = true ↔ Holds strokes struck.time struck.key) :
    Told (strokes ++ [struck]) := by
  intro earlier other later split
  rcases List.eq_nil_or_concat later with rfl | ⟨before, final, rfl⟩
  · obtain ⟨rfl, same⟩ := List.append_inj' split rfl
    cases same
    exact ⟨pressed, down⟩
  · have longer : strokes ++ [struck] = (earlier ++ other :: before) ++ [final] := by
      simpa using split
    obtain ⟨same, _⟩ := List.append_inj' longer rfl
    exact told earlier other before same

namespace Follows

/-- What is held after a time is told by the same strokes at any later time. -/
theorem later (follows : Follows keypad strokes last) (goesOn : last ≤ time) :
    Follows keypad strokes time where
  told := follows.told
  past struck member := Rat.le_trans (follows.past struck member) goesOn
  held later key reached := follows.held later key (Rat.le_trans goesOn reached)

/-- A stroke taken holds its key, and no other. -/
theorem strike (follows : Follows keypad strokes last) (goesOn : last ≤ time) (key : Key) :
    Follows (keypad.strike time key) (strokes ++ [keypad.struckNow time key]) time where
  told := by
    apply follows.told.concat (press_struckNow time keypad key)
    have held := follows.held time key goesOn
    simpa [struckNow, isDown] using held
  past struck member := by
    rcases List.mem_append.mp member with before | now
    · exact Rat.le_trans (follows.past struck before) goesOn
    · cases List.mem_singleton.mp now
      exact Rat.le_refl
  held later other reached := by
    rw [holds_append, holds_struckNow]
    by_cases same : other = key
    · subst same
      -- No earlier stroke holds the key longer than this one, since none was taken later.
      have longest : Holds strokes later other -> later < time + 1 / 5 := by
        rintro ⟨struck, member, _, before⟩
        have past := follows.past struck member
        grind
      rw [TerminalKeypad.strike, Key.get_update_same]
      constructor
      · exact fun soon => .inr ⟨rfl, soon⟩
      · rintro (held | ⟨_, soon⟩)
        · exact longest held
        · exact soon
    · have apart : ¬(key = other ∧ later < time + 1 / 5) := fun both => same both.1.symm
      rw [TerminalKeypad.strike, Key.get_update_of_ne _ _ same,
        follows.held later other (Rat.le_trans goesOn reached), or_iff_left apart]

/-- Strokes taken at one time hold their keys. -/
theorem strikeAll
    (follows : Follows keypad strokes last)
    (goesOn : last ≤ time)
    (keys : List Key) :
    Follows (keypad.strikeAll time keys) (strokes ++ keypad.struckAll time keys) time := by
  induction keys generalizing keypad strokes last with
  | nil =>
      rw [struckAll, List.append_nil]
      exact follows.later goesOn
  | cons key rest hypothesis =>
      have next := hypothesis (follows.strike goesOn key) Rat.le_refl
      rw [List.append_assoc] at next
      exact next

/-- What a keypad holds depends on when its keys stop counting as held. -/
theorem of_heldUntil_eq
    {other : TerminalKeypad Rat}
    (follows : Follows keypad strokes last)
    (same : other.heldUntil = keypad.heldUntil) :
    Follows other strokes last where
  told := follows.told
  past := follows.past
  held := by
    rw [same]
    exact follows.held

/-- Events at times that never go back keep the keypad with the strokes that it has taken. -/
theorem after
    {events : List Event}
    (follows : Follows keypad strokes last)
    (forward : (last :: times events).Pairwise (· ≤ ·)) :
    ∃ final ∈ last :: times events,
      Follows (keypad.after events) (strokes ++ keypad.log events) final := by
  induction events generalizing keypad strokes last with
  | nil =>
      rw [log, List.append_nil]
      exact ⟨last, List.mem_cons_self, follows⟩
  | cons event rest hypothesis =>
      rw [log, ← List.append_assoc]
      cases event with
      | queue queue =>
          rw [struckBy, List.append_nil]
          exact hypothesis (follows.of_heldUntil_eq rfl) forward
      | collect =>
          rw [struckBy, List.append_nil]
          exact hypothesis (follows.of_heldUntil_eq rfl) forward
      | process now =>
          obtain ⟨next, goesOn⟩ := List.pairwise_cons.mp forward
          have taken := follows.strikeAll (next now List.mem_cons_self)
            (batch keypad.queue.waiting)
          obtain ⟨final, member, reaches⟩ :=
            hypothesis (taken.of_heldUntil_eq (heldUntil_process now keypad)) goesOn
          exact ⟨final, List.mem_cons_of_mem last member, reaches⟩

/-- Nothing is held before a stroke was taken. -/
theorem fresh (keymap : Keymap) : Follows (.fresh keymap) [] 0 where
  told earlier struck later split := by simp at split
  past struck member := by simp at member
  held time key reached := by
    have released : (TerminalKeypad.fresh keymap : TerminalKeypad Rat).heldUntil.get key = 0 := by
      change (Vector.replicate 16 (0 : Rat))[key.val] = 0
      simp
    rw [released]
    simp [Holds, Rat.not_lt.mpr reached]

end Follows

/-! ## Trains of strokes -/

/-- The strokes of one key. -/
def ofKey (key : Key) (strokes : List Struck) : List Struck :=
  strokes.filter (·.key = key)

/-- A stroke of a key finds it held exactly where an earlier stroke of the key holds it. -/
theorem Told.wasDown_iff
    {earlier later : List Struck}
    {struck : Struck}
    (told : Told strokes)
    (split : ofKey key strokes = earlier ++ struck :: later) :
    struck.press = (!struck.wasDown) ∧
      (struck.wasDown = true ↔ ∃ other ∈ earlier, struck.time < other.time + 1 / 5) := by
  obtain ⟨before, after, rfl, rfl, rest⟩ := List.filter_eq_append_iff.mp split
  obtain ⟨between, final, rfl, others, same, _⟩ := List.filter_eq_cons_iff.mp rest
  rw [← List.append_assoc] at told
  obtain ⟨pressed, down⟩ := told _ _ _ rfl
  obtain rfl : struck.key = key := of_decide_eq_true same
  -- What lies between the key's last stroke and this one are strokes of other keys.
  have foreign : ¬Holds between struck.time struck.key := by
    rintro ⟨other, member, named, _⟩
    exact others other member (decide_eq_true named)
  refine ⟨pressed, ?_⟩
  rw [down, holds_append, or_iff_left foreign]
  simp [Holds, and_assoc]

/-- Strokes of a key that follow one another in less than a fifth of a second are no presses, but
for the first. -/
theorem Told.press_of_train
    {earlier rest later : List Struck}
    {first : Struck}
    (told : Told strokes)
    (split : ofKey key strokes = earlier ++ first :: (rest ++ later))
    (close : (first :: rest).IsChain fun before next => next.time < before.time + 1 / 5) :
    ∀ struck ∈ rest, struck.press = false := by
  induction rest generalizing earlier first with
  | nil => simp
  | cons next rest hypothesis =>
      obtain ⟨soon, goesOn⟩ := List.isChain_cons_cons.mp close
      have onward : ofKey key strokes = (earlier ++ [first]) ++ next :: (rest ++ later) := by
        simp [split]
      obtain ⟨pressed, down⟩ := told.wasDown_iff onward
      intro struck member
      rcases List.mem_cons.mp member with rfl | among
      · rw [pressed, down.mpr ⟨first, by simp, soon⟩]
        rfl
      · exact hypothesis onward goesOn struck among

/-- A train of strokes of a key makes one press, unless it finds the key held. -/
theorem Told.countP_press_of_train
    {earlier rest later : List Struck}
    {first : Struck}
    (told : Told strokes)
    (split : ofKey key strokes = earlier ++ first :: (rest ++ later))
    (close : (first :: rest).IsChain fun before next => next.time < before.time + 1 / 5) :
    (first :: rest).countP (·.press) = if first.wasDown then 0 else 1 := by
  have repeats : rest.countP (·.press) = 0 := by
    rw [List.countP_eq_zero]
    intro struck member
    simp [told.press_of_train split close struck member]
  obtain ⟨pressed, _⟩ := told.wasDown_iff split
  rw [List.countP_cons, repeats, pressed]
  cases first.wasDown <;> rfl

/-! ## Whole runs -/

theorem time_of_mem_struckAll
    {keys : List Key}
    {struck : Struck}
    (member : struck ∈ keypad.struckAll time keys) :
    struck.time = time := by
  induction keys generalizing keypad with
  | nil => simp [struckAll] at member
  | cons key rest hypothesis =>
      rcases List.mem_cons.mp member with rfl | among
      · rfl
      · exact hypothesis among

theorem log_append (keypad : TerminalKeypad Rat) (events more : List Event) :
    keypad.log (events ++ more) = keypad.log events ++ (keypad.after events).log more := by
  induction events generalizing keypad with
  | nil => rfl
  | cons event rest hypothesis =>
      rw [List.cons_append, log, hypothesis, ← List.append_assoc]
      rfl

/-- Of the strokes of a key that are taken together, only the first can be a press. -/
theorem Told.key_ne_of_press
    {earlier later before after : List Struck}
    {struck : Struck}
    {keys : List Key}
    (told : Told (before ++ keypad.struckAll time keys ++ after))
    (split : keypad.struckAll time keys = earlier ++ struck :: later)
    (pressed : struck.press = true) :
    ∀ other ∈ earlier, other.key ≠ struck.key := by
  intro other member same
  have whole : before ++ keypad.struckAll time keys ++ after =
      (before ++ earlier) ++ struck :: (later ++ after) := by
    simp [split]
  obtain ⟨unheld, down⟩ := told _ _ _ whole
  have together (taken : Struck) (among : taken ∈ earlier ++ struck :: later) :
      taken.time = time := by
    rw [← split] at among
    exact time_of_mem_struckAll among
  have held : struck.wasDown = true := by
    refine down.mpr ⟨other, List.mem_append_right before member, same, ?_⟩
    rw [together struck (by simp), together other (List.mem_append_left _ member)]
    grind
  rw [unheld, held] at pressed
  contradiction

/-- On a keypad on which nothing was typed before, let strokes be taken at times that never go back;
in between the reader may leave the queue in any state, and presses may be collected. A key is held
at a time, no earlier than these, exactly when one of its strokes was taken less than a fifth of a
second before. A stroke is a press exactly when its key was not held just before it, which the
strokes before it tell, so of strokes taken together only a key's first is one. A train of strokes
of a key, each less than a fifth of a second after the one before, makes one press, unless it finds
the key held, and then none. The last press among strokes taken together is the one that waits
after them; where there is none, what waited before still does. -/
theorem strokes_hold_and_press
    (keymap : Keymap)
    (events : List Event)
    (forward : (0 :: times events).Pairwise (· ≤ ·)) :
    (∀ time key, (∀ earlier ∈ 0 :: times events, earlier ≤ time) ->
      (((fresh keymap).after events).isDown time key = true ↔
        Holds ((fresh keymap).log events) time key)) ∧
    (∀ earlier struck later,
      (fresh keymap).log events = earlier ++ struck :: later ->
      struck.press = !struck.wasDown ∧
      (struck.wasDown = true ↔ Holds earlier struck.time struck.key)) ∧
    (∀ key earlier first rest later,
      ofKey key ((fresh keymap).log events) = earlier ++ first :: (rest ++ later) ->
      (first :: rest).IsChain (fun before next => next.time < before.time + 1 / 5) ->
      (first :: rest).countP (·.press) = if first.wasDown then 0 else 1) ∧
    (∀ before time rest,
      events = before ++ .process time :: rest ->
      let keypad : TerminalKeypad Rat := (fresh keymap).after before
      (∀ earlier struck later,
        keypad.struckBy (.process time) = earlier ++ struck :: later ->
        struck.press = true -> ∀ other ∈ earlier, other.key ≠ struck.key) ∧
      (keypad.process time).2.pending =
        (presses (keypad.struckBy (.process time))).getLast?.or keypad.pending) := by
  obtain ⟨last, member, follows⟩ := (Follows.fresh keymap).after forward
  have told : Told ((fresh keymap).log events) := follows.told
  refine ⟨?_, told, ?_, ?_⟩
  · intro time key reached
    rw [isDown, decide_eq_true_eq]
    exact follows.held time key (reached last member)
  · intro key earlier first rest later split close
    exact told.countP_press_of_train split close
  · rintro before time rest rfl keypad
    refine ⟨?_, pending_process time keypad⟩
    intro earlier struck later split pressed
    rw [log_append, log, ← List.append_assoc] at told
    exact told.key_ne_of_press split pressed

/-- Two strokes of a key taken together, and one more of it a tenth of a second later with one of
another key: the three are a train and make one press, and hold the key for longer than two. -/
theorem strokes_hold_and_press_train :
    ∃ (keymap : Keymap) (events : List Event),
      events = [
        .queue { waiting := [.key 5, .key 5] }, .process 0,
        .queue { waiting := [.key 5, .key 7] }, .process (1 / 10)] ∧
      (0 :: times events).Pairwise (· ≤ ·) ∧
      ((fresh keymap).after events).isDown (1 / 4 : Rat) 5 = true ∧
      (ofKey 5 ((fresh keymap).log events)).countP (·.press) = 1 ∧
      ((fresh keymap).after events).pending = some 7 := by
  let keymap : Keymap := ⟨.replicate 16 0⟩
  let events : List Event := [
    .queue { waiting := [.key 5, .key 5] }, .process 0,
    .queue { waiting := [.key 5, .key 7] }, .process (1 / 10)]
  have forward : (0 :: times events).Pairwise (· ≤ ·) := by decide +kernel
  obtain ⟨held, _, trains, calls⟩ := strokes_hold_and_press keymap events forward
  refine ⟨keymap, events, rfl, forward, ?_, ?_, ?_⟩
  · exact (held (1 / 4) 5 (by decide +kernel)).mpr ⟨⟨1 / 10, 5, true, false⟩, by decide +kernel⟩
  · have listed : ofKey 5 ((fresh keymap).log events) =
        [] ++ ⟨0, 5, false, true⟩ ::
          ([⟨0, 5, true, false⟩, ⟨1 / 10, 5, true, false⟩] ++ []) := by decide +kernel
    rw [listed]
    exact trains 5 [] _ _ [] listed (by decide +kernel)
  · exact (calls (events.take 3) (1 / 10) [] rfl).2.trans (by decide +kernel)

end TerminalKeypad
end Chip8
