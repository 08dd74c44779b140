import Chip8.Proofs.Machine.Moves
import Chip8.Proofs.Session.Tick

/-!
# Turns of a session

Between the ticks of a session keys are pressed, held and let go. Turns are what
happens to a session, one after the other, and a place is how many of them have
been taken. Only a tick changes the machine. A press is pending where it was the
last one and no tick has come since.
-/

namespace Chip8

/-- Something that happens to a session. -/
inductive Turn
  /-- A key goes down and is pending from now on. -/
  | press (key : Fin 16)
  /-- Exactly these keys are held from now on. -/
  | hold (held : Fin 16 -> Bool)
  /-- A tick is run. -/
  | tick

/-- The session after a turn; a tick that a fault stops is a turn as well. -/
def Turn.play {τ : Type} : Turn -> Session τ -> Session τ
  | .press key => fun session => { session with pending := some (key.val : Int) }
  | .hold held => fun session => { session with console := session.console.holding held }
  | .tick => Action.after Session.tick

/-- The press at one place is what is pending at another: it lies before, and between the two
nothing happens but that keys are held or let go. -/
structure Supplies (turns : List Turn) (press place : Nat) (key : Fin 16) : Prop where
  pressed : turns[press]? = some (.press key)
  before : press < place
  unread : ∀ between, press < between -> between < place ->
    ∃ held, turns[between]? = some (.hold held)

namespace Session

variable {τ : Type} {session : Session τ} {turns : List Turn} {place : Nat}

/-- The session at a place of some turns. -/
def reached (session : Session τ) (turns : List Turn) (place : Nat) : Session τ :=
  (turns.take place).foldl (fun current turn => turn.play current) session

/-- What the turn at a place does to the machine. -/
def changesAt (session : Session τ) (turns : List Turn) (place : Nat) : List Change :=
  match turns[place]? with
  | some .tick => (session.reached turns place).changes
  | _ => []

@[simp] theorem reached_zero (session : Session τ) (turns : List Turn) :
    session.reached turns 0 = session := rfl

theorem reached_succ
    {turn : Turn}
    (taken : turns[place]? = some turn) :
    session.reached turns (place + 1) = turn.play (session.reached turns place) := by
  simp [reached, List.take_add_one, taken]

theorem reached_succ_of_none (ended : turns[place]? = none) :
    session.reached turns (place + 1) = session.reached turns place := by
  simp [reached, List.take_add_one, ended]

theorem changesAt_of_tick (ticked : turns[place]? = some .tick) :
    session.changesAt turns place = (session.reached turns place).changes := by
  simp [changesAt, ticked]

/-- Where the machine is changed, the turn is a tick. -/
theorem tick_of_mem_changesAt
    {change : Change}
    (member : change ∈ session.changesAt turns place) :
    turns[place]? = some .tick := by
  unfold changesAt at member
  split at member
  · assumption
  · contradiction

theorem machine_reached_succ
    (unticked : turns[place]? ≠ some .tick) :
    (session.reached turns (place + 1)).machine = (session.reached turns place).machine := by
  cases taken : turns[place]? with
  | none => rw [reached_succ_of_none taken]
  | some turn =>
      rw [reached_succ taken]
      cases turn with
      | press key => rfl
      | hold held => rfl
      | tick => contradiction

/-- The changes of a turn lead to the machine of the next place. -/
theorem lead_changesAt (session : Session τ) (turns : List Turn) (place : Nat) :
    Change.Lead (session.reached turns place).machine (session.changesAt turns place)
      (session.reached turns (place + 1)).machine := by
  by_cases ticked : turns[place]? = some .tick
  · rw [changesAt_of_tick ticked, reached_succ ticked]
    exact lead_changes _
  · have unchanged : session.changesAt turns place = [] := by
      apply List.eq_nil_iff_forall_not_mem.mpr
      intro change member
      exact ticked (tick_of_mem_changesAt member)
    rw [unchanged, machine_reached_succ ticked]
    rfl

theorem wellFormed_reached
    (wellFormed : session.machine.WellFormed)
    (turns : List Turn)
    (place : Nat) :
    (session.reached turns place).machine.WellFormed := by
  induction place with
  | zero => exact wellFormed
  | succ place hypothesis =>
      by_cases ticked : turns[place]? = some .tick
      · rw [reached_succ ticked]
        exact wellFormed_after_tick hypothesis
      · rw [machine_reached_succ ticked]
        exact hypothesis

section Start

variable [TimeScale τ] [Div τ] [LE τ] [DecidableLE τ]

/-- A session that starts has a rate above zero and a time between ticks that goes with it, and its
first report is made. -/
theorem exists_of_start
    {pace : Pace τ}
    {devices : Devices}
    {machine : Machine}
    {now : τ}
    (started : start pace devices machine now = .ok session) :
    ∃ rate stepsPerTick interval,
      checkRate pace.rate = .ok rate ∧
      checkSteps pace.stepsPerTick = .ok stepsPerTick ∧
      rate.interval = .ok interval ∧
      session = report 0 0 {
        machine
        host := devices.host
        console := devices.console
        picture := devices.picture
        speaker := devices.speaker
        tone := pace.tone.resolve standardTone
        stepsPerTick
        interval
        lastTick := now
        nextReport := TimeScale.zero } := by
  unfold start at started
  cases rated : checkRate pace.rate with
  | error fault => simp [rated, bind, Except.bind] at started
  | ok rate =>
      cases stepped : checkSteps pace.stepsPerTick with
      | error fault => simp [rated, stepped, bind, Except.bind] at started
      | ok steps =>
          cases spaced : rate.interval with
          | error fault => simp [rated, stepped, spaced, bind, Except.bind] at started
          | ok interval =>
              simp only [rated, stepped, spaced, bind, Except.bind, pure, Except.pure,
                Except.ok.injEq] at started
              exact ⟨rate, steps, interval, rfl, rfl, spaced, started.symm⟩

/-- A session starts with the machine that it is given and with nothing pending. -/
theorem start_eq_ok
    {pace : Pace τ}
    {devices : Devices}
    {machine : Machine}
    {now : τ}
    (started : start pace devices machine now = .ok session) :
    session.machine = machine ∧ session.pending = none := by
  obtain ⟨_, _, _, _, _, _, rfl⟩ := exists_of_start started
  exact ⟨rfl, rfl⟩

end Start

/-- What is pending at a place was supplied by a press before it. -/
theorem exists_supplies
    (wellFormed : session.machine.WellFormed)
    (unpressed : session.pending = none)
    (within : place ≤ turns.length)
    {pressed : Int}
    (pending : (session.reached turns place).pending = some pressed) :
    ∃ press key, Supplies turns press place key ∧ pressed = (key.val : Int) := by
  -- The turn just taken is the press itself, leaves the press pending, or collects it.
  induction place with
  | zero =>
      rw [reached_zero, unpressed] at pending
      contradiction
  | succ place hypothesis =>
      have taken : turns[place]? = some turns[place] := List.getElem?_eq_getElem within
      rw [reached_succ taken] at pending
      cases turn : turns[place] with
      | press key =>
          rw [turn] at taken pending
          cases pending
          refine ⟨place, key, ⟨taken, Nat.lt_succ_self place, ?_⟩, rfl⟩
          intro between after before
          omega
      | hold held =>
          rw [turn] at taken pending
          obtain ⟨press, key, supplies, rfl⟩ := hypothesis (Nat.le_of_lt within) pending
          refine ⟨press, key, ⟨supplies.pressed, Nat.lt_succ_of_lt supplies.before, ?_⟩, rfl⟩
          intro between after before
          rcases Nat.lt_succ_iff_lt_or_eq.mp before with earlier | rfl
          · exact supplies.unread between after earlier
          · exact ⟨held, taken⟩
      | tick =>
          rw [turn] at pending
          have kept := wellFormed_reached wellFormed turns place
          have emptied : (Turn.tick.play (session.reached turns place)).pending = none :=
            pending_after_tick kept
          rw [emptied] at pending
          contradiction

end Session

/-- A press that supplies a place comes after every tick before it. -/
theorem Supplies.lt_of_tick
    {turns : List Turn}
    {press place tick : Nat}
    {key : Fin 16}
    (supplies : Supplies turns press place key)
    (ticked : turns[tick]? = some .tick)
    (before : tick < place) :
    tick < press := by
  rcases Nat.lt_trichotomy tick press with earlier | rfl | later
  · exact earlier
  · cases ticked.symm.trans supplies.pressed
  · obtain ⟨held, holds⟩ := supplies.unread tick later before
    cases ticked.symm.trans holds

/-- A press supplies at most one tick. -/
theorem Supplies.place_unique
    {turns : List Turn}
    {press place other : Nat}
    {key another : Fin 16}
    (first : Supplies turns press place key)
    (second : Supplies turns press other another)
    (ticked : turns[place]? = some .tick)
    (tickedOther : turns[other]? = some .tick) :
    place = other := by
  rcases Nat.lt_trichotomy place other with before | same | after
  · have earlier := second.lt_of_tick ticked before
    exact absurd first.before (Nat.lt_asymm earlier)
  · exact same
  · have earlier := first.lt_of_tick tickedOther after
    exact absurd second.before (Nat.lt_asymm earlier)

end Chip8
