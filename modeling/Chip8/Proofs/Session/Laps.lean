import Chip8.Proofs.Session.Rounds
import Chip8.Proofs.Session.Schedule

/-!
# Sleeps of a run

A lap is the part of a run from a poll that completes to the sleep that follows
it. A run sleeps in a lap where the next tick is not due yet, and then no longer
than until it is. So the polls of a run are polls by a clock like any other, and
the session stays on its schedule all through the run.
-/

namespace Chip8

/-- How long a sleep was, where the event is one. -/
def Event.slept? {τ : Type} : Event τ -> Option τ
  | .slept time => some time
  | _ => none

/-- The times that a session slept, the latest first. -/
def Session.sleeps {τ : Type} (session : Session τ) : List τ :=
  session.events.filterMap Event.slept?

/-- A poll of a run that completes, and what it leaves. -/
structure Lap (κ τ : Type) where
  /-- The time at which the session is polled. -/
  polledAt : τ
  polled : TimedSession κ τ

namespace Lap

variable {κ τ : Type} [Clock κ τ] [Add τ] [Sub τ]

/-- The time at which the session may go to sleep. -/
def now (lap : Lap κ τ) : τ :=
  (Clock.read lap.polled.clock).1

/-- How long it is then until the next tick is due. -/
def rest (lap : Lap κ τ) : τ :=
  lap.polled.session.wait lap.now

/-- What the clock shows in the lap. -/
def readings (lap : Lap κ τ) : List τ :=
  [lap.polledAt, lap.now]

end Lap

namespace TimedSession

variable {κ τ : Type} [Clock κ τ] [TimeScale τ] [Add τ] [Sub τ]
  [LE τ] [DecidableLE τ] [LT τ] [DecidableLT τ]

/-- The laps of some rounds, up to a poll that fails. -/
def laps : List Round -> TimedSession κ τ -> List (Lap κ τ)
  | [], _ => []
  | round :: rest, timed =>
      if round.goesOn then
        match poll (hear round timed) with
        | .ok _ polled =>
            ⟨(Clock.read timed.clock).1, polled⟩ :: laps rest (Action.after sleepUntilDue polled)
        | .error _ _ => []
      else []

/-- The sleeps of some laps, the latest first: those that are longer than no time. -/
def requested (laps : List (Lap κ τ)) : List τ :=
  ((laps.map Lap.rest).filter fun time => TimeScale.zero < time).reverse

end TimedSession

namespace Session

variable {τ : Type} {session : Session τ}

theorem slept?_of_isOfTick {event : Event τ} (ofTick : event.isOfTick = true) :
    event.slept? = none := by
  cases event <;> first | rfl | contradiction

theorem sleeps_report (ticks operations : Int) (session : Session τ) :
    (session.report ticks operations).sleeps = session.sleeps :=
  (recordsTick_report ticks operations session).filterMap_eq fun _ => slept?_of_isOfTick

theorem sleeps_after_tick (session : Session τ) :
    (Action.after tick session).sleeps = session.sleeps :=
  (recordsTick_after_tick session).filterMap_eq fun _ => slept?_of_isOfTick

section Scheduling

variable [TimeScale τ] [Add τ] [Sub τ] [LE τ] [DecidableLE τ]

/-- Polls do not sleep. -/
theorem sleeps_after_poll (session : Session τ) (now : τ) :
    (Action.after (poll now) session).sleeps = session.sleeps := by
  have ticks : (Action.after tick (session.rescheduled now)).sleeps = session.sleeps :=
    sleeps_after_tick (session.rescheduled now)
  have ended := polled session now
  generalize made : session.poll now = result at ended
  cases ended with
  | early => rw [Action.after_of_ok made]
  | unspaced => rw [Action.after_of_error made]
  | failed _ _ fails =>
      rw [Action.after_of_error fails] at ticks
      rw [Action.after_of_error made, ticks]
  | unreported _ _ ticked _ =>
      rw [Action.after_of_ok ticked] at ticks
      rw [Action.after_of_error made, ticks]
  | ticked _ _ ticked reports =>
      rw [Action.after_of_ok ticked] at ticks
      rw [Action.after_of_ok made]
      rcases reportWhenDue_eq_ok reports with rfl | ⟨_, rfl⟩
      · exact ticks
      · exact (sleeps_report _ _ _).trans ticks

end Scheduling
end Session

namespace TimedSession

variable {κ τ : Type} [Clock κ τ] [TimeScale τ] [Add τ] [Sub τ] [LT τ] [DecidableLT τ]

/-- A session sleeps where its next tick is not due yet. -/
theorem sleeps_after_sleepUntilDue (polledAt : τ) (timed : TimedSession κ τ) :
    (Action.after sleepUntilDue timed).session.sleeps =
      requested [⟨polledAt, timed⟩] ++ timed.session.sleeps := by
  rw [Action.after_of_ok (sleepUntilDue_eq timed)]
  change _ = (List.filter _ [timed.session.wait (Clock.read timed.clock).1]).reverse ++ _
  split
  · rename_i early
    simp only [List.filter_cons, decide_eq_true early, if_true]
    rfl
  · rename_i due
    simp only [List.filter_cons, decide_eq_false due]
    rfl

theorem requested_cons (lap : Lap κ τ) (laps : List (Lap κ τ)) :
    requested (lap :: laps) = requested laps ++ requested [lap] := by
  simp only [requested, ← List.reverse_append, ← List.filter_append, ← List.map_append]
  rfl

variable [LE τ] [DecidableLE τ]

/-- What rounds record of sleeps is what their laps request. -/
theorem sleeps_after_rounds (script : List Round) (timed : TimedSession κ τ) :
    (Action.after (rounds script) timed).session.sleeps =
      requested (laps script timed) ++ timed.session.sleeps := by
  induction script generalizing timed with
  | nil => rfl
  | cons round rest hypothesis =>
      cases goesOn : round.goesOn with
      | false =>
          rw [after_rounds_of_not_goesOn goesOn]
          simp [laps, goesOn, requested]
          rfl
      | true =>
          have heard : (hear round timed).session.sleeps = timed.session.sleeps := by
            cases round <;> rfl
          have polls : (Action.after poll (hear round timed)).session.sleeps =
              timed.session.sleeps := by
            rw [after_poll, ← heard]
            exact Session.sleeps_after_poll _ _
          cases outcome : poll (hear round timed) with
          | ok ticked polled =>
              rw [Action.after_of_ok outcome] at polls
              rw [after_rounds_of_ok goesOn outcome, hypothesis,
                sleeps_after_sleepUntilDue (Clock.read timed.clock).1, polls, ← List.append_assoc,
                ← requested_cons]
              simp only [laps, goesOn, outcome, if_true]
          | error fault stopped =>
              rw [Action.after_of_error outcome] at polls
              rw [after_rounds_of_error goesOn outcome, polls]
              simp [laps, goesOn, outcome, requested]

/-- What a run records of sleeps is what its laps request. -/
theorem sleeps_after_run
    {timed : TimedSession κ τ}
    (idle : timed.session.running = false)
    (script : List Round) :
    (Action.after (run script) timed).session.sleeps =
      requested (laps script (timed.mark true)) ++ timed.session.sleeps := by
  rw [after_run idle]
  exact sleeps_after_rounds script (timed.mark true)

/-! ## Laps on schedule -/

section Exact

variable {κ : Type} [Clock κ Rat] {first : Session Rat} {start last : Rat} {ticks : Nat}
  {timed : TimedSession κ Rat} {script : List Round} {lap : Lap κ Rat}

/-- The polls of a run lead on from the polls before it, and each lap of it goes on to its sleep
after its poll. -/
theorem pollsTo_of_mem_laps
    (before : Session.PollsTo (· ≤ ·) first start ticks last timed.session)
    (ordered : (last :: (laps script timed).flatMap Lap.readings).Pairwise (· ≤ ·))
    (member : lap ∈ laps script timed) :
    ∃ ticks,
      Session.PollsTo (· ≤ ·) first start ticks lap.polledAt lap.polled.session ∧
      lap.polledAt ≤ lap.now := by
  induction script generalizing timed last ticks with
  | nil => contradiction
  | cons round rest hypothesis =>
      cases goesOn : round.goesOn with
      | false =>
          simp [laps, goesOn] at member
      | true =>
          cases outcome : poll (hear round timed) with
          | error fault stopped => simp [laps, goesOn, outcome] at member
          | ok ticked polled =>
              simp only [laps, goesOn, outcome, if_true, List.flatMap_cons, Lap.readings,
                List.cons_append, List.nil_append, List.pairwise_cons] at member ordered
              obtain ⟨afterLast, afterPoll, afterSleep, others⟩ := ordered
              have heard : Session.SameSchedule timed.session (hear round timed).session := by
                cases round <;> constructor <;> rfl
              have reached := (before.meanwhile heard).poll
                (afterLast _ List.mem_cons_self) (session_poll_of_ok outcome)
              rcases List.mem_cons.mp member with rfl | later
              · exact ⟨_, reached, afterPoll _ List.mem_cons_self⟩
              · obtain ⟨events, slept⟩ := exists_after_sleepUntilDue polled
                refine hypothesis (reached.meanwhile ?_) ?_ later
                · rw [slept]
                  constructor <;> rfl
                · exact List.pairwise_cons.mpr
                    ⟨fun time shown => afterPoll time (List.mem_cons_of_mem _ shown), others⟩

/-- The next tick is due an interval or less after the poll of a lap. -/
theorem rest_le_of_mem_laps
    (spaced : 0 < first.interval)
    (scheduled : Session.OnSchedule first first.interval start start 0)
    (before : Session.PollsTo (· ≤ ·) first start ticks last timed.session)
    (ordered : (last :: (laps script timed).flatMap Lap.readings).Pairwise (· ≤ ·))
    (member : lap ∈ laps script timed) :
    lap.rest ≤ first.interval ∧
      lap.now + lap.rest ≤ lap.polled.session.lastTick + first.interval := by
  obtain ⟨_, polled, later⟩ := pollsTo_of_mem_laps before ordered member
  obtain ⟨intervals, schedule, _, _, _⟩ :=
    polled.onSchedule spaced scheduled (fun _ _ forward => forward)
  have spacing := schedule.spacing
  have reached := schedule.reached
  unfold Lap.rest Session.wait
  constructor
  · grind
  · grind

/-- A session that was started stays on its schedule. However late its polls come, its last tick was
due a whole number of intervals after the start, it ticks where more than an interval has passed
since then, and it has not ticked more often than intervals have passed. Polled less than an
interval apart, it leaves out no tick. A run sleeps no longer than until the next tick is due. -/
theorem ticks_keep_schedule
    {pace : Pace Rat}
    {devices : Devices}
    {machine : Machine}
    {session : Session Rat}
    (started : Session.start pace devices machine start = .ok session) :
    0 < session.interval ∧
    (∀ ticks last current,
      Session.PollsTo (· ≤ ·) session start ticks last current ->
      (∃ intervals : Nat, current.lastTick = start + intervals * session.interval) ∧
      (ticks : Rat) ≤ (last - start) / session.interval ∧
      current.picture.frames = session.picture.frames + ticks ∧
      ∀ now, last ≤ now ->
        (∀ ticked next,
          current.poll now = .ok ticked next ->
          (∃ more : Nat, next.lastTick = current.lastTick + more * session.interval) ∧
          (ticked = true ↔ session.interval < now - current.lastTick) ∧
          0 ≤ now - next.lastTick ∧
          now - next.lastTick ≤ session.interval ∧
          (ticked = true -> now - next.lastTick < session.interval) ∧
          next.picture.frames = current.picture.frames + ticked.toNat) ∧
        (∀ fault stopped,
          current.poll now = .error fault stopped ->
          session.interval < now - current.lastTick ∧
            (current.rescheduled now).tick = .error fault stopped)) ∧
    (∀ ticks last current,
      Session.PollsTo (Session.Within session.interval) session start ticks last current ->
      ticks * session.interval ≤ last - start ∧
        last - start ≤ (ticks + 1) * session.interval) ∧
    (∀ (timed : TimedSession κ Rat) script ticks last,
      Session.PollsTo (· ≤ ·) session start ticks last timed.session ->
      timed.session.running = false ->
      (last :: (laps script (timed.mark true)).flatMap Lap.readings).Pairwise (· ≤ ·) ->
      (Action.after (run script) timed).session.sleeps =
        requested (laps script (timed.mark true)) ++ timed.session.sleeps ∧
      ∀ lap ∈ laps script (timed.mark true),
        0 < lap.rest ->
        lap.rest ≤ session.interval ∧
          lap.now + lap.rest ≤ lap.polled.session.lastTick + session.interval) := by
  obtain ⟨spaced, scheduled⟩ := Session.onSchedule_of_start started
  refine ⟨spaced, ?_, ?_, ?_⟩
  · intro ticks last current reached
    obtain ⟨intervals, schedule, counted, frames, _⟩ :=
      reached.onSchedule spaced scheduled (fun _ _ forward => forward)
    refine ⟨⟨intervals, schedule.lastTick⟩, schedule.ticks_le counted spaced, frames, ?_⟩
    intro now later
    constructor
    · intro ticked next polls
      obtain ⟨more, moved, after, _, _, due, soon, shown⟩ := schedule.poll spaced later polls
      refine ⟨⟨more, moved⟩, due, ?_, ?_, soon, shown⟩
      · have reached := after.reached
        grind
      · have recent := after.recent
        grind
    · intro fault stopped fails
      exact schedule.tick_of_poll_error spaced fails
  · intro ticks last current reached
    exact reached.ticks_mul_interval spaced scheduled
  · intro timed script ticks last reached idle ordered
    have marked : Session.SameSchedule timed.session (timed.mark true).session := by
      constructor <;> rfl
    refine ⟨sleeps_after_run idle script, ?_⟩
    intro lap member early
    exact rest_le_of_mem_laps spaced scheduled (reached.meanwhile marked) ordered member

end Exact

/-- A session polled a hundredth and two hundredths of a second after its start, and then run by a
clock that moves on by a thousandth of a second with each reading. -/
theorem ticks_keep_schedule_hundredths :
    ∃ session next : Session Rat,
      Session.start { stepsPerTick := .value 1 } .bare Machine.powerOn 0 = .ok session ∧
      Session.PollsTo (Session.Within session.interval) session 0 1 (1 / 50) next ∧
      (1 : Nat) * session.interval ≤ 1 / 50 - 0 ∧
      1 / 50 - 0 ≤ ((1 : Nat) + 1) * session.interval ∧
      ∀ lap ∈ laps [.idle, .idle]
          (mark true { session, clock := ({ now := 0, step := 1 / 1000 } : SteppingClock Rat) }),
        0 < lap.rest -> lap.rest ≤ session.interval := by
  obtain ⟨session, started, idle, early, due, near, nearer, ordered⟩ :
      ∃ session : Session Rat,
        Session.start { stepsPerTick := .value 1 } .bare Machine.powerOn 0 = .ok session ∧
        session.running = false ∧
        session.elapsed (1 / 100) ≤ session.interval ∧
        (session.poll (1 / 50) matches .ok true _) = true ∧
        ((0 : Rat) ≤ 1 / 100 ∧ 1 / 100 < 0 + session.interval) ∧
        ((1 / 100 : Rat) ≤ 1 / 50 ∧ 1 / 50 < 1 / 100 + session.interval) ∧
        (0 :: List.flatMap Lap.readings
          (laps [.idle, .idle]
            (mark true
              { session, clock := ({ now := 0, step := 1 / 1000 } : SteppingClock Rat) }))).Pairwise
          (· ≤ ·) :=
    ⟨_, rfl, rfl, by decide +kernel, by decide +kernel, by decide +kernel, by decide +kernel,
      by decide +kernel⟩
  have waits : session.poll (1 / 100) = .ok false session := by
    unfold Session.poll
    exact if_pos early
  obtain ⟨next, ticks⟩ : ∃ next, session.poll (1 / 50) = .ok true next := by
    split at due
    · rename_i next ticks
      exact ⟨next, ticks⟩
    · contradiction
  obtain ⟨_, _, prompt, runs⟩ :=
    ticks_keep_schedule (κ := SteppingClock Rat) started
  have reached : Session.PollsTo (Session.Within session.interval) session 0 1 (1 / 50) next :=
    .poll (.poll .start near waits) nearer ticks
  obtain ⟨enough, none⟩ := prompt 1 (1 / 50) next reached
  obtain ⟨_, sleeps⟩ := runs
    { session, clock := ({ now := 0, step := 1 / 1000 } : SteppingClock Rat) }
    [.idle, .idle] 0 0 .start idle ordered
  exact ⟨session, next, started, reached, enough, none, fun lap member early =>
    (sleeps lap member early).1⟩

end TimedSession
end Chip8
