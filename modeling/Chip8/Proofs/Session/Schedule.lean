import Chip8.Proofs.Session.Polling
import Chip8.Proofs.Session.Turns

/-!
# The schedule of ticks

On the exact scale the last tick was due a whole number of intervals after the
start, and a poll moves it on by the whole intervals that fit into what has
passed. What is left is carried on, so the schedule does not drift. Polls that
come late leave ticks out, and polls less than an interval apart leave out none.
-/

namespace Chip8

/-- What has passed holds a whole number of intervals, and what is left is shorter than one. -/
theorem exists_remainder_eq
    {elapsed interval : Rat}
    (spaced : 0 < interval)
    (due : interval < elapsed) :
    ∃ count : Nat,
      1 ≤ count ∧
      TimeScale.remainder elapsed interval = elapsed - count * interval ∧
      count * interval ≤ elapsed ∧
      elapsed < count * interval + interval := by
  have fits : ((elapsed / interval).floor : Rat) ≤ elapsed / interval := Rat.floor_le _
  have beyond : elapsed / interval < (elapsed / interval).floor + 1 := by
    rw [← Rat.intCast_one, ← Rat.intCast_add]
    exact Rat.lt_floor_add_one _
  have quotient : elapsed / interval * interval = elapsed :=
    Rat.div_mul_cancel (Rat.ne_of_gt spaced)
  have once : (1 : Rat) < elapsed / interval := by
    rw [Rat.lt_div_iff spaced, Rat.one_mul]
    exact due
  have whole : 1 ≤ (elapsed / interval).floor :=
    Rat.le_floor_iff.mpr (Rat.le_of_lt once)
  have counted : ((elapsed / interval).floor.toNat : Rat) = (elapsed / interval).floor := by
    rw [← Rat.intCast_natCast, Int.toNat_of_nonneg (by omega)]
  refine ⟨(elapsed / interval).floor.toNat, by omega, ?_, ?_, ?_⟩
  · change elapsed - interval * (elapsed / interval).floor = _
    rw [counted, Rat.mul_comm]
  · have product := Rat.mul_le_mul_of_nonneg_right fits (Rat.le_of_lt spaced)
    rw [counted]
    grind
  · have product := Rat.mul_lt_mul_of_pos_right beyond spaced
    rw [counted]
    grind

namespace Session

/-! ## Single polls -/

variable {session next first : Session Rat} {start last now interval : Rat} {ticked : Bool}
  {intervals ticks : Nat}

/-- A poll that completes has found no tick due and changed nothing, or has run one tick. -/
theorem poll_eq_ok (polls : session.poll now = .ok ticked next) :
    (ticked = false ∧ session.elapsed now ≤ session.interval ∧ next = session) ∨
      (ticked = true ∧ session.interval < session.elapsed now ∧
        next.lastTick = (session.rescheduled now).lastTick ∧
        next.interval = session.interval ∧
        next.picture.frames = session.picture.frames + 1) := by
  have ended := polled session now
  rw [polls] at ended
  cases ended with
  | early early => exact .inl ⟨rfl, early, rfl⟩
  | ticked due spaced ticks reports =>
      right
      obtain ⟨_, _, _, _, _, rfl, _⟩ := tick_eq_ok ticks
      rcases reportWhenDue_eq_ok reports with rfl | ⟨_, rfl⟩
      · exact ⟨rfl, Rat.not_le.mp due, rfl, rfl, rfl⟩
      · exact ⟨rfl, Rat.not_le.mp due, rfl, rfl, rfl⟩

/-- The last tick was due a number of intervals after the start, and the last reading of the clock
lies within the interval after it. -/
structure OnSchedule (session : Session Rat) (interval start last : Rat) (intervals : Nat) :
    Prop where
  spacing : session.interval = interval
  lastTick : session.lastTick = start + intervals * interval
  reached : session.lastTick ≤ last
  recent : last ≤ session.lastTick + interval

/-- A poll moves the last tick on by whole intervals: by none where no tick is due, and by just one
where the last reading is less than an interval ago. -/
theorem OnSchedule.poll
    (schedule : OnSchedule session interval start last intervals)
    (spaced : 0 < interval)
    (later : last ≤ now)
    (polls : session.poll now = .ok ticked next) :
    ∃ more : Nat,
      next.lastTick = session.lastTick + more * interval ∧
      OnSchedule next interval start now (intervals + more) ∧
      ticked.toNat ≤ more ∧
      (now < last + interval -> more = ticked.toNat) ∧
      (ticked = true ↔ interval < now - session.lastTick) ∧
      (ticked = true -> now - next.lastTick < interval) ∧
      next.picture.frames = session.picture.frames + ticked.toNat := by
  obtain ⟨rfl, lastTick, reached, recent⟩ := schedule
  rcases poll_eq_ok polls with ⟨rfl, early, rfl⟩ | ⟨rfl, due, moved, same, frames⟩
  · unfold elapsed at early
    refine ⟨0, ?_, ⟨rfl, lastTick, ?_, ?_⟩, Nat.zero_le _, fun _ => rfl, ?_, ?_, rfl⟩
    · grind
    · grind
    · grind
    · constructor
      · intro ticked
        contradiction
      · intro due
        grind
    · intro ticked
      contradiction
  · obtain ⟨count, once, remainder, fits, beyond⟩ := exists_remainder_eq spaced due
    have advanced : next.lastTick = session.lastTick + count * session.interval := by
      rw [moved]
      change now - TimeScale.remainder _ _ = _
      rw [remainder]
      unfold elapsed
      grind
    unfold elapsed at due fits beyond
    refine ⟨count, advanced, ⟨same, ?_, ?_, ?_⟩, once, ?_, ?_, ?_, frames⟩
    · rw [advanced, lastTick, Rat.natCast_add]
      grind
    · grind
    · grind
    · intro soon
      -- Two intervals have not passed since the last tick was due.
      apply Decidable.byContradiction
      intro several
      have twice : 2 ≤ count := by
        change count ≠ 1 at several
        omega
      have product := Rat.mul_le_mul_of_nonneg_right
        (Rat.natCast_le_natCast.mpr twice) (Rat.le_of_lt spaced)
      grind
    · simp [due]
    · intro _
      grind

/-- There were no more ticks than intervals have passed. -/
theorem OnSchedule.ticks_le
    (schedule : OnSchedule session interval start last intervals)
    (counted : ticks ≤ intervals)
    (spaced : 0 < interval) :
    (ticks : Rat) ≤ (last - start) / interval := by
  have lastTick := schedule.lastTick
  have reached := schedule.reached
  have product := Rat.mul_le_mul_of_nonneg_right
    (Rat.natCast_le_natCast.mpr counted) (Rat.le_of_lt spaced)
  apply Rat.not_lt.mp
  intro few
  rw [Rat.div_lt_iff spaced] at few
  grind

/-- A poll fails only where a tick is due, and with it. -/
theorem OnSchedule.tick_of_poll_error
    {fault : Fault}
    (schedule : OnSchedule session interval start last intervals)
    (spaced : 0 < interval)
    (fails : session.poll now = .error fault next) :
    interval < now - session.lastTick ∧ (session.rescheduled now).tick = .error fault next := by
  obtain ⟨rfl, _, _, _⟩ := schedule
  have ended := polled session now
  rw [fails] at ended
  cases ended with
  | unspaced _ empty => exact absurd empty (Rat.not_le.mpr spaced)
  | failed due _ stops => exact ⟨Rat.not_le.mp due, stops⟩
  | unreported _ _ _ unread => contradiction

/-! ## Polls from the start on -/

/-- A rate that is accepted leaves time between ticks. -/
theorem spaced_of_checkRate
    {choice : Choice (TickRate Rat)}
    {rate : TickRate Rat}
    (checked : checkRate choice = .ok rate)
    (spacing : rate.interval = .ok interval) :
    0 < interval := by
  unfold checkRate at checked
  split at checked
  · contradiction
  · split at checked
    · rename_i positive
      cases checked
      have above : ∀ number : Rat, 0 < number -> 0 < (1 : Rat) / number := by
        intro number above
        rw [Rat.lt_div_iff above, Rat.zero_mul]
        decide
      cases rate with
      | whole rate =>
          cases spacing
          have positive : 0 < rate := by simpa [TickRate.isPositive] using positive
          exact above rate (Rat.intCast_pos.mpr positive)
      | fractional rate =>
          cases spacing
          have positive : ¬rate ≤ TimeScale.zero := by simpa [TickRate.isPositive] using positive
          exact above rate (Rat.not_le.mp positive)
    · contradiction

/-- A session starts on its schedule. -/
theorem onSchedule_of_start
    {pace : Pace Rat}
    {devices : Devices}
    {machine : Machine}
    (started : Session.start pace devices machine start = .ok session) :
    0 < session.interval ∧ OnSchedule session session.interval start start 0 := by
  obtain ⟨rate, _, interval, checked, _, spaced, rfl⟩ := exists_of_start started
  have above := spaced_of_checkRate checked spaced
  refine ⟨above, rfl, ?_, Rat.le_refl, ?_⟩
  · change start = start + (0 : Nat) * interval
    grind
  · change start ≤ start + interval
    grind

/-- What is between two polls leaves the schedule of a session and its frames alone. -/
structure SameSchedule {τ : Type} (earlier later : Session τ) : Prop where
  interval : later.interval = earlier.interval
  lastTick : later.lastTick = earlier.lastTick
  frames : later.picture.frames = earlier.picture.frames

/-- The later time comes less than an interval after the earlier one. -/
def Within (interval earlier later : Rat) : Prop :=
  earlier ≤ later ∧ later < earlier + interval

/-- Polls lead from a session that was started to another one. The time of each stands in a relation
to the time before it, and none of them fails. They come with the number of those that ran a tick,
and with the last time. -/
inductive PollsTo (gap : Rat -> Rat -> Prop) (first : Session Rat) (start : Rat) :
    Nat -> Rat -> Session Rat -> Prop
  | start : PollsTo gap first start 0 start first
  | meanwhile {ticks : Nat} {last : Rat} {session next : Session Rat}
      (before : PollsTo gap first start ticks last session)
      (same : SameSchedule session next) :
      PollsTo gap first start ticks last next
  | poll {ticks : Nat} {last now : Rat} {session next : Session Rat} {ticked : Bool}
      (before : PollsTo gap first start ticks last session)
      (apart : gap last now)
      (polls : session.poll now = .ok ticked next) :
      PollsTo gap first start (ticks + ticked.toNat) now next

/-- Polled at times that never go back, a session stays on its schedule. -/
theorem PollsTo.onSchedule
    {gap : Rat -> Rat -> Prop}
    (reached : PollsTo gap first start ticks last session)
    (spaced : 0 < first.interval)
    (scheduled : OnSchedule first first.interval start start 0)
    (forward : ∀ earlier later, gap earlier later -> earlier ≤ later) :
    ∃ intervals,
      OnSchedule session first.interval start last intervals ∧
      ticks ≤ intervals ∧
      session.picture.frames = first.picture.frames + ticks ∧
      ((∀ earlier later, gap earlier later -> later < earlier + first.interval) ->
        intervals = ticks) := by
  induction reached with
  | start => exact ⟨0, scheduled, Nat.le_refl 0, rfl, fun _ => rfl⟩
  | meanwhile _ same hypothesis =>
      obtain ⟨intervals, ⟨spacing, lastTick, reached, recent⟩, counted, frames, prompt⟩ :=
        hypothesis
      refine ⟨intervals, ⟨same.interval.trans spacing, same.lastTick.trans lastTick, ?_, ?_⟩,
        counted, same.frames.trans frames, prompt⟩
      · rw [same.lastTick]
        exact reached
      · rw [same.lastTick]
        exact recent
  | poll _ apart polls hypothesis =>
      obtain ⟨intervals, schedule, counted, frames, prompt⟩ := hypothesis
      obtain ⟨more, _, schedule, counts, just, _, _, shown⟩ :=
        schedule.poll spaced (forward _ _ apart) polls
      refine ⟨intervals + more, schedule, Nat.add_le_add counted counts, ?_, ?_⟩
      · rw [shown, frames, Nat.add_assoc]
      · intro close
        rw [prompt close, just (close _ _ apart)]

/-- Polled less than an interval apart, a session has ticked as often as intervals have passed, or is
just about to. -/
theorem PollsTo.ticks_mul_interval
    (reached : PollsTo (Within first.interval) first start ticks last session)
    (spaced : 0 < first.interval)
    (scheduled : OnSchedule first first.interval start start 0) :
    ticks * first.interval ≤ last - start ∧ last - start ≤ (ticks + 1) * first.interval := by
  obtain ⟨intervals, schedule, _, _, prompt⟩ :=
    reached.onSchedule spaced scheduled (fun _ _ apart => apart.1)
  obtain rfl := prompt fun _ _ apart => apart.2
  have lastTick := schedule.lastTick
  have reached := schedule.reached
  have recent := schedule.recent
  constructor
  · grind
  · grind

end Session
end Chip8
