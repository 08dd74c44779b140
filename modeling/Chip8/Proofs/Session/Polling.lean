import Chip8.Proofs.Session.Tick

/-!
# How ticks and polls end

A tick that completes has shown one frame and counted itself, and a tick that a
fault stops has done neither. A poll ends in one of five ways: where a tick is
due, the session is put on its new schedule first, the tick follows, and the
report comes last.
-/

namespace Chip8

/-- Devices that hold no key, show nothing and sound nothing. -/
def Devices.bare : Devices where
  console := { held := fun _ => false, random := fun _ => 0 }
  picture := { surface := .headless, scale := 1 }
  speaker := { voice := .silent }

/-- Take a press, if there is one. -/
def Machine.receive (pending : Option Int) : Action Machine Unit :=
  match pending with
  | none => pure ()
  | some key => fun machine =>
      match pressKey key machine with
      | .ok _ next => .ok () next
      | .error fault stopped => .error fault stopped

/-- Ticks record tones, silences, frames and calls on the host. -/
def Event.isOfTick {τ : Type} : Event τ -> Bool
  | .tone _ | .silence | .frame _ | .call _ => true
  | _ => false

namespace Session

variable {τ : Type} {session final stopped : Session τ}

/-- What was recorded between two moments is what ticks record. -/
def RecordsTick (earlier later : List (Event τ)) : Prop :=
  ∃ added, later = added ++ earlier ∧ ∀ event ∈ added, event.isOfTick = true

namespace RecordsTick

variable {earlier middle later : List (Event τ)}

theorem refl (events : List (Event τ)) : RecordsTick events events :=
  ⟨[], rfl, by simp⟩

theorem trans
    (first : RecordsTick earlier middle)
    (second : RecordsTick middle later) :
    RecordsTick earlier later := by
  obtain ⟨added, rfl, ofTick⟩ := first
  obtain ⟨after, rfl, ofTickAfter⟩ := second
  refine ⟨after ++ added, by simp, ?_⟩
  intro event member
  rcases List.mem_append.mp member with late | early
  · exact ofTickAfter event late
  · exact ofTick event early

/-- What a tick does not record is recorded as before. -/
theorem filterMap_eq
    {α : Type}
    {select : Event τ -> Option α}
    (records : RecordsTick earlier later)
    (unrecorded : ∀ event : Event τ, event.isOfTick = true -> select event = none) :
    later.filterMap select = earlier.filterMap select := by
  obtain ⟨added, rfl, ofTick⟩ := records
  have none : added.filterMap select = [] :=
    List.filterMap_eq_nil_iff.mpr fun event member => unrecorded event (ofTick event member)
  rw [List.filterMap_append, none, List.nil_append]

theorem note {event : Event τ} (ofTick : event.isOfTick = true) (session : Session τ) :
    RecordsTick session.events (session.note event).events :=
  ⟨[event], rfl, by simpa using ofTick⟩

theorem noteCalls (calls : List HostCall) (session : Session τ) :
    RecordsTick session.events (session.noteCalls calls).events := by
  refine ⟨(calls.map Event.call).reverse, rfl, ?_⟩
  intro event member
  obtain ⟨call, _, rfl⟩ := List.mem_map.mp (List.mem_reverse.mp member)
  rfl

end RecordsTick

/-- A report records its title, and then calls like those of a tick. -/
theorem recordsTick_report (ticks operations : Int) (session : Session τ) :
    RecordsTick (.title (reportTitle ticks operations) :: session.events)
      (session.report ticks operations).events :=
  .noteCalls _ (note (.title (reportTitle ticks operations)) session)

/-! ## Ticks -/

/-- Delivering a press concerns the machine and what is pending. -/
theorem deliverPress_eq (session : Session τ) :
    deliverPress session =
      onMachine (Machine.receive session.pending) { session with pending := none } := by
  cases pressed : session.pending with
  | none =>
      rw [deliverPress_of_none pressed]
      cases session
      cases pressed
      rfl
  | some key =>
      simp only [deliverPress, pressed, onMachine, Machine.receive]
      cases session.machine.pressKey key <;> rfl

theorem after_deliverPress (session : Session τ) :
    Action.after deliverPress session = {
      session with
      pending := none
      machine := Action.after (Machine.receive session.pending) session.machine } := by
  unfold Action.after
  rw [deliverPress_eq]
  exact after_onMachine _ _

theorem exists_countTimers (session : Session τ) :
    ∃ machine, session.countTimers = { session with machine } := by
  unfold countTimers
  split
  · exact ⟨session.machine, rfl⟩
  · exact ⟨_, rfl⟩

/-- Sounding the tone concerns the speaker and the record. -/
theorem exists_after_soundTone (session : Session τ) :
    ∃ speaker events,
      Action.after soundTone session = { session with speaker, events } ∧
        RecordsTick session.events events := by
  unfold Action.after soundTone
  cases session.machine.sounding with
  | false =>
      have noted : RecordsTick session.events
          ({ session with speaker := session.speaker.stopped }.note .silence).events :=
        .note rfl { session with speaker := session.speaker.stopped }
      exact ⟨_, _, rfl, noted.trans (.noteCalls session.speaker.stopCalls _)⟩
  | true =>
      generalize session.speaker.sound session.host session.tone = sounded
      obtain ⟨calls, fault, speaker⟩ := sounded
      have noted : RecordsTick session.events
          ({ session with speaker }.note (.tone session.tone)).events :=
        .note rfl { session with speaker }
      cases fault <;> exact ⟨_, _, rfl, noted.trans (.noteCalls calls _)⟩

/-- The screen is always shown. -/
theorem exists_showScreen (session : Session τ) :
    ∃ surface cells events,
      showScreen session = .ok () {
        session with
        events
        picture := {
          session.picture with
          surface
          lastFrame := some cells
          frames := session.picture.frames + 1 } } ∧
        RecordsTick session.events events := by
  have complete := Frame.isComplete_ofScreen session.machine.screen
  simp only [showScreen, Picture.present_of_isComplete _ _ complete]
  exact ⟨_, _, _, rfl, (RecordsTick.noteCalls _ _).trans (.note rfl _)⟩

/-- What follows the steps of a tick begins with its timers counted. -/
theorem finish_eq (session : Session τ) :
    finish session =
      (do soundTone; showScreen; modify countTick : Action (Session τ) Unit)
        session.countTimers := rfl

/-- What follows the steps of a tick fails where sounding the tone does, and shows nothing then. -/
theorem finish_eq_error
    {fault : Fault}
    (fails : finish session = .error fault stopped) :
    soundTone session.countTimers = .error fault stopped := by
  rw [finish_eq] at fails
  rcases Action.bind_eq_error.mp fails with sounds | ⟨_, sounded, _, shows⟩
  · exact sounds
  · obtain ⟨_, _, _, shown, _⟩ := exists_showScreen sounded
    rcases Action.bind_eq_error.mp shows with unshown | ⟨_, last, _, counts⟩
    · rw [shown] at unshown
      contradiction
    · contradiction

theorem tick_eq_ok (completed : tick session = .ok () final) :
    ∃ machine speaker surface cells events,
      final = {
        session with
        machine
        speaker
        events
        pending := none
        picture := {
          session.picture with
          surface
          lastFrame := some cells
          frames := session.picture.frames + 1 }
        ticks := session.ticks + 1
        operations := session.operations + session.stepsPerTick } ∧
        RecordsTick session.events events := by
  obtain ⟨_, delivered, delivers, plays⟩ := Action.bind_eq_ok.mp completed
  obtain ⟨_, stepped, steps, finishes⟩ := Action.bind_eq_ok.mp plays
  change finish stepped = .ok () final at finishes
  rw [finish_eq] at finishes
  obtain ⟨_, sounded, sounds, shows⟩ := Action.bind_eq_ok.mp finishes
  obtain ⟨_, shown, screens, counts⟩ := Action.bind_eq_ok.mp shows
  have delivery := after_deliverPress session
  have stepping := after_runSteps delivered
  obtain ⟨machine, counted⟩ := exists_countTimers stepped
  obtain ⟨speaker, heard, sounding, hears⟩ := exists_after_soundTone stepped.countTimers
  obtain ⟨surface, cells, seen, showing, sees⟩ := exists_showScreen sounded
  -- Each phase starts from the session that the one before it left.
  rw [Action.after_of_ok delivers] at delivery
  rw [Action.after_of_ok steps, delivery] at stepping
  rw [Action.after_of_ok sounds] at sounding
  rw [counted, stepping] at sounding hears
  rw [sounding] at sees
  cases showing.symm.trans screens
  cases counts
  refine ⟨machine, speaker, surface, cells, seen, ?_, hears.trans sees⟩
  rw [sounding]
  rfl

theorem tick_eq_error
    {fault : Fault}
    (fails : tick session = .error fault stopped) :
    ∃ machine speaker events,
      stopped = { session with machine, speaker, events, pending := none } ∧
        RecordsTick session.events events := by
  have delivery := after_deliverPress session
  rcases Action.bind_eq_error.mp fails with undelivered | ⟨_, delivered, delivers, plays⟩
  · rw [Action.after_of_error undelivered] at delivery
    exact ⟨_, session.speaker, session.events, delivery, .refl _⟩
  · rw [Action.after_of_ok delivers] at delivery
    have stepping := after_runSteps delivered
    rcases Action.bind_eq_error.mp plays with unstepped | ⟨_, stepped, steps, finishes⟩
    · rw [Action.after_of_error unstepped, delivery] at stepping
      exact ⟨_, session.speaker, session.events, stepping, .refl _⟩
    · rw [Action.after_of_ok steps, delivery] at stepping
      obtain ⟨machine, counted⟩ := exists_countTimers stepped
      obtain ⟨speaker, events, sounding, hears⟩ := exists_after_soundTone stepped.countTimers
      rw [Action.after_of_error (finish_eq_error finishes)] at sounding
      rw [counted, stepping] at sounding hears
      exact ⟨machine, speaker, events, sounding, hears⟩

/-- A tick records what ticks record, also where a fault stops it. -/
theorem recordsTick_after_tick (session : Session τ) :
    RecordsTick session.events (Action.after tick session).events := by
  cases outcome : tick session with
  | ok result final =>
      obtain ⟨_, _, _, _, _, rfl, records⟩ := tick_eq_ok outcome
      rwa [Action.after_of_ok outcome]
  | error fault stopped =>
      obtain ⟨_, _, _, rfl, records⟩ := tick_eq_error outcome
      rwa [Action.after_of_error outcome]

/-- Two sessions are set up alike: they differ at most in what ticks and polls move on. -/
structure SameSetup (earlier later : Session τ) : Prop where
  host : later.host = earlier.host
  console : later.console = earlier.console
  tone : later.tone = earlier.tone
  stepsPerTick : later.stepsPerTick = earlier.stepsPerTick
  interval : later.interval = earlier.interval
  running : later.running = earlier.running

theorem SameSetup.trans
    {earlier middle later : Session τ}
    (first : SameSetup earlier middle)
    (second : SameSetup middle later) :
    SameSetup earlier later where
  host := second.host.trans first.host
  console := second.console.trans first.console
  tone := second.tone.trans first.tone
  stepsPerTick := second.stepsPerTick.trans first.stepsPerTick
  interval := second.interval.trans first.interval
  running := second.running.trans first.running

theorem sameSetup_after_tick (session : Session τ) :
    SameSetup session (Action.after tick session) := by
  unfold Action.after
  cases outcome : tick session with
  | ok result final =>
      obtain ⟨_, _, _, _, _, rfl, _⟩ := tick_eq_ok outcome
      constructor <;> rfl
  | error fault stopped =>
      obtain ⟨_, _, _, rfl, _⟩ := tick_eq_error outcome
      constructor <;> rfl

/-! ## Polls -/

section Scheduling

variable [TimeScale τ] [Add τ] [LE τ] [DecidableLE τ]

/-- A report, if one is made, concerns the title, the record, the time of the next report and the
counts. -/
theorem reportWhenDue_eq_ok
    {now : τ}
    (reports : reportWhenDue now session = .ok () final) :
    final = session ∨
      ∃ nextReport,
        final = {
          session.report session.ticks session.operations with
          nextReport, ticks := 0, operations := 0 } := by
  unfold reportWhenDue at reports
  split at reports
  · split at reports
    · contradiction
    · cases reports
      exact .inr ⟨_, rfl⟩
  · cases reports
    exact .inl rfl

theorem reportWhenDue_eq_error
    {now : τ}
    {fault : Fault}
    (fails : reportWhenDue now session = .error fault stopped) :
    TimeScale.wholeSeconds now = .error fault ∧ stopped = session := by
  unfold reportWhenDue at fails
  split at fails
  · split at fails
    · rename_i seconds
      cases fails
      exact ⟨seconds, rfl⟩
    · contradiction
  · contradiction

theorem sameSetup_of_reportWhenDue
    {now : τ}
    (reports : reportWhenDue now session = .ok () final) :
    SameSetup session final := by
  rcases reportWhenDue_eq_ok reports with rfl | ⟨_, rfl⟩ <;> constructor <;> rfl

variable [Sub τ]

/-- The session with its last tick due as late as a whole number of intervals allows. -/
def rescheduled (session : Session τ) (now : τ) : Session τ :=
  { session with
    lastTick := now - TimeScale.remainder (session.elapsed now) session.interval }

/-- How a poll at a time may end. -/
inductive Polled (session : Session τ) (now : τ) :
    EStateM.Result Fault (Session τ) Bool -> Prop
  /-- No tick is due. -/
  | early
      (early : session.elapsed now ≤ session.interval) :
      Polled session now (.ok false session)
  /-- A tick is due, and no time lies between it and the next. -/
  | unspaced
      (due : ¬session.elapsed now ≤ session.interval)
      (empty : session.interval ≤ TimeScale.zero) :
      Polled session now (.error .noInterval session)
  /-- The tick that was due is stopped. -/
  | failed {fault : Fault} {stopped : Session τ}
      (due : ¬session.elapsed now ≤ session.interval)
      (spaced : ¬session.interval ≤ TimeScale.zero)
      (fails : tick (session.rescheduled now) = .error fault stopped) :
      Polled session now (.error fault stopped)
  /-- The tick that was due completes, and the report is not made. -/
  | unreported {fault : Fault} {ended : Session τ}
      (due : ¬session.elapsed now ≤ session.interval)
      (spaced : ¬session.interval ≤ TimeScale.zero)
      (ticks : tick (session.rescheduled now) = .ok () ended)
      (fails : TimeScale.wholeSeconds now = .error fault) :
      Polled session now (.error fault ended)
  /-- The tick that was due completes, and so does the poll. -/
  | ticked {ended final : Session τ}
      (due : ¬session.elapsed now ≤ session.interval)
      (spaced : ¬session.interval ≤ TimeScale.zero)
      (ticks : tick (session.rescheduled now) = .ok () ended)
      (reports : reportWhenDue now ended = .ok () final) :
      Polled session now (.ok true final)

/-- Every poll ends in one of these ways. -/
theorem polled (session : Session τ) (now : τ) : Polled session now (session.poll now) := by
  unfold poll
  split
  · rename_i early
    exact .early early
  · rename_i due
    split
    · rename_i empty
      exact .unspaced due empty
    · rename_i spaced
      change Polled session now
        ((do tick; reportWhenDue now; return true : Action (Session τ) Bool)
          (session.rescheduled now))
      generalize outcome : (do tick; reportWhenDue now; return true : Action (Session τ) Bool)
        (session.rescheduled now) = result
      cases result with
      | ok ticked final =>
          obtain ⟨_, ended, ticks, rest⟩ := Action.bind_eq_ok.mp outcome
          obtain ⟨_, last, reports, returns⟩ := Action.bind_eq_ok.mp rest
          cases returns
          exact .ticked due spaced ticks reports
      | error fault stopped =>
          rcases Action.bind_eq_error.mp outcome with fails | ⟨_, ended, ticks, rest⟩
          · exact .failed due spaced fails
          · rcases Action.bind_eq_error.mp rest with fails | ⟨_, last, _, returns⟩
            · obtain ⟨endless, rfl⟩ := reportWhenDue_eq_error fails
              exact .unreported due spaced ticks endless
            · contradiction

/-- A poll leaves the session set up as it was. -/
theorem sameSetup_after_poll (session : Session τ) (now : τ) :
    SameSetup session (Action.after (poll now) session) := by
  have ticked : SameSetup session (Action.after tick (session.rescheduled now)) := by
    obtain ⟨host, console, tone, stepsPerTick, interval, running⟩ :=
      sameSetup_after_tick (session.rescheduled now)
    exact ⟨host, console, tone, stepsPerTick, interval, running⟩
  have ended := polled session now
  unfold Action.after
  generalize session.poll now = result at ended
  cases ended with
  | early | unspaced => constructor <;> rfl
  | failed due spaced fails =>
      rw [Action.after_of_error fails] at ticked
      exact ticked
  | unreported due spaced ticks fails =>
      rw [Action.after_of_ok ticks] at ticked
      exact ticked
  | ticked due spaced ticks reports =>
      rw [Action.after_of_ok ticks] at ticked
      exact ticked.trans (sameSetup_of_reportWhenDue reports)

end Scheduling
end Session
end Chip8
