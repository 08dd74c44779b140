import Chip8.Proofs.Machine.Integrity
import Chip8.Proofs.Session.Change
import Chip8.Session

/-!
# What a tick does to the machine

A tick changes the machine in three ways, in this order: it hands over the
pending press, it makes its steps, and it counts the timers down. Sounding the
tone and showing the screen concern other parts of the session. The changes of a
tick lead from the machine that the tick finds to the one that it leaves, also
when a fault stops it on the way. Once the press is handed over, no change
touches a machine that waits for a key.
-/

namespace Chip8
namespace Session

variable {τ : Type} {session stepped delivered : Session τ}

/-- Two sessions differ at most in what the tone and the picture concern, and in what is counted
and recorded. -/
structure SameCourse (earlier later : Session τ) : Prop where
  machine : later.machine = earlier.machine
  host : later.host = earlier.host
  console : later.console = earlier.console
  pending : later.pending = earlier.pending
  tone : later.tone = earlier.tone
  stepsPerTick : later.stepsPerTick = earlier.stepsPerTick
  interval : later.interval = earlier.interval
  lastTick : later.lastTick = earlier.lastTick
  nextReport : later.nextReport = earlier.nextReport
  running : later.running = earlier.running

theorem SameCourse.trans
    {earlier middle later : Session τ}
    (first : SameCourse earlier middle)
    (second : SameCourse middle later) :
    SameCourse earlier later where
  machine := second.machine.trans first.machine
  host := second.host.trans first.host
  console := second.console.trans first.console
  pending := second.pending.trans first.pending
  tone := second.tone.trans first.tone
  stepsPerTick := second.stepsPerTick.trans first.stepsPerTick
  interval := second.interval.trans first.interval
  lastTick := second.lastTick.trans first.lastTick
  nextReport := second.nextReport.trans first.nextReport
  running := second.running.trans first.running

theorem sameCourse_soundTone (session : Session τ) :
    SameCourse session (Action.after soundTone session) := by
  unfold Action.after soundTone
  cases session.machine.sounding with
  | false => constructor <;> rfl
  | true =>
      generalize session.speaker.sound session.host session.tone = sounded
      obtain ⟨calls, fault, speaker⟩ := sounded
      cases fault <;> constructor <;> rfl

theorem sameCourse_showScreen (session : Session τ) :
    SameCourse session (Action.after showScreen session) := by
  have complete := Frame.isComplete_ofScreen session.machine.screen
  simp only [Action.after, showScreen, Picture.present_of_isComplete _ _ complete]
  constructor <;> rfl

/-- What follows the steps of a tick. -/
def finish : Action (Session τ) Unit := do
  modify countTimers
  soundTone
  showScreen
  modify countTick

/-- What follows the delivery of a tick's press. -/
def playOut : Action (Session τ) Unit := do
  runSteps
  finish

theorem tick_eq : (tick : Action (Session τ) Unit) = (do deliverPress; playOut) := rfl

theorem sameCourse_finish (session : Session τ) :
    SameCourse session.countTimers (Action.after finish session) := by
  have counted : SameCourse session.countTimers session.countTimers := by
    constructor <;> rfl
  have sounded : SameCourse session.countTimers (Action.after soundTone session.countTimers) :=
    sameCourse_soundTone _
  change SameCourse session.countTimers
    (Action.after (do soundTone; showScreen; modify countTick) session.countTimers)
  cases outcome : soundTone session.countTimers with
  | error fault stopped =>
      rw [Action.after_of_error outcome] at sounded
      rw [Action.after_bind_of_error outcome]
      exact sounded
  | ok result next =>
      rw [Action.after_of_ok outcome] at sounded
      rw [Action.after_bind_of_ok outcome]
      have shown : SameCourse next (Action.after showScreen next) := sameCourse_showScreen next
      cases outcome : showScreen next with
      | error fault stopped =>
          rw [Action.after_of_error outcome] at shown
          rw [Action.after_bind_of_error outcome]
          exact sounded.trans shown
      | ok result last =>
          rw [Action.after_of_ok outcome] at shown
          rw [Action.after_bind_of_ok outcome]
          have ended : SameCourse last last.countTick := by constructor <;> rfl
          exact (sounded.trans shown).trans ended

theorem after_onMachine
    {Result : Type}
    (action : Action Machine Result)
    (session : Session τ) :
    Action.after (onMachine action) session =
      { session with machine := Action.after action session.machine } := by
  unfold Action.after onMachine
  cases action session.machine <;> rfl

theorem after_runSteps (session : Session τ) :
    Action.after runSteps session =
      { session with
        machine :=
          Action.after (Machine.steps (Machine.step session.console) session.stepsPerTick)
            session.machine } :=
  after_onMachine _ session

/-! ## The pending press -/

theorem deliverPress_of_none (absent : session.pending = none) :
    deliverPress session = .ok () session := by
  simp [deliverPress, absent]

/-- A machine that runs has no use for a press, and the press is thrown away. -/
theorem deliverPress_of_running (running : session.machine.awaiting = none) :
    deliverPress session = .ok () { session with pending := none } := by
  cases pending : session.pending with
  | none =>
      rw [deliverPress_of_none pending]
      cases session
      cases pending
      rfl
  | some key => simp [deliverPress, pending, onMachine, Machine.pressKey_of_running key running]

/-- A machine that waits takes the press into the register that waits for it. -/
theorem deliverPress_of_awaiting
    {key : Int}
    {x : Register}
    (pressed : session.pending = some key)
    (waiting : session.machine.awaiting = some (x.val : Int)) :
    deliverPress session =
      .ok () { session with pending := none, machine := session.machine.takeKey x key } := by
  simp [deliverPress, pressed, onMachine, Machine.pressKey_of_awaiting key waiting]

/-- A press is delivered without a fault, and changes nothing but the machine and what is
pending. -/
theorem exists_deliverPress (wellFormed : session.machine.WellFormed) :
    ∃ machine, machine.WellFormed ∧
      deliverPress session = .ok () { session with pending := none, machine } := by
  cases pressed : session.pending with
  | none =>
      refine ⟨session.machine, wellFormed, ?_⟩
      rw [deliverPress_of_none pressed, ← pressed]
  | some key =>
      obtain ⟨taken, next, takes, kept⟩ := wellFormed.pressKey key
      refine ⟨next, kept, ?_⟩
      simp [deliverPress, pressed, onMachine, takes]

/-! ## The changes of a tick -/

/-- What a tick does to the machine once the press is handed over. -/
def playChanges (session : Session τ) : List Change :=
  Machine.stepChanges (Machine.step session.console) session.stepsPerTick session.machine ++
    match runSteps session with
    | .ok () stepped => [⟨.timers, stepped.machine, stepped.countTimers.machine⟩]
    | .error _ _ => []

/-- What a tick does to the machine, in order. -/
def changes (session : Session τ) : List Change :=
  match deliverPress session with
  | .ok () delivered =>
      ⟨.delivery, session.machine, delivered.machine⟩ :: delivered.playChanges
  | .error _ stopped => [⟨.delivery, session.machine, stopped.machine⟩]

theorem lead_playChanges (session : Session τ) :
    Change.Lead session.machine session.playChanges (Action.after playOut session).machine := by
  have stepping : Change.Lead session.machine
      (Machine.stepChanges (Machine.step session.console) session.stepsPerTick session.machine)
      (Action.after runSteps session).machine := by
    rw [after_runSteps]
    exact Machine.lead_stepChanges _ _ _
  cases outcome : runSteps session with
  | ok result next =>
      rw [Action.after_of_ok outcome] at stepping
      have finished : (Action.after playOut session).machine = next.countTimers.machine := by
        rw [playOut, Action.after_bind_of_ok outcome]
        exact (sameCourse_finish next).machine
      rw [finished, playChanges, outcome]
      exact stepping.append ⟨rfl, rfl⟩
  | error fault stopped =>
      rw [Action.after_of_error outcome] at stepping
      rw [playOut, Action.after_bind_of_error outcome, playChanges, outcome, List.append_nil]
      exact stepping

/-- The changes of a tick lead to the machine that it leaves. -/
theorem lead_changes (session : Session τ) :
    Change.Lead session.machine session.changes (Action.after tick session).machine := by
  cases outcome : deliverPress session with
  | ok result delivered =>
      rw [tick_eq, Action.after_bind_of_ok outcome, changes, outcome]
      exact ⟨rfl, lead_playChanges delivered⟩
  | error fault stopped =>
      rw [tick_eq, Action.after_bind_of_error outcome, changes, outcome]
      exact ⟨rfl, rfl⟩

/-- After the press is handed over, a change is a step or the count of the timers. -/
theorem playChanges_cases
    {change : Change}
    (member : change ∈ session.playChanges) :
    change = ⟨.step, change.before,
        Action.after (Machine.step session.console) change.before⟩ ∨
      change = ⟨.timers, change.before,
        if change.before.paused then change.before else change.before.tickTimers⟩ := by
  rcases List.mem_append.mp member with stepping | counting
  · exact .inl (Machine.eq_of_mem_stepChanges stepping)
  · right
    cases outcome : runSteps session with
    | ok result stepped =>
        rw [outcome] at counting
        cases List.mem_singleton.mp counting
        simp only [countTimers]
        split <;> rfl
    | error fault stopped =>
        rw [outcome] at counting
        contradiction

/-- Once the press is handed over, nothing touches a machine that waits for a key. -/
theorem sparesPaused_of_mem_playChanges
    {change : Change}
    (member : change ∈ session.playChanges) :
    change.SparesPaused := by
  intro waiting
  rcases playChanges_cases member with made | made
  · rw [made]
    exact Action.after_of_ok (Machine.step_of_paused waiting)
  · rw [made]
    exact if_pos waiting

theorem wellFormed_after_of_mem_playChanges
    {change : Change}
    (member : change ∈ session.playChanges)
    (wellFormed : change.before.WellFormed) :
    change.after.WellFormed := by
  rcases playChanges_cases member with made | made
  · rw [made]
    exact wellFormed.after_step
  · rw [made]
    change (if change.before.paused then change.before else change.before.tickTimers).WellFormed
    split
    · exact wellFormed
    · exact wellFormed.tickTimers

/-- A tick leaves a well-formed machine well formed, however it ends. -/
theorem wellFormed_after_tick (wellFormed : session.machine.WellFormed) :
    (Action.after tick session).machine.WellFormed := by
  obtain ⟨machine, kept, delivers⟩ := exists_deliverPress wellFormed
  rw [tick_eq, Action.after_bind_of_ok delivers]
  have lead := lead_playChanges { session with pending := none, machine }
  exact lead.keeps (fun _ member => wellFormed_after_of_mem_playChanges member) kept

theorem pending_after_playOut (session : Session τ) :
    (Action.after playOut session).pending = session.pending := by
  have stepping := congrArg Session.pending (after_runSteps session)
  cases outcome : runSteps session with
  | ok result stepped =>
      rw [Action.after_of_ok outcome] at stepping
      rw [playOut, Action.after_bind_of_ok outcome, (sameCourse_finish stepped).pending]
      unfold countTimers
      split <;> exact stepping
  | error fault stopped =>
      rw [Action.after_of_error outcome] at stepping
      rw [playOut, Action.after_bind_of_error outcome]
      exact stepping

/-- After a tick nothing is pending. -/
theorem pending_after_tick (wellFormed : session.machine.WellFormed) :
    (Action.after tick session).pending = none := by
  obtain ⟨machine, _, delivers⟩ := exists_deliverPress wellFormed
  rw [tick_eq, Action.after_bind_of_ok delivers, pending_after_playOut]

end Session
end Chip8
