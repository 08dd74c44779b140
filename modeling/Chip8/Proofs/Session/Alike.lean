import Chip8.Proofs.Session.Polling

/-!
# Sessions on different schedules

What a tick does is settled by the machine, by what is pending and held, and by
the devices. When ticks are due, how many were counted and what the title says
has no part in it. So ticks on two sessions that are alike but for these end
alike, and a poll whose tick is due ends like a tick.
-/

namespace Chip8

/-- Whether an event is the change of the title or a call that shows it: the caption of a window, or
the first line of a terminal. -/
def Event.isOfTitle {τ : Type} : Event τ -> Bool
  | .title _ | .call (.setCaption _) | .call (.write 0 _ _ _ _) => true
  | _ => false

namespace Session

variable {τ : Type} {first second third : Session τ}

/-- What happened in a session, but for its titles. -/
def played (session : Session τ) : List (Event τ) :=
  session.events.filter fun event => !event.isOfTitle

/-- The same has been played on the same devices by the same machine. The sessions may differ in
what is pending and held, in their schedules and titles, and in what they have counted. -/
structure SameStage (first second : Session τ) : Prop where
  machine : second.machine = first.machine
  host : second.host = first.host
  random : second.console.random = first.console.random
  highBitFlag : second.console.highBitFlag = first.console.highBitFlag
  forced : second.console.forced = first.console.forced
  tone : second.tone = first.tone
  stepsPerTick : second.stepsPerTick = first.stepsPerTick
  speaker : second.speaker = first.speaker
  surface : second.picture.surface = first.picture.surface
  scale : second.picture.scale = first.picture.scale
  lastFrame : second.picture.lastFrame = first.picture.lastFrame
  frames : second.picture.frames = first.picture.frames
  played : second.played = first.played

/-- The sessions have the same on stage, and the same is pending and held. -/
structure Alike (first second : Session τ) : Prop extends SameStage first second where
  pending : second.pending = first.pending
  held : second.console.held = first.console.held

namespace SameStage

theorem refl (session : Session τ) : SameStage session session := by
  constructor <;> rfl

theorem symm (same : SameStage first second) : SameStage second first where
  machine := same.machine.symm
  host := same.host.symm
  random := same.random.symm
  highBitFlag := same.highBitFlag.symm
  forced := same.forced.symm
  tone := same.tone.symm
  stepsPerTick := same.stepsPerTick.symm
  speaker := same.speaker.symm
  surface := same.surface.symm
  scale := same.scale.symm
  lastFrame := same.lastFrame.symm
  frames := same.frames.symm
  played := same.played.symm

theorem trans
    (earlier : SameStage first second)
    (later : SameStage second third) :
    SameStage first third where
  machine := later.machine.trans earlier.machine
  host := later.host.trans earlier.host
  random := later.random.trans earlier.random
  highBitFlag := later.highBitFlag.trans earlier.highBitFlag
  forced := later.forced.trans earlier.forced
  tone := later.tone.trans earlier.tone
  stepsPerTick := later.stepsPerTick.trans earlier.stepsPerTick
  speaker := later.speaker.trans earlier.speaker
  surface := later.surface.trans earlier.surface
  scale := later.scale.trans earlier.scale
  lastFrame := later.lastFrame.trans earlier.lastFrame
  frames := later.frames.trans earlier.frames
  played := later.played.trans earlier.played

end SameStage

namespace Alike

theorem refl (session : Session τ) : Alike session session :=
  ⟨.refl session, rfl, rfl⟩

theorem trans
    (earlier : Alike first second)
    (later : Alike second third) :
    Alike first third :=
  ⟨earlier.toSameStage.trans later.toSameStage, later.pending.trans earlier.pending,
    later.held.trans earlier.held⟩

theorem symm (alike : Alike first second) : Alike second first :=
  ⟨alike.toSameStage.symm, alike.pending.symm, alike.held.symm⟩

theorem console (alike : Alike first second) : second.console = first.console := by
  have held := alike.held
  have random := alike.random
  have highBitFlag := alike.highBitFlag
  have forced := alike.forced
  cases found : second.console
  rw [found] at held random highBitFlag forced
  subst held random highBitFlag forced
  rfl

end Alike

theorem played_note (event : Event τ) (session : Session τ) :
    (session.note event).played =
      [event].filter (fun event => !event.isOfTitle) ++ session.played := by
  rw [played, note, played, ← List.filter_append]
  rfl

theorem played_noteCalls (calls : List HostCall) (session : Session τ) :
    (session.noteCalls calls).played =
      ((calls.map Event.call).reverse.filter fun event => !event.isOfTitle) ++ session.played :=
  List.filter_append ..

/-! ## Ticks -/

/-- Two ends are alike: they have the same result or the same fault, and the sessions are alike. -/
inductive EndsAlike {Result : Type} :
    EStateM.Result Fault (Session τ) Result -> EStateM.Result Fault (Session τ) Result -> Prop
  | ok {earlier later : Session τ} (result : Result) (alike : Alike earlier later) :
      EndsAlike (.ok result earlier) (.ok result later)
  | error {earlier later : Session τ} (fault : Fault) (alike : Alike earlier later) :
      EndsAlike (.error fault earlier) (.error fault later)

namespace EndsAlike

variable {Result Other : Type} {action : Action (Session τ) Result}

theorem after (ends : EndsAlike (action first) (action second)) :
    Alike (Action.after action first) (Action.after action second) := by
  unfold Action.after
  generalize action first = earlier at ends
  generalize action second = later at ends
  cases ends with
  | ok result alike => exact alike
  | error fault alike => exact alike

theorem bind
    {next : Result -> Action (Session τ) Other}
    (ends : EndsAlike (action first) (action second))
    (further : ∀ result {first second : Session τ}, Alike first second ->
      EndsAlike (next result first) (next result second)) :
    EndsAlike ((action >>= next) first) ((action >>= next) second) := by
  change EndsAlike (EStateM.bind action next first) (EStateM.bind action next second)
  unfold EStateM.bind
  generalize action first = earlier at ends
  generalize action second = later at ends
  cases ends with
  | ok result alike => exact further result alike
  | error fault alike => exact .error fault alike

end EndsAlike

section Phases

variable (alike : Alike first second)

include alike

theorem endsAlike_onMachine {Result : Type} (action : Action Machine Result) :
    EndsAlike (onMachine action first) (onMachine action second) := by
  unfold onMachine
  rw [alike.machine]
  cases action first.machine with
  | ok result machine => exact .ok result { alike with machine := rfl }
  | error fault machine => exact .error fault { alike with machine := rfl }

theorem endsAlike_deliverPress : EndsAlike (deliverPress first) (deliverPress second) := by
  have emptied : Alike { first with pending := none } { second with pending := none } :=
    { alike with pending := rfl }
  rw [deliverPress_eq, deliverPress_eq, alike.pending]
  exact endsAlike_onMachine emptied _

theorem endsAlike_runSteps : EndsAlike (runSteps first) (runSteps second) := by
  unfold runSteps
  rw [alike.console, alike.stepsPerTick]
  exact endsAlike_onMachine alike _

theorem alike_countTimers : Alike first.countTimers second.countTimers := by
  unfold countTimers
  rw [alike.machine]
  split
  · exact alike
  · exact { alike with machine := rfl }

theorem endsAlike_soundTone : EndsAlike (soundTone first) (soundTone second) := by
  unfold soundTone
  rw [alike.machine, alike.speaker, alike.host, alike.tone]
  cases first.machine.sounding with
  | false =>
      refine .ok () {
        alike with
        machine := rfl
        host := rfl
        tone := rfl
        speaker := rfl
        played := ?_ }
      simp only [played_noteCalls, played_note]
      exact congrArg _ (congrArg _ alike.played)
  | true =>
      generalize first.speaker.sound first.host first.tone = sounded
      obtain ⟨calls, fault, speaker⟩ := sounded
      have played :
          (({ second with speaker }.note (.tone first.tone)).noteCalls calls).played =
            (({ first with speaker }.note (.tone first.tone)).noteCalls calls).played := by
        simp only [played_noteCalls, played_note]
        exact congrArg _ (congrArg _ alike.played)
      cases fault with
      | none =>
          exact .ok () {
            alike with machine := rfl, host := rfl, tone := rfl, speaker := rfl, played }
      | some fault =>
          exact .error fault {
            alike with machine := rfl, host := rfl, tone := rfl, speaker := rfl, played }

theorem endsAlike_showScreen : EndsAlike (showScreen first) (showScreen second) := by
  have complete := Frame.isComplete_ofScreen first.machine.screen
  have shown : second.picture.shownSurface first.host = first.picture.shownSurface first.host := by
    unfold Picture.shownSurface
    rw [alike.surface]
  have drawn : second.picture.drawCalls (.ofScreen first.machine.screen) ++
      second.picture.showCalls first.host =
        first.picture.drawCalls (.ofScreen first.machine.screen) ++
          first.picture.showCalls first.host := by
    unfold Picture.drawCalls Picture.showCalls
    rw [alike.surface, alike.scale]
  unfold showScreen
  rw [alike.machine, alike.host]
  simp only [Picture.present_of_isComplete _ _ complete, drawn, shown]
  refine .ok () {
    alike with
    machine := rfl, host := rfl, surface := rfl, lastFrame := rfl, frames := ?_, played := ?_ }
  · exact congrArg (· + 1) alike.frames
  · simp only [played_noteCalls, played_note]
    exact congrArg _ (congrArg _ alike.played)

/-- Ticks on sessions that are alike end alike. -/
theorem endsAlike_tick : EndsAlike (tick first) (tick second) := by
  refine (endsAlike_deliverPress alike).bind ?_
  intro _ first second alike
  refine (endsAlike_runSteps alike).bind ?_
  intro _ first second alike
  change EndsAlike (finish first) (finish second)
  rw [finish_eq, finish_eq]
  refine (endsAlike_soundTone (alike_countTimers alike)).bind ?_
  intro _ first second alike
  refine (endsAlike_showScreen alike).bind ?_
  intro _ first second alike
  exact .ok () { alike with }

end Phases

/-! ## Polls -/

/-- A report concerns the title and what is counted. -/
theorem alike_report (ticks operations : Int) (session : Session τ) :
    Alike session (session.report ticks operations) := by
  have untold : ∀ title,
      (((session.picture.titleCalls title).map Event.call).reverse.filter
        fun event : Event τ => !event.isOfTitle) = [] := by
    intro title
    unfold Picture.titleCalls
    cases session.picture.surface <;> rfl
  have played : (session.report ticks operations).played = session.played := by
    unfold report entitle
    simp only [played_noteCalls, played_note, untold, List.nil_append]
    rfl
  exact { Alike.refl session with played }

section Scheduling

variable [TimeScale τ] [Add τ] [LE τ] [DecidableLE τ] {session : Session τ} {now : τ}

theorem alike_of_reportWhenDue
    {final : Session τ}
    (reports : reportWhenDue now session = .ok () final) :
    Alike session final := by
  rcases reportWhenDue_eq_ok reports with rfl | ⟨nextReport, rfl⟩
  · exact .refl final
  · exact { alike_report session.ticks session.operations session with }

variable [Sub τ]

/-- A poll whose tick is due ends like a tick. -/
theorem alike_after_poll
    (due : ¬session.elapsed now ≤ session.interval)
    (spaced : ¬session.interval ≤ TimeScale.zero) :
    Alike (Action.after tick session) (Action.after (poll now) session) := by
  have rescheduled : Alike session (session.rescheduled now) := { Alike.refl session with }
  have ticks := (endsAlike_tick rescheduled).after
  have ended := polled session now
  generalize made : session.poll now = result at ended
  cases ended with
  | early early => contradiction
  | unspaced _ empty => contradiction
  | failed _ _ fails =>
      rw [Action.after_of_error fails] at ticks
      rw [Action.after_of_error made]
      exact ticks
  | unreported _ _ ticked _ =>
      rw [Action.after_of_ok ticked] at ticks
      rw [Action.after_of_error made]
      exact ticks
  | ticked _ _ ticked reports =>
      rw [Action.after_of_ok ticked] at ticks
      rw [Action.after_of_ok made]
      exact ticks.trans (alike_of_reportWhenDue reports)

end Scheduling
end Session
end Chip8
