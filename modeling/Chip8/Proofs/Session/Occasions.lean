import Chip8.Proofs.Machine.Moves
import Chip8.Proofs.Session.Alike

/-!
# What the clock decides

Between its beats a session is told what is pending and which keys are held. A
beat is a poll at some time, or a tick without a clock. A poll that finds no tick
due changes nothing, and any other ends like a tick. So the clock decides which
beats there are, and nothing else about a session: the same machine plays the
same on it whether its due polls are polls or ticks, and whatever the times of
the polls, as long as the due ones find the same pending and held. This needs
time between ticks. Where there is none, a due poll is refused and no tick is run.
-/

namespace Chip8

/-- Something that happens to a session. -/
inductive Occasion (Beat : Type)
  /-- Another press is pending from now on, or none. -/
  | press (pending : Option Int)
  /-- Exactly these keys are held from now on. -/
  | hold (held : Fin 16 -> Bool)
  | beat (beat : Beat)

/-- What a beat finds pending and held. -/
structure Sight where
  pending : Option Int
  held : Fin 16 -> Bool

namespace Session

variable {τ : Type}

/-- The session with these keys held. -/
def holding (session : Session τ) (held : Fin 16 -> Bool) : Session τ :=
  { session with console := session.console.holding held }

/-- The session after some occasions; it responds to each beat in its own way. -/
def afterOccasions
    {Beat : Type}
    (respond : Beat -> Session τ -> Session τ)
    (session : Session τ) :
    List (Occasion Beat) -> Session τ
  | [] => session
  | .press pending :: rest => afterOccasions respond { session with pending } rest
  | .hold held :: rest => afterOccasions respond (session.holding held) rest
  | .beat beat :: rest => afterOccasions respond (respond beat session) rest

/-- The session after some occasions whose beats are ticks. A tick that a fault stops is one too. -/
def afterTicks (session : Session τ) (occasions : List (Occasion Unit)) : Session τ :=
  session.afterOccasions (fun _ => Action.after tick) occasions

/-- The session after a tick has been run on what a beat found. -/
def afterSight (session : Session τ) (sight : Sight) : Session τ :=
  Action.after tick { session.holding sight.held with pending := sight.pending }

section Scheduling

variable [TimeScale τ] [Add τ] [Sub τ] [LE τ] [DecidableLE τ]

/-- The session after some occasions whose beats are polls at the times they name. -/
def afterPolls (session : Session τ) (occasions : List (Occasion τ)) : Session τ :=
  session.afterOccasions (fun now => Action.after (poll now)) occasions

/-- Whether a poll at a time does anything but find that no tick is due. -/
def acts (session : Session τ) (now : τ) : Bool :=
  match session.poll now with
  | .ok ticked _ => ticked
  | .error _ _ => true

/-- The occasions without their clock: a poll that did anything has become a tick, and the others
are left out. -/
def unclocked (session : Session τ) : List (Occasion τ) -> List (Occasion Unit)
  | [] => []
  | .press pending :: rest => .press pending :: unclocked { session with pending } rest
  | .hold held :: rest => .hold held :: unclocked (session.holding held) rest
  | .beat now :: rest =>
      let others := unclocked (Action.after (poll now) session) rest
      if session.acts now then .beat () :: others else others

/-- What the polls found that did anything. -/
def sights (session : Session τ) : List (Occasion τ) -> List Sight
  | [] => []
  | .press pending :: rest => sights { session with pending } rest
  | .hold held :: rest => sights (session.holding held) rest
  | .beat now :: rest =>
      let others := sights (Action.after (poll now) session) rest
      if session.acts now then ⟨session.pending, session.console.held⟩ :: others else others

variable {session other : Session τ} {now : τ}

/-- A poll that does not act changes nothing. -/
theorem after_poll_of_not_acts (idle : session.acts now = false) :
    Action.after (poll now) session = session := by
  have ended := polled session now
  generalize made : session.poll now = result at ended
  unfold acts at idle
  rw [made] at idle
  cases ended with
  | early => exact Action.after_of_ok made
  | unspaced | failed | unreported | ticked => contradiction

theorem due_of_acts (active : session.acts now = true) :
    ¬session.elapsed now ≤ session.interval := by
  have ended := polled session now
  unfold acts at active
  generalize session.poll now = result at ended active
  cases ended with
  | early => contradiction
  | unspaced due | failed due | unreported due | ticked due => exact due

/-- A poll leaves the time between ticks as it is. -/
theorem spaced_after_poll
    (spaced : ¬session.interval ≤ TimeScale.zero)
    (now : τ) :
    ¬(Action.after (poll now) session).interval ≤ TimeScale.zero := by
  rw [(sameSetup_after_poll session now).interval]
  exact spaced

/-- Sessions that are alike stay alike when the polls of the one are ticks of the other. -/
theorem alike_after_unclocked
    (occasions : List (Occasion τ))
    (spaced : ¬session.interval ≤ TimeScale.zero)
    (alike : Alike session other) :
    Alike (session.afterPolls occasions) (other.afterTicks (session.unclocked occasions)) := by
  induction occasions generalizing session other with
  | nil => exact alike
  | cons occasion rest hypothesis =>
      cases occasion with
      | press pending => exact hypothesis spaced { alike with pending := rfl }
      | hold held => exact hypothesis spaced { alike with held := rfl }
      | beat now =>
          cases acts : session.acts now with
          | false =>
              have unchanged := after_poll_of_not_acts acts
              simp only [afterPolls, afterOccasions, unclocked, acts, unchanged]
              exact hypothesis spaced alike
          | true =>
              have polls := alike_after_poll (due_of_acts acts) spaced
              have ticks := (endsAlike_tick alike).after
              simp only [unclocked, acts]
              exact hypothesis (spaced_after_poll spaced now) (polls.symm.trans ticks)

/-- What plays on a session is what ticks on the sights of its polls play. -/
theorem sameStage_after_sights
    (occasions : List (Occasion τ))
    (spaced : ¬session.interval ≤ TimeScale.zero)
    (same : SameStage session other) :
    SameStage (session.afterPolls occasions)
      ((session.sights occasions).foldl afterSight other) := by
  induction occasions generalizing session other with
  | nil => exact same
  | cons occasion rest hypothesis =>
      cases occasion with
      | press pending => exact hypothesis spaced { same with }
      | hold held => exact hypothesis spaced { same with }
      | beat now =>
          cases acts : session.acts now with
          | false =>
              have unchanged := after_poll_of_not_acts acts
              simp only [afterPolls, afterOccasions, sights, acts, unchanged]
              exact hypothesis spaced same
          | true =>
              have seen : Alike session {
                  other.holding session.console.held with pending := session.pending } :=
                { same with pending := rfl, held := rfl }
              have polls := alike_after_poll (due_of_acts acts) spaced
              have ticks := (endsAlike_tick seen).after
              simp only [sights, acts]
              exact hypothesis (spaced_after_poll spaced now) (polls.symm.trans ticks).toSameStage

/-- The clock decides when there are ticks, and nothing else. Where time lies between ticks, some
polls play what as many ticks play as there are polls that act, and leave the same pending and held.
Polls by another clock play the same as well, if those that act find the same pending and held. -/
theorem clock_decides_when
    (spaced : ¬session.interval ≤ TimeScale.zero)
    (spacedOther : ¬other.interval ≤ TimeScale.zero)
    (same : SameStage session other)
    (occasions others : List (Occasion τ)) :
    Alike (session.afterPolls occasions) (session.afterTicks (session.unclocked occasions)) ∧
    (session.sights occasions = other.sights others ->
      SameStage (session.afterPolls occasions) (other.afterPolls others)) := by
  constructor
  · exact alike_after_unclocked occasions spaced (.refl session)
  · intro seen
    have first := sameStage_after_sights occasions spaced (.refl session)
    have second := sameStage_after_sights others spacedOther same.symm
    rw [← seen] at second
    exact first.trans second.symm

end Scheduling

/-- A press before a poll that comes too early and one whose tick is due, and the same press on a
session that was started later and is polled once. -/
theorem clock_decides_when_later :
    ∃ session other : Session Rat,
      start { stepsPerTick := .value 1 } .bare Machine.powerOn 0 = .ok session ∧
      start { stepsPerTick := .value 1 } .bare Machine.powerOn 5 = .ok other ∧
      session.unclocked [.press (some 7), .beat (1 / 100), .beat 1] =
        [.press (some 7), .beat ()] ∧
      Alike (session.afterPolls [.press (some 7), .beat (1 / 100), .beat 1])
        (session.afterTicks [.press (some 7), .beat ()]) ∧
      SameStage (session.afterPolls [.press (some 7), .beat (1 / 100), .beat 1])
        (other.afterPolls [.press (some 7), .beat 9]) := by
  obtain ⟨session, other, started, startedLater, spaced, spacedLater, same, held, early, due,
      dueLater⟩ :
      ∃ session other : Session Rat,
        start { stepsPerTick := .value 1 } .bare Machine.powerOn 0 = .ok session ∧
        start { stepsPerTick := .value 1 } .bare Machine.powerOn 5 = .ok other ∧
        ¬session.interval ≤ TimeScale.zero ∧
        ¬other.interval ≤ TimeScale.zero ∧
        SameStage session other ∧
        session.console.held = other.console.held ∧
        acts { session with pending := some 7 } (1 / 100) = false ∧
        acts { session with pending := some 7 } 1 = true ∧
        acts { other with pending := some 7 } 9 = true :=
    ⟨_, _, rfl, rfl, by decide +kernel, by decide +kernel, by constructor <;> rfl, rfl,
      by decide +kernel, by decide +kernel, by decide +kernel⟩
  have ticks : session.unclocked [.press (some 7), .beat (1 / 100), .beat 1] =
      [.press (some 7), .beat ()] := by
    simp only [unclocked, early, due, after_poll_of_not_acts early, Bool.false_eq_true, if_true,
      if_false]
  have seen : session.sights [.press (some 7), .beat (1 / 100), .beat 1] =
      other.sights [.press (some 7), .beat 9] := by
    simp only [sights, early, due, dueLater, after_poll_of_not_acts early, held,
      Bool.false_eq_true, if_true, if_false]
  obtain ⟨alike, plays⟩ := clock_decides_when spaced spacedLater same
    [.press (some 7), .beat (1 / 100), .beat 1] [.press (some 7), .beat 9]
  rw [ticks] at alike
  exact ⟨session, other, started, startedLater, ticks, alike, plays seen⟩

/-- At an infinite rate no time lies between ticks. A poll that is due is refused then, where a tick
would load five into `V0`. -/
theorem not_alike_of_endless_rate :
    ∃ (machine : Machine) (session : Session Float),
      Machine.boot (some [0x60, 0x05]) = .ok machine ∧
      start { rate := .value (.fractional (1 / 0 : Float)), stepsPerTick := .value 1 } .bare
        machine 0 = .ok session ∧
      session.poll 1 = .error .noInterval session ∧
      ¬Alike (session.afterPolls [.beat 1]) (session.afterTicks (session.unclocked [.beat 1])) := by
  obtain ⟨machine, session, booted, started, due, empty, counters⟩ :
      ∃ (machine : Machine) (session : Session Float),
        Machine.boot (some [0x60, 0x05]) = .ok machine ∧
        start { rate := .value (.fractional (1 / 0 : Float)), stepsPerTick := .value 1 } .bare
          machine 0 = .ok session ∧
        ¬session.elapsed 1 ≤ session.interval ∧
        session.interval ≤ TimeScale.zero ∧
        (session.afterTicks (session.unclocked [.beat 1])).machine.registers.get 0 ≠
          (session.afterPolls [.beat 1]).machine.registers.get 0 :=
    ⟨{ Machine.powerOn with memory := Machine.powerOn.memory.place 0x200 [0x60, 0x05] },
      _, rfl, rfl, by decide +kernel, by decide +kernel, by decide +kernel⟩
  refine ⟨machine, session, booted, started, ?_, ?_⟩
  · simp [poll, due, empty]
  · intro alike
    exact counters (congrArg (fun machine => machine.registers.get 0) alike.machine)

end Session
end Chip8
