import Chip8.Proofs.Session.Tone

/-!
# The tone over turns

Where ticks complete, one after the other, each of them leaves the sound timer
one lower, unless it leaves the machine waiting. So once the timer is set, and
as long as no program sets it anew, the ticks sound of which fewer have counted
it down than it had counts. Between ticks nothing is heard, and a bell that
sounds in a tick was silent after the tick before.
-/

namespace Chip8

/-- The tick at one place is the last before another. -/
structure PreviousTick (turns : List Turn) (last place : Nat) : Prop where
  ticked : turns[last]? = some .tick
  before : last < place
  since : ∀ between, last < between -> between < place -> turns[between]? ≠ some .tick

namespace Session

variable {τ : Type} {session : Session τ} {turns : List Turn} {first place : Nat}

/-- Every tick among the turns completes. -/
def Completes (session : Session τ) (turns : List Turn) : Prop :=
  ∀ place, turns[place]? = some .tick ->
    ∃ final, tick (session.reached turns place) = .ok () final

/-- The turn at a place does not execute the instruction that sets the sound timer. -/
def SparesSound (session : Session τ) (turns : List Turn) (place : Nat) : Prop :=
  ∀ change ∈ session.changesAt turns place,
    change.cause = .step ->
      ∀ x, change.before.next? (session.reached turns place).console ≠ some (.setSound x)

/-- Whether the turn at a place is a tick that leaves the machine running. -/
def countsAt (session : Session τ) (turns : List Turn) (place : Nat) : Bool :=
  match turns[place]? with
  | some .tick => !(session.reached turns (place + 1)).machine.paused
  | _ => false

/-- How many of the ticks from one place to another, both of them included, leave the machine
running. -/
def countdowns (session : Session τ) (turns : List Turn) (first last : Nat) : Nat :=
  (List.range' first (last + 1 - first)).countP (session.countsAt turns)

theorem countdowns_self (session : Session τ) (turns : List Turn) (place : Nat) :
    session.countdowns turns place place = (session.countsAt turns place).toNat := by
  have single : place + 1 - place = 1 := by omega
  rw [countdowns, single, List.range'_one, List.countP_singleton]
  cases session.countsAt turns place <;> rfl

theorem countdowns_succ (session : Session τ) (turns : List Turn) (after : first ≤ place) :
    session.countdowns turns first (place + 1) =
      session.countdowns turns first place + (session.countsAt turns (place + 1)).toNat := by
  have longer : place + 1 + 1 - first = place + 1 - first + 1 := by omega
  have last : first + (place + 1 - first) = place + 1 := by omega
  rw [countdowns, longer, List.range'_1_concat, last, List.countP_append, List.countP_singleton]
  cases session.countsAt turns (place + 1) <;> rfl

theorem tick_reached
    (completes : session.Completes turns)
    (ticked : turns[place]? = some .tick) :
    tick (session.reached turns place) = .ok () (session.reached turns (place + 1)) := by
  obtain ⟨final, completed⟩ := completes place ticked
  have next : session.reached turns (place + 1) = final := by
    rw [reached_succ ticked]
    exact Action.after_of_ok completed
  rw [next]
  exact completed

/-! ## The sound timer -/

/-- A tick takes one off the sound timer that its steps have left, where it leaves the machine
running. -/
theorem sound_of_tick
    (wellFormed : session.machine.WellFormed)
    (completes : session.Completes turns)
    (ticked : turns[place]? = some .tick) :
    (session.reached turns (place + 1)).machine.sound =
      max 0 ((session.reached turns place).afterSteps.machine.sound -
        (session.countsAt turns place).toNat) := by
  have kept := wellFormed_reached wellFormed turns place
  have counts := countsTimers_of_tick kept (tick_reached completes ticked)
  have nonnegative := (wellFormed_afterSteps kept).sound.1
  simp only [countsAt, ticked]
  cases paused : (session.reached turns (place + 1)).machine.paused with
  | false => exact (counts.running paused).2
  | true =>
      rw [(counts.waiting paused).2]
      simp only [Bool.not_true, Bool.toNat_false]
      omega

/-- A turn that does not set the sound timer anew takes one off it, or leaves it. -/
theorem sound_reached_succ
    (wellFormed : session.machine.WellFormed)
    (completes : session.Completes turns)
    (spares : session.SparesSound turns place) :
    (session.reached turns (place + 1)).machine.sound =
      max 0 ((session.reached turns place).machine.sound -
        (session.countsAt turns place).toNat) := by
  have kept := wellFormed_reached wellFormed turns place
  by_cases ticked : turns[place]? = some .tick
  · rw [SparesSound, changesAt_of_tick ticked] at spares
    rw [sound_of_tick wellFormed completes ticked, sound_afterSteps kept spares]
  · have uncounted : session.countsAt turns place = false := by
      unfold countsAt
      split
      · contradiction
      · rfl
    have nonnegative := kept.sound.1
    rw [machine_reached_succ ticked, uncounted, Bool.toNat_false]
    omega

/-- From a tick on the sound timer is lower by the number of ticks that leave the machine running,
down to zero. -/
theorem sound_reached
    (wellFormed : session.machine.WellFormed)
    (completes : session.Completes turns)
    (ticked : turns[first]? = some .tick)
    (after : first ≤ place)
    (spares : ∀ later, first < later -> later ≤ place -> session.SparesSound turns later) :
    (session.reached turns (place + 1)).machine.sound =
      max 0 ((session.reached turns first).afterSteps.machine.sound -
        session.countdowns turns first place) := by
  induction after with
  | refl => rw [countdowns_self, sound_of_tick wellFormed completes ticked]
  | @step place after hypothesis =>
      have before := hypothesis fun later since within =>
        spares later since (Nat.le_succ_of_le within)
      have spared := spares (place + 1) (Nat.lt_succ_of_le after) (Nat.le_refl _)
      rw [sound_reached_succ wellFormed completes spared, before,
        countdowns_succ session turns after]
      omega

/-! ## What is heard -/

theorem tone_reached (session : Session τ) (turns : List Turn) (place : Nat) :
    (session.reached turns place).tone = session.tone := by
  induction place with
  | zero => rfl
  | succ place hypothesis =>
      rw [← hypothesis]
      cases taken : turns[place]? with
      | none => rw [reached_succ_of_none taken]
      | some turn =>
          rw [reached_succ taken]
          cases turn with
          | press key | hold held => rfl
          | tick => exact (sameSetup_after_tick _).tone

/-- A bell sounds on through the turns exactly while the sound timer runs. -/
theorem bell_reached
    (completes : session.Completes turns)
    (bell : session.speaker.voice = .bell)
    (silent : session.speaker.playing = session.machine.sounding)
    (place : Nat) :
    (session.reached turns place).speaker.voice = .bell ∧
      (session.reached turns place).speaker.playing =
        (session.reached turns place).machine.sounding := by
  induction place with
  | zero => exact ⟨bell, silent⟩
  | succ place hypothesis =>
      cases taken : turns[place]? with
      | none =>
          rw [reached_succ_of_none taken]
          exact hypothesis
      | some turn =>
          cases turn with
          | press key | hold held =>
              rw [reached_succ taken]
              exact hypothesis
          | tick =>
              have heard := heard_of_tick (tick_reached completes taken)
              exact ⟨(heard.bell hypothesis.1).1, heard.playing⟩

/-- The machine at a place is the one that the last tick before it has left, if there is one. -/
theorem machine_reached_cases (session : Session τ) (turns : List Turn) (place : Nat) :
    (∃ last, PreviousTick turns last place ∧
      (session.reached turns place).machine = (session.reached turns (last + 1)).machine) ∨
    (∀ last, ¬PreviousTick turns last place) ∧
      (session.reached turns place).machine = session.machine := by
  induction place with
  | zero => exact .inr ⟨fun last previous => Nat.not_lt_zero _ previous.before, rfl⟩
  | succ place hypothesis =>
      by_cases ticked : turns[place]? = some .tick
      · left
        refine ⟨place, ⟨ticked, Nat.lt_succ_self place, ?_⟩, rfl⟩
        intro between after before
        omega
      · rw [machine_reached_succ ticked]
        rcases hypothesis with ⟨last, previous, same⟩ | ⟨none, same⟩
        · left
          refine ⟨last, ⟨previous.ticked, Nat.lt_succ_of_lt previous.before, ?_⟩, same⟩
          intro between after before
          rcases Nat.lt_succ_iff_lt_or_eq.mp before with earlier | rfl
          · exact previous.since between after earlier
          · exact ticked
        · right
          refine ⟨?_, same⟩
          intro last previous
          rcases Nat.lt_succ_iff_lt_or_eq.mp previous.before with earlier | rfl
          · refine none last ⟨previous.ticked, earlier, ?_⟩
            intro between after before
            exact previous.since between after (Nat.lt_succ_of_lt before)
          · exact ticked previous.ticked

end Session

theorem PreviousTick.unique
    {turns : List Turn}
    {last other place : Nat}
    (first : PreviousTick turns last place)
    (second : PreviousTick turns other place) :
    last = other := by
  rcases Nat.lt_trichotomy last other with before | same | after
  · exact absurd second.ticked (first.since other before second.before)
  · exact same
  · exact absurd first.ticked (second.since last after first.before)

namespace Session

variable {τ : Type} {session : Session τ} {turns : List Turn} {place : Nat}

/-- The sound timer has run down before a place where it had after the tick before. -/
theorem sounding_reached_iff
    (quiet : session.machine.sound = 0)
    (wellFormed : session.machine.WellFormed) :
    (session.reached turns place).machine.sounding = false ↔
      ∀ last, PreviousTick turns last place ->
        (session.reached turns (last + 1)).machine.sound = 0 := by
  have idle : ∀ machine : Machine, machine.WellFormed ->
      (machine.sounding = false ↔ machine.sound = 0) := by
    intro machine kept
    have nonnegative := kept.sound.1
    rw [Bool.eq_false_iff, ne_eq, Machine.sounding_iff]
    omega
  rcases machine_reached_cases session turns place with ⟨last, previous, same⟩ | ⟨none, same⟩
  · rw [same, idle _ (wellFormed_reached wellFormed turns (last + 1))]
    constructor
    · intro ended other before
      rw [← previous.unique before]
      exact ended
    · intro ended
      exact ended last previous
  · rw [same, idle _ wellFormed]
    constructor
    · intro _ last previous
      exact absurd previous (none last)
    · intro _
      exact quiet

theorem speaker_of_start
    [TimeScale τ] [Div τ] [LE τ] [DecidableLE τ]
    {pace : Pace τ}
    {devices : Devices}
    {machine : Machine}
    {now : τ}
    (started : start pace devices machine now = .ok session) :
    session.speaker = devices.speaker := by
  obtain ⟨_, _, _, _, _, _, rfl⟩ := exists_of_start started
  rfl

/-- After any turns of a session just started, in which every tick completes:

- a tick that leaves the machine running has counted down the timers that its steps have left, and
  one that leaves it waiting has not; after it the tone plays exactly while the sound timer runs;
- from a tick on, as long as the timer is not set anew, a tick tells the speaker to sound where
  fewer ticks than its steps have left counts have left the machine running, that tick and this one
  included, and to be silent otherwise;
- a bell sounds in a tick, once, where the sound timer runs after it and had run down after the
  tick before, if there was one. -/
theorem tone_follows_timer
    [TimeScale τ] [Div τ] [LE τ] [DecidableLE τ]
    {program : Option (List UInt8)}
    {machine : Machine}
    {pace : Pace τ}
    {devices : Devices}
    {now : τ}
    (booted : Machine.boot program = .ok machine)
    (started : start pace devices machine now = .ok session)
    (completes : session.Completes turns) :
    (∀ place,
      turns[place]? = some .tick ->
      CountsTimers (session.reached turns place) (session.reached turns (place + 1)) ∧
      ((session.reached turns (place + 1)).speaker.playing = true ↔
        0 < (session.reached turns (place + 1)).machine.sound)) ∧
    (∀ first place,
      turns[first]? = some .tick ->
      turns[place]? = some .tick ->
      first ≤ place ->
      (∀ later, first < later -> later ≤ place -> session.SparesSound turns later) ->
      (session.reached turns (place + 1)).orders =
        (if (session.countdowns turns first place : Int) <
            (session.reached turns first).afterSteps.machine.sound
          then .tone session.tone
          else .silence) :: (session.reached turns place).orders) ∧
    (devices.speaker = { voice := .bell } ->
      ∀ place,
        turns[place]? = some .tick ->
        (0 < (session.reached turns (place + 1)).machine.sound ->
          (∀ last, PreviousTick turns last place ->
            (session.reached turns (last + 1)).machine.sound = 0) ->
          (session.reached turns (place + 1)).beeps = (session.reached turns place).beeps + 1) ∧
        (¬(0 < (session.reached turns (place + 1)).machine.sound ∧
            ∀ last, PreviousTick turns last place ->
              (session.reached turns (last + 1)).machine.sound = 0) ->
          (session.reached turns (place + 1)).beeps = (session.reached turns place).beeps)) := by
  obtain ⟨loaded, _⟩ := start_eq_ok started
  have wellFormed : session.machine.WellFormed := by
    rw [loaded]
    exact .of_boot booted
  have quiet : session.machine.sound = 0 := by
    obtain ⟨memory, same⟩ := Machine.boot_eq_ok booted
    rw [loaded, same]
    rfl
  refine ⟨?_, ?_, ?_⟩
  · intro place ticked
    have completed := tick_reached completes ticked
    refine ⟨countsTimers_of_tick (wellFormed_reached wellFormed turns place) completed, ?_⟩
    rw [(heard_of_tick completed).playing, Machine.sounding_iff]
  · intro first place began ticked after spares
    have counted := sound_reached wellFormed completes began after spares
    have sounds : (session.reached turns (place + 1)).machine.sounding =
        decide ((session.countdowns turns first place : Int) <
          (session.reached turns first).afterSteps.machine.sound) := by
      rw [Bool.eq_iff_iff, Machine.sounding_iff, counted, decide_eq_true_iff]
      omega
    rw [(heard_of_tick (tick_reached completes ticked)).orders, tone_reached, sounds]
    simp only [decide_eq_true_eq]
  · intro bell place ticked
    have opened : session.speaker = { voice := .bell } := (speaker_of_start started).trans bell
    have silent : session.speaker.playing = session.machine.sounding := by
      simp [opened, Machine.sounding, quiet]
    obtain ⟨voiced, playing⟩ :=
      bell_reached completes (congrArg Speaker.voice opened) silent place
    have rings := ((heard_of_tick (tick_reached completes ticked)).bell voiced).2
    rw [rings, playing, ← Machine.sounding_iff, ← sounding_reached_iff quiet wellFormed]
    cases (session.reached turns (place + 1)).machine.sounding <;>
      cases (session.reached turns place).machine.sounding <;> simp

/-- A program that sets the sound timer to two and then waits for a key: the bell sounds once, the
tone goes on through the wait, and the tick after the press ends it. -/
theorem tone_follows_timer_wait :
    ∃ (machine : Machine) (session : Session Rat) (turns : List Turn),
      Machine.boot (some [0x60, 0x02, 0xF0, 0x18, 0xF1, 0x0A, 0x12, 0x06]) = .ok machine ∧
      start { stepsPerTick := .value 2 } { Devices.bare with speaker := { voice := .bell } }
        machine 0 = .ok session ∧
      turns = [.tick, .tick, .press 7, .tick] ∧
      session.Completes turns ∧
      (session.reached turns 2).orders =
        .tone session.tone :: (session.reached turns 1).orders ∧
      (session.reached turns 4).orders =
        .silence :: (session.reached turns 3).orders ∧
      (session.reached turns 1).beeps = (session.reached turns 0).beeps + 1 ∧
      (session.reached turns 2).beeps = (session.reached turns 1).beeps := by
  obtain ⟨machine, session, turns, booted, started, listed, ends, spared, ⟨uncounted, counted,
      left⟩, before⟩ :
      ∃ (machine : Machine) (session : Session Rat) (turns : List Turn),
        Machine.boot (some [0x60, 0x02, 0xF0, 0x18, 0xF1, 0x0A, 0x12, 0x06]) = .ok machine ∧
        start { stepsPerTick := .value 2 } { Devices.bare with speaker := { voice := .bell } }
          machine 0 = .ok session ∧
        turns = [.tick, .tick, .press 7, .tick] ∧
        (∀ place < 4, (tick (session.reached turns place) matches .ok () _) = true) ∧
        (∀ later < 4, 0 < later ->
          ∀ change ∈ session.changesAt turns later,
            change.cause = .step ->
              ∀ x, change.before.next? (session.reached turns later).console ≠
                some (.setSound x)) ∧
        (session.countdowns turns 0 1 = 1 ∧ session.countdowns turns 0 3 = 2 ∧
          session.afterSteps.machine.sound = 2) ∧
        (session.reached turns 1).machine.sound = 1 :=
    ⟨{ Machine.powerOn with
        memory := Machine.powerOn.memory.place 0x200
          [0x60, 0x02, 0xF0, 0x18, 0xF1, 0x0A, 0x12, 0x06] },
      _, _, rfl, rfl, rfl, by decide +kernel, by decide +kernel, by decide +kernel,
      by decide +kernel⟩
  have completes : session.Completes turns := by
    intro place ticked
    have within : place < 4 := by
      rw [listed] at ticked
      exact (List.getElem?_eq_some_iff.mp ticked).1
    have ended := ends place within
    split at ended
    · rename_i final completed
      exact ⟨final, completed⟩
    · contradiction
  have firstTick : turns[0]? = some .tick := by rw [listed]; rfl
  have secondTick : turns[1]? = some .tick := by rw [listed]; rfl
  have thirdTick : turns[3]? = some .tick := by rw [listed]; rfl
  obtain ⟨_, orders, beeps⟩ := tone_follows_timer booted started completes
  have sounds := orders 0 1 firstTick secondTick (by decide) fun later since within =>
    spared later (by omega) since
  have ceases := orders 0 3 firstTick thirdTick (by decide) fun later since within =>
    spared later (by omega) since
  rw [reached_zero, left, uncounted] at sounds
  rw [reached_zero, left, counted] at ceases
  have previous : PreviousTick turns 0 1 := by
    refine ⟨firstTick, Nat.zero_lt_one, ?_⟩
    intro between after before
    omega
  have rings := (beeps rfl 0 firstTick).1 (by rw [before]; decide) fun last previous =>
    absurd previous.before (Nat.not_lt_zero last)
  have rests := (beeps rfl 1 secondTick).2 fun ⟨_, ended⟩ => by
    have silent := ended 0 previous
    rw [before] at silent
    contradiction
  exact ⟨machine, session, turns, booted, started, listed, completes, sounds, ceases, rings, rests⟩

end Session
end Chip8
