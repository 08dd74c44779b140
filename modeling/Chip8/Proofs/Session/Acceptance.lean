import Chip8.Backend
import Chip8.Proofs.Number.Positive
import Chip8.Proofs.Session.Stops
import Chip8.Proofs.Session.Turns

/-!
# What accepted settings promise

A session that is given a whole tick rate, a number of steps and a tone is
refused, or starts with some time between its ticks. Once it has started, its
ticks fail in two ways only, whatever its program does and whatever keys are
pressed: a step returns from an empty call stack, or a mixer is to play a tone
whose wave cannot be built. The first is for the program to avoid. The second
is a fault of the settings that shows late, in the first tick whose steps leave
the sound timer running.
-/

namespace Chip8

namespace Speaker

variable {host : Host} {speaker : Speaker} {frequency : Float}

/-- Whether the speaker plays through a mixer. -/
def mixes (speaker : Speaker) : Bool :=
  match speaker.voice with
  | .mixer _ => true
  | _ => false

/-- A speaker plays a tone on what it has played on before. -/
theorem mixes_sound (host : Host) (speaker : Speaker) (frequency : Float) :
    (speaker.sound host (some frequency)).2.2.mixes = speaker.mixes := by
  obtain ⟨voice, playing⟩ := speaker
  cases voice with
  | silent | bell => rfl
  | mixer loaded =>
      simp only [sound, play, playWave]
      split
      · rfl
      · split <;> rfl

/-- A tone meets a fault on a mixer only, and where its wave cannot be built. -/
theorem sound_eq_fault
    {fault : Fault}
    (fails : (speaker.sound host (some frequency)).2.1 = some fault) :
    speaker.mixes = true ∧ Wave.ofFrequency host frequency = .error fault := by
  obtain ⟨voice, playing⟩ := speaker
  cases voice with
  | silent | bell => contradiction
  | mixer loaded =>
      refine ⟨rfl, ?_⟩
      simp only [sound, play, playWave] at fails
      split at fails
      · contradiction
      · split at fails
        · rename_i unbuilt
          cases fails
          exact unbuilt
        · contradiction

end Speaker

/-- A speaker that a backend opens plays through a mixer where the backend is the window system. -/
theorem Backend.mixes_of_openSpeaker
    {backend : Backend}
    {host : Host}
    {speaker : Speaker}
    (opened : (backend.openSpeaker host).outcome = .ok speaker) :
    speaker.mixes = true ↔ backend = .window := by
  cases backend with
  | headless | terminal =>
      cases opened
      simp [Speaker.mixes]
  | window =>
      simp only [openSpeaker, Speaker.openMixer, Host.openWith] at opened
      split at opened
      · cases opened
        simp [Speaker.mixes]
      · contradiction

/-- Steps leave a well-formed machine well formed, however they end. -/
theorem Machine.WellFormed.after_steps
    {machine : Machine}
    (wellFormed : machine.WellFormed)
    (console : Console)
    (count : Nat) :
    (Action.after (steps (step console) count) machine).WellFormed := by
  apply (lead_stepChanges (step console) count machine).keeps _ wellFormed
  intro change member before
  rw [eq_of_mem_stepChanges member]
  exact before.after_step

namespace Session

variable {τ : Type} {session stopped : Session τ} {host : Host} {mixed : Bool} {frequency : Float}

/-! ## The ends of a tick -/

/-- How a tick may end. -/
inductive Ticked (session : Session τ) : EStateM.Result Fault (Session τ) Unit -> Prop
  /-- One of its steps is stopped. -/
  | unstepped {machine last : Machine} {fault : Fault}
      (wellFormed : machine.WellFormed)
      (fails : Machine.step session.console machine = .error fault last) :
      Ticked session (.error fault { session with pending := none, machine := last })
  /-- Its steps are made, and the tone meets a fault. -/
  | unsounded {machine : Machine} {fault : Fault} {stopped : Session τ}
      (fails : soundTone { session with pending := none, machine } = .error fault stopped) :
      Ticked session (.error fault stopped)
  /-- It completes, with the speaker that sounding the tone has left. -/
  | completed {machine : Machine} {sounded final : Session τ}
      (sounds : soundTone { session with pending := none, machine } = .ok () sounded)
      (kept : final.speaker = sounded.speaker) :
      Ticked session (.ok () final)

/-- Every tick on a well-formed machine ends in one of these ways. -/
theorem ticked (wellFormed : session.machine.WellFormed) : Ticked session (tick session) := by
  obtain ⟨met, kept, delivers⟩ := exists_deliverPress wellFormed
  generalize ended : tick session = result
  cases result with
  | error fault stopped =>
      rcases Action.bind_eq_error.mp ended with undelivered | ⟨_, _, delivered, plays⟩
      · rw [delivers] at undelivered
        contradiction
      · cases delivers.symm.trans delivered
        rcases Action.bind_eq_error.mp plays with unstepped | ⟨_, stepped, steps, finishes⟩
        · obtain ⟨last, steps, rfl⟩ := onMachine_eq_error.mp unstepped
          obtain ⟨count, failing, _, reached, fails⟩ := Machine.steps_eq_error_iff.mp steps
          have wellFormed := kept.after_steps session.console count
          rw [Action.after_of_ok reached] at wellFormed
          exact .unstepped wellFormed fails
        · obtain ⟨machine, steps, rfl⟩ := onMachine_eq_ok.mp steps
          have fails := finish_eq_error finishes
          obtain ⟨counted, counts⟩ := exists_countTimers _
          rw [counts] at fails
          exact .unsounded fails
  | ok result final =>
      obtain ⟨_, _, delivered, plays⟩ := Action.bind_eq_ok.mp ended
      cases delivers.symm.trans delivered
      obtain ⟨_, stepped, steps, finishes⟩ := Action.bind_eq_ok.mp plays
      obtain ⟨machine, steps, rfl⟩ := onMachine_eq_ok.mp steps
      change finish _ = _ at finishes
      obtain ⟨counted, counts⟩ := exists_countTimers _
      rw [finish_eq, counts] at finishes
      obtain ⟨_, sounded, sounds, shows⟩ := Action.bind_eq_ok.mp finishes
      obtain ⟨_, shown, screens, ends⟩ := Action.bind_eq_ok.mp shows
      obtain ⟨_, _, _, showing, _⟩ := exists_showScreen sounded
      cases showing.symm.trans screens
      cases ends
      exact .completed sounds rfl

theorem mixes_after_soundTone (given : session.tone = some frequency) :
    (Action.after soundTone session).speaker.mixes = session.speaker.mixes := by
  have kept := session.speaker.mixes_sound session.host frequency
  unfold Action.after soundTone
  rw [given]
  cases session.machine.sounding with
  | false => rfl
  | true =>
      generalize session.speaker.sound session.host (some frequency) = sounded at kept
      obtain ⟨calls, fault, speaker⟩ := sounded
      cases fault <;> exact kept

theorem soundTone_eq_error
    {fault : Fault}
    (fails : soundTone session = .error fault stopped)
    (given : session.tone = some frequency) :
    session.speaker.mixes = true ∧ Wave.ofFrequency session.host frequency = .error fault := by
  unfold soundTone at fails
  rw [given] at fails
  split at fails
  · split at fails
    rename_i sounds
    split at fails
    · contradiction
    · cases fails
      exact Speaker.sound_eq_fault (congrArg (fun sounded => sounded.2.1) sounds)
  · contradiction

/-! ## Turns -/

/-- What the faults of a session's ticks depend on, and its turns keep: the machine is well formed,
the console delivers what is in memory, the host stays the same, the tone has a frequency, and the
speaker does or does not play through a mixer. -/
structure Steady (host : Host) (mixed : Bool) (frequency : Float) (session : Session τ) : Prop where
  wellFormed : session.machine.WellFormed
  unforced : session.console.forced = none
  host : session.host = host
  tone : session.tone = some frequency
  speaker : session.speaker.mixes = mixed

namespace Steady

/-- A tick of a steady session fails where a step returns from an empty call stack, or where a mixer
is to play a tone whose wave cannot be built. -/
theorem tick_eq_error
    {fault : Fault}
    (steady : Steady host mixed frequency session)
    (fails : tick session = .error fault stopped) :
    fault.isEmptyReturn = true ∨ mixed = true ∧ Wave.ofFrequency host frequency = .error fault := by
  have ended := ticked steady.wellFormed
  rw [fails] at ended
  cases ended with
  | unstepped wellFormed unstepped =>
      rcases wellFormed.step_eq_error unstepped with ⟨report, rfl⟩ | ⟨value, forced, _⟩
      · exact .inl rfl
      · rw [steady.unforced] at forced
        contradiction
  | unsounded unsounded =>
      right
      have met := soundTone_eq_error unsounded steady.tone
      rw [← steady.speaker, ← steady.host]
      exact met

theorem after_tick (steady : Steady host mixed frequency session) :
    Steady host mixed frequency (Action.after tick session) where
  wellFormed := wellFormed_after_tick steady.wellFormed
  unforced := by
    rw [(sameSetup_after_tick session).console]
    exact steady.unforced
  host := (sameSetup_after_tick session).host.trans steady.host
  tone := (sameSetup_after_tick session).tone.trans steady.tone
  speaker := by
    have ended := ticked steady.wellFormed
    rw [← steady.speaker]
    generalize outcome : tick session = result at ended
    cases ended with
    | unstepped => rw [Action.after_of_error outcome]
    | unsounded fails =>
        rw [Action.after_of_error outcome, ← Action.after_of_error fails]
        exact mixes_after_soundTone steady.tone
    | completed sounds kept =>
        rw [Action.after_of_ok outcome, kept, ← Action.after_of_ok sounds]
        exact mixes_after_soundTone steady.tone

theorem play (steady : Steady host mixed frequency session) (turn : Turn) :
    Steady host mixed frequency (turn.play session) := by
  cases turn with
  | press key | hold held =>
      exact ⟨steady.wellFormed, steady.unforced, steady.host, steady.tone, steady.speaker⟩
  | tick => exact steady.after_tick

/-- A session that is steady at first is steady at every place of its turns. -/
theorem reached
    (steady : Steady host mixed frequency session)
    (turns : List Turn)
    (place : Nat) :
    Steady host mixed frequency (session.reached turns place) := by
  induction place with
  | zero => exact steady
  | succ place hypothesis =>
      cases taken : turns[place]? with
      | none =>
          rw [reached_succ_of_none taken]
          exact hypothesis
      | some turn =>
          rw [reached_succ taken]
          exact hypothesis.play turn

end Steady

end Session

/-! ## Settings -/

/-- A pace of a whole number of ticks a second, with nothing left to a default. -/
def Pace.whole {τ : Type} (rate steps : Int) (tone : Float) : Pace τ where
  rate := .value (.whole rate)
  stepsPerTick := .value steps
  tone := .value tone

namespace Session

variable {devices : Devices} {machine : Machine} {now tone : Float} {rate steps : Int}

theorem start_of_rate_nonpositive (low : rate ≤ 0) :
    start (.whole rate steps tone) devices machine now = .error .tickRateNotPositive := by
  simp [start, Pace.whole, checkRate, TickRate.isPositive, low, bind, Except.bind]

theorem start_of_steps_negative
    (positive : 0 < rate)
    (negative : steps < 0) :
    start (.whole rate steps tone) devices machine now = .error .stepsNegative := by
  have high : ¬rate ≤ 0 := Int.not_le.mpr positive
  simp [start, Pace.whole, checkRate, checkSteps, TickRate.isPositive, high, negative, bind,
    Except.bind]

/-- The session that starts where an interval lies between its ticks. -/
def opening (devices : Devices) (machine : Machine) (steps : Int) (tone now interval : Float) :
    Session Float :=
  report 0 0 {
    machine
    host := devices.host
    console := devices.console
    picture := devices.picture
    speaker := devices.speaker
    tone := some tone
    stepsPerTick := steps.toNat
    interval
    lastTick := now
    nextReport := TimeScale.zero }

/-- Where the rate is above zero and the steps are not below it, a session starts if the rate has an
interval. -/
theorem start_of_interval
    (positive : 0 < rate)
    (nonnegative : 0 ≤ steps) :
    start (.whole rate steps tone) devices machine now =
      (TickRate.whole rate).interval.map (opening devices machine steps tone now) := by
  have high : ¬rate ≤ 0 := Int.not_le.mpr positive
  have counted : ¬steps < 0 := Int.not_lt.mpr nonnegative
  simp only [start, Pace.whole, checkRate, checkSteps, Choice.resolve_value, TickRate.isPositive,
    decide_eq_false high, Bool.not_false, if_true, if_neg counted, bind, Except.bind]
  cases (TickRate.whole rate : TickRate Float).interval <;> rfl

/-- A rate has an interval unless it is larger than all doubles. -/
theorem interval_whole (rate : Int) :
    (TickRate.whole rate : TickRate Float).interval =
      match nearestDouble? rate with
      | none => .error .numberTooLarge
      | some nearest => .ok (1 / nearest) := by
  simp only [TickRate.interval, TickRate.number, TimeScale.ofInt]
  cases nearestDouble? rate <;> rfl

/-- Settings that are whole are refused, or leave time between the ticks and are the cause of one
fault only. A rate or a number of steps that is too low is refused, and so is a rate that is larger
than all doubles. Otherwise the session starts with an interval above zero. From then on, whatever
the program and the keys, a tick fails only where a step returns from an empty call stack, or where
the mixer of a window system is to play a tone whose wave cannot be built on its host. -/
theorem accepted_settings_keep_ticks
    {program : Option (List UInt8)}
    {backend : Backend}
    {host : Host}
    (booted : Machine.boot program = .ok machine)
    (unforced : devices.console.forced = none)
    (opened : (backend.openSpeaker host).outcome = .ok devices.speaker)
    (rate steps : Int)
    (tone now : Float) :
    (rate ≤ 0 ->
      start (.whole rate steps tone) devices machine now = .error .tickRateNotPositive) ∧
    (0 < rate -> steps < 0 ->
      start (.whole rate steps tone) devices machine now = .error .stepsNegative) ∧
    (0 < rate -> 0 ≤ steps -> nearestDouble? rate = none ->
      start (.whole rate steps tone) devices machine now = .error .numberTooLarge) ∧
    (0 < rate -> 0 ≤ steps -> nearestDouble? rate ≠ none ->
      ∃ session,
        start (.whole rate steps tone) devices machine now = .ok session ∧
        0 < session.interval ∧
        ∀ turns place fault stopped,
          turns[place]? = some .tick ->
          tick (session.reached turns place) = .error fault stopped ->
          fault.isEmptyReturn = true ∨
            backend = .window ∧ Wave.ofFrequency devices.host tone = .error fault) := by
  refine ⟨start_of_rate_nonpositive, start_of_steps_negative, ?_, ?_⟩
  · intro positive nonnegative large
    rw [start_of_interval positive nonnegative, interval_whole, large]
    rfl
  · intro positive nonnegative inRange
    obtain ⟨nearest, found⟩ := Option.ne_none_iff_exists'.mp inRange
    rw [start_of_interval positive nonnegative, interval_whole, found]
    refine ⟨opening devices machine steps tone now (1 / nearest), rfl,
      zero_lt_one_div_of_nearestDouble positive found, ?_⟩
    intro turns place fault stopped ticked fails
    have steady : Steady devices.host devices.speaker.mixes tone
        (opening devices machine steps tone now (1 / nearest)) :=
      ⟨.of_boot booted, unforced, rfl, rfl, rfl⟩
    rw [← Backend.mixes_of_openSpeaker opened]
    exact (steady.reached turns place).tick_eq_error fails

/-- The default settings on a window system, for a program that sounds the tone: nothing is refused,
and no tick is stopped but by a return from an empty call stack. -/
theorem accepted_settings_keep_ticks_standard :
    ∃ (machine : Machine) (session : Session Float),
      Machine.boot (some [0x60, 0x03, 0xF0, 0x18, 0x12, 0x04]) = .ok machine ∧
      start (.whole 60 10 440) { Devices.bare with speaker := { voice := .mixer none } } machine 0 =
        .ok session ∧
      0 < session.interval ∧
      ∀ turns place fault stopped,
        turns[place]? = some .tick ->
        tick (session.reached turns place) = .error fault stopped ->
        fault.isEmptyReturn = true := by
  obtain ⟨machine, booted⟩ :
      ∃ machine, Machine.boot (some [0x60, 0x03, 0xF0, 0x18, 0x12, 0x04]) = .ok machine :=
    ⟨_, rfl⟩
  obtain ⟨_, _, _, accepts⟩ :=
    @accepted_settings_keep_ticks { Devices.bare with speaker := { voice := .mixer none } } machine
      _ .window {} booted rfl rfl 60 10 440 0
  obtain ⟨session, started, spaced, keeps⟩ := accepts (by decide) (by decide) (by decide +kernel)
  refine ⟨machine, session, booted, started, spaced, ?_⟩
  intro turns place fault stopped ticked fails
  rcases keeps turns place fault stopped ticked fails with returns | ⟨_, unbuilt⟩
  · exact returns
  · change Wave.ofFrequency {} 440 = .error fault at unbuilt
    have built : (Wave.ofFrequency {} 440 matches .ok _) = true := by decide +kernel
    rw [unbuilt] at built
    contradiction

/-- A tone of frequency zero is accepted, and stops the first tick that sounds it. -/
theorem not_accepted_settings_keep_ticks_of_zeroFrequency :
    ¬∀ (program : Option (List UInt8)) (machine : Machine) (backend : Backend) (host : Host)
        (devices : Devices) (rate steps : Int) (tone now : Float),
      Machine.boot program = .ok machine ->
      devices.console.forced = none ->
      (backend.openSpeaker host).outcome = .ok devices.speaker ->
      tone.isFinite = true ->
      start (.whole rate steps tone) devices machine now = .error .tickRateNotPositive ∨
      start (.whole rate steps tone) devices machine now = .error .stepsNegative ∨
      ∃ session,
        start (.whole rate steps tone) devices machine now = .ok session ∧
        0 < session.interval ∧
        ∀ turns place fault stopped,
          turns[place]? = some .tick ->
          tick (session.reached turns place) = .error fault stopped ->
          fault.isEmptyReturn = true := by
  intro kept
  obtain ⟨machine, session, booted, started, unsounded⟩ :
      ∃ (machine : Machine) (session : Session Float),
        Machine.boot (some [0x60, 0x03, 0xF0, 0x18, 0x12, 0x04]) = .ok machine ∧
        start (.whole 60 10 0) { Devices.bare with speaker := { voice := .mixer none } } machine 0 =
          .ok session ∧
        (tick session matches .error .zeroFrequency _) = true :=
    ⟨{ Machine.powerOn with
        memory := Machine.powerOn.memory.place 0x200 [0x60, 0x03, 0xF0, 0x18, 0x12, 0x04] },
      _, rfl, rfl, by decide +kernel⟩
  obtain ⟨stopped, fails⟩ : ∃ stopped, tick session = .error .zeroFrequency stopped := by
    split at unsounded
    · rename_i stopped fails
      exact ⟨stopped, fails⟩
    · contradiction
  have promised := kept _ machine .window {}
    { Devices.bare with speaker := { voice := .mixer none } } 60 10 0 0 booted rfl rfl
    (by decide +kernel)
  rw [started] at promised
  rcases promised with refused | refused | ⟨_, same, _, returns⟩
  · contradiction
  · contradiction
  · cases same
    have returned := returns [.tick] 0 _ stopped rfl fails
    contradiction

end Session
end Chip8
