import Chip8.Proofs.Session.Polling
import Chip8.Proofs.Session.Turns

/-!
# The tone

After a tick the tone plays exactly while the sound timer runs, and a tick
counts the timers down unless its steps leave the machine waiting for a key. So
the tone plays on for as many ticks as the timer has counts, ticks that end in a
wait left out, until a program sets the timer anew. A bell sounds as the tone
begins.
-/

namespace Chip8

/-- Whether an event tells the speaker to sound or to be silent. -/
def Event.isOrder {τ : Type} : Event τ -> Bool
  | .tone _ | .silence => true
  | _ => false

/-- Whether an event is a sound of the terminal's bell. -/
def Event.isBeep {τ : Type} : Event τ -> Bool
  | .call .beep => true
  | _ => false

namespace Speaker

variable {host : Host} {speaker : Speaker}

/-- A tone that sounds without a fault is playing. -/
theorem playing_sound
    {tone : Option Float}
    (sounds : (speaker.sound host tone).2.1 = none) :
    (speaker.sound host tone).2.2.playing = true := by
  cases tone with
  | some frequency => exact playing_play sounds
  | none =>
      simp only [sound, playUnpitched] at *
      cases voice : speaker.voice with
      | silent | bell => rfl
      | mixer loaded => simp [voice] at sounds

/-- A bell sounds when the tone begins, and meets no fault. -/
theorem sound_of_bell (bell : speaker.voice = .bell) (tone : Option Float) :
    speaker.sound host tone =
      (if speaker.playing then [] else [.beep], none, { speaker with playing := true }) := by
  cases tone <;> simp [sound, play, playUnpitched, bell]

end Speaker

/-- A picture does not ring the bell. -/
theorem Picture.beep_notMem_calls (host : Host) (picture : Picture) (frame : Frame) :
    HostCall.beep ∉ picture.drawCalls frame ++ picture.showCalls host := by
  unfold drawCalls showCalls
  cases picture.surface with
  | headless => simp
  | window palette => simp [paint]
  | terminal cursor seen =>
      have resizing : HostCall.beep ∉
          if host.resizes then [HostCall.resize host.height host.width] else [] := by
        cases host.resizes <;> simp
      simp only [writeCells, showPad]
      split
      · simp
      · simp [resizing]

namespace Machine

/-- A timer that is counted down stops at zero. -/
theorem countDown_eq_max {timer : Int} (nonnegative : 0 ≤ timer) :
    countDown timer = max 0 (timer - 1) := by
  unfold countDown
  split <;> omega

theorem sounding_iff {machine : Machine} : machine.sounding = true ↔ 0 < machine.sound := by
  simp [sounding]

theorem sound_after_receive (pending : Option Int) (machine : Machine) :
    (Action.after (receive pending) machine).sound = machine.sound := by
  cases pending with
  | none => rfl
  | some key =>
      simp only [Action.after, receive, pressKey]
      cases awaiting : machine.awaiting with
      | none => rfl
      | some waiting => cases located : locate? 16 waiting <;> simp [located]

/-- A step that does not execute the instruction for it leaves the sound timer alone. -/
theorem sound_after_step
    {console : Console}
    {machine : Machine}
    (spares : ∀ x, machine.next? console ≠ some (.setSound x)) :
    (Action.after (step console) machine).sound = machine.sound := by
  have outcome := stepped console machine
  unfold Action.after
  generalize step console machine = result at outcome
  cases outcome with
  | paused | unfetched | undecodable | failed => rfl
  | @executed word final running fetched executes =>
      have kept : final.Agree machine.advanced .sound := by
        apply agree_of_execute .sound executes
        intro written
        have next := next?_eq_some_iff.mpr ⟨running, word, fetched, rfl⟩
        generalize word.decode = instruction at written next
        cases instruction with
        | setSound x => exact spares x next
        | _ => simp [Instruction.writes] at written
      exact kept

end Machine

namespace Session

variable {τ : Type} {session final : Session τ}

/-- The session once a tick has handed over its press and made its steps. -/
def afterSteps (session : Session τ) : Session τ :=
  Action.after (do deliverPress; runSteps) session

/-- What the speaker was told, the latest first. -/
def orders (session : Session τ) : List (Event τ) :=
  session.events.filter Event.isOrder

/-- How often the bell has sounded. -/
def beeps (session : Session τ) : Nat :=
  session.events.countP Event.isBeep

/-! ## The phases of a tick -/

theorem exists_afterSteps (session : Session τ) :
    ∃ machine, session.afterSteps = { session with pending := none, machine } := by
  have delivery := after_deliverPress session
  unfold afterSteps
  cases outcome : deliverPress session with
  | error fault stopped =>
      rw [Action.after_of_error outcome] at delivery
      rw [Action.after_bind_of_error outcome]
      exact ⟨_, delivery⟩
  | ok result delivered =>
      rw [Action.after_of_ok outcome] at delivery
      rw [Action.after_bind_of_ok outcome, after_runSteps, delivery]
      exact ⟨_, rfl⟩

/-- Once its steps are made a tick that completes goes on to its end. -/
theorem finish_afterSteps (completed : tick session = .ok () final) :
    finish session.afterSteps = .ok () final := by
  obtain ⟨_, delivered, delivers, plays⟩ := Action.bind_eq_ok.mp completed
  obtain ⟨_, stepped, steps, finishes⟩ := Action.bind_eq_ok.mp plays
  have reached : session.afterSteps = stepped := by
    rw [afterSteps, Action.after_bind_of_ok delivers, Action.after_of_ok steps]
  rw [reached]
  exact finishes

@[simp] theorem orders_note (event : Event τ) (session : Session τ) :
    (session.note event).orders = [event].filter Event.isOrder ++ session.orders := by
  rw [orders, note, orders, ← List.filter_append]
  rfl

/-- Calls on the host are no orders. -/
@[simp] theorem orders_noteCalls (calls : List HostCall) (session : Session τ) :
    (session.noteCalls calls).orders = session.orders := by
  have unordered : (calls.map Event.call).reverse.filter (Event.isOrder (τ := τ)) = [] := by
    apply List.filter_eq_nil_iff.mpr
    intro event member
    obtain ⟨call, _, rfl⟩ := List.mem_map.mp (List.mem_reverse.mp member)
    simp [Event.isOrder]
  rw [orders, noteCalls, List.filter_append, unordered]
  rfl

@[simp] theorem beeps_note (event : Event τ) (session : Session τ) :
    (session.note event).beeps = session.beeps + event.isBeep.toNat := by
  simp only [beeps, note, List.countP_cons]
  cases event.isBeep <;> rfl

@[simp] theorem beeps_noteCalls (calls : List HostCall) (session : Session τ) :
    (session.noteCalls calls).beeps = session.beeps + calls.count .beep := by
  have counted : (calls.map Event.call).reverse.countP (Event.isBeep (τ := τ)) =
      calls.count .beep := by
    rw [List.countP_reverse, List.countP_map]
    apply List.countP_congr
    intro call _
    cases call <;> simp [Event.isBeep]
  rw [beeps, noteCalls, List.countP_append, counted, Nat.add_comm]
  rfl

/-- The two ways in which sounding the tone completes: it tells the speaker to be silent, or to sound
and meets no fault. -/
theorem soundTone_eq_ok (completed : soundTone session = .ok () final) :
    (session.machine.sounding = false ∧
      final =
        ({ session with speaker := session.speaker.stopped }.note .silence).noteCalls
          session.speaker.stopCalls) ∨
    (session.machine.sounding = true ∧
      ∃ calls speaker,
        session.speaker.sound session.host session.tone = (calls, none, speaker) ∧
        final = ({ session with speaker }.note (.tone session.tone)).noteCalls calls) := by
  unfold soundTone at completed
  split at completed
  · rename_i sounding
    split at completed
    rename_i calls fault speaker sounds
    split at completed
    · cases completed
      exact .inr ⟨sounding, calls, speaker, sounds, rfl⟩
    · contradiction
  · rename_i silent
    cases completed
    exact .inl ⟨by simpa using silent, rfl⟩

theorem exists_calls_of_showScreen (session : Session τ) :
    ∃ picture calls,
      HostCall.beep ∉ calls ∧
      showScreen session =
        .ok () (({ session with picture }.noteCalls calls).note (.frame session.machine.screen)) := by
  have complete := Frame.isComplete_ofScreen session.machine.screen
  simp only [showScreen, Picture.present_of_isComplete _ _ complete]
  exact ⟨_, _, Picture.beep_notMem_calls session.host session.picture _, rfl⟩

/-- How a tick that completes is heard: its order to the speaker is to sound or to be silent, as the
machine has it in the end, and a bell sounds where it is told to sound and did not play yet. -/
structure Heard (session final : Session τ) : Prop where
  playing : final.speaker.playing = final.machine.sounding
  orders : final.orders =
    (if final.machine.sounding then .tone session.tone else .silence) :: session.orders
  bell : session.speaker.voice = .bell ->
    final.speaker.voice = .bell ∧
      final.beeps =
        session.beeps + (final.machine.sounding && !session.speaker.playing).toNat

theorem heard_of_soundTone (completed : soundTone session = .ok () final) :
    Heard session final := by
  rcases soundTone_eq_ok completed with ⟨silent, rfl⟩ | ⟨sounding, calls, speaker, sounds, rfl⟩
  · have kept : (noteCalls session.speaker.stopCalls
        ({ session with speaker := session.speaker.stopped }.note .silence)).machine.sounding =
          false := silent
    refine ⟨silent.symm, ?_, fun bell => ⟨bell, ?_⟩⟩
    · rw [kept, orders_noteCalls, orders_note]
      rfl
    · rw [kept, beeps_noteCalls, beeps_note, Speaker.stopCalls, bell]
      rfl
  · have kept : (noteCalls calls
        ({ session with speaker }.note (.tone session.tone))).machine.sounding = true := sounding
    have playing : speaker.playing = true := by
      have unfaulted := Speaker.playing_sound (congrArg (fun result => result.2.1) sounds)
      rw [sounds] at unfaulted
      exact unfaulted
    refine ⟨playing.trans sounding.symm, ?_, fun bell => ?_⟩
    · rw [kept, orders_noteCalls, orders_note]
      rfl
    · rw [Speaker.sound_of_bell bell] at sounds
      cases sounds
      refine ⟨bell, ?_⟩
      rw [kept, beeps_noteCalls, beeps_note]
      cases session.speaker.playing <;> rfl

/-- How a tick is heard does not change as the screen is shown. -/
theorem Heard.shown
    {sounded shown : Session τ}
    (heard : Heard session sounded)
    (shows : showScreen sounded = .ok () shown) :
    Heard session shown.countTick := by
  obtain ⟨picture, calls, quiet, showing⟩ := exists_calls_of_showScreen sounded
  cases showing.symm.trans shows
  refine ⟨heard.playing, ?_, fun bell => ⟨(heard.bell bell).1, ?_⟩⟩
  · change (note _ (noteCalls calls _)).orders = _
    rw [orders_note, orders_noteCalls]
    exact heard.orders
  · change (note _ (noteCalls calls _)).beeps = _
    rw [beeps_note, beeps_noteCalls, List.count_eq_zero.mpr quiet]
    exact (heard.bell bell).2

theorem heard_of_tick (completed : tick session = .ok () final) : Heard session final := by
  have finishes := finish_afterSteps completed
  obtain ⟨stepped, steps⟩ := exists_afterSteps session
  obtain ⟨counted, counts⟩ := exists_countTimers session.afterSteps
  rw [finish_eq, counts, steps] at finishes
  obtain ⟨_, sounded, sounds, shows⟩ := Action.bind_eq_ok.mp finishes
  obtain ⟨_, shown, screens, ends⟩ := Action.bind_eq_ok.mp shows
  cases ends
  obtain ⟨playing, orders, bell⟩ := (heard_of_soundTone sounds).shown screens
  exact ⟨playing, orders, bell⟩

/-- A tick that completes leaves the machine of its steps, with the timers counted. -/
theorem machine_of_tick (completed : tick session = .ok () final) :
    final.machine = session.afterSteps.countTimers.machine := by
  have finished := (sameCourse_finish session.afterSteps).machine
  rw [Action.after_of_ok (finish_afterSteps completed)] at finished
  exact finished

/-! ## The timers of a tick -/

/-- The steps of a tick are among its changes, and lead on from the delivery of the press. -/
theorem exists_lead_afterSteps (wellFormed : session.machine.WellFormed) :
    ∃ machine steps,
      machine.WellFormed ∧
      machine = Action.after (Machine.receive session.pending) session.machine ∧
      Change.Lead machine steps session.afterSteps.machine ∧
      ∀ change ∈ steps,
        change ∈ session.changes ∧
          change = ⟨.step, change.before,
            Action.after (Machine.step session.console) change.before⟩ := by
  obtain ⟨machine, kept, delivers⟩ := exists_deliverPress wellFormed
  have delivery := after_deliverPress session
  rw [Action.after_of_ok delivers] at delivery
  refine ⟨machine,
    Machine.stepChanges (Machine.step session.console) session.stepsPerTick machine,
    kept, congrArg Session.machine delivery, ?_, ?_⟩
  · rw [afterSteps, Action.after_bind_of_ok delivers, after_runSteps]
    exact Machine.lead_stepChanges _ _ _
  · intro change member
    refine ⟨?_, Machine.eq_of_mem_stepChanges member⟩
    rw [changes, delivers]
    exact List.mem_cons_of_mem _ (List.mem_append_left _ member)

theorem wellFormed_afterSteps (wellFormed : session.machine.WellFormed) :
    session.afterSteps.machine.WellFormed := by
  obtain ⟨machine, steps, kept, _, lead, made⟩ := exists_lead_afterSteps wellFormed
  apply lead.keeps _ kept
  intro change member before
  rw [(made change member).2]
  exact before.after_step

/-- Steps that do not execute the instruction for it leave the sound timer alone. -/
theorem sound_afterSteps
    (wellFormed : session.machine.WellFormed)
    (spares : ∀ change ∈ session.changes,
      change.cause = .step -> ∀ x, change.before.next? session.console ≠ some (.setSound x)) :
    session.afterSteps.machine.sound = session.machine.sound := by
  obtain ⟨machine, steps, _, rfl, lead, made⟩ := exists_lead_afterSteps wellFormed
  refine @Change.Lead.keeps (fun machine => machine.sound = session.machine.sound) _ _ _ lead ?_ ?_
  · intro change member before
    obtain ⟨among, stepped⟩ := made change member
    have idle : ∀ x, change.before.next? session.console ≠ some (.setSound x) := by
      apply spares change among
      rw [stepped]
    rw [stepped, ← before]
    exact Machine.sound_after_step idle
  · exact Machine.sound_after_receive session.pending session.machine

/-- How a tick leaves the timers that its steps have left: counted down, unless the machine
waits. -/
structure CountsTimers (session final : Session τ) : Prop where
  awaiting : final.machine.awaiting = session.afterSteps.machine.awaiting
  running : final.machine.paused = false ->
    final.machine.delay = max 0 (session.afterSteps.machine.delay - 1) ∧
      final.machine.sound = max 0 (session.afterSteps.machine.sound - 1)
  waiting : final.machine.paused = true ->
    final.machine.delay = session.afterSteps.machine.delay ∧
      final.machine.sound = session.afterSteps.machine.sound

theorem countsTimers_of_tick
    (wellFormed : session.machine.WellFormed)
    (completed : tick session = .ok () final) :
    CountsTimers session final := by
  have stepped := wellFormed_afterSteps wellFormed
  have left := machine_of_tick completed
  unfold countTimers at left
  split at left
  · rename_i paused
    rw [← left] at paused
    refine ⟨by rw [left], ?_, fun _ => by simp [left]⟩
    intro running
    rw [running] at paused
    contradiction
  · rename_i unpaused
    have running : final.machine.paused = false := by
      rw [left]
      simpa [Machine.paused, Machine.tickTimers] using unpaused
    refine ⟨by rw [left]; rfl, fun _ => ?_, ?_⟩
    · rw [left]
      exact ⟨Machine.countDown_eq_max stepped.delay.1, Machine.countDown_eq_max stepped.sound.1⟩
    · intro waiting
      rw [running] at waiting
      contradiction

end Session
end Chip8
