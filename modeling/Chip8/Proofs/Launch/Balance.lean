import Chip8.Launch
import Chip8.Proofs.Machine.Stepping

/-!
# Parts are closed in the reverse order

What a launch opens it closes again, the last part opened first, however the run
ends and whichever of its parts does not open, with one exception: where the
host refuses the speaker, the picture and the keypad are left open. Nothing is
opened for a program that cannot be read.
-/

namespace Chip8

/-- What is done with a part. -/
inductive Handling
  | opens (part : Part)
  | closes (part : Part)
  deriving DecidableEq, Repr

/-- What an entry records of the parts. -/
def Entry.handling? {τ : Type} : Entry τ -> Option Handling
  | opened part => some (.opens part)
  | closed part => some (.closes part)
  | _ => none

namespace Launch

variable {κ τ : Type} {launch final stopped : Launch κ τ}

/-- What was done with the parts so far, in order. -/
def handlings (launch : Launch κ τ) : List Handling :=
  (launch.entries.filterMap Entry.handling?).reverse

@[simp] theorem handlings_note (entry : Entry τ) (launch : Launch κ τ) :
    (launch.note entry).handlings = launch.handlings ++ entry.handling?.toList := by
  rw [handlings, note, List.filterMap_cons]
  cases entry.handling? <;> simp [handlings]

@[simp] theorem handlings_with_picture (picture : Option Picture) (launch : Launch κ τ) :
    handlings { launch with picture } = launch.handlings := rfl

/-- Calls on the host do nothing with a part. -/
@[simp] theorem handlings_noteCalls (calls : List HostCall) (launch : Launch κ τ) :
    (launch.noteCalls calls).handlings = launch.handlings := by
  have unhandled : (calls.map Entry.called).reverse.filterMap (Entry.handling? (τ := τ)) = [] := by
    rw [← List.map_reverse, List.filterMap_map]
    exact List.filterMap_eq_nil_iff.mpr fun call _ => rfl
  rw [handlings, noteCalls, List.filterMap_append, unhandled]
  rfl

@[simp] theorem handlings_closePart
    (part : Part)
    (calls : List HostCall)
    (launch : Launch κ τ) :
    (launch.closePart part calls).handlings = launch.handlings ++ [.closes part] := by
  simp [closePart, Entry.handling?]

@[simp] theorem handlings_closePicture (picture : Picture) (launch : Launch κ τ) :
    (launch.closePicture picture).handlings = launch.handlings ++ [.closes .picture] := by
  rw [closePicture, handlings_closePart]
  rfl

theorem handlings_closeAll (picture : Picture) (speaker : Speaker) (launch : Launch κ τ) :
    (launch.closeAll picture speaker).handlings =
      launch.handlings ++ [.closes .speaker, .closes .keypad, .closes .picture] := by
  simp [closeAll]

/-- Nothing that happens in a session is done with a part. -/
theorem handlings_afterSession (launch : Launch κ τ) (timed : TimedSession κ τ) :
    (launch.afterSession timed).handlings =
      launch.handlings ++ [.closes .speaker, .closes .keypad, .closes .picture] := by
  have unhandled : (timed.session.events.map Entry.happened).filterMap
      (Entry.handling? (τ := τ)) = [] := by
    rw [List.filterMap_map]
    exact List.filterMap_eq_nil_iff.mpr fun event _ => rfl
  rw [afterSession, handlings_closeAll]
  simp only [handlings, List.filterMap_append, unhandled, List.nil_append]

/-! ## Opening the parts -/

theorem openPart_of_ok
    {Device : Type}
    {part : Part}
    {opening : Opening Device}
    {device : Device}
    (opens : opening.outcome = .ok device)
    (launch : Launch κ τ) :
    openPart part opening launch =
      .ok device ((launch.noteCalls opening.calls).note (.opened part)) := by
  simp [openPart, opens]

theorem openPart_of_error
    {Device : Type}
    {part : Part}
    {opening : Opening Device}
    {fault : Fault}
    (refused : opening.outcome = .error fault)
    (launch : Launch κ τ) :
    openPart part opening launch = .error fault (launch.noteCalls opening.calls) := by
  simp [openPart, refused]

variable {surroundings : Surroundings} {settings : Settings} {backend : Backend}

/-- The opening of the picture. -/
def pictureOpening (surroundings : Surroundings) (settings : Settings) (backend : Backend) :
    Opening Picture :=
  backend.openPicture surroundings.host settings.scale settings.palette settings.cursorMode

theorem exists_openPicture_of_ok
    {picture : Picture}
    (shows : (pictureOpening surroundings settings backend).outcome = .ok picture)
    (launch : Launch κ τ) :
    ∃ opened,
      openPicture surroundings settings backend launch = .ok picture opened ∧
        opened.handlings = launch.handlings ++ [.opens .picture] := by
  have opens : openPart .picture (backend.openPicture surroundings.host settings.scale
      settings.palette settings.cursorMode) launch = _ := openPart_of_ok shows launch
  simp only [openPicture, opens]
  exact ⟨_, rfl, by simp [Entry.handling?]⟩

theorem openPicture_of_error
    {fault : Fault}
    (refused : (pictureOpening surroundings settings backend).outcome = .error fault)
    (launch : Launch κ τ) :
    openPicture surroundings settings backend launch =
      .error fault (launch.noteCalls (pictureOpening surroundings settings backend).calls) := by
  have fails : openPart .picture (pictureOpening surroundings settings backend) launch = _ :=
    openPart_of_error refused launch
  unfold pictureOpening at fails ⊢
  simp only [openPicture, fails]

variable [TimeScale τ]

/-- The opening of the keypad. -/
def keypadOpening (τ : Type) [TimeScale τ] (surroundings : Surroundings) (settings : Settings)
    (backend : Backend) : Opening (Keypad τ) :=
  Keypad.openFor backend surroundings.host settings.keymap

theorem exists_openKeypad_of_ok
    {keypad : Keypad τ}
    (hears : (keypadOpening τ surroundings settings backend).outcome = .ok keypad)
    (picture : Picture)
    (launch : Launch κ τ) :
    ∃ opened,
      openKeypad surroundings settings backend picture launch = .ok keypad opened ∧
        opened.handlings = launch.handlings ++ [.opens .keypad] := by
  have opens : openPart .keypad (Keypad.openFor backend surroundings.host settings.keymap)
      launch = _ := openPart_of_ok hears launch
  simp only [openKeypad, opens]
  exact ⟨_, rfl, by simp [Entry.handling?]⟩

/-- A keypad that is refused has the picture closed. -/
theorem exists_openKeypad_of_error
    {fault : Fault}
    (refused : (keypadOpening τ surroundings settings backend).outcome = .error fault)
    (picture : Picture)
    (launch : Launch κ τ) :
    ∃ stopped,
      openKeypad surroundings settings backend picture launch = .error fault stopped ∧
        stopped.handlings = launch.handlings ++ [.closes .picture] := by
  have fails : openPart .keypad (Keypad.openFor (τ := τ) backend surroundings.host settings.keymap)
      launch = _ := openPart_of_error refused launch
  simp only [openKeypad, fails]
  exact ⟨_, rfl, by simp⟩

/-- The opening of the speaker. -/
def speakerOpening (surroundings : Surroundings) (settings : Settings) (backend : Backend) :
    Opening Speaker :=
  (backend.speaking settings.mute).openSpeaker surroundings.host

/-- The speaker does not open only where the host refuses it. -/
theorem eq_hostRefused_of_speakerOpening
    {fault : Fault}
    (refused : (speakerOpening surroundings settings backend).outcome = .error fault) :
    fault = .hostRefused := by
  unfold speakerOpening Backend.openSpeaker at refused
  split at refused
  · contradiction
  · simp only [Speaker.openMixer, Host.openWith] at refused
    split at refused
    · contradiction
    · exact (Except.error.inj refused).symm
  · contradiction

/-- The parts that open, in the order in which they do; none follows one that does not open. -/
def opening (τ : Type) [TimeScale τ] (surroundings : Surroundings) (settings : Settings)
    (backend : Backend) : List Part :=
  match (pictureOpening surroundings settings backend).outcome with
  | .error _ => []
  | .ok _ =>
      match (keypadOpening τ surroundings settings backend).outcome with
      | .error _ => [.picture]
      | .ok _ =>
          match (speakerOpening surroundings settings backend).outcome with
          | .error _ => [.picture, .keypad]
          | .ok _ => [.picture, .keypad, .speaker]

/-- How opening the parts may end. -/
inductive OpeningEnds
    (surroundings : Surroundings)
    (settings : Settings)
    (backend : Backend)
    (launch : Launch κ τ) :
    EStateM.Result Fault (Launch κ τ) (Parts τ) -> Prop
  /-- All parts are open. -/
  | complete {parts : Parts τ} {final : Launch κ τ}
      (opens : opening τ surroundings settings backend = [.picture, .keypad, .speaker])
      (handled : final.handlings =
        launch.handlings ++ [.opens .picture, .opens .keypad, .opens .speaker]) :
      OpeningEnds surroundings settings backend launch (.ok parts final)
  /-- The picture does not open. -/
  | unseen {fault : Fault} {stopped : Launch κ τ}
      (opens : opening τ surroundings settings backend = [])
      (handled : stopped.handlings = launch.handlings) :
      OpeningEnds surroundings settings backend launch (.error fault stopped)
  /-- The keypad does not open, and the picture is closed again. -/
  | unheard {fault : Fault} {stopped : Launch κ τ}
      (opens : opening τ surroundings settings backend = [.picture])
      (handled : stopped.handlings = launch.handlings ++ [.opens .picture, .closes .picture]) :
      OpeningEnds surroundings settings backend launch (.error fault stopped)
  /-- The host refuses the speaker. -/
  | silent {stopped : Launch κ τ}
      (opens : opening τ surroundings settings backend = [.picture, .keypad])
      (handled : stopped.handlings = launch.handlings ++ [.opens .picture, .opens .keypad]) :
      OpeningEnds surroundings settings backend launch (.error .hostRefused stopped)

/-- Opening the parts ends in one of these ways. -/
theorem openingEnds
    (surroundings : Surroundings)
    (settings : Settings)
    (backend : Backend)
    (launch : Launch κ τ) :
    OpeningEnds surroundings settings backend launch
      (openParts surroundings settings backend launch) := by
  cases shows : (pictureOpening surroundings settings backend).outcome with
  | error fault =>
      have ended : openParts surroundings settings backend launch = .error fault _ :=
        Action.bind_eq_error.mpr (.inl (openPicture_of_error shows launch))
      rw [ended]
      exact .unseen (by simp [opening, shows]) (by simp)
  | ok picture =>
      obtain ⟨shown, showing, before⟩ := exists_openPicture_of_ok shows launch
      cases hears : (keypadOpening τ surroundings settings backend).outcome with
      | error fault =>
          obtain ⟨stopped, fails, handled⟩ := exists_openKeypad_of_error hears picture shown
          have ended : openParts surroundings settings backend launch = .error fault stopped :=
            Action.bind_eq_error.mpr
              (.inr ⟨picture, shown, showing, Action.bind_eq_error.mpr (.inl fails)⟩)
          rw [ended]
          exact .unheard (by simp [opening, shows, hears]) (by simp [handled, before])
      | ok keypad =>
          obtain ⟨heard, hearing, between⟩ := exists_openKeypad_of_ok hears picture shown
          cases sounds : (speakerOpening surroundings settings backend).outcome with
          | error fault =>
              obtain rfl := eq_hostRefused_of_speakerOpening sounds
              have ended : openParts surroundings settings backend launch = .error .hostRefused _ :=
                Action.bind_eq_error.mpr (.inr ⟨picture, shown, showing,
                  Action.bind_eq_error.mpr (.inr ⟨keypad, heard, hearing,
                    Action.bind_eq_error.mpr (.inl (openPart_of_error sounds heard))⟩)⟩)
              rw [ended]
              exact .silent (by simp [opening, shows, hears, sounds]) (by simp [between, before])
          | ok speaker =>
              have ended : openParts surroundings settings backend launch =
                  .ok { picture, keypad, speaker } _ :=
                Action.bind_eq_ok.mpr ⟨picture, shown, showing,
                  Action.bind_eq_ok.mpr ⟨keypad, heard, hearing,
                    Action.bind_eq_ok.mpr ⟨speaker, _, openPart_of_ok sounds heard, rfl⟩⟩⟩
              rw [ended]
              exact .complete (by simp [opening, shows, hears, sounds])
                (by simp [Entry.handling?, between, before])

/-- What a launch settles before it opens a part: the backend, and the program as it is read. -/
def groundwork (surroundings : Surroundings) (settings : Settings) :
    Except Fault (Backend × List UInt8) := do
  let backend <- Backend.choose surroundings.installed settings.renderer
  let program <- readProgram surroundings settings
  return (backend, program)

/-- Parts opened one after the other, and then closed in the reverse order. -/
def roundTrip (parts : List Part) : List Handling :=
  parts.map .opens ++ parts.reverse.map .closes

theorem roundTrip_cons (part : Part) (rest : List Part) :
    roundTrip (part :: rest) = .opens part :: roundTrip rest ++ [.closes part] := by
  simp [roundTrip]

section Running

variable [Clock κ τ] [Add τ] [Sub τ] [Div τ] [LE τ] [DecidableLE τ] [LT τ] [DecidableLT τ]

/-- However a run ends, all parts are closed after it. -/
theorem handlings_after_runParts
    (program : List UInt8)
    (rounds : List Round)
    (parts : Parts τ)
    (launch : Launch κ τ) :
    (Action.after (runParts surroundings settings program rounds parts) launch).handlings =
      launch.handlings ++ [.closes .speaker, .closes .keypad, .closes .picture] := by
  unfold Action.after runParts
  cases startSession surroundings settings program parts launch.clock with
  | error fault clock =>
      exact handlings_closeAll parts.picture parts.speaker { launch with clock }
  | ok session clock =>
      simp only
      cases TimedSession.run rounds { session, clock } with
      | ok ended final => exact handlings_afterSession launch final
      | error fault final => exact handlings_afterSession launch final

/-- A launch opens its parts and runs once the backend is chosen and the program is read. -/
theorem run_eq
    (rounds : List Round)
    (launch : Launch κ τ) :
    run surroundings settings rounds launch =
      match groundwork surroundings settings with
      | .error fault => .error fault (launch.note (.printed banner))
      | .ok (backend, program) =>
          (do
            let parts <- openParts surroundings settings backend
            runParts surroundings settings program rounds parts : Action (Launch κ τ) Unit)
            (launch.note (.printed banner)) := by
  have unfolded : run surroundings settings rounds launch =
      EStateM.bind (settle (Backend.choose surroundings.installed settings.renderer))
        (fun backend => EStateM.bind (settle (readProgram surroundings settings))
          fun program => EStateM.bind (openParts surroundings settings backend)
            fun parts => runParts surroundings settings program rounds parts)
        (launch.note (.printed banner)) := rfl
  rw [unfolded]
  cases chosen : Backend.choose surroundings.installed settings.renderer with
  | error fault => simp [EStateM.bind, settle, groundwork, chosen, bind, Except.bind]
  | ok backend =>
      cases read : readProgram surroundings settings with
      | error fault => simp [EStateM.bind, settle, groundwork, chosen, read, bind, Except.bind]
      | ok program =>
          simp [EStateM.bind, settle, groundwork, chosen, read, bind, Except.bind, pure,
            Except.pure]

/-- A launch ends where its parts do not open. -/
theorem run_of_unopened
    {program : List UInt8}
    {fault : Fault}
    {launch stopped : Launch κ τ}
    (prepared : groundwork surroundings settings = .ok (backend, program))
    (ended : openParts surroundings settings backend (launch.note (.printed banner)) =
      .error fault stopped)
    (rounds : List Round) :
    run surroundings settings rounds launch = .error fault stopped := by
  rw [run_eq, prepared]
  exact Action.bind_eq_error.mpr (.inl ended)

/-- A launch that does not come as far as its parts opens none. Otherwise the parts that open are
closed again, the last one first, and each of them once, however the launch ends; only where the
host refuses the speaker are the picture and the keypad left open. -/
theorem run_closes_parts
    (surroundings : Surroundings)
    (settings : Settings)
    (rounds : List Round)
    (clock : κ) :
    (∀ fault,
      groundwork surroundings settings = .error fault ->
      run (τ := τ) surroundings settings rounds { clock } =
        .error fault { clock, entries := [.printed banner] }) ∧
    (∀ backend program,
      groundwork surroundings settings = .ok (backend, program) ->
      opening τ surroundings settings backend ≠ [.picture, .keypad] ->
      (Action.after (run (τ := τ) surroundings settings rounds) { clock }).handlings =
        roundTrip (opening τ surroundings settings backend)) ∧
    (∀ backend program,
      groundwork surroundings settings = .ok (backend, program) ->
      opening τ surroundings settings backend = [.picture, .keypad] ->
      ∃ stopped,
        run (τ := τ) surroundings settings rounds { clock } = .error .hostRefused stopped ∧
          stopped.handlings = [.opens .picture, .opens .keypad]) := by
  refine ⟨?_, ?_, ?_⟩
  · intro fault unprepared
    rw [run_eq, unprepared]
    rfl
  · intro backend program prepared sounds
    unfold Action.after
    rw [run_eq, prepared]
    simp only
    have ends := openingEnds surroundings settings backend
      (note (.printed banner) { clock } : Launch κ τ)
    generalize outcome : openParts surroundings settings backend
      (note (.printed banner) { clock } : Launch κ τ) = result at ends
    change (Action.after (openParts surroundings settings backend >>= fun parts =>
      runParts surroundings settings program rounds parts) _).handlings = _
    cases ends with
    | complete opens handled =>
        rw [Action.after_bind_of_ok outcome, handlings_after_runParts, handled, opens]
        rfl
    | unseen opens handled | unheard opens handled =>
        rw [Action.after_bind_of_error outcome, handled, opens]
        rfl
    | silent opens => contradiction
  · intro backend program prepared unsounded
    have ends := openingEnds surroundings settings backend
      (note (.printed banner) { clock } : Launch κ τ)
    generalize outcome : openParts surroundings settings backend
      (note (.printed banner) { clock } : Launch κ τ) = result at ends
    cases ends with
    | silent opens handled =>
        exact ⟨_, run_of_unopened prepared outcome rounds, handled⟩
    | complete opens | unseen opens | unheard opens =>
        rw [unsounded] at opens
        contradiction

end Running

/-- A program that returns from no call, on a host that refuses nothing and on one that refuses the
mixer. -/
theorem run_closes_parts_emptyReturn :
    ∃ surroundings settings,
      settings = Settings.standard "program" ∧
      (∀ name, surroundings.file name = .file [0x00, 0xEE]) ∧
      (Action.after
        (run surroundings settings [.idle])
        ({ clock := { now := 0, step := 1 } } : Launch (SteppingClock Rat) Rat)).handlings =
          roundTrip [.picture, .keypad, .speaker] ∧
      ∃ stopped,
        run
          { surroundings with host := { refuses := fun call => call = .openMixer } }
          settings [.idle]
          ({ clock := { now := 0, step := 1 } } : Launch (SteppingClock Rat) Rat) =
            .error .hostRefused stopped ∧
          stopped.handlings = [.opens .picture, .opens .keypad] := by
  refine ⟨{ installed := fun _ => true, file := fun _ => .file [0x00, 0xEE] },
    Settings.standard "program", rfl, fun _ => rfl, ?_, ?_⟩
  · have closes := (run_closes_parts (κ := SteppingClock Rat) (τ := Rat)
      { installed := fun _ => true, file := fun _ => .file [0x00, 0xEE] }
      (Settings.standard "program") [.idle] { now := 0, step := 1 }).2.1
    exact closes .window [0x00, 0xEE] (by rfl) (by decide +kernel)
  · have leaves := (run_closes_parts (κ := SteppingClock Rat) (τ := Rat)
      { host := { refuses := fun call => call = .openMixer }
        installed := fun _ => true
        file := fun _ => .file [0x00, 0xEE] }
      (Settings.standard "program") [.idle] { now := 0, step := 1 }).2.2
    exact leaves .window [0x00, 0xEE] (by rfl) (by decide +kernel)

/-- A launch does not always close what it opens. -/
theorem not_roundTrip_of_refused_mixer :
    ¬∀ (surroundings : Surroundings) (settings : Settings) (rounds : List Round),
      ∃ parts,
        (Action.after
          (run surroundings settings rounds)
          ({ clock := { now := 0, step := 1 } } : Launch (SteppingClock Rat) Rat)).handlings =
            roundTrip parts := by
  intro balanced
  obtain ⟨parts, handled⟩ := balanced
    { host := { refuses := fun call => call = .openMixer }
      installed := fun _ => true
      file := fun _ => .file [0x00, 0xEE] }
    (Settings.standard "program") []
  have left : (Action.after
      (run
        { host := { refuses := fun call => call = .openMixer }
          installed := fun _ => true
          file := fun _ => .file [0x00, 0xEE] }
        (Settings.standard "program") [])
      ({ clock := { now := 0, step := 1 } } : Launch (SteppingClock Rat) Rat)).handlings =
        [.opens .picture, .opens .keypad] := by
    decide +kernel
  rw [left] at handled
  -- What is opened first would be closed last.
  cases parts with
  | nil => contradiction
  | cons part rest =>
      have last := congrArg List.getLast? handled
      rw [roundTrip_cons, List.getLast?_concat] at last
      simp at last

end Launch
end Chip8
