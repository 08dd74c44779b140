import Chip8.Proofs.Launch.Balance
import Chip8.Proofs.Picture.Takeover

/-!
# Settings that are left open

A setting that is chosen as a command line has it by default may as well be left
open, and the launch is the same. Two settings are no part of this: without a
keymap no keypad opens, and a terminal is handed its cursor's visibility as it
was chosen, also where that was left out, and may refuse it.
-/

namespace Chip8

namespace Choice

variable {Value Other : Type} {standard given left : Choice Value}

/-- One choice is another, or leaves it open where that is the standard one. -/
def LeftOpen (standard given left : Choice Value) : Prop :=
  left = given ∨ given = standard ∧ left = .unset

theorem LeftOpen.map (opened : LeftOpen standard given left) (change : Value -> Other) :
    LeftOpen (standard.map change) (given.map change) (left.map change) := by
  obtain rfl | ⟨rfl, rfl⟩ := opened
  · exact .inl rfl
  · exact .inr ⟨rfl, rfl⟩

/-- What is open by default can only be left as it is. -/
theorem LeftOpen.eq_of_unset (opened : LeftOpen .unset given left) : left = given := by
  obtain same | ⟨rfl, rfl⟩ := opened
  · exact same
  · rfl

/-- Where the default is resolved, leaving it open makes no difference. -/
theorem LeftOpen.resolve_eq {value : Value} (opened : LeftOpen (.value value) given left) :
    left.resolve value = given.resolve value := by
  obtain rfl | ⟨rfl, rfl⟩ := opened
  · rfl
  · rfl

end Choice

namespace Settings

theorem chosen_eq_of_leftOpen
    {given left : Choice Int}
    (opened : Choice.LeftOpen (.value 0) given left) :
    chosen left = chosen given := by
  obtain rfl | ⟨rfl, rfl⟩ := opened
  · rfl
  · rfl

/-- Settings that are others, but for some that are left open where a command line would have them
by default. -/
structure LeavesOpen (given left : Settings) : Prop where
  filename : left.filename = given.filename
  renderer : Choice.LeftOpen (standard given.filename).renderer given.renderer left.renderer
  scale : Choice.LeftOpen (standard given.filename).scale given.scale left.scale
  tickRate : Choice.LeftOpen (standard given.filename).tickRate given.tickRate left.tickRate
  stepsPerTick :
    Choice.LeftOpen (standard given.filename).stepsPerTick given.stepsPerTick left.stepsPerTick
  tone : Choice.LeftOpen (standard given.filename).tone given.tone left.tone
  mute : Choice.LeftOpen (standard given.filename).mute given.mute left.mute
  keymap : Choice.LeftOpen (standard given.filename).keymap given.keymap left.keymap
  cursorMode : Choice.LeftOpen (standard given.filename).cursorMode given.cursorMode left.cursorMode
  palette : Choice.LeftOpen (standard given.filename).palette given.palette left.palette
  highBitFlag :
    Choice.LeftOpen (standard given.filename).highBitFlag given.highBitFlag left.highBitFlag

end Settings

namespace Launch

variable {κ τ : Type} {surroundings : Surroundings} {backend : Backend} {given left : Settings}

theorem console_eq_of_leavesOpen
    (leaves : given.LeavesOpen left)
    (surroundings : Surroundings) :
    console surroundings left = console surroundings given := by
  simp only [console, Settings.chosen_eq_of_leftOpen leaves.highBitFlag]

theorem groundwork_eq_of_leavesOpen
    (leaves : given.LeavesOpen left)
    (surroundings : Surroundings) :
    groundwork surroundings left = groundwork surroundings given := by
  simp only [groundwork, readProgram, leaves.filename, leaves.renderer.eq_of_unset]

theorem choose_of_groundwork
    {program : List UInt8}
    (prepared : groundwork surroundings given = .ok (backend, program)) :
    Backend.choose surroundings.installed given.renderer = .ok backend := by
  unfold groundwork at prepared
  cases chosen : Backend.choose surroundings.installed given.renderer with
  | error fault => simp [chosen, bind, Except.bind] at prepared
  | ok found =>
      cases read : readProgram surroundings given with
      | error fault => simp [chosen, read, bind, Except.bind] at prepared
      | ok content =>
          simp only [chosen, read, bind, Except.bind, pure, Except.pure] at prepared
          cases prepared
          rfl

/-- The picture opens as it would, unless it is a terminal's and its cursor was left open. -/
theorem pictureOpening_eq_of_leavesOpen
    (leaves : given.LeavesOpen left)
    (cursor : left.cursorMode = given.cursorMode ∨ backend ≠ .terminal)
    (surroundings : Surroundings) :
    pictureOpening surroundings left backend = pictureOpening surroundings given backend := by
  unfold pictureOpening
  rw [leaves.scale.eq_of_unset, leaves.palette.eq_of_unset]
  obtain same | other := cursor
  · rw [same]
  · cases backend with
    | headless => rfl
    | window => rfl
    | terminal => contradiction

theorem openPicture_eq_of_leavesOpen
    (leaves : given.LeavesOpen left)
    (cursor : left.cursorMode = given.cursorMode ∨ backend ≠ .terminal)
    (surroundings : Surroundings) :
    (openPicture surroundings left backend : Action (Launch κ τ) Picture) =
      openPicture surroundings given backend := by
  have opening := pictureOpening_eq_of_leavesOpen leaves cursor surroundings
  unfold pictureOpening at opening
  funext launch
  simp only [openPicture, opening]

/-- A terminal that opens with the cursor that was given, but refuses to be handed none, is taken
over and its picture does not open. -/
theorem pictureOpening_of_refused_cursor
    {picture : Picture}
    (leaves : given.LeavesOpen left)
    (cursor : left.cursorMode = .unset)
    (shows : (pictureOpening surroundings given .terminal).outcome = .ok picture)
    (refused : surroundings.host.refuses (.setCursor .unset) = true) :
    pictureOpening surroundings left .terminal =
        ⟨[.openScreen, .setCursor .unset], .error .hostRefused⟩ ∧
      TerminalMode.original.afterAll surroundings.host [.openScreen, .setCursor .unset] =
        { TerminalMode.original with taken := true } := by
  simp only [pictureOpening, Backend.openPicture] at shows ⊢
  rw [cursor, leaves.scale.eq_of_unset]
  exact Picture.openTerminal_of_refused_cursor shows refused

section Opening

variable [TimeScale τ]

/-- Where the picture does not open, nothing asks for a keymap. -/
theorem openParts_eq_of_unseen
    {fault : Fault}
    (leaves : given.LeavesOpen left)
    (cursor : left.cursorMode = given.cursorMode ∨ backend ≠ .terminal)
    (unseen : (pictureOpening surroundings given backend).outcome = .error fault)
    (launch : Launch κ τ) :
    openParts surroundings left backend launch = openParts surroundings given backend launch := by
  have fails := openPicture_of_error unseen launch
  have failsToo : openPicture surroundings left backend launch = .error fault _ :=
    (congrFun (openPicture_eq_of_leavesOpen leaves cursor surroundings) launch).trans fails
  exact (Action.bind_eq_error.mpr (.inl failsToo)).trans
    (Action.bind_eq_error.mpr (.inl fails)).symm

theorem openParts_eq_of_leavesOpen
    (leaves : given.LeavesOpen left)
    (keymap : left.keymap = given.keymap)
    (cursor : left.cursorMode = given.cursorMode ∨ backend ≠ .terminal)
    (surroundings : Surroundings) :
    (openParts surroundings left backend : Action (Launch κ τ) (Parts τ)) =
      openParts surroundings given backend := by
  have shows : (openPicture surroundings left backend : Action (Launch κ τ) Picture) =
      openPicture surroundings given backend :=
    openPicture_eq_of_leavesOpen leaves cursor surroundings
  have hears : (openKeypad surroundings left backend :
      Picture -> Action (Launch κ τ) (Keypad τ)) = openKeypad surroundings given backend := by
    funext picture launch
    simp only [openKeypad, keymap]
  have sounds : (openSpeaker surroundings left backend : Action (Launch κ τ) Speaker) =
      openSpeaker surroundings given backend := by
    simp only [openSpeaker, leaves.mute.eq_of_unset]
  simp only [openParts, shows, hears, sounds]

/-- No keypad opens without a keymap. -/
theorem keypadOpening_of_unset (keymap : left.keymap = .unset) :
    (keypadOpening τ surroundings left backend).outcome = .error .keymapMissing := by
  simp [keypadOpening, Keypad.openFor, Keymap.open?, keymap, Opening.refused]

end Opening

section Running

variable [Clock κ τ] [TimeScale τ] [Div τ] [LE τ] [DecidableLE τ]

/-- The machine and its session are set up as they would be, whatever was left open. -/
theorem startSession_eq_of_leavesOpen
    (leaves : given.LeavesOpen left)
    (surroundings : Surroundings) :
    (startSession surroundings left : List UInt8 -> Parts τ -> Action κ (Session τ)) =
      startSession surroundings given := by
  have rate := (leaves.tickRate.map (TickRate.whole (τ := τ))).resolve_eq
  have steps := leaves.stepsPerTick.resolve_eq
  have tone := leaves.tone.resolve_eq
  have console := console_eq_of_leavesOpen leaves surroundings
  funext program parts clock
  simp only [startSession, sessionAt, Session.start, pace, devices, Session.checkRate,
    Session.checkSteps, rate, steps, tone, console]

variable [Add τ] [Sub τ] [LT τ] [DecidableLT τ]

theorem runParts_eq_of_leavesOpen
    (leaves : given.LeavesOpen left)
    (surroundings : Surroundings) :
    (runParts surroundings left :
      List UInt8 -> List Round -> Parts τ -> Action (Launch κ τ) Unit) =
      runParts surroundings given := by
  have starts := startSession_eq_of_leavesOpen (κ := κ) (τ := τ) leaves surroundings
  funext program rounds parts launch
  simp only [runParts, starts]

/-- The launch is the same where the cursor of a terminal is not left open, and neither is the
keymap unless no picture opens. -/
theorem run_eq_of_leavesOpen
    (leaves : given.LeavesOpen left)
    (keymap : left.keymap = given.keymap ∨
      ∀ backend picture,
        Backend.choose surroundings.installed given.renderer = .ok backend ->
        (pictureOpening surroundings given backend).outcome ≠ .ok picture)
    (cursor : left.cursorMode = given.cursorMode ∨
      Backend.choose surroundings.installed given.renderer ≠ .ok .terminal)
    (rounds : List Round)
    (launch : Launch κ τ) :
    run surroundings left rounds launch = run surroundings given rounds launch := by
  rw [run_eq, run_eq, groundwork_eq_of_leavesOpen leaves surroundings]
  cases prepared : groundwork surroundings given with
  | error fault => rfl
  | ok found =>
      obtain ⟨backend, program⟩ := found
      have chosen := choose_of_groundwork prepared
      have opens : left.cursorMode = given.cursorMode ∨ backend ≠ .terminal := by
        rw [chosen] at cursor
        exact cursor.imp id fun other same => other (congrArg _ same)
      have opened : openParts surroundings left backend (launch.note (.printed banner)) =
          openParts surroundings given backend (launch.note (.printed banner)) := by
        obtain same | unseen := keymap
        · rw [openParts_eq_of_leavesOpen leaves same opens surroundings]
        · cases shows : (pictureOpening surroundings given backend).outcome with
          | ok picture => exact absurd shows (unseen backend picture chosen)
          | error fault => exact openParts_eq_of_unseen leaves opens shows _
      change EStateM.bind _ _ _ = EStateM.bind _ _ _
      simp only [EStateM.bind, opened, runParts_eq_of_leavesOpen leaves surroundings]

/-- A launch without a keymap ends at its keypad, and the picture is closed again. -/
theorem run_of_unset_keymap
    {program : List UInt8}
    {picture : Picture}
    (keymap : left.keymap = .unset)
    (prepared : groundwork surroundings left = .ok (backend, program))
    (shows : (pictureOpening surroundings left backend).outcome = .ok picture)
    (rounds : List Round)
    (launch : Launch κ τ) :
    ∃ stopped,
      run surroundings left rounds launch = .error .keymapMissing stopped ∧
        stopped.handlings = launch.handlings ++ [.opens .picture, .closes .picture] := by
  have printed := exists_openPicture_of_ok shows (launch.note (.printed banner))
  obtain ⟨shown, showing, before⟩ := printed
  obtain ⟨stopped, fails, handled⟩ :=
    exists_openKeypad_of_error (keypadOpening_of_unset (τ := τ) keymap) picture shown
  refine ⟨stopped, ?_, ?_⟩
  · have ended : openParts surroundings left backend (launch.note (.printed banner)) =
        .error .keymapMissing stopped :=
      Action.bind_eq_error.mpr
        (.inr ⟨picture, shown, showing, Action.bind_eq_error.mpr (.inl fails)⟩)
    exact run_of_unopened prepared ended rounds
  · simp [handled, before, Entry.handling?]

/-- A launch whose picture does not open ends there, and nothing is closed. -/
theorem run_of_refused_picture
    {program : List UInt8}
    {fault : Fault}
    {settings : Settings}
    (prepared : groundwork surroundings settings = .ok (backend, program))
    (refused : (pictureOpening surroundings settings backend).outcome = .error fault)
    (rounds : List Round)
    (launch : Launch κ τ) :
    run surroundings settings rounds launch =
      .error fault ((launch.note (.printed banner)).noteCalls
        (pictureOpening surroundings settings backend).calls) := by
  have stops := openPicture_of_error refused (launch.note (.printed banner))
  have ended : openParts surroundings settings backend (launch.note (.printed banner)) =
      .error fault _ := Action.bind_eq_error.mpr (.inl stops)
  exact run_of_unopened prepared ended rounds

/-- A launch without a cursor ends at a terminal that refuses to be handed none, and leaves it taken
over. -/
theorem run_of_refused_cursor
    {program : List UInt8}
    {picture : Picture}
    (leaves : given.LeavesOpen left)
    (cursor : left.cursorMode = .unset)
    (refused : surroundings.host.refuses (.setCursor .unset) = true)
    (prepared : groundwork surroundings given = .ok (.terminal, program))
    (shows : (pictureOpening surroundings given .terminal).outcome = .ok picture)
    (rounds : List Round)
    (launch : Launch κ τ) :
    run surroundings left rounds launch =
        .error .hostRefused
          ((launch.note (.printed banner)).noteCalls [.openScreen, .setCursor .unset]) ∧
      TerminalMode.original.afterAll surroundings.host [.openScreen, .setCursor .unset] =
        { TerminalMode.original with taken := true } := by
  obtain ⟨stops, mode⟩ := pictureOpening_of_refused_cursor leaves cursor shows refused
  rw [← groundwork_eq_of_leavesOpen leaves surroundings] at prepared
  have fails : (pictureOpening surroundings left .terminal).outcome = .error .hostRefused :=
    congrArg Opening.outcome stops
  refine ⟨?_, mode⟩
  rw [run_of_refused_picture prepared fails, stops]

end Running

/-- A terminal that opens was handed its cursor's visibility as it was chosen, if it was. -/
theorem setCursor_mem_of_opens
    {settings : Settings}
    {picture : Picture}
    (shows : (pictureOpening surroundings settings .terminal).outcome = .ok picture) :
    .setCursor settings.cursorMode ∈ (pictureOpening surroundings settings .terminal).calls := by
  have ends := Picture.openTerminal_takeover surroundings.host settings.scale settings.cursorMode
  simp only [pictureOpening, Backend.openPicture] at shows ⊢
  generalize Picture.openTerminal surroundings.host settings.scale settings.cursorMode = opening
    at ends shows ⊢
  cases ends with
  | refused | broken => contradiction
  | opened => simp [Picture.terminalPlan]

section Running

variable [Clock κ τ] [TimeScale τ] [Add τ] [Sub τ] [Div τ]
  [LE τ] [DecidableLE τ] [LT τ] [DecidableLT τ]

/-- Settings left open where a command line has them by default. The machine and its session are
always set up as they would be, and so is everything else unless the cursor of a terminal is left
open, or the keymap and a picture opens. Without a keymap the launch then ends at its keypad.
Without a cursor a terminal that opens was handed a visibility that was left out; one that refuses
to be handed it does not open, and the launch ends at its picture with the terminal taken over and
no part closed. -/
theorem run_leaving_open
    {given left : Settings}
    (leaves : given.LeavesOpen left)
    (surroundings : Surroundings)
    (rounds : List Round)
    (launch : Launch κ τ) :
    ((left.keymap = given.keymap ∨
        ∀ backend picture,
          Backend.choose surroundings.installed given.renderer = .ok backend ->
          (pictureOpening surroundings given backend).outcome ≠ .ok picture) ->
      (left.cursorMode = given.cursorMode ∨
        Backend.choose surroundings.installed given.renderer ≠ .ok .terminal) ->
      run surroundings left rounds launch = run surroundings given rounds launch) ∧
    (∀ program (parts : Parts τ) (clock : κ),
      startSession surroundings left program parts clock =
        startSession surroundings given program parts clock) ∧
    (left.keymap = .unset ->
      ∀ backend program picture,
        groundwork surroundings given = .ok (backend, program) ->
        (pictureOpening surroundings left backend).outcome = .ok picture ->
        ∃ stopped,
          run surroundings left rounds launch = .error .keymapMissing stopped ∧
            stopped.handlings = launch.handlings ++ [.opens .picture, .closes .picture]) ∧
    (left.cursorMode = .unset ->
      ∀ picture,
        (pictureOpening surroundings left .terminal).outcome = .ok picture ->
        .setCursor .unset ∈ (pictureOpening surroundings left .terminal).calls) ∧
    (left.cursorMode = .unset ->
      surroundings.host.refuses (.setCursor .unset) = true ->
      ∀ program picture,
        groundwork surroundings given = .ok (.terminal, program) ->
        (pictureOpening surroundings given .terminal).outcome = .ok picture ->
        run surroundings left rounds launch =
            .error .hostRefused
              ((launch.note (.printed banner)).noteCalls [.openScreen, .setCursor .unset]) ∧
          TerminalMode.original.afterAll surroundings.host [.openScreen, .setCursor .unset] =
            { TerminalMode.original with taken := true }) := by
  refine ⟨?_, ?_, ?_, ?_, ?_⟩
  · intro keymap cursor
    exact run_eq_of_leavesOpen leaves keymap cursor rounds launch
  · intro program parts clock
    rw [startSession_eq_of_leavesOpen leaves surroundings]
  · intro keymap backend program picture prepared shows
    rw [← groundwork_eq_of_leavesOpen leaves surroundings] at prepared
    exact run_of_unset_keymap keymap prepared shows rounds launch
  · intro cursor picture shows
    have handed := setCursor_mem_of_opens shows
    rwa [cursor] at handed
  · intro cursor refused program picture prepared shows
    exact run_of_refused_cursor leaves cursor refused prepared shows rounds launch

end Running

/-- The settings of a command line that names the headless backend. -/
def headlessSettings : Settings :=
  { Settings.standard "program" with renderer := .value "null" }

theorem leavesOpen_standard (filename : String) (renderer : Choice String) :
    Settings.LeavesOpen { Settings.standard filename with renderer } { filename, renderer } where
  filename := rfl
  renderer := .inl rfl
  scale := .inl rfl
  tickRate := .inr ⟨rfl, rfl⟩
  stepsPerTick := .inr ⟨rfl, rfl⟩
  tone := .inr ⟨rfl, rfl⟩
  mute := .inl rfl
  keymap := .inr ⟨rfl, rfl⟩
  cursorMode := .inr ⟨rfl, rfl⟩
  palette := .inl rfl
  highBitFlag := .inr ⟨rfl, rfl⟩

theorem leavesOpen_headless :
    headlessSettings.LeavesOpen { filename := "program", renderer := .value "null" } :=
  leavesOpen_standard "program" (.value "null")

/-- A headless launch with everything left open but the keymap, one with the keymap left open too,
and one with everything left open on a terminal that refuses to be handed no visibility of its
cursor. -/
theorem run_leaving_open_headless_terminal :
    ∃ (surroundings : Surroundings) (left : Settings),
      headlessSettings.LeavesOpen left ∧
      left.keymap = .value Keymap.standardText ∧
      left.tickRate = .unset ∧
      (∀ rounds (launch : Launch (SteppingClock Rat) Rat),
        run surroundings left rounds launch = run surroundings headlessSettings rounds launch) ∧
      (∀ rounds (launch : Launch (SteppingClock Rat) Rat),
        ∃ stopped,
          run surroundings { left with keymap := .unset } rounds launch =
            .error .keymapMissing stopped) ∧
      ∀ rounds (launch : Launch (SteppingClock Rat) Rat),
        run
            { surroundings with host := { refuses := fun call => call = .setCursor .unset } }
            { filename := "program", renderer := .value "curses" } rounds launch =
          .error .hostRefused
            ((launch.note (.printed banner)).noteCalls [.openScreen, .setCursor .unset]) := by
  refine ⟨{ installed := fun _ => true, file := fun _ => .file [0x00, 0xEE] },
    { filename := "program", renderer := .value "null", keymap := .value Keymap.standardText },
    { leavesOpen_headless with keymap := .inl rfl }, rfl, rfl, ?_, ?_, ?_⟩
  · intro rounds launch
    have leaves : headlessSettings.LeavesOpen
        { filename := "program", renderer := .value "null", keymap := .value Keymap.standardText } :=
      { leavesOpen_headless with keymap := .inl rfl }
    have chosen : Backend.choose (fun _ => true) headlessSettings.renderer = .ok .headless := by rfl
    exact (run_leaving_open leaves _ rounds launch).1 (.inl rfl) (.inr (by simp [chosen]))
  · intro rounds launch
    obtain ⟨stopped, ended, -⟩ :=
      (run_leaving_open leavesOpen_headless
        { installed := fun _ => true, file := fun _ => .file [0x00, 0xEE] } rounds launch).2.2.1 rfl
        .headless [0x00, 0xEE] _ (by rfl) (by rfl)
    exact ⟨stopped, ended⟩
  · intro rounds launch
    obtain ⟨-, -, -, -, ends⟩ := run_leaving_open
      (leavesOpen_standard "program" (.value "curses"))
      { host := { refuses := fun call => call = .setCursor .unset }
        installed := fun _ => true
        file := fun _ => .file [0x00, 0xEE] } rounds launch
    exact (ends rfl (by rfl) [0x00, 0xEE] _ (by rfl) (by rfl)).1

/-- A launch is not always the same where settings are left open that hold their defaults. -/
theorem not_run_eq_of_unset_keymap :
    ¬∀ (given left : Settings) (surroundings : Surroundings) (rounds : List Round)
      (launch : Launch (SteppingClock Rat) Rat),
      given.LeavesOpen left ->
        run surroundings left rounds launch = run surroundings given rounds launch := by
  intro same
  have launched := same headlessSettings { filename := "program", renderer := .value "null" }
    { installed := fun _ => true, file := fun _ => .file [0x00, 0xEE] } []
    { clock := { now := 0, step := 1 } } leavesOpen_headless
  have handled := congrArg (fun result => match result with
    | .ok _ final => final.handlings
    | .error _ stopped => stopped.handlings) launched
  exact absurd handled (by decide +kernel)

end Launch
end Chip8
