import Chip8.Picture

/-!
# How a terminal is taken over and given back

A terminal is taken over when its picture is opened, and the picture, whatever it
has shown since, gives it back when it is closed, also where the terminal refuses to
show its cursor again. An opening that stops at a call that is refused does not
close the picture, for there is none: the terminal stays as the calls before have
left it, and has been given back only if it was never taken over.
-/

namespace Chip8

/-- How a terminal stands. -/
structure TerminalMode where
  /-- Whether a program has taken it over. -/
  taken : Bool
  /-- Whether it shows what is typed. -/
  echo : Bool
  /-- Whether it hands over whole lines. -/
  lines : Bool
  deriving DecidableEq, Repr

namespace TerminalMode

/-- A terminal that no program has taken over yet. -/
def original : TerminalMode where
  taken := false
  echo := true
  lines := true

/-- How a terminal stands after a call. -/
def after (mode : TerminalMode) : HostCall -> TerminalMode
  | .openScreen => { mode with taken := true }
  | .closeScreen => { mode with taken := false }
  | .echoOff => { mode with echo := false }
  | .echoOn => { mode with echo := true }
  | .lineModeOff => { mode with lines := false }
  | .lineModeOn => { mode with lines := true }
  | _ => mode

/-- How a terminal stands after calls on a host; a call that is refused does nothing. -/
def afterAll (host : Host) (mode : TerminalMode) (calls : List HostCall) : TerminalMode :=
  (calls.filter fun call => !host.refuses call).foldl after mode

end TerminalMode

/-- Something to be shown by a picture. -/
inductive Request
  | title (host : Host) (text : String)
  | frame (host : Host) (frame : Frame)

namespace Request

/-- The calls that show it, and the picture then. -/
def perform (picture : Picture) : Request -> List HostCall × Except Fault Picture
  | .title host text =>
      match picture.checkTitle host with
      | .error fault => ([], .error fault)
      | .ok () => (picture.titleCalls text, .ok (picture.entitle text))
  | .frame host content => picture.present host content

/-- The picture after it was shown; what is refused leaves the picture as it was. -/
def after (picture : Picture) (request : Request) : Picture :=
  match (request.perform picture).2 with
  | .ok shown => shown
  | .error _ => picture

end Request

namespace Picture

/-- The calls that show one thing after the other, and the picture then. -/
def serve (picture : Picture) : List Request -> List HostCall × Picture
  | [] => ([], picture)
  | request :: rest =>
      let (calls, shown) := (request.after picture).serve rest
      ((request.perform picture).1 ++ calls, shown)

end Picture

/-- How opening the picture of a terminal ends. -/
inductive Takeover (host : Host) (scale cursor : Choice Int) : Opening Picture -> Prop
  /-- A picture cannot have the scale, or the host has no room for the blanks of a cell. -/
  | refused (fault : Fault)
      (unscaled : ∀ size : Nat, Picture.checkScale 2 scale = .ok size -> ¬host.HasRoom size) :
      Takeover host scale cursor (.refused fault)
  /-- The host refuses a call. -/
  | broken (size : Nat) (made : List HostCall) (call : HostCall) (rest : List HostCall)
      (sized : Picture.checkScale 2 scale = .ok size)
      (fits : host.HasRoom size)
      (planned : Picture.terminalPlan size cursor = made ++ call :: rest)
      (accepts : ∀ call ∈ made, host.refuses call = false)
      (refused : host.refuses call = true) :
      Takeover host scale cursor ⟨made ++ [call], .error .hostRefused⟩
  /-- The host makes all calls. -/
  | opened (size : Nat)
      (sized : Picture.checkScale 2 scale = .ok size)
      (fits : host.HasRoom size)
      (accepts : ∀ call ∈ Picture.terminalPlan size cursor, host.refuses call = false) :
      Takeover host scale cursor
        ⟨Picture.terminalPlan size cursor,
          .ok { surface := .terminal cursor (-1, -1), scale := size }⟩

/-- A call leaves the terminal as it stands. -/
def HostCall.KeepsMode (call : HostCall) : Prop :=
  ∀ mode : TerminalMode, mode.after call = mode

/-- A host may refuse to show or hide the cursor of its terminal, and refuses nothing else. -/
def Host.RefusesCursorOnly (host : Host) : Prop :=
  ∀ call, host.refuses call = true -> ∃ visibility, call = .setCursor visibility

variable {picture : Picture} {host : Host} {mode : TerminalMode} {call : HostCall}
  {calls made : List HostCall} {scale cursor : Choice Int} {seen : Int × Int}

/-! ## What calls do to the terminal -/

theorem Host.RefusesCursorOnly.accepts
    (cursorOnly : host.RefusesCursorOnly)
    (other : ∀ visibility, call ≠ .setCursor visibility) :
    host.refuses call = false := by
  cases answer : host.refuses call with
  | false => rfl
  | true =>
      obtain ⟨visibility, same⟩ := cursorOnly call answer
      exact absurd same (other visibility)

namespace TerminalMode

@[simp] theorem afterAll_nil (host : Host) (mode : TerminalMode) :
    mode.afterAll host [] = mode := rfl

theorem afterAll_cons_of_accepts (accepted : host.refuses call = false) (calls : List HostCall) :
    mode.afterAll host (call :: calls) = (mode.after call).afterAll host calls := by
  simp [afterAll, accepted]

theorem afterAll_cons_of_refuses (refused : host.refuses call = true) (calls : List HostCall) :
    mode.afterAll host (call :: calls) = mode.afterAll host calls := by
  simp [afterAll, refused]

theorem afterAll_of_accepts (accepts : ∀ call ∈ calls, host.refuses call = false) :
    mode.afterAll host calls = calls.foldl after mode := by
  have made : calls.filter (fun call => !host.refuses call) = calls := by
    simpa [List.filter_eq_self] using accepts
  rw [afterAll, made]

theorem afterAll_cons_of_keepsMode (keeps : call.KeepsMode) (calls : List HostCall) :
    mode.afterAll host (call :: calls) = mode.afterAll host calls := by
  cases answer : host.refuses call with
  | true => exact afterAll_cons_of_refuses answer calls
  | false => rw [afterAll_cons_of_accepts answer, keeps]

theorem afterAll_of_keepsMode (keep : ∀ call ∈ calls, call.KeepsMode) :
    mode.afterAll host calls = mode := by
  induction calls with
  | nil => rfl
  | cons call rest hypothesis =>
      obtain ⟨first, others⟩ := List.forall_mem_cons.mp keep
      rw [afterAll_cons_of_keepsMode first, hypothesis others]

theorem taken_after (taken : mode.taken = true) (keeps : call ≠ .closeScreen) :
    (mode.after call).taken = true := by
  unfold after
  split <;> first | exact taken | rfl | contradiction

/-- A terminal that was taken over stays so until it is given back. -/
theorem taken_afterAll
    (taken : mode.taken = true)
    (keeps : ∀ call ∈ calls, call ≠ .closeScreen) :
    (mode.afterAll host calls).taken = true := by
  induction calls generalizing mode with
  | nil => exact taken
  | cons call rest hypothesis =>
      obtain ⟨first, others⟩ := List.forall_mem_cons.mp keeps
      cases answer : host.refuses call with
      | true =>
          rw [afterAll_cons_of_refuses answer]
          exact hypothesis taken others
      | false =>
          rw [afterAll_cons_of_accepts answer]
          exact hypothesis (taken_after taken first) others

/-- A terminal whose cursor is refused was taken over by the call before. -/
theorem afterAll_of_refused_cursor
    (opens : host.refuses .openScreen = false)
    (refused : host.refuses (.setCursor cursor) = true) :
    original.afterAll host [.openScreen, .setCursor cursor] = { original with taken := true } := by
  rw [afterAll_cons_of_accepts opens, afterAll_cons_of_refuses refused]
  rfl

end TerminalMode

/-! ## Showing something leaves the terminal as it stands -/

namespace Picture

theorem keepsMode_of_mem_titleCalls
    {text : String}
    (member : call ∈ picture.titleCalls text) :
    call.KeepsMode := by
  unfold titleCalls at member
  split at member
  · contradiction
  · obtain rfl := List.mem_singleton.mp member
    exact fun _ => rfl
  · obtain rfl := List.mem_singleton.mp member
    exact fun _ => rfl

theorem keepsMode_of_mem_drawCalls
    {frame : Frame}
    (member : call ∈ picture.drawCalls frame) :
    call.KeepsMode := by
  unfold drawCalls at member
  split at member
  · contradiction
  · rcases List.mem_cons.mp member with rfl | cell
    · exact fun _ => rfl
    · obtain ⟨cell, -, rfl⟩ := List.mem_map.mp cell
      exact fun _ => rfl
  · obtain ⟨cell, -, rfl⟩ := List.mem_map.mp member
    exact fun _ => rfl

theorem keepsMode_of_mem_showCalls (member : call ∈ picture.showCalls host) : call.KeepsMode := by
  unfold showCalls at member
  split at member
  · contradiction
  · obtain rfl := List.mem_singleton.mp member
    exact fun _ => rfl
  · rcases eq_of_mem_showPad member with rfl | rfl | rfl | rfl <;> exact fun _ => rfl

end Picture

namespace Request

theorem keepsMode_of_mem_perform
    {request : Request}
    (member : call ∈ (request.perform picture).1) :
    call.KeepsMode := by
  cases request with
  | title host text =>
      cases checked : picture.checkTitle host with
      | error =>
          simp only [perform, checked] at member
          contradiction
      | ok =>
          simp only [perform, checked] at member
          exact Picture.keepsMode_of_mem_titleCalls member
  | frame host content =>
      simp only [perform, Picture.present] at member
      split at member
      · exact Picture.keepsMode_of_mem_drawCalls member
      · rcases List.mem_append.mp member with draws | shows
        · exact Picture.keepsMode_of_mem_drawCalls draws
        · exact Picture.keepsMode_of_mem_showCalls shows

/-- A picture is closed by the same calls, whatever it has shown. -/
theorem closeCalls_after (picture : Picture) (request : Request) :
    (request.after picture).closeCalls = picture.closeCalls := by
  cases request with
  | title host text =>
      simp only [after, perform]
      cases picture.checkTitle host with
      | error => rfl
      | ok => rfl
  | frame host content =>
      simp only [after, perform, Picture.present]
      split
      · rename_i shown ends
        split at ends
        · contradiction
        · obtain rfl := Except.ok.inj ends
          simp only [Picture.closeCalls, Picture.shownSurface]
          cases picture.surface <;> rfl
      · rfl

end Request

namespace Picture

theorem keepsMode_of_mem_serve
    {requests : List Request}
    (member : call ∈ (picture.serve requests).1) :
    call.KeepsMode := by
  induction requests generalizing picture with
  | nil => contradiction
  | cons request rest hypothesis =>
      rcases List.mem_append.mp member with first | later
      · exact request.keepsMode_of_mem_perform first
      · exact hypothesis later

theorem closeCalls_serve (picture : Picture) (requests : List Request) :
    (picture.serve requests).2.closeCalls = picture.closeCalls := by
  induction requests generalizing picture with
  | nil => rfl
  | cons request rest hypothesis =>
      exact (hypothesis (request.after picture)).trans (request.closeCalls_after picture)

/-! ## Closing the picture gives the terminal back -/

theorem closeCalls_of_terminal (terminal : picture.surface = .terminal cursor seen) :
    picture.closeCalls =
      .lineModeOn :: .echoOn ::
        ((if cursor = .value 1 then [] else [.setCursor (.value 1)]) ++ [.closeScreen]) := by
  simp only [closeCalls, terminal, List.cons_append, List.nil_append]

/-- Whatever was done to a terminal, closing its picture undoes it. -/
theorem afterAll_closeCalls
    (terminal : picture.surface = .terminal cursor seen)
    (cursorOnly : host.RefusesCursorOnly)
    (mode : TerminalMode) :
    mode.afterAll host picture.closeCalls = .original := by
  have lines : host.refuses .lineModeOn = false := cursorOnly.accepts (by simp)
  have echo : host.refuses .echoOn = false := cursorOnly.accepts (by simp)
  have ends : host.refuses .closeScreen = false := cursorOnly.accepts (by simp)
  rw [closeCalls_of_terminal terminal, TerminalMode.afterAll_cons_of_accepts lines,
    TerminalMode.afterAll_cons_of_accepts echo]
  split
  · rw [List.nil_append, TerminalMode.afterAll_cons_of_accepts ends]
    rfl
  · have keeps : (HostCall.setCursor (.value 1)).KeepsMode := fun _ => rfl
    rw [List.cons_append, TerminalMode.afterAll_cons_of_keepsMode keeps, List.nil_append,
      TerminalMode.afterAll_cons_of_accepts ends]
    rfl

/-! ## Opening the picture -/

theorem openTerminal_takeover (host : Host) (scale cursor : Choice Int) :
    Takeover host scale cursor (openTerminal host scale cursor) := by
  unfold openTerminal
  split
  · rename_i fault unsized
    refine .refused fault fun size sized => ?_
    rw [unsized] at sized
    contradiction
  · rename_i size sized
    have same : ∀ other, checkScale 2 scale = .ok other -> other = size := by
      intro other again
      exact Except.ok.inj (again.symm.trans sized)
    split
    · rename_i large
      refine .refused _ fun other again room => ?_
      rw [same other again] at room
      exact absurd room.1 (Int.not_le.mpr large)
    · rename_i sizeable
      split
      · rename_i crowded
        refine .refused _ fun other again room => ?_
        rw [same other again] at room
        exact absurd room.2 (Int.not_le.mpr crowded)
      · rename_i fits
        have room : host.HasRoom size := ⟨Int.not_lt.mp sizeable, Int.not_lt.mp fits⟩
        let picture : Picture := { surface := .terminal cursor (-1, -1), scale := size }
        rcases host.openWith_cases (terminalPlan size cursor) picture with
          ⟨accepts, opens⟩ | ⟨made, call, rest, planned, accepts, refused, opens⟩
        · rw [opens]
          exact .opened size sized room accepts
        · rw [opens]
          exact .broken size made call rest sized room planned accepts refused

/-- Of the calls that take a terminal over, just the second one chooses its cursor. -/
theorem eq_of_setCursor_planned
    {size : Nat}
    {visibility : Choice Int}
    {rest : List HostCall}
    (planned : terminalPlan size cursor = made ++ .setCursor visibility :: rest) :
    made = [.openScreen] ∧ visibility = cursor := by
  unfold terminalPlan at planned
  rcases made with _ | ⟨first, _ | ⟨second, more⟩⟩
  · simp at planned
  · simp only [List.cons_append, List.nil_append, List.cons.injEq, HostCall.setCursor.injEq]
      at planned
    obtain ⟨opens, chosen, -⟩ := planned
    exact ⟨congrArg ([·]) opens.symm, chosen.symm⟩
  · simp only [List.cons_append, List.cons.injEq] at planned
    obtain ⟨-, -, later⟩ := planned
    have among : .setCursor visibility ∈ more ++ .setCursor visibility :: rest :=
      List.mem_append_right _ List.mem_cons_self
    rw [← later] at among
    simp at among

/-- A terminal that opens with one cursor and refuses another does not open with the other. -/
theorem openTerminal_of_refused_cursor
    {other : Choice Int}
    (opens : (openTerminal host scale cursor).outcome = .ok picture)
    (refused : host.refuses (.setCursor other) = true) :
    openTerminal host scale other = ⟨[.openScreen, .setCursor other], .error .hostRefused⟩ ∧
      TerminalMode.original.afterAll host [.openScreen, .setCursor other] =
        { TerminalMode.original with taken := true } := by
  have ends := openTerminal_takeover host scale cursor
  generalize openTerminal host scale cursor = opening at ends opens
  cases ends with
  | refused | broken => contradiction
  | opened size sized fits accepts =>
      have first : host.refuses .openScreen = false := accepts _ List.mem_cons_self
      refine ⟨?_, TerminalMode.afterAll_of_refused_cursor first refused⟩
      have before : ∀ call ∈ [HostCall.openScreen], host.refuses call = false :=
        List.forall_mem_singleton.mpr first
      simp only [openTerminal, sized, if_neg (Int.not_lt.mpr fits.1),
        if_neg (Int.not_lt.mpr fits.2)]
      exact Host.openWith_of_refuses before refused _ _

/-- An opening that stopped at a call leaves the terminal to itself only if that call was the one
that takes it over. -/
theorem afterAll_broken_iff
    {size : Nat}
    {rest : List HostCall}
    (planned : terminalPlan size cursor = made ++ call :: rest)
    (accepts : ∀ call ∈ made, host.refuses call = false)
    (refused : host.refuses call = true) :
    TerminalMode.original.afterAll host (made ++ [call]) = .original ↔
      made ++ [call] = [] ∨ made ++ [call] = [.openScreen] := by
  -- No planned call gives the terminal back, so what was taken over stays so.
  have keeps : ∀ call ∈ terminalPlan size cursor, call ≠ .closeScreen := by
    simp [terminalPlan]
  rw [planned] at keeps
  unfold terminalPlan at planned
  rcases made with _ | ⟨first, more⟩
  · obtain ⟨rfl, -⟩ := List.cons.inj planned
    simp [TerminalMode.afterAll_cons_of_refuses refused]
  · obtain ⟨rfl, -⟩ := List.cons.inj planned
    have taken : (TerminalMode.original.afterAll host (.openScreen :: more ++ [call])).taken =
        true := by
      rw [List.cons_append, TerminalMode.afterAll_cons_of_accepts (accepts _ List.mem_cons_self)]
      refine TerminalMode.taken_afterAll rfl fun later member => keeps later ?_
      simp only [List.mem_append, List.mem_cons, List.not_mem_nil, or_false] at member ⊢
      grind
    constructor
    · intro kept
      rw [kept] at taken
      contradiction
    · simp

/-- A terminal is taken over by its picture or not at all, or the host refuses a call while it is
taken over. In the last case nothing is undone, so that the terminal is left as it was only if no
call but the one that takes it over was made; if the host refuses cursors only, the cursor is what
is refused, and the terminal stays taken over. A picture that was opened leaves the terminal taken
over whatever it shows or fails to show, and closing it then gives the terminal back as it was:
whole lines and what is typed are turned on again, and the last call gives the terminal back, also
where the terminal refuses to show the cursor again. -/
theorem terminal_given_back (host : Host) (scale cursor : Choice Int) :
    let opening := openTerminal host scale cursor
    Takeover host scale cursor opening ∧
    (∀ fault, opening.outcome = .error fault ->
      (TerminalMode.original.afterAll host opening.calls = .original ↔
        opening.calls = [] ∨ opening.calls = [.openScreen]) ∧
      (host.RefusesCursorOnly ->
        opening.calls = [] ∨
          opening.calls = [.openScreen, .setCursor cursor] ∧
            TerminalMode.original.afterAll host opening.calls =
              { TerminalMode.original with taken := true })) ∧
    ∀ picture, opening.outcome = .ok picture ->
      ∀ (requests : List Request) (showing closing : Host), closing.RefusesCursorOnly ->
        let served := picture.serve requests
        let mode := (TerminalMode.original.afterAll host opening.calls).afterAll showing served.1
        let closed := served.2.closeCalls
        mode = { taken := true, echo := false, lines := false } ∧
          mode.afterAll closing closed = .original ∧
          [.lineModeOn, .echoOn, .closeScreen].Sublist closed ∧
          closed.getLast? = some .closeScreen := by
  intro opening
  have ends : Takeover host scale cursor opening := openTerminal_takeover host scale cursor
  clear_value opening
  refine ⟨ends, ?_, ?_⟩
  · intro fault failed
    cases ends with
    | refused =>
        exact ⟨iff_of_true rfl (.inl rfl), fun _ => .inl rfl⟩
    | broken size made call rest sized fits planned accepts refused =>
        refine ⟨afterAll_broken_iff planned accepts refused, fun cursorOnly => .inr ?_⟩
        obtain ⟨visibility, rfl⟩ := cursorOnly call refused
        obtain ⟨rfl, rfl⟩ := eq_of_setCursor_planned planned
        have opens : host.refuses .openScreen = false := accepts _ List.mem_cons_self
        exact ⟨rfl, TerminalMode.afterAll_of_refused_cursor opens refused⟩
    | opened => contradiction
  · intro picture shows requests showing closing cursorOnly served mode closed
    cases ends with
    | refused => contradiction
    | broken => contradiction
    | opened size sized fits accepts =>
        obtain rfl := Except.ok.inj shows
        have taken : TerminalMode.original.afterAll host (terminalPlan size cursor) =
            { taken := true, echo := false, lines := false } :=
          TerminalMode.afterAll_of_accepts accepts
        have kept : mode = { taken := true, echo := false, lines := false } :=
          (TerminalMode.afterAll_of_keepsMode fun _ => keepsMode_of_mem_serve).trans taken
        have same : closed = closeCalls { surface := .terminal cursor (-1, -1), scale := size } :=
          closeCalls_serve _ requests
        rw [same]
        refine ⟨kept, afterAll_closeCalls rfl cursorOnly mode, ?_⟩
        rw [closeCalls_of_terminal rfl]
        split <;> simp

/-- A host on whose terminal the cursor cannot be shown. -/
def cursorless : Host where
  refuses call := call = .setCursor (.value 1)

theorem refusesCursorOnly_cursorless : cursorless.RefusesCursorOnly :=
  fun _ refused => ⟨_, of_decide_eq_true refused⟩

/-- A title, a frame and a frame that lacks a cell, on a terminal that hides its cursor and cannot
show it again. -/
theorem terminal_given_back_cursorless :
    ∃ picture,
      openTerminal cursorless .unset (.value 0) = ⟨terminalPlan 2 (.value 0), .ok picture⟩ ∧
      let served := picture.serve
        [.title {} "Pong", .frame {} ⟨#[1, 0], 2, 1⟩, .frame {} ⟨#[], 1, 1⟩]
      served.2.title = "Pong" ∧
        served.2.frames = 1 ∧
        .setCursor (.value 1) ∈ served.2.closeCalls ∧
        ((TerminalMode.original.afterAll cursorless (terminalPlan 2 (.value 0))).afterAll {}
          served.1).afterAll cursorless served.2.closeCalls = .original := by
  obtain ⟨-, -, closes⟩ := terminal_given_back cursorless .unset (.value 0)
  obtain ⟨-, restored, -⟩ := closes _ rfl
    [.title {} "Pong", .frame {} ⟨#[1, 0], 2, 1⟩, .frame {} ⟨#[], 1, 1⟩] {} cursorless
    refusesCursorOnly_cursorless
  exact ⟨_, rfl, rfl, rfl, by decide +kernel, restored⟩

/-- A terminal that cannot show its cursor is not given back when its picture is opened with the
cursor shown. -/
theorem not_given_back_of_cursorless :
    ¬∀ (host : Host) (scale cursor : Choice Int), host.RefusesCursorOnly ->
      let opening := openTerminal host scale cursor
      (∃ picture, opening.outcome = .ok picture) ∨
        TerminalMode.original.afterAll host opening.calls = .original := by
  intro every
  have stopped : openTerminal cursorless .unset (.value 1) =
      ⟨[.openScreen, .setCursor (.value 1)], .error .hostRefused⟩ := rfl
  rcases every cursorless .unset (.value 1) refusesCursorOnly_cursorless with
    ⟨picture, opened⟩ | restored
  · rw [stopped] at opened
    contradiction
  · rw [stopped] at restored
    exact absurd restored (by decide)

end Picture
end Chip8
