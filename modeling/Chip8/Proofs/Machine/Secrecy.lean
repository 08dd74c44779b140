import Chip8.Proofs.Machine.Effects
import Chip8.Proofs.Machine.Moves
import Chip8.Proofs.Machine.Reading

/-!
# What a program can learn of the timers and the screen

Two machines that differ in their timers and screens alone run alike: a program
learns of its delay timer by reading it, of the screen by the flag that a
drawing leaves, and of the sound timer by nothing at all.
-/

namespace Chip8

/-- What a move tells whoever makes it. -/
inductive Reply
  | done
  /-- Whether the machine was waiting for the key. -/
  | answered (wanted : Bool)
  /-- A fault stopped the move. -/
  | stopped
  deriving DecidableEq, Repr

namespace Machine

/-- What a move on a machine tells. -/
def reply (console : Console) (machine : Machine) : Move -> Reply
  | .step held =>
      match step (console.holding held) machine with
      | .ok _ _ => .done
      | .error _ _ => .stopped
  | .press key =>
      match pressKey key machine with
      | .ok wanted _ => .answered wanted
      | .error _ _ => .stopped
  | .countDown => .done

/-- What moves tell, one after the other. -/
def replies (console : Console) : List Move -> Machine -> List Reply
  | [], _ => []
  | move :: rest, machine =>
      machine.reply console move ::
        replies console rest (Action.after (perform console move) machine)

/-- Two machines agree in every part that is not hidden. -/
def AlikeBut (hidden : List Component) (first second : Machine) : Prop :=
  ∀ component, component ∉ hidden -> second.Agree first component

variable {console : Console} {first second : Machine} {hidden : List Component}

/-! ## Executing an instruction -/

theorem Agree.trans
    {third : Machine}
    {component : Component}
    (earlier : second.Agree first component)
    (later : third.Agree second component) :
    third.Agree first component := by
  cases component <;> exact Eq.trans later earlier

theorem Agree.symm
    {component : Component}
    (agree : second.Agree first component) :
    first.Agree second component := by
  cases component <;> exact Eq.symm agree

namespace AlikeBut

theorem advanced (alike : AlikeBut hidden first second) :
    AlikeBut hidden first.advanced second.advanced := by
  intro component shown
  have same := alike component shown
  cases component with
  | counter => exact congrArg advance same
  | _ => exact same

/-- What an instruction spares stays alike. -/
theorem agree_of_spared
    {instruction : Instruction}
    {firstFinal secondFinal : Machine}
    {component : Component}
    (alike : AlikeBut hidden first second)
    (executed : execute console first instruction = .ok firstFinal)
    (executedOther : execute console second instruction = .ok secondFinal)
    (shown : component ∉ hidden)
    (spared : component ∉ instruction.writes) :
    secondFinal.Agree firstFinal component :=
  ((agree_of_execute component executed spared).symm.trans (alike component shown)).trans
    (agree_of_execute component executedOther spared)

/-- An instruction that looks at nothing hidden keeps machines alike. -/
theorem execute
    {instruction : Instruction}
    (alike : AlikeBut hidden first second)
    (unread : ∀ component ∈ hidden, component ∉ instruction.reads) :
    EndsAlike (AlikeBut hidden)
      (execute console first instruction) (execute console second instruction) := by
  have ends := endsAlike_execute console instruction fun component read =>
    alike component fun concealed => unread component concealed read
  generalize executed : Machine.execute console first instruction = result at ends
  generalize executedOther : Machine.execute console second instruction = other at ends
  cases ends with
  | error fault => exact .error fault
  | ok agree =>
      refine .ok fun component shown => ?_
      by_cases written : component ∈ instruction.writes
      · exact agree component written
      · exact alike.agree_of_spared executed executedOther shown written

/-- A drawing whose screens are hidden keeps machines alike where it leaves the same flag. -/
theorem draw
    {x y : Register}
    {height : Nibble}
    (alike : AlikeBut hidden first second)
    (concealed : Component.screen ∈ hidden)
    (flagged : (first.drawSprite x y height).v flagRegister =
      (second.drawSprite x y height).v flagRegister) :
    AlikeBut hidden (first.drawSprite x y height) (second.drawSprite x y height) := by
  rw [drawSprite_eq_flips, drawSprite_eq_flips] at *
  simp only [v, Registers.get_set_same] at flagged
  intro component shown
  have same := alike component shown
  cases component with
  | registers =>
      change second.registers.set _ _ = first.registers.set _ _
      rw [show second.registers = first.registers from same, flagged]
  | screen => contradiction
  | _ => exact same

end AlikeBut

/-! ## Making moves -/

/-- Two moves tell the same and leave machines that are alike in some way, whether they complete or
are stopped. -/
inductive Together {Result : Type} (Alike : Machine -> Machine -> Prop) :
    EStateM.Result Fault Machine Result -> EStateM.Result Fault Machine Result -> Prop
  | ok {first second : Machine} (result : Result) (alike : Alike first second) :
      Together Alike (.ok result first) (.ok result second)
  | error {first second : Machine} (fault other : Fault) (alike : Alike first second) :
      Together Alike (.error fault first) (.error other second)

theorem Together.after
    {Result : Type}
    {Alike : Machine -> Machine -> Prop}
    {action : Action Machine Result}
    (together : Together Alike (action first) (action second)) :
    Alike (Action.after action first) (Action.after action second) := by
  unfold Action.after
  generalize action first = end1 at together
  generalize action second = end2 at together
  cases together with
  | ok result alike => exact alike
  | error fault other alike => exact alike

theorem after_perform_press (console : Console) (machine : Machine) (key : Int) :
    Action.after (perform console (.press key)) machine =
      Action.after (pressKey key) machine := by
  cases pressed : pressKey key machine with
  | ok taken next =>
      rw [Action.after_of_ok (perform_press_of_ok pressed), Action.after_of_ok pressed]
  | error fault next =>
      rw [Action.after_of_error (perform_press_of_error pressed), Action.after_of_error pressed]

theorem after_step_of_draw
    {machine : Machine}
    {x y : Register}
    {height : Nibble}
    (next : machine.next? console = some (.draw x y height)) :
    Action.after (step console) machine = machine.advanced.drawSprite x y height := by
  obtain ⟨running, word, fetched, decoded⟩ := next?_eq_some_iff.mp next
  have executes : execute console machine.advanced word.decode =
      .ok (machine.advanced.drawSprite x y height) := by
    rw [decoded]
    rfl
  exact Action.after_of_ok (step_of_execute running fetched executes)

/-- What decides which instruction is next can be seen. -/
structure ShowsNext (hidden : List Component) : Prop where
  memory : Component.memory ∉ hidden
  counter : Component.counter ∉ hidden
  awaiting : Component.awaiting ∉ hidden
  registers : Component.registers ∉ hidden

namespace AlikeBut

theorem fetched_eq
    (alike : AlikeBut hidden first second)
    (shows : ShowsNext hidden)
    (console : Console) :
    second.fetched console = first.fetched console := by
  have memory : second.memory = first.memory := alike .memory shows.memory
  have counter : second.counter = first.counter := alike .counter shows.counter
  simp only [fetched, fetch, memory, counter]

theorem paused_eq (alike : AlikeBut hidden first second) (shows : ShowsNext hidden) :
    second.paused = first.paused := by
  have awaiting : second.awaiting = first.awaiting := alike .awaiting shows.awaiting
  simp only [paused, awaiting]

theorem next?_eq
    (alike : AlikeBut hidden first second)
    (shows : ShowsNext hidden)
    (console : Console) :
    second.next? console = first.next? console := by
  simp only [next?, alike.paused_eq shows, alike.fetched_eq shows console]

/-- Steps on machines that are alike go together where their instruction does. -/
theorem step
    (alike : AlikeBut hidden first second)
    (shows : ShowsNext hidden)
    (executes : ∀ instruction,
      first.next? console = some instruction ->
      EndsAlike (AlikeBut hidden)
        (Machine.execute console first.advanced instruction)
        (Machine.execute console second.advanced instruction)) :
    Together (AlikeBut hidden) (Machine.step console first) (Machine.step console second) := by
  have samePause := alike.paused_eq shows
  have sameFetch := alike.fetched_eq shows console
  cases paused : first.paused with
  | true =>
      rw [paused] at samePause
      rw [step_of_paused paused, step_of_paused samePause]
      exact .ok () alike
  | false =>
      rw [paused] at samePause
      cases fetched : first.fetched console with
      | error fault =>
          rw [fetched] at sameFetch
          simp only [Machine.step, paused, samePause, fetched, sameFetch]
          exact .error fault fault alike
      | ok value =>
          cases decoded : Opcode.ofInt? value with
          | none =>
              rw [fetched] at sameFetch
              simp only [Machine.step, paused, samePause, fetched, sameFetch, deliver, decoded]
              exact .error _ _ alike
          | some word =>
              rw [Opcode.ofInt?_eq_some_iff.mp decoded] at fetched
              rw [fetched] at sameFetch
              have ends := executes word.decode (next?_eq_some_iff.mpr ⟨paused, word, fetched, rfl⟩)
              rw [step_eq_of_fetched paused fetched, step_eq_of_fetched samePause sameFetch]
              generalize Machine.execute console first.advanced word.decode = result at ends
              generalize Machine.execute console second.advanced word.decode = other at ends
              cases ends with
              | ok kept => exact .ok () kept
              | error fault => exact .error _ _ alike.advanced

theorem pressKey (alike : AlikeBut hidden first second) (shows : ShowsNext hidden) (key : Int) :
    Together (AlikeBut hidden) (Machine.pressKey key first) (Machine.pressKey key second) := by
  have awaiting : second.awaiting = first.awaiting := alike .awaiting shows.awaiting
  simp only [Machine.pressKey, awaiting]
  split
  · exact .ok false alike
  · split
    · exact .error _ _ alike
    · refine .ok true fun component shown => ?_
      have same := alike component shown
      cases component with
      | registers =>
          change second.registers.set _ _ = first.registers.set _ _
          rw [show second.registers = first.registers from same]
      | awaiting => rfl
      | _ => exact same

theorem tickTimers (alike : AlikeBut hidden first second) :
    AlikeBut hidden first.tickTimers second.tickTimers := by
  intro component shown
  have same := alike component shown
  cases component with
  | delay | sound => exact congrArg countDown same
  | _ => exact same

/-- A move on machines that are alike keeps them so and tells the same, where a step's instruction
does. -/
theorem perform
    (alike : AlikeBut hidden first second)
    (shows : ShowsNext hidden)
    (move : Move)
    (executes : ∀ held instruction,
      move = .step held ->
      first.next? (console.holding held) = some instruction ->
      EndsAlike (AlikeBut hidden)
        (Machine.execute (console.holding held) first.advanced instruction)
        (Machine.execute (console.holding held) second.advanced instruction)) :
    AlikeBut hidden
        (Action.after (Machine.perform console move) first)
        (Action.after (Machine.perform console move) second) ∧
      second.reply console move = first.reply console move := by
  cases move with
  | step held =>
      have together := alike.step shows fun instruction => executes held instruction rfl
      refine ⟨together.after, ?_⟩
      simp only [reply]
      generalize Machine.step (console.holding held) first = result at together
      generalize Machine.step (console.holding held) second = other at together
      cases together <;> rfl
  | press key =>
      have together := alike.pressKey shows key
      rw [after_perform_press, after_perform_press]
      refine ⟨together.after, ?_⟩
      simp only [reply]
      generalize Machine.pressKey key first = result at together
      generalize Machine.pressKey key second = other at together
      cases together <;> rfl
  | countDown => exact ⟨alike.tickTimers, rfl⟩

end AlikeBut

/-! ## Runs -/

/-- The instruction that a move executes, if it executes one. -/
def executes? (console : Console) (machine : Machine) : Move -> Option Instruction
  | .step held => machine.next? (console.holding held)
  | _ => none

/-- A move tells two machines nothing of their timers and screens: neither reads its delay timer,
and where one draws, both are left with the same flag. -/
structure Discreet (console : Console) (first second : Machine) (move : Move) : Prop where
  unread : ∀ x,
    first.executes? console move ≠ some (.readDelay x) ∧
      second.executes? console move ≠ some (.readDelay x)
  flagged : ∀ x y height,
    first.executes? console move = some (.draw x y height) ∨
      second.executes? console move = some (.draw x y height) ->
    (Action.after (perform console move) first).v flagRegister =
      (Action.after (perform console move) second).v flagRegister

/-- No move of a run tells two machines anything of their timers and screens. -/
def DiscreetRun (console : Console) : List Move -> Machine -> Machine -> Prop
  | [], _, _ => True
  | move :: rest, first, second =>
      Discreet console first second move ∧
        DiscreetRun console rest
          (Action.after (perform console move) first)
          (Action.after (perform console move) second)

/-- The timers and the screen. -/
def timersAndScreen : List Component := [.delay, .sound, .screen]

theorem showsNext_timersAndScreen : ShowsNext timersAndScreen := by
  constructor <;> decide

theorem showsNext_sound : ShowsNext [.sound] := by
  constructor <;> decide

/-- No instruction looks at the sound timer. -/
theorem sound_notMem_reads (instruction : Instruction) : Component.sound ∉ instruction.reads := by
  cases instruction <;> simp [Instruction.reads]

/-- Apart from reading the delay timer and drawing, no instruction looks at a timer or the screen. -/
theorem notMem_reads_of_mem_timersAndScreen
    {instruction : Instruction}
    (unread : ∀ x, instruction ≠ .readDelay x)
    (undrawn : ∀ x y height, instruction ≠ .draw x y height)
    {component : Component}
    (concealed : component ∈ timersAndScreen) :
    component ∉ instruction.reads := by
  cases instruction with
  | readDelay x => exact absurd rfl (unread x)
  | draw x y height => exact absurd rfl (undrawn x y height)
  | _ =>
      simp only [timersAndScreen, List.mem_cons, List.not_mem_nil, or_false] at concealed
      obtain rfl | rfl | rfl := concealed <;> simp [Instruction.reads]

theorem AlikeBut.perform_of_discreet
    {move : Move}
    (alike : AlikeBut timersAndScreen first second)
    (discreet : Discreet console first second move) :
    AlikeBut timersAndScreen
        (Action.after (Machine.perform console move) first)
        (Action.after (Machine.perform console move) second) ∧
      second.reply console move = first.reply console move := by
  apply alike.perform showsNext_timersAndScreen
  rintro held instruction rfl next
  have unread (x : Register) : instruction ≠ .readDelay x := by
    rintro rfl
    exact (discreet.unread x).1 next
  by_cases drawn : ∃ x y height, instruction = .draw x y height
  · obtain ⟨x, y, height, rfl⟩ := drawn
    have flagged := discreet.flagged x y height (.inl next)
    refine .ok (alike.advanced.draw (by decide) ?_)
    rw [← after_step_of_draw next,
      ← after_step_of_draw ((alike.next?_eq showsNext_timersAndScreen _).trans next)]
    exact flagged
  · apply alike.advanced.execute
    intro component concealed
    exact notMem_reads_of_mem_timersAndScreen unread
      (fun x y height draws => drawn ⟨x, y, height, draws⟩) concealed

theorem AlikeBut.run_of_discreet
    {moves : List Move}
    (alike : AlikeBut timersAndScreen first second)
    (discreet : DiscreetRun console moves first second) :
    AlikeBut timersAndScreen (first.run console moves) (second.run console moves) ∧
      second.replies console moves = first.replies console moves := by
  induction moves generalizing first second with
  | nil => exact ⟨alike, rfl⟩
  | cons move rest hypothesis =>
      obtain ⟨here, later⟩ := discreet
      obtain ⟨kept, told⟩ := alike.perform_of_discreet here
      obtain ⟨final, toldLater⟩ := hypothesis kept later
      exact ⟨final, by rw [replies, replies, told, toldLater]⟩

/-- Machines that agree in all but their sound timers do so after every run. -/
theorem AlikeBut.run_of_sound
    (alike : AlikeBut [.sound] first second)
    (moves : List Move) :
    AlikeBut [.sound] (first.run console moves) (second.run console moves) ∧
      second.replies console moves = first.replies console moves := by
  induction moves generalizing first second with
  | nil => exact ⟨alike, rfl⟩
  | cons move rest hypothesis =>
      obtain ⟨kept, told⟩ := alike.perform showsNext_sound move fun held instruction _ _ =>
        alike.advanced.execute fun component concealed => by
          obtain rfl := List.mem_singleton.mp concealed
          exact sound_notMem_reads instruction
      obtain ⟨final, toldLater⟩ := hypothesis kept
      exact ⟨final, by rw [replies, replies, told, toldLater]⟩

/-- Machines that agree in all but their timers and screens agree in all else at the end of a run
that read neither delay timer and whose every drawing left both with the same flag, and its moves
told the same of both. Machines that agree in all but their sound timers do so after every run. -/
theorem runs_alike
    (console : Console)
    (first second : Machine)
    (moves : List Move) :
    (AlikeBut timersAndScreen first second ->
      DiscreetRun console moves first second ->
      AlikeBut timersAndScreen (first.run console moves) (second.run console moves) ∧
        second.replies console moves = first.replies console moves) ∧
    (AlikeBut [.sound] first second ->
      AlikeBut [.sound] (first.run console moves) (second.run console moves) ∧
        second.replies console moves = first.replies console moves) :=
  ⟨fun alike discreet => alike.run_of_discreet discreet, fun alike => alike.run_of_sound moves⟩

/-- The glyph of zero, drawn where neither of two machines shows a cell, though one shows a cell
elsewhere and has its timers running. -/
theorem runs_alike_drawing :
    ∃ console : Console,
      ∃ second : Machine,
        second.delay = 9 ∧ second.sound = 3 ∧ second.screen = (Screen.dark.flip 40 20).1 ∧
        AlikeBut timersAndScreen powerOn second ∧
        DiscreetRun console [.step fun _ => true, .press 3, .countDown] powerOn second ∧
        AlikeBut timersAndScreen
          (powerOn.run console [.step fun _ => true, .press 3, .countDown])
          (second.run console [.step fun _ => true, .press 3, .countDown]) := by
  let console : Console := {
    held := fun _ => false, random := fun _ => 7, forced := some 0xD005 }
  let second : Machine := {
    powerOn with delay := 9, sound := 3, screen := (Screen.dark.flip 40 20).1 }
  have alike : AlikeBut timersAndScreen powerOn second := by
    intro component shown
    cases component with
    | delay | sound | screen => exact absurd (by simp [timersAndScreen]) shown
    | _ => rfl
  have draws (machine : Machine) (running : machine.paused = false) :
      machine.executes? console (.step fun _ => true) = some (.draw 0 0 5) := by
    change machine.next? (console.holding fun _ => true) = _
    exact next?_eq_some_iff.mpr ⟨running, Opcode.ofNat 0xD005, rfl, rfl⟩
  have discreet : DiscreetRun console [.step fun _ => true, .press 3, .countDown]
      powerOn second := by
    refine ⟨⟨?_, ?_⟩, ⟨?_, ?_⟩, ⟨?_, ?_⟩, trivial⟩
    · intro x
      rw [draws powerOn rfl, draws second rfl]
      simp
    · intro x y height _
      decide +kernel
    all_goals simp [executes?]
  exact ⟨console, second, rfl, rfl, rfl, alike, discreet,
    ((runs_alike console powerOn second [.step fun _ => true, .press 3, .countDown]).1
      alike discreet).1⟩

end Machine
end Chip8
