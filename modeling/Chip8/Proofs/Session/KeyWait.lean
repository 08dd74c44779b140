import Chip8.Proofs.Session.Turns

/-!
# Waits for a key

A wait for a key begins with the step that executes the instruction for it, and
from then on the machine is the same until a press is delivered. A wait ends
with a delivery, which is the first thing that a tick does, and with no other
change. So the press that ends a wait was made after the tick in which the wait
began.
-/

namespace Chip8
namespace Machine

/-- Only the instruction for it makes a machine wait that runs. -/
theorem exists_awaitKey_of_execute
    {console : Console}
    {machine final : Machine}
    {instruction : Instruction}
    {waiting : Int}
    (running : machine.awaiting = none)
    (executed : execute console machine instruction = .ok final)
    (awaits : final.awaiting = some waiting) :
    ∃ x : Register, instruction = .awaitKey x ∧ waiting = x.val := by
  cases instruction with
  | awaitKey x =>
      cases executed
      cases awaits
      exact ⟨x, rfl, rfl⟩
  | _ =>
      have same : final.awaiting = machine.awaiting :=
        agree_of_execute .awaiting executed (by simp [Instruction.writes])
      rw [same, running] at awaits
      contradiction

/-- A step that makes a machine wait executes the instruction for it. -/
theorem next?_of_begins
    {console : Console}
    {machine : Machine}
    {waiting : Int}
    (running : machine.awaiting = none)
    (awaits : (Action.after (step console) machine).awaiting = some waiting) :
    ∃ x : Register, machine.next? console = some (.awaitKey x) ∧ waiting = x.val := by
  have outcome := stepped console machine
  unfold Action.after at awaits
  generalize step console machine = result at outcome awaits
  cases outcome with
  | paused | unfetched | undecodable =>
      rw [running] at awaits
      contradiction
  | failed =>
      change machine.awaiting = some waiting at awaits
      rw [running] at awaits
      contradiction
  | @executed word final unpaused fetched executes =>
      have idle : machine.advanced.awaiting = none := running
      obtain ⟨x, decoded, named⟩ := exists_awaitKey_of_execute idle executes awaits
      exact ⟨x, next?_eq_some_iff.mpr ⟨unpaused, word, fetched, decoded⟩, named⟩

end Machine

/-- The machine waits for a key to go into this register, before the change and after it. -/
def Change.Waiting (x : Register) (change : Change) : Prop :=
  change.before.awaiting = some (x.val : Int) ∧ change.after.awaiting = some (x.val : Int)

namespace Session

variable {τ : Type} {session : Session τ} {turns : List Turn} {place : Nat}

/-! ## Waits in a tick -/

/-- A delivery that leaves a machine waiting has delivered nothing. -/
theorem machine_eq_of_deliverPress
    {machine : Machine}
    {waiting : Int}
    (wellFormed : session.machine.WellFormed)
    (delivers : deliverPress session = .ok () { session with pending := none, machine })
    (awaits : machine.awaiting = some waiting) :
    machine = session.machine := by
  rcases wellFormed.awaiting_cases with running | ⟨x, waits⟩
  · cases (deliverPress_of_running running).symm.trans delivers
    rfl
  · cases pressed : session.pending with
    | none =>
        rw [deliverPress_of_none pressed, EStateM.Result.ok.injEq] at delivers
        exact (congrArg Session.machine delivers.2).symm
    | some key =>
        cases (deliverPress_of_awaiting pressed waits).symm.trans delivers
        contradiction

/-- The changes of a tick, with the machine that its press leaves. -/
theorem exists_changes (wellFormed : session.machine.WellFormed) :
    ∃ machine,
      deliverPress session = .ok () { session with pending := none, machine } ∧
      session.changes =
        ⟨.delivery, session.machine, machine⟩ ::
          playChanges { session with pending := none, machine } ∧
      Change.Lead machine (playChanges { session with pending := none, machine })
        (Action.after tick session).machine := by
  obtain ⟨machine, _, delivers⟩ := exists_deliverPress wellFormed
  refine ⟨machine, delivers, ?_, ?_⟩
  · rw [changes, delivers]
  · rw [tick_eq, Action.after_bind_of_ok delivers]
    exact lead_playChanges { session with pending := none, machine }

/-- What makes a machine wait after the delivery is a step that executes the instruction for it. -/
theorem awaitKey_of_begins
    {x : Register}
    {change : Change}
    (member : change ∈ session.playChanges)
    (before : change.before.awaiting = none)
    (after : change.after.awaiting = some (x.val : Int)) :
    change.cause = .step ∧ change.before.next? session.console = some (.awaitKey x) := by
  rcases playChanges_cases member with stepped | counted
  · rw [stepped] at after
    obtain ⟨y, awaitsKey, named⟩ := Machine.next?_of_begins before after
    obtain rfl : x = y := Fin.val_inj.mp (Int.ofNat.inj named)
    rw [stepped]
    exact ⟨rfl, awaitsKey⟩
  · -- The timers do not make a machine wait.
    have idle : change.before.paused = false := by simp [Machine.paused, before]
    have kept : change.after.awaiting = change.before.awaiting := by
      rw [counted]
      simp [idle, Machine.tickTimers]
    rw [kept, before] at after
    contradiction

/-- A machine that waits after a tick was left waiting by its steps, or waited all through it. -/
theorem waiting_cases
    {x : Register}
    (wellFormed : session.machine.WellFormed)
    (awaits : (Action.after tick session).machine.awaiting = some (x.val : Int)) :
    (session.machine.awaiting = some (x.val : Int) ∧
      ∀ change ∈ session.changes, change.Waiting x) ∨
    ∃ earlier change later,
      session.changes = earlier ++ change :: later ∧
      change.cause = .step ∧
      change.before.next? session.console = some (.awaitKey x) ∧
      change.after.awaiting = some (x.val : Int) ∧
      ∀ since ∈ later, since.Waiting x := by
  obtain ⟨machine, delivers, made, lead⟩ := exists_changes wellFormed
  rw [made]
  cases found : machine.awaiting with
  | none =>
      right
      obtain ⟨earlier, change, later, parts, before, after, stay⟩ :=
        lead.exists_begin (fun _ member => sparesPaused_of_mem_playChanges member) found awaits
      have member : change ∈ playChanges { session with pending := none, machine } := by
        simp [parts]
      obtain ⟨stepped, awaitsKey⟩ := awaitKey_of_begins member before after
      rw [parts]
      exact ⟨⟨.delivery, session.machine, machine⟩ :: earlier, change, later, rfl, stepped,
        awaitsKey, after, stay⟩
  | some waiting =>
      left
      have paused : machine.paused = true := by simp [Machine.paused, found]
      obtain ⟨same, stay⟩ :=
        lead.of_paused (fun _ member => sparesPaused_of_mem_playChanges member) paused
      rw [same] at awaits
      have undelivered : machine = session.machine :=
        machine_eq_of_deliverPress wellFormed delivers awaits
      have waits : session.machine.awaiting = some (x.val : Int) := by
        rw [← undelivered]
        exact awaits
      refine ⟨waits, ?_⟩
      intro change member
      rcases List.mem_cons.mp member with rfl | member
      · exact ⟨waits, awaits⟩
      · obtain ⟨before, after⟩ := stay change member
        rw [Change.Waiting, before, after]
        exact ⟨awaits, awaits⟩

/-- The change of a tick that ends a wait is the delivery of the pending press, and it is the
first. -/
theorem eq_delivery_of_ends
    {x : Register}
    {earlier later : List Change}
    {change : Change}
    (wellFormed : session.machine.WellFormed)
    (parts : session.changes = earlier ++ change :: later)
    (waiting : change.before.awaiting = some (x.val : Int))
    (ended : change.after.awaiting ≠ some (x.val : Int)) :
    earlier = [] ∧
      ∃ key,
        session.pending = some key ∧
        session.machine.awaiting = some (x.val : Int) ∧
        change = {
          cause := .delivery
          before := session.machine
          after := session.machine.takeKey x key } := by
  obtain ⟨machine, delivers, made, _⟩ := exists_changes wellFormed
  rw [made] at parts
  cases earlier with
  | nil =>
      obtain ⟨rfl, _⟩ := List.cons.inj parts
      have waits : session.machine.awaiting = some (x.val : Int) := waiting
      refine ⟨rfl, ?_⟩
      cases pressed : session.pending with
      | none =>
          rw [deliverPress_of_none pressed, EStateM.Result.ok.injEq] at delivers
          obtain rfl : session.machine = machine := congrArg Session.machine delivers.2
          contradiction
      | some key =>
          rw [deliverPress_of_awaiting pressed waits, EStateM.Result.ok.injEq] at delivers
          obtain rfl : _ = machine := congrArg Session.machine delivers.2
          exact ⟨key, rfl, waits, rfl⟩
  | cons first rest =>
      -- What follows the delivery spares a machine that waits.
      obtain ⟨_, parts⟩ := List.cons.inj parts
      have spares : change.SparesPaused := by
        apply sparesPaused_of_mem_playChanges
        rw [parts]
        simp
      have paused : change.before.paused = true := by simp [Machine.paused, waiting]
      rw [spares paused] at ended
      contradiction

/-- A tick that finds the machine waiting and nothing pending leaves the machine as it is. -/
theorem machine_after_tick_of_paused
    (waiting : session.machine.paused = true)
    (unpressed : session.pending = none) :
    (Action.after tick session).machine = session.machine := by
  rw [tick_eq, Action.after_bind_of_ok (deliverPress_of_none unpressed)]
  have lead := lead_playChanges session
  exact (lead.of_paused (fun _ member => sparesPaused_of_mem_playChanges member) waiting).1

/-- A tick that finds the machine running goes on as if nothing were pending. -/
theorem tick_of_running (running : session.machine.awaiting = none) :
    tick session = tick { session with pending := none } := by
  have first := deliverPress_of_running running
  have second : deliverPress { session with pending := none } =
      .ok () { session with pending := none } := deliverPress_of_none rfl
  rw [tick_eq]
  change EStateM.bind deliverPress (fun _ => playOut) session =
    EStateM.bind deliverPress (fun _ => playOut) { session with pending := none }
  simp only [EStateM.bind, first, second]

/-! ## Waits among turns -/

/-- A wait begins in the tick at one place and goes on up to another: a step executes the
instruction for it, and the machine waits throughout every change that follows. -/
structure WaitSpans
    (session : Session τ)
    (turns : List Turn)
    (x : Register)
    (begun place : Nat) : Prop where
  before : begun < place
  begins : ∃ earlier change later,
    session.changesAt turns begun = earlier ++ change :: later ∧
    change.cause = .step ∧
    change.before.next? (session.reached turns begun).console = some (.awaitKey x) ∧
    change.after.awaiting = some (x.val : Int) ∧
    ∀ since ∈ later, since.Waiting x
  lasts : ∀ between, begun < between -> between < place ->
    ∀ change ∈ session.changesAt turns between, change.Waiting x

/-- At a place a wait ends with this change, which follows these others in the same tick. -/
structure WaitEnds
    (session : Session τ)
    (turns : List Turn)
    (place : Nat)
    (x : Register)
    (earlier : List Change)
    (change : Change) : Prop where
  made : ∃ later, session.changesAt turns place = earlier ++ change :: later
  waiting : change.before.awaiting = some (x.val : Int)
  ended : change.after.awaiting ≠ some (x.val : Int)

theorem WaitSpans.tick_of_begun
    {x : Register}
    {begun : Nat}
    (spans : session.WaitSpans turns x begun place) :
    turns[begun]? = some .tick := by
  obtain ⟨earlier, change, later, parts, _⟩ := spans.begins
  have member : change ∈ session.changesAt turns begun := by simp [parts]
  exact tick_of_mem_changesAt member

theorem WaitSpans.succ
    {x : Register}
    {begun : Nat}
    (spans : session.WaitSpans turns x begun place)
    (stays : ∀ change ∈ session.changesAt turns place, change.Waiting x) :
    session.WaitSpans turns x begun (place + 1) where
  before := Nat.lt_succ_of_lt spans.before
  begins := spans.begins
  lasts between after before := by
    rcases Nat.lt_succ_iff_lt_or_eq.mp before with earlier | rfl
    · exact spans.lasts between after earlier
    · exact stays

/-- Whenever the machine waits, the wait began in a tick and has gone on ever since. -/
theorem exists_waitSpans
    {x : Register}
    (wellFormed : session.machine.WellFormed)
    (idle : session.machine.awaiting = none)
    (waits : (session.reached turns place).machine.awaiting = some (x.val : Int)) :
    ∃ begun, session.WaitSpans turns x begun place := by
  -- At each place a wait that is open is either carried over from the place before or new.
  induction place with
  | zero =>
      rw [reached_zero, idle] at waits
      contradiction
  | succ place hypothesis =>
      by_cases ticked : turns[place]? = some .tick
      · rw [reached_succ ticked] at waits
        have kept := wellFormed_reached wellFormed turns place
        rcases waiting_cases kept waits with ⟨waited, stays⟩ | begins
        · obtain ⟨begun, spans⟩ := hypothesis waited
          rw [← changesAt_of_tick ticked] at stays
          exact ⟨begun, spans.succ stays⟩
        · rw [← changesAt_of_tick ticked] at begins
          refine ⟨place, Nat.lt_succ_self place, begins, ?_⟩
          intro between after before
          omega
      · rw [machine_reached_succ ticked] at waits
        obtain ⟨begun, spans⟩ := hypothesis waits
        refine ⟨begun, spans.succ ?_⟩
        intro change member
        exact absurd (tick_of_mem_changesAt member) ticked

/-- A wait ends in a tick, and there with the delivery of the press that is pending. -/
theorem WaitEnds.delivered
    {x : Register}
    {earlier : List Change}
    {change : Change}
    (wellFormed : session.machine.WellFormed)
    (ends : session.WaitEnds turns place x earlier change) :
    turns[place]? = some .tick ∧ earlier = [] ∧
      ∃ key,
        (session.reached turns place).pending = some key ∧
        (session.reached turns place).machine.awaiting = some (x.val : Int) ∧
        change = {
          cause := .delivery
          before := (session.reached turns place).machine
          after := (session.reached turns place).machine.takeKey x key } := by
  obtain ⟨later, parts⟩ := ends.made
  have member : change ∈ session.changesAt turns place := by simp [parts]
  have ticked := tick_of_mem_changesAt member
  rw [changesAt_of_tick ticked] at parts
  have kept := wellFormed_reached wellFormed turns place
  exact ⟨ticked, eq_delivery_of_ends kept parts ends.waiting ends.ended⟩

/-- A press that is pending when a tick finds the machine waiting ends the wait. -/
theorem waitEnds_of_pending
    {key : Int}
    {x : Register}
    (ticked : turns[place]? = some .tick)
    (pressed : (session.reached turns place).pending = some key)
    (waits : (session.reached turns place).machine.awaiting = some (x.val : Int)) :
    ∃ change, session.WaitEnds turns place x [] change := by
  have made : session.changesAt turns place =
      { cause := .delivery
        before := (session.reached turns place).machine
        after := (session.reached turns place).machine.takeKey x key } :: playChanges {
          session.reached turns place with
          pending := none
          machine := (session.reached turns place).machine.takeKey x key } := by
    rw [changesAt_of_tick ticked, changes, deliverPress_of_awaiting pressed waits]
  exact ⟨_, ⟨_, made⟩, waits, by simp [Machine.takeKey]⟩

/-- After any turns of a session just started, in which keys are pressed, held and let go and ticks
are run, with faults or without:

- the changes of each turn lead to the machine of the next place;
- a tick leaves a machine alone that waits for a key while nothing is pending;
- a wait ends with the first change of a tick, which puts the pending press into the register that
  waits and changes nothing else; the press was made after the tick in which the wait began, and
  was pending since then;
- what is pending when a tick finds the machine running has no effect, and no tick leaves anything
  pending;
- a press ends at most one wait, and so does a tick. -/
theorem key_waits
    [TimeScale τ] [Div τ] [LE τ] [DecidableLE τ]
    {program : Option (List UInt8)}
    {machine : Machine}
    {pace : Pace τ}
    {devices : Devices}
    {now : τ}
    (booted : Machine.boot program = .ok machine)
    (started : start pace devices machine now = .ok session)
    (turns : List Turn) :
    (∀ place,
      Change.Lead (session.reached turns place).machine (session.changesAt turns place)
        (session.reached turns (place + 1)).machine) ∧
    (∀ place,
      (session.reached turns place).machine.paused = true ->
      (session.reached turns place).pending = none ->
      (Action.after tick (session.reached turns place)).machine =
        (session.reached turns place).machine) ∧
    (∀ place x earlier change,
      session.WaitEnds turns place x earlier change ->
      turns[place]? = some .tick ∧ earlier = [] ∧
      ∃ key : Fin 16,
        (session.reached turns place).pending = some (key.val : Int) ∧
        change = {
          cause := .delivery
          before := (session.reached turns place).machine
          after := {
            (session.reached turns place).machine with
            registers :=
              (session.reached turns place).machine.registers.set x (UInt8.ofNat key.val)
            awaiting := none } } ∧
        ∃ begun press,
          session.WaitSpans turns x begun place ∧ begun < press ∧
          Supplies turns press place key) ∧
    (∀ place,
      (session.reached turns place).machine.awaiting = none ->
      tick (session.reached turns place) =
        tick { session.reached turns place with pending := none }) ∧
    (∀ place, (Action.after tick (session.reached turns place)).pending = none) ∧
    (∀ press key another place other x y earlier before change changed,
      Supplies turns press place key ->
      Supplies turns press other another ->
      session.WaitEnds turns place x earlier change ->
      session.WaitEnds turns other y before changed ->
      place = other) ∧
    (∀ place x y earlier before change changed,
      session.WaitEnds turns place x earlier change ->
      session.WaitEnds turns place y before changed ->
      x = y ∧ earlier = before ∧ change = changed) := by
  obtain ⟨loaded, unpressed⟩ := start_eq_ok started
  have wellFormed : session.machine.WellFormed := by
    rw [loaded]
    exact .of_boot booted
  have idle : session.machine.awaiting = none := by
    obtain ⟨memory, same⟩ := Machine.boot_eq_ok booted
    rw [loaded, same]
    rfl
  refine ⟨lead_changesAt session turns, ?_, ?_, ?_, ?_, ?_, ?_⟩
  · intro place waiting absent
    exact machine_after_tick_of_paused waiting absent
  · intro place x earlier change ends
    obtain ⟨ticked, first, pressed, pending, waits, made⟩ := ends.delivered wellFormed
    have within : place < turns.length := (List.getElem?_eq_some_iff.mp ticked).1
    obtain ⟨press, key, supplies, rfl⟩ :=
      exists_supplies wellFormed unpressed (Nat.le_of_lt within) pending
    obtain ⟨begun, spans⟩ := exists_waitSpans wellFormed idle waits
    have small : ((key.val : Int) % 16).toNat = key.val := by omega
    rw [Machine.takeKey, small] at made
    refine ⟨ticked, first, key, pending, made, begun, press, spans, ?_, supplies⟩
    exact supplies.lt_of_tick spans.tick_of_begun spans.before
  · intro place running
    exact tick_of_running running
  · intro place
    exact pending_after_tick (wellFormed_reached wellFormed turns place)
  · intro press key another place other x y earlier before change changed
      first second ends endsOther
    exact first.place_unique second (ends.delivered wellFormed).1
      (endsOther.delivered wellFormed).1
  · intro place x y earlier before change changed ends endsOther
    obtain ⟨_, rfl, key, pending, waits, rfl⟩ := ends.delivered wellFormed
    obtain ⟨_, rfl, another, pendingOther, waitsOther, rfl⟩ := endsOther.delivered wellFormed
    have named : (x.val : Int) = (y.val : Int) :=
      Option.some.inj (waits.symm.trans waitsOther)
    obtain rfl : x = y := Fin.val_inj.mp (Int.ofNat.inj named)
    cases pending.symm.trans pendingOther
    exact ⟨rfl, rfl, rfl⟩

/-- A program that waits for a key and then goes round in a circle, and the press of a key. -/
theorem key_waits_press :
    ∃ (machine : Machine) (session : Session Rat),
      Machine.boot (some [0xF0, 0x0A, 0x12, 0x02]) = .ok machine ∧
      start {} {
        console := { held := fun _ => false, random := fun _ => 0 }
        picture := { surface := .headless, scale := 1 }
        speaker := { voice := .silent } } machine 0 = .ok session ∧
      ∃ change key begun press,
        session.WaitEnds [.tick, .press 7, .tick] 2 0 [] change ∧
        session.WaitSpans [.tick, .press 7, .tick] 0 begun 2 ∧ begun < press ∧
        Supplies [.tick, .press 7, .tick] press 2 key := by
  obtain ⟨machine, session, booted, started, waits⟩ :
      ∃ (machine : Machine) (session : Session Rat),
        Machine.boot (some [0xF0, 0x0A, 0x12, 0x02]) = .ok machine ∧
        start {} {
          console := { held := fun _ => false, random := fun _ => 0 }
          picture := { surface := .headless, scale := 1 }
          speaker := { voice := .silent } } machine 0 = .ok session ∧
        (session.reached [.tick, .press 7, .tick] 2).machine.awaiting =
          some ((0 : Register).val : Int) :=
    ⟨{ Machine.powerOn with
        memory := Machine.powerOn.memory.place 0x200 [0xF0, 0x0A, 0x12, 0x02] },
      _, rfl, rfl, by decide +kernel⟩
  have ticked : ([.tick, .press 7, .tick] : List Turn)[2]? = some .tick := rfl
  have pressed : (session.reached [.tick, .press 7, .tick] 2).pending =
      some ((7 : Fin 16).val : Int) := rfl
  obtain ⟨change, ends⟩ := waitEnds_of_pending ticked pressed waits
  obtain ⟨_, _, key, _, _, begun, press, spans, later, supplies⟩ :=
    (key_waits booted started [.tick, .press 7, .tick]).2.2.1 2 0 [] change ends
  exact ⟨machine, session, booted, started, change, key, begun, press, ends, spans, later, supplies⟩

end Session
end Chip8
