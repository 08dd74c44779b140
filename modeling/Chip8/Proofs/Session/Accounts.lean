import Chip8.Proofs.Session.Occasions
import Chip8.Proofs.Session.Turns
import Chip8.Proofs.Text.Parts
import Mathlib.Algebra.GroupWithZero.Nat

/-!
# Reports account for every tick

A session counts the ticks that complete and the steps that they are made of. A
poll may report the counts in the title, and they start from zero then. Whatever
is ticked and polled, in whatever order, and whichever ticks are stopped: the
ticks reported and the ticks counted since are the ticks that completed, the
steps go with the ticks, and no two reports fall in the same second.
-/

namespace Chip8

/-- Something that drives a session. -/
inductive Drive
  /-- A tick without a clock. -/
  | tick
  /-- A poll at a time. -/
  | poll (now : Rat)

/-- What a poll reports: the time it is made at, and numbers of ticks and steps. -/
structure Report where
  time : Rat
  ticks : Nat
  operations : Nat

namespace Report

/-- What there is to see of a report: when it is made, and its title. -/
def shown (report : Report) : Rat × String :=
  (report.time, reportTitle report.ticks report.operations)

/-- The whole second that a report falls in. -/
def second (report : Report) : Int :=
  report.time.floor

end Report

/-- The title that was set, where the event is one. -/
def Event.title? {τ : Type} : Event τ -> Option String
  | .title text => some text
  | _ => none

namespace Session

variable {τ : Type}

/-- The titles that were set, the latest first. -/
def titles (session : Session τ) : List String :=
  session.events.filterMap Event.title?

/-- The titles set from one moment to a later one, the latest first. -/
def titlesSince (earlier later : Session τ) : List String :=
  later.titles.take (later.titles.length - earlier.titles.length)

/-- The beats among some occasions, each with the session that it meets. -/
def beats
    {Beat : Type}
    (respond : Beat -> Session τ -> Session τ)
    (session : Session τ) :
    List (Occasion Beat) -> List (Session τ × Beat)
  | [] => []
  | .press pending :: rest => beats respond { session with pending } rest
  | .hold held :: rest => beats respond (session.holding held) rest
  | .beat beat :: rest => (session, beat) :: beats respond (respond beat session) rest

end Session

namespace Drive

/-- The session after it was driven; a fault leaves it where it stopped. -/
def play (drive : Drive) (session : Session Rat) : Session Rat :=
  match drive with
  | tick => Action.after Session.tick session
  | poll now => Action.after (Session.poll now) session

/-- Whether a tick completes: the tick itself, or the one that a poll runs. -/
def completes (session : Session Rat) : Drive -> Bool
  | tick =>
      match session.tick with
      | .ok _ _ => true
      | .error _ _ => false
  | poll now =>
      match session.poll now with
      | .ok ticked _ => ticked
      | .error _ _ => false

/-- The titles that a poll sets, with its time. -/
def told (session : Session Rat) : Drive -> List (Rat × String)
  | tick => []
  | poll now => (session.titlesSince (play (poll now) session)).map (now, ·)

end Drive

namespace Session

/-- The session after some occasions whose beats drive it. -/
def afterDrives (session : Session Rat) (occasions : List (Occasion Drive)) : Session Rat :=
  session.afterOccasions Drive.play occasions

/-- How many ticks complete on some occasions. -/
def completed (session : Session Rat) (occasions : List (Occasion Drive)) : Nat :=
  (session.beats Drive.play occasions).countP fun (met, drive) => drive.completes met

/-- The titles that polls set on some occasions, in order, with the times of the polls. -/
def told (session : Session Rat) (occasions : List (Occasion Drive)) : List (Rat × String) :=
  (session.beats Drive.play occasions).flatMap fun (met, drive) => drive.told met

theorem completed_beat
    (session : Session Rat)
    (drive : Drive)
    (rest : List (Occasion Drive)) :
    session.completed (.beat drive :: rest) =
      (drive.completes session).toNat + (drive.play session).completed rest := by
  cases completes : drive.completes session <;>
    simp [completed, beats, completes, Nat.add_comm]

end Session

/-! ## Titles -/

/-- The numbers of a report are told by its title. -/
theorem eq_of_reportTitle_eq
    {ticks operations otherTicks otherOperations : Nat}
    (same : reportTitle ticks operations = reportTitle otherTicks otherOperations) :
    ticks = otherTicks ∧ operations = otherOperations := by
  have written : ∀ number : Nat, (toString (number : Int)).toList = Nat.toDigits 10 number :=
    fun _ => String.toList_ofList
  have texts := congrArg String.toList same
  have spaced : " TPS, ".toList = ' ' :: "TPS, ".toList := by simp
  simp only [reportTitle, String.toList_append, List.append_assoc, List.append_cancel_left_eq,
    written, spaced, List.cons_append] at texts
  obtain ⟨first, rest⟩ := Text.eq_of_append_eq_append (Text.blank_notMem_toDigits ticks)
    (Text.blank_notMem_toDigits otherTicks) (.inr ⟨_, rfl⟩) (.inr ⟨_, rfl⟩) texts
  rw [List.cons_inj_right, List.append_cancel_left_eq] at rest
  exact ⟨Text.eq_of_toDigits_eq first, Text.eq_of_toDigits_eq (List.append_cancel_right rest)⟩

/-- A report is told by what there is to see of it. -/
theorem Report.eq_of_shown_eq
    {report other : Report}
    (same : report.shown = other.shown) :
    report = other := by
  obtain ⟨time, ticks, operations⟩ := report
  obtain ⟨otherTime, otherTicks, otherOperations⟩ := other
  obtain ⟨rfl, titled⟩ := Prod.mk.inj same
  obtain ⟨rfl, rfl⟩ := eq_of_reportTitle_eq titled
  rfl

namespace Session

section Titles

variable {τ : Type} {session later : Session τ}

theorem title?_of_isOfTick {event : Event τ} (ofTick : event.isOfTick = true) :
    event.title? = none := by
  cases event <;> first | rfl | contradiction

theorem titles_after_tick (session : Session τ) :
    (Action.after tick session).titles = session.titles :=
  (recordsTick_after_tick session).filterMap_eq fun _ => title?_of_isOfTick

theorem titles_report (ticks operations : Int) (session : Session τ) :
    (session.report ticks operations).titles = reportTitle ticks operations :: session.titles :=
  (recordsTick_report ticks operations session).filterMap_eq fun _ => title?_of_isOfTick

theorem titlesSince_of_eq (same : later.titles = session.titles) :
    session.titlesSince later = [] := by
  simp [titlesSince, same]

theorem titlesSince_of_cons
    {title : String}
    (added : later.titles = title :: session.titles) :
    session.titlesSince later = [title] := by
  simp [titlesSince, added]

end Titles

/-! ## Accounts -/

variable {session ended final : Session Rat} {now : Rat}

/-- On the exact scale a report is made whenever it is due. The next is not due before the next
second then. -/
theorem reportWhenDue_eq_ok_of_exact (reports : reportWhenDue now ended = .ok () final) :
    final = ended ∨
      ended.nextReport ≤ now ∧
        ∃ nextReport : Rat,
          ((now.floor + 1 : Int) : Rat) ≤ nextReport ∧
          final = {
            ended.report ended.ticks ended.operations with
            nextReport, ticks := 0, operations := 0 } := by
  unfold reportWhenDue at reports
  split at reports
  · rename_i due
    cases reports
    refine .inr ⟨due, _, ?_, rfl⟩
    have above : (now.floor : Rat) ≤ now.ceil := Rat.le_trans (Rat.floor_le now) Rat.le_ceil
    change _ ≤ (if 0 ≤ now then (now.floor : Rat) else now.ceil) + 1
    split
    · grind
    · grind
  · cases reports
    exact .inl rfl

/-- What a session has counted and the reports that were made of it account for a number of ticks
that completed. The next report is not due before the second after any of these. -/
structure Accounts (steps : Nat) (reports : List Report) (completed : Nat)
    (session : Session Rat) : Prop where
  stepsPerTick : session.stepsPerTick = steps
  operations : session.operations = steps * session.ticks
  ticks : (reports.map Report.ticks).sum + session.ticks = completed
  reported : ∀ report ∈ reports, report.operations = steps * report.ticks
  apart : reports.Pairwise fun earlier later => earlier.second < later.second
  due : ∀ report ∈ reports, ((report.second + 1 : Int) : Rat) ≤ session.nextReport

namespace Accounts

variable {steps completed : Nat} {reports : List Report}

theorem of_start
    {pace : Pace Rat}
    {devices : Devices}
    {machine : Machine}
    (started : start pace devices machine now = .ok session) :
    Accounts session.stepsPerTick [] 0 session := by
  obtain ⟨_, _, _, _, _, _, rfl⟩ := exists_of_start started
  exact ⟨rfl, rfl, rfl, by simp, .nil, by simp⟩

/-- A tick that completes is counted. -/
theorem of_tick_ok
    (accounts : Accounts steps reports completed session)
    (ticked : tick session = .ok () final) :
    Accounts steps reports (completed + 1) final := by
  obtain ⟨_, _, _, _, _, rfl, _⟩ := tick_eq_ok ticked
  refine { accounts with operations := ?_, ticks := ?_ }
  · change session.operations + session.stepsPerTick = steps * (session.ticks + 1)
    rw [accounts.operations, accounts.stepsPerTick, Nat.mul_succ]
  · change (reports.map Report.ticks).sum + (session.ticks + 1) = completed + 1
    rw [← Nat.add_assoc, accounts.ticks]

/-- A tick that a fault stops is not counted. -/
theorem of_tick_error
    {fault : Fault}
    (accounts : Accounts steps reports completed session)
    (fails : tick session = .error fault final) :
    Accounts steps reports completed final := by
  obtain ⟨_, _, _, rfl, _⟩ := tick_eq_error fails
  exact { accounts with }

/-- A report tells what was counted, and comes in a later second than those before it. -/
theorem of_reportWhenDue
    (accounts : Accounts steps reports completed ended)
    (made : reportWhenDue now ended = .ok () final) :
    ∃ more : List Report,
      (ended.titlesSince final).map (now, ·) = more.map Report.shown ∧
      Accounts steps (reports ++ more) completed final := by
  rcases reportWhenDue_eq_ok_of_exact made with rfl | ⟨reached, nextReport, next, rfl⟩
  · refine ⟨[], ?_, by rwa [List.append_nil]⟩
    rw [titlesSince_of_eq rfl]
    rfl
  · have later : ∀ report ∈ reports, report.second < now.floor := by
      intro report member
      exact Rat.le_floor_iff.mpr (Rat.le_trans (accounts.due report member) reached)
    refine ⟨[⟨now, ended.ticks, ended.operations⟩], ?_, accounts.stepsPerTick, ?_, ?_, ?_, ?_, ?_⟩
    · exact congrArg (List.map (now, ·))
        (titlesSince_of_cons (titles_report ended.ticks ended.operations ended))
    · rfl
    · simpa using accounts.ticks
    · simpa [or_imp, forall_and, accounts.operations] using accounts.reported
    · simpa [List.pairwise_append] using ⟨accounts.apart, later⟩
    · intro report member
      rcases List.mem_append.mp member with earlier | last
      · have below : report.second + 1 ≤ now.floor + 1 := by
          have before := later report earlier
          omega
        exact Rat.le_trans (Rat.intCast_le_intCast.mpr below) next
      · rw [List.mem_singleton.mp last]
        exact next

theorem of_poll_ok
    {ticked : Bool}
    (accounts : Accounts steps reports completed session)
    (polls : poll now session = .ok ticked final) :
    ∃ more : List Report,
      (session.titlesSince final).map (now, ·) = more.map Report.shown ∧
      Accounts steps (reports ++ more) (completed + ticked.toNat) final := by
  have ended := polled session now
  rw [polls] at ended
  cases ended with
  | early =>
      refine ⟨[], ?_, by rwa [List.append_nil]⟩
      rw [titlesSince_of_eq rfl]
      rfl
  | @ticked ended _ _ _ ticks made =>
      have scheduled : Accounts steps reports completed (session.rescheduled now) :=
        { accounts with }
      have untitled : ended.titles = session.titles := by
        have same := titles_after_tick (session.rescheduled now)
        rwa [Action.after_of_ok ticks] at same
      have same : session.titlesSince final = ended.titlesSince final := by
        rw [titlesSince, titlesSince, untitled]
      rw [same]
      exact (scheduled.of_tick_ok ticks).of_reportWhenDue made

theorem of_poll_error
    {fault : Fault}
    (accounts : Accounts steps reports completed session)
    (fails : poll now session = .error fault final) :
    session.titlesSince final = [] ∧ Accounts steps reports completed final := by
  have ended := polled session now
  rw [fails] at ended
  cases ended with
  | unspaced => exact ⟨titlesSince_of_eq rfl, accounts⟩
  | failed _ _ stops =>
      have scheduled : Accounts steps reports completed (session.rescheduled now) :=
        { accounts with }
      have untitled := titles_after_tick (session.rescheduled now)
      rw [Action.after_of_error stops] at untitled
      exact ⟨titlesSince_of_eq untitled, scheduled.of_tick_error stops⟩
  | unreported _ _ _ unread => contradiction

/-- Whatever drives the session, the accounts go on to hold. -/
theorem play
    (accounts : Accounts steps reports completed session)
    (drive : Drive) :
    ∃ more : List Report,
      drive.told session = more.map Report.shown ∧
      Accounts steps (reports ++ more) (completed + (drive.completes session).toNat)
        (drive.play session) := by
  cases drive with
  | tick =>
      refine ⟨[], rfl, ?_⟩
      rw [List.append_nil]
      cases outcome : tick session with
      | ok =>
          simp only [Drive.play, Drive.completes, Action.after_of_ok outcome, outcome]
          exact accounts.of_tick_ok outcome
      | error =>
          simp only [Drive.play, Drive.completes, Action.after_of_error outcome, outcome]
          exact accounts.of_tick_error outcome
  | poll now =>
      cases outcome : poll now session with
      | ok =>
          simp only [Drive.told, Drive.play, Drive.completes, Action.after_of_ok outcome, outcome]
          exact accounts.of_poll_ok outcome
      | error =>
          obtain ⟨untitled, kept⟩ := accounts.of_poll_error outcome
          simp only [Drive.told, Drive.play, Drive.completes, Action.after_of_error outcome,
            outcome, untitled]
          exact ⟨[], rfl, by rwa [List.append_nil]⟩

/-- The accounts hold through any occasions. -/
theorem afterDrives
    (accounts : Accounts steps reports completed session)
    (occasions : List (Occasion Drive)) :
    ∃ more : List Report,
      session.told occasions = more.map Report.shown ∧
      Accounts steps (reports ++ more) (completed + session.completed occasions)
        (session.afterDrives occasions) := by
  induction occasions generalizing session reports completed with
  | nil => exact ⟨[], rfl, by rwa [List.append_nil]⟩
  | cons occasion rest hypothesis =>
      cases occasion with
      | press pending => exact hypothesis { accounts with }
      | hold held => exact hypothesis { accounts with }
      | beat drive =>
          obtain ⟨first, told, played⟩ := accounts.play drive
          obtain ⟨more, later, kept⟩ := hypothesis played
          refine ⟨first ++ more, ?_, ?_⟩
          · change drive.told session ++ (drive.play session).told rest = _
            rw [told, later, List.map_append]
          · rw [completed_beat, ← Nat.add_assoc, ← List.append_assoc]
            exact kept

end Accounts

/-- A session accounts for every tick, whatever happens to it and whatever the clock shows. The
steps that it has counted go with the ticks that it has counted. What its polls tell are reports,
and there is one list of them: the ticks they report and the ticks counted since are the ticks that
completed, the steps of each go with its ticks, and each is made in a later second than those before
it. -/
theorem reports_account_for_ticks
    {pace : Pace Rat}
    {devices : Devices}
    {machine : Machine}
    {now : Rat}
    (started : start pace devices machine now = .ok session)
    (occasions : List (Occasion Drive)) :
    (session.afterDrives occasions).operations =
        session.stepsPerTick * (session.afterDrives occasions).ticks ∧
      ∃ reports : List Report,
        (∀ others : List Report,
          session.told occasions = others.map Report.shown ↔ others = reports) ∧
        (reports.map Report.ticks).sum + (session.afterDrives occasions).ticks =
          session.completed occasions ∧
        (∀ report ∈ reports, report.operations = session.stepsPerTick * report.ticks) ∧
        reports.Pairwise fun earlier later => earlier.second < later.second := by
  obtain ⟨reports, told, accounts⟩ := (Accounts.of_start started).afterDrives occasions
  rw [List.nil_append, Nat.zero_add] at accounts
  refine ⟨accounts.operations, reports, ?_, accounts.ticks, accounts.reported, accounts.apart⟩
  intro others
  rw [told, List.map_inj_right fun _ _ => Report.eq_of_shown_eq, eq_comm]

/-- A tick, a poll that reports, another tick, and one that is stopped by a return to nowhere. -/
theorem reports_account_for_ticks_stopped :
    ∃ (machine : Machine) (session : Session Rat),
      Machine.boot (some [0x60, 0x05, 0x60, 0x06, 0x60, 0x07, 0x00, 0xee]) = .ok machine ∧
      start { stepsPerTick := .value 1 } .bare machine 0 = .ok session ∧
      session.completed [.beat .tick, .beat (.poll 1), .beat .tick, .beat .tick] = 3 ∧
      ∃ reports : List Report,
        session.told [.beat .tick, .beat (.poll 1), .beat .tick, .beat .tick] =
          reports.map Report.shown ∧
        reports.length = 1 ∧
        (reports.map Report.ticks).sum = 2 ∧
        ∀ report ∈ reports, report.operations = report.ticks := by
  obtain ⟨machine, session, booted, started, single, completed, ticks, titles⟩ :
      ∃ (machine : Machine) (session : Session Rat),
        Machine.boot (some [0x60, 0x05, 0x60, 0x06, 0x60, 0x07, 0x00, 0xee]) = .ok machine ∧
        start { stepsPerTick := .value 1 } .bare machine 0 = .ok session ∧
        session.stepsPerTick = 1 ∧
        session.completed [.beat .tick, .beat (.poll 1), .beat .tick, .beat .tick] = 3 ∧
        (session.afterDrives [.beat .tick, .beat (.poll 1), .beat .tick, .beat .tick]).ticks = 1 ∧
        (session.told [.beat .tick, .beat (.poll 1), .beat .tick, .beat .tick]).length = 1 :=
    ⟨{ Machine.powerOn with
        memory :=
          Machine.powerOn.memory.place 0x200 [0x60, 0x05, 0x60, 0x06, 0x60, 0x07, 0x00, 0xee] },
      _, rfl, rfl, rfl, by decide +kernel, by decide +kernel, by decide +kernel⟩
  obtain ⟨_, reports, told, counted, reported, _⟩ := reports_account_for_ticks started
    [.beat .tick, .beat (.poll 1), .beat .tick, .beat .tick]
  have told := (told reports).mpr rfl
  rw [completed, ticks] at counted
  rw [told, List.length_map] at titles
  refine ⟨machine, session, booted, started, completed, reports, told, titles, by omega, ?_⟩
  intro report member
  rw [reported report member, single, Nat.one_mul]

end Session
end Chip8
