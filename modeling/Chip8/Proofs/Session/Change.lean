import Chip8.Proofs.Machine.Stepping

/-!
# Changes of a machine

What a tick does to the machine is kept as a list of changes, each with its
reason and with the machine before and after it. Where no change touches a
machine that waits for a key, a wait that has begun goes on, and a wait found at
the end but not at the start began with one of the changes.
-/

namespace Chip8

/-- Why a tick changes the machine. -/
inductive Cause
  /-- The pending press is handed over. -/
  | delivery
  /-- A step is made. -/
  | step
  /-- The timers are counted down. -/
  | timers
  deriving DecidableEq, Repr

/-- A change of the machine in a tick. The machine may be the same before and after it. -/
structure Change where
  cause : Cause
  before : Machine
  after : Machine

namespace Change

/-- The changes lead from one machine to another, each from where the last one left off. -/
def Lead : Machine -> List Change -> Machine -> Prop
  | machine, [], final => machine = final
  | machine, change :: rest, final => change.before = machine ∧ Lead change.after rest final

/-- The change leaves a machine alone that waits for a key. -/
def SparesPaused (change : Change) : Prop :=
  change.before.paused = true -> change.after = change.before

theorem Lead.append
    {start middle final : Machine}
    {earlier later : List Change}
    (first : Lead start earlier middle)
    (second : Lead middle later final) :
    Lead start (earlier ++ later) final := by
  induction earlier generalizing start with
  | nil =>
      cases first
      exact second
  | cons change rest hypothesis =>
      obtain ⟨starts, further⟩ := first
      exact ⟨starts, hypothesis further⟩

/-- What every change keeps is kept by all of them together. -/
theorem Lead.keeps
    {property : Machine -> Prop}
    {machine final : Machine}
    {changes : List Change}
    (lead : Lead machine changes final)
    (keep : ∀ change ∈ changes, property change.before -> property change.after)
    (holds : property machine) :
    property final := by
  induction changes generalizing machine with
  | nil =>
      cases lead
      exact holds
  | cons change rest hypothesis =>
      obtain ⟨rfl, further⟩ := lead
      apply hypothesis further
      · intro other member
        exact keep other (List.mem_cons_of_mem _ member)
      · exact keep change List.mem_cons_self holds

/-- Changes that spare paused machines are no changes at all from a paused machine on. -/
theorem Lead.of_paused
    {machine final : Machine}
    {changes : List Change}
    (lead : Lead machine changes final)
    (spare : ∀ change ∈ changes, change.SparesPaused)
    (waiting : machine.paused = true) :
    final = machine ∧ ∀ change ∈ changes, change.before = machine ∧ change.after = machine := by
  induction changes generalizing machine with
  | nil => exact ⟨lead.symm, by simp⟩
  | cons change rest hypothesis =>
      obtain ⟨rfl, further⟩ := lead
      have same : change.after = change.before := spare change List.mem_cons_self waiting
      rw [same] at further
      obtain ⟨ends, stay⟩ := hypothesis further
        (fun change member => spare change (List.mem_cons_of_mem _ member)) waiting
      refine ⟨ends, ?_⟩
      intro other member
      rcases List.mem_cons.mp member with rfl | member
      · exact ⟨rfl, same⟩
      · exact stay other member

/-- A wait that is there at the end of such changes, and not at their start, began with one of
them, and none of the changes after that one ended it. -/
theorem Lead.exists_begin
    {machine final : Machine}
    {changes : List Change}
    {waiting : Int}
    (lead : Lead machine changes final)
    (spare : ∀ change ∈ changes, change.SparesPaused)
    (running : machine.awaiting = none)
    (awaits : final.awaiting = some waiting) :
    ∃ earlier change later, changes = earlier ++ change :: later ∧
      change.before.awaiting = none ∧ change.after.awaiting = some waiting ∧
      ∀ since ∈ later, since.before.awaiting = some waiting ∧
        since.after.awaiting = some waiting := by
  induction changes generalizing machine with
  | nil =>
      cases lead
      rw [running] at awaits
      contradiction
  | cons change rest hypothesis =>
      obtain ⟨rfl, further⟩ := lead
      have spareRest : ∀ change ∈ rest, change.SparesPaused :=
        fun change member => spare change (List.mem_cons_of_mem _ member)
      cases found : change.after.awaiting with
      | none =>
          obtain ⟨earlier, begun, later, rfl, before, after, stay⟩ :=
            hypothesis further spareRest found
          exact ⟨change :: earlier, begun, later, rfl, before, after, stay⟩
      | some other =>
          -- From here on nothing changes, so this is the wait that is there at the end.
          have paused : change.after.paused = true := by simp [Machine.paused, found]
          obtain ⟨rfl, stay⟩ := further.of_paused spareRest paused
          refine ⟨[], change, rest, rfl, running, awaits, ?_⟩
          intro since member
          obtain ⟨before, after⟩ := stay since member
          rw [before, after]
          exact ⟨awaits, awaits⟩

end Change

namespace Machine

/-- The changes that some steps make, up to the step that a fault stops. -/
def stepChanges (action : Action Machine Unit) : Nat -> Machine -> List Change
  | 0, _ => []
  | count + 1, machine =>
      match action machine with
      | .ok () next => ⟨.step, machine, next⟩ :: stepChanges action count next
      | .error _ stopped => [⟨.step, machine, stopped⟩]

theorem lead_stepChanges (action : Action Machine Unit) (count : Nat) (machine : Machine) :
    Change.Lead machine (stepChanges action count machine)
      (Action.after (steps action count) machine) := by
  induction count generalizing machine with
  | zero => rfl
  | succ count hypothesis =>
      cases outcome : action machine with
      | ok result next =>
          have further := hypothesis next
          simp only [stepChanges, Action.after, steps, outcome] at further ⊢
          exact ⟨rfl, further⟩
      | error fault stopped =>
          simp only [stepChanges, Action.after, steps, outcome]
          exact ⟨rfl, rfl⟩

/-- Each of the changes that steps make is one step. -/
theorem eq_of_mem_stepChanges
    {action : Action Machine Unit}
    {count : Nat}
    {machine : Machine}
    {change : Change}
    (member : change ∈ stepChanges action count machine) :
    change = ⟨.step, change.before, Action.after action change.before⟩ := by
  induction count generalizing machine with
  | zero => contradiction
  | succ count hypothesis =>
      cases outcome : action machine with
      | ok result next =>
          simp only [stepChanges, outcome] at member
          rcases List.mem_cons.mp member with rfl | member
          · rw [Action.after_of_ok outcome]
          · exact hypothesis member
      | error fault stopped =>
          simp only [stepChanges, outcome, List.mem_singleton] at member
          subst member
          rw [Action.after_of_error outcome]

end Machine
end Chip8
