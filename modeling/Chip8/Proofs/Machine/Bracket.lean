/-!
# Calls and returns as brackets

The calls and returns of a run are brackets. A return closes the latest call
that is still open; one that finds none open is a stray. Read from its end, a
log tells which of its calls are left open: those that no stray return follows.
This agrees with balanced logs, in which every bracket has its partner: a call
is open exactly when what follows it closes everything but the call itself.
-/

namespace Chip8

/-- A call, with the address it was executed at, or a return. -/
inductive Bracket
  | call (address : Int)
  | ret
  deriving DecidableEq, Repr

namespace Bracket

/-- In a balanced log every call is closed by a return, and every return closes a call. -/
inductive Balanced : List Bracket -> Prop
  | nil : Balanced []
  | nest
      (address : Int)
      {inner later : List Bracket}
      (closed : Balanced inner)
      (rest : Balanced later) :
      Balanced (call address :: (inner ++ ret :: later))

/-- How many returns of a log close no call of it. -/
def strays : List Bracket -> Nat
  | [] => 0
  | ret :: rest => strays rest + 1
  | call _ :: rest => strays rest - 1

/-- The addresses of the calls that no return of the log closes, the oldest first. -/
def unmatched : List Bracket -> List Int
  | [] => []
  | ret :: rest => unmatched rest
  | call address :: rest =>
      if strays rest = 0 then address :: unmatched rest else unmatched rest

/-- The stray returns of a later log close what an earlier one leaves open, the latest first. -/
theorem strays_append (earlier later : List Bracket) :
    strays (earlier ++ later) = strays earlier + (strays later - (unmatched earlier).length) := by
  induction earlier with
  | nil => simp [strays, unmatched]
  | cons bracket rest hypothesis =>
      cases bracket with
      | ret =>
          simp only [List.cons_append, strays, unmatched, hypothesis]
          omega
      | call address =>
          simp only [List.cons_append, strays, unmatched, hypothesis]
          by_cases closed : strays rest = 0
          · simp only [closed, if_true, List.length_cons]
            omega
          · simp only [closed, if_false]
            omega

theorem unmatched_append (earlier later : List Bracket) :
    unmatched (earlier ++ later) =
      (unmatched earlier).take ((unmatched earlier).length - strays later) ++ unmatched later := by
  induction earlier with
  | nil => simp [unmatched]
  | cons bracket rest hypothesis =>
      cases bracket with
      | ret => simp only [List.cons_append, unmatched, hypothesis]
      | call address =>
          simp only [List.cons_append, unmatched, strays_append, hypothesis]
          by_cases closed : strays rest = 0
          · by_cases few : strays later ≤ (unmatched rest).length
            · have kept : (unmatched rest).length + 1 - strays later =
                  (unmatched rest).length - strays later + 1 := by omega
              simp [closed, few, kept]
            · have more : ¬(strays later - (unmatched rest).length = 0) := by omega
              have noneLonger : (unmatched rest).length + 1 - strays later = 0 := by omega
              have noneKept : (unmatched rest).length - strays later = 0 := by omega
              simp [closed, more, noneLonger, noneKept]
          · simp [closed]

@[simp] theorem unmatched_append_call (log : List Bracket) (address : Int) :
    unmatched (log ++ [call address]) = unmatched log ++ [address] := by
  simp [unmatched_append, unmatched, strays]

@[simp] theorem unmatched_append_ret (log : List Bracket) :
    unmatched (log ++ [ret]) = (unmatched log).dropLast := by
  simp [unmatched_append, unmatched, strays, List.dropLast_eq_take]

/-- A balanced log has no stray return and leaves no call open. -/
theorem Balanced.strays_unmatched {log : List Bracket} (balanced : Balanced log) :
    strays log = 0 ∧ unmatched log = [] := by
  induction balanced with
  | nil => exact ⟨rfl, rfl⟩
  | nest address closed rest closedHypothesis restHypothesis =>
      obtain ⟨innerStrays, innerOpen⟩ := closedHypothesis
      obtain ⟨laterStrays, laterOpen⟩ := restHypothesis
      simp [strays, unmatched, strays_append, unmatched_append, innerStrays, innerOpen,
        laterStrays, laterOpen]

/-- A call that is followed by a balanced log is the latest one left open. -/
theorem unmatched_of_balanced
    {inner : List Bracket}
    (earlier : List Bracket)
    (address : Int)
    (balanced : Balanced inner) :
    unmatched (earlier ++ call address :: inner) = unmatched earlier ++ [address] := by
  obtain ⟨noStrays, noneOpen⟩ := balanced.strays_unmatched
  simp [unmatched_append, unmatched, strays, noStrays, noneOpen]

/-- What stands before the first stray return of a log is balanced. -/
theorem exists_balanced_of_stray {log : List Bracket} (stray : 0 < strays log) :
    ∃ inner later, Balanced inner ∧ log = inner ++ ret :: later := by
  match log with
  | [] => simp [strays] at stray
  | ret :: rest => exact ⟨[], rest, .nil, rfl⟩
  | call address :: rest =>
      -- The first stray of the rest closes this call; the one after it is the log's own.
      simp only [strays] at stray
      have strayRest : 0 < strays rest := by omega
      obtain ⟨inner, middle, closed, restParts⟩ := exists_balanced_of_stray strayRest
      obtain ⟨noStrays, noneOpen⟩ := closed.strays_unmatched
      have strayMiddle : 0 < strays middle := by
        simp only [restParts, strays_append, strays, noStrays, noneOpen,
          List.length_nil] at stray
        omega
      have shorter : middle.length < rest.length + 1 := by
        simp [restParts]
        omega
      obtain ⟨outer, later, balanced, middleParts⟩ := exists_balanced_of_stray strayMiddle
      exact ⟨call address :: (inner ++ ret :: outer), later, .nest address closed balanced,
        by simp [restParts, middleParts]⟩
termination_by log.length

/-- A log without stray returns that leaves no call open is balanced. -/
theorem balanced_of_strays_unmatched
    {log : List Bracket}
    (noStrays : strays log = 0)
    (noneOpen : unmatched log = []) :
    Balanced log := by
  match log with
  | [] => exact .nil
  | ret :: rest => simp [strays] at noStrays
  | call address :: rest =>
      have strayRest : 0 < strays rest := by
        apply Nat.pos_of_ne_zero
        intro closed
        simp [unmatched, closed] at noneOpen
      obtain ⟨inner, later, closed, restParts⟩ := exists_balanced_of_stray strayRest
      obtain ⟨innerStrays, innerOpen⟩ := closed.strays_unmatched
      have shorter : later.length < rest.length + 1 := by
        simp [restParts]
        omega
      have laterStrays : strays later = 0 := by
        simp only [restParts, strays, strays_append, innerStrays, innerOpen,
          List.length_nil] at noStrays
        omega
      have laterOpen : unmatched later = [] := by
        have restOpen : unmatched rest = [] := by
          simpa [unmatched, Nat.ne_of_gt strayRest] using noneOpen
        simpa [restParts, unmatched_append, unmatched, innerOpen] using restOpen
      rw [restParts]
      exact .nest address closed (balanced_of_strays_unmatched laterStrays laterOpen)
termination_by log.length

/-- A log that leaves calls open has a call with a balanced log behind it. -/
theorem exists_balanced_of_unmatched {log : List Bracket} (someOpen : unmatched log ≠ []) :
    ∃ earlier address inner, log = earlier ++ call address :: inner ∧ Balanced inner := by
  induction log with
  | nil => exact absurd rfl someOpen
  | cons bracket rest hypothesis =>
      by_cases restOpen : unmatched rest = []
      · cases bracket with
        | ret => exact absurd restOpen someOpen
        | call address =>
            have noStrays : strays rest = 0 := by
              apply Decidable.byContradiction
              intro stray
              exact someOpen (by simp [unmatched, stray, restOpen])
            exact ⟨[], address, rest, rfl, balanced_of_strays_unmatched noStrays restOpen⟩
      · obtain ⟨earlier, address, inner, rfl, balanced⟩ := hypothesis restOpen
        exact ⟨bracket :: earlier, address, inner, rfl, balanced⟩

/-- A log leaves no call open exactly when no call of it has a balanced log behind it. -/
theorem unmatched_eq_nil_iff {log : List Bracket} :
    unmatched log = [] ↔
      ¬∃ earlier address inner,
        log = earlier ++ call address :: inner ∧ Balanced inner := by
  constructor
  · rintro noneOpen ⟨earlier, address, inner, rfl, balanced⟩
    rw [unmatched_of_balanced earlier address balanced] at noneOpen
    simp at noneOpen
  · intro absent
    apply Decidable.byContradiction
    intro someOpen
    exact absent (exists_balanced_of_unmatched someOpen)

end Bracket
end Chip8
