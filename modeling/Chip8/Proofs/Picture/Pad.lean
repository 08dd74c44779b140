import Chip8.Host.Call

/-!
# Pads

A pad has a mark at each place, a character in reverse video or not. Calls that
write leave marks and are refused where they would go past its edge. Where none
of the calls does, each place shows the last mark that was put there.
-/

namespace Chip8

/-- What stands at a place of a pad: a character, in reverse video or not. -/
structure Mark where
  character : Char := ' '
  reverse : Bool := false
  deriving DecidableEq, Repr

/-- A pad of a size, with a mark at each place, by row and column. -/
structure Pad where
  height : Nat
  width : Nat
  mark : Nat -> Nat -> Mark

namespace HostCall

/-- Whether a call keeps to the rows from one to before another, and to a width, as far as it
writes. A call that makes another pad keeps to nothing. -/
def within (top bottom width : Nat) : HostCall -> Bool
  | .write row column text blanks _ =>
      top ≤ row && row < bottom && column + (text.length + blanks) ≤ width
  | .newPad _ _ => false
  | _ => true

/-- The mark that a call puts at a place of a pad, if any; each character takes one column. -/
def markAt (row column : Nat) : HostCall -> Option Mark
  | .write line start text blanks reverse =>
      if row = line ∧ start ≤ column then
        ((text.toList ++ List.replicate blanks ' ')[column - start]?).map (⟨·, reverse⟩)
      else none
  | _ => none

variable {call : HostCall} {top bottom width top' bottom' width' row column : Nat}

theorem within_mono
    (within : call.within top bottom width = true)
    (above : top' ≤ top)
    (below : bottom ≤ bottom')
    (beside : width ≤ width') :
    call.within top' bottom' width' = true := by
  cases call with
  | write =>
      simp only [HostCall.within, Bool.and_eq_true, decide_eq_true_eq] at within ⊢
      omega
  | _ => exact within

/-- Nothing is put where a call does not write. -/
theorem markAt_eq_none
    (within : call.within top bottom width = true)
    (outside : row < top ∨ bottom ≤ row ∨ width ≤ column) :
    call.markAt row column = none := by
  cases call with
  | write line start text blanks reverse =>
      simp only [HostCall.within, Bool.and_eq_true, decide_eq_true_eq] at within
      simp only [markAt, ite_eq_right_iff, Option.map_eq_none_iff, and_imp]
      rintro rfl started
      rw [List.getElem?_eq_none_iff, List.length_append, List.length_replicate,
        String.length_toList]
      omega
  | _ => rfl

/-- Blanks are put in the columns that they take. -/
theorem markAt_blanks (line start blanks row column : Nat) (reverse : Bool) :
    (write line start "" blanks reverse).markAt row column =
      if row = line ∧ start ≤ column ∧ column < start + blanks then some { reverse } else none := by
  simp only [markAt, String.toList_empty, List.nil_append, List.getElem?_replicate]
  grind

end HostCall

namespace Pad

/-- A pad as it is made. -/
def made (height width : Nat) : Pad :=
  { height, width, mark := fun _ _ => {} }

/-- The pad with what a call puts on it. -/
def written (pad : Pad) (call : HostCall) : Pad :=
  { pad with mark := fun row column => (call.markAt row column).getD (pad.mark row column) }

/-- The pad after a call; what goes past its edge is refused. -/
def respond (pad : Pad) : HostCall -> Option Pad
  | .newPad height width => some (made height width)
  | call => if call.within 0 pad.height pad.width then some (pad.written call) else none

/-- The pad after some calls. -/
def replay (pad : Pad) (calls : List HostCall) : Option Pad :=
  calls.foldlM respond pad

/-- The pad with the last mark at each place that calls put there. -/
def after (pad : Pad) (calls : List HostCall) : Pad :=
  { pad with
    mark := fun row column =>
      (calls.filterMap (·.markAt row column)).getLast?.getD (pad.mark row column) }

variable {pad : Pad} {calls : List HostCall}

theorem respond_of_within
    {call : HostCall}
    (within : call.within 0 pad.height pad.width = true) :
    pad.respond call = some (pad.written call) := by
  unfold respond
  split
  · contradiction
  · rw [if_pos within]

/-- Calls that keep to a pad are not refused. -/
theorem replay_of_within
    (within : ∀ call ∈ calls, call.within 0 pad.height pad.width = true) :
    pad.replay calls = some (pad.after calls) := by
  induction calls generalizing pad with
  | nil => rfl
  | cons call calls hypothesis =>
      rw [List.forall_mem_cons] at within
      have rest : (pad.written call).replay calls = _ := hypothesis within.2
      rw [replay, List.foldlM_cons, respond_of_within within.1]
      refine rest.trans ?_
      simp only [after, written]
      congr 2
      funext row column
      cases marked : call.markAt row column <;> simp [marked, List.getLast?_cons]

/-- A place that calls keep away from stays as it was. -/
theorem mark_after_of_outside
    {top bottom width row column : Nat}
    (within : ∀ call ∈ calls, call.within top bottom width = true)
    (outside : row < top ∨ bottom ≤ row ∨ width ≤ column) :
    (pad.after calls).mark row column = pad.mark row column := by
  have unmarked : calls.filterMap (·.markAt row column) = [] :=
    List.filterMap_eq_nil_iff.mpr fun call member =>
      HostCall.markAt_eq_none (within call member) outside
  simp only [after, unmarked]
  rfl

/-- A place where calls put one mark only shows that mark. -/
theorem mark_after_of_only
    {row column : Nat}
    {mark : Mark}
    (only : ∀ other, other ∈ calls.filterMap (·.markAt row column) ↔ other = mark) :
    (pad.after calls).mark row column = mark := by
  have filled : calls.filterMap (·.markAt row column) ≠ [] :=
    List.ne_nil_of_mem ((only mark).mpr rfl)
  have last : (calls.filterMap (·.markAt row column)).getLast? = some mark := by
    rw [List.getLast?_eq_some_getLast filled, (only _).mp (List.getLast_mem filled)]
  simp only [after, last]
  rfl

end Pad
end Chip8
