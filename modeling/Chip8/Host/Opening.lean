import Chip8.Fault
import Chip8.Host.Call

/-!
# Opening devices

A host may refuse a call, and is known by the calls it refuses. A device opens
by making its planned calls in turn; a refused call is still made, and is the
last one.
-/

namespace Chip8

/-- What the emulator runs on. -/
structure Host where
  /-- The height of the terminal. -/
  height : Int := 40
  /-- The width of the terminal. -/
  width : Int := 150
  /-- Whether the terminal can be told its size. -/
  resizes : Bool := true
  /-- The size of the largest store that there is memory for. -/
  largestBlock : Int := 0x7FFFFFFFF
  /-- The calls that fail when a device is opened with them. -/
  refuses : HostCall -> Bool := fun _ => false

/-- The calls made to open a device, and the device or what kept it from opening. -/
structure Opening (Device : Type) where
  calls : List HostCall
  outcome : Except Fault Device

namespace Opening

variable {Device : Type}

/-- A device that opens without a call. -/
def silent (device : Device) : Opening Device :=
  ⟨[], .ok device⟩

/-- A device that was refused before a call was made. -/
def refused (fault : Fault) : Opening Device :=
  ⟨[], .error fault⟩

end Opening

namespace Host

/-- The planned calls up to the first that is refused, and whether none is. -/
def perform (host : Host) : List HostCall -> List HostCall × Bool
  | [] => ([], true)
  | call :: rest =>
      if host.refuses call then ([call], false)
      else
        let (made, finished) := host.perform rest
        (call :: made, finished)

@[simp] theorem perform_nil (host : Host) : host.perform [] = ([], true) := rfl

theorem perform_of_refuses {host : Host} {call : HostCall} (rest : List HostCall)
    (refused : host.refuses call = true) :
    host.perform (call :: rest) = ([call], false) := by
  simp [perform, refused]

theorem perform_of_accepts {host : Host} {call : HostCall} (rest : List HostCall)
    (accepted : host.refuses call = false) :
    host.perform (call :: rest) =
      (call :: (host.perform rest).1, (host.perform rest).2) := by
  simp [perform, accepted]

theorem perform_append_of_accepts {host : Host} {accepted : List HostCall}
    (accepts : ∀ call ∈ accepted, host.refuses call = false) (rest : List HostCall) :
    host.perform (accepted ++ rest) =
      (accepted ++ (host.perform rest).1, (host.perform rest).2) := by
  induction accepted with
  | nil => rfl
  | cons call later hypothesis =>
      obtain ⟨first, others⟩ := List.forall_mem_cons.mp accepts
      rw [List.cons_append, perform_of_accepts _ first, hypothesis others, List.cons_append]

/-- Open a device by making its planned calls. -/
def openWith {Device : Type} (host : Host) (plan : List HostCall) (device : Device) :
    Opening Device :=
  let (calls, finished) := host.perform plan
  ⟨calls, if finished then .ok device else .error .hostRefused⟩

variable {Device : Type} {host : Host} {accepted : List HostCall}

/-- A device opens where no planned call is refused. -/
theorem openWith_of_accepts (accepts : ∀ call ∈ accepted, host.refuses call = false)
    (device : Device) :
    host.openWith accepted device = ⟨accepted, .ok device⟩ := by
  have performed := perform_append_of_accepts accepts []
  rw [List.append_nil] at performed
  simp [openWith, performed]

/-- The first call that is refused is the last one made. -/
theorem openWith_of_refuses {call : HostCall}
    (accepts : ∀ call ∈ accepted, host.refuses call = false)
    (refused : host.refuses call = true) (rest : List HostCall) (device : Device) :
    host.openWith (accepted ++ call :: rest) device =
      ⟨accepted ++ [call], .error .hostRefused⟩ := by
  have performed := perform_append_of_accepts accepts (call :: rest)
  rw [perform_of_refuses rest refused] at performed
  simp [openWith, performed]

/-- Either no planned call is refused, or the calls up to the first that is are made. -/
theorem openWith_cases (host : Host) (plan : List HostCall) (device : Device) :
    ((∀ call ∈ plan, host.refuses call = false) ∧
        host.openWith plan device = ⟨plan, .ok device⟩) ∨
      ∃ made call rest,
        plan = made ++ call :: rest ∧
        (∀ call ∈ made, host.refuses call = false) ∧
        host.refuses call = true ∧
        host.openWith plan device = ⟨made ++ [call], .error .hostRefused⟩ := by
  cases first : plan.find? host.refuses with
  | none =>
      have accepts : ∀ call ∈ plan, host.refuses call = false := by
        simpa using List.find?_eq_none.mp first
      exact .inl ⟨accepts, openWith_of_accepts accepts device⟩
  | some call =>
      obtain ⟨refused, made, rest, rfl, before⟩ := List.find?_eq_some_iff_append.mp first
      have accepts : ∀ call ∈ made, host.refuses call = false := by simpa using before
      exact .inr ⟨made, call, rest, rfl, accepts, refused,
        openWith_of_refuses accepts refused rest device⟩

end Host
end Chip8
