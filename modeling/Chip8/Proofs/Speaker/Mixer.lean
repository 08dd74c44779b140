import Chip8.Host.Call

/-!
# Mixers

The calls of a speaker are replayed on a mixer, which holds the sounds it was given.
Each is silent or loops. Where calls lead, and whether two sounds loop at once
anywhere on the way, is told one call after the other.
-/

namespace Chip8

/-- A sound that a mixer was given, and whether it loops. -/
structure MixerSound where
  wave : Wave
  looping : Bool := false

/-- The sounds that a mixer was given, the newest first. A speaker keeps the newest only, so it is
the one that is started and stopped. -/
structure Mixer where
  sounds : List MixerSound := []

namespace Mixer

/-- The mixer after a call. It refuses to start a sound that loops, and to start or stop one that it
was never given. -/
def respond (mixer : Mixer) : HostCall -> Option Mixer
  | .newSound wave => some { sounds := { wave } :: mixer.sounds }
  | .loopSound =>
      match mixer.sounds with
      | [] => none
      | newest :: older =>
          if newest.looping then none
          else some { sounds := { newest with looping := true } :: older }
  | .stopSound =>
      match mixer.sounds with
      | [] => none
      | newest :: older => some { sounds := { newest with looping := false } :: older }
  | _ => some mixer

/-- The mixer after some calls. -/
def replay (mixer : Mixer) (calls : List HostCall) : Option Mixer :=
  calls.foldlM respond mixer

/-- Whether the newest sound loops. -/
def loops (mixer : Mixer) : Bool :=
  mixer.sounds.head?.any (·.looping)

/-- No sound loops but the newest. -/
def Alone (mixer : Mixer) : Prop :=
  ∀ sound ∈ mixer.sounds.tail, sound.looping = false

/-- Calls lead from one mixer to another, and at no time does a sound loop but the newest. -/
inductive Takes : Mixer -> List HostCall -> Mixer -> Prop
  | done {mixer : Mixer} (alone : mixer.Alone) : Takes mixer [] mixer
  | call {mixer next final : Mixer} {call : HostCall} {calls : List HostCall}
      (alone : mixer.Alone)
      (responds : mixer.respond call = some next)
      (rest : Takes next calls final) :
      Takes mixer (call :: calls) final

namespace Takes

variable {mixer middle final : Mixer} {calls more : List HostCall}

theorem replay_eq (takes : Takes mixer calls final) : mixer.replay calls = some final := by
  induction takes with
  | done alone => rfl
  | call alone responds rest hypothesis =>
      rw [replay, List.foldlM_cons, responds]
      exact hypothesis

theorem append (first : Takes mixer calls middle) (second : Takes middle more final) :
    Takes mixer (calls ++ more) final := by
  induction first with
  | done alone => exact second
  | call alone responds rest hypothesis => exact .call alone responds (hypothesis second)

/-- Every part of the way leads to a mixer in which no sound loops but the newest. -/
theorem alone_of_prefix
    {before : List HostCall}
    (takes : Takes mixer calls final)
    (starts : before <+: calls) :
    ∃ between, mixer.replay before = some between ∧ between.Alone := by
  induction takes generalizing before with
  | done alone =>
      rw [List.prefix_nil.mp starts]
      exact ⟨_, rfl, alone⟩
  | @call mixer next final call calls alone responds rest hypothesis =>
      rcases List.prefix_cons_iff.mp starts with rfl | ⟨shorter, rfl, goesOn⟩
      · exact ⟨mixer, rfl, alone⟩
      · obtain ⟨between, leads, apart⟩ := hypothesis goesOn
        refine ⟨between, ?_, apart⟩
        rw [replay, List.foldlM_cons, responds]
        exact leads

end Takes
end Mixer
end Chip8
