import Chip8.Host.Opening
import Chip8.Memory
import Chip8.Number.Binary64

/-!
# The speaker

The tone is a looped square wave where there is a mixer, a beep as it starts
where there is a bell, and silence elsewhere. A wave is built only when the
frequency changes.
-/

namespace Chip8

/-- What the tone is played on. -/
inductive Voice
  | silent
  | bell
  /-- A mixer, and the wave it was last given with that wave's frequency. -/
  | mixer (loaded : Option (Float × Wave))

/-- A voice, and whether the tone plays on it. -/
structure Speaker where
  voice : Voice
  playing : Bool := false

/-- How many samples a second the mixer plays. -/
def sampleRate : Float := 44100

/-- The whole part of a cycle's length in samples. -/
def cycleLength (frequency : Float) : Except Fault Int :=
  if frequency == 0 then .error .zeroFrequency
  else
    match wholePart (sampleRate / frequency) with
    | .ok samples => .ok samples
    | .error .infinite => .error .endlessCycle
    | .error .notANumber => .error .frequencyNotANumber

/-- The wave of a frequency on a host; a cycle has two samples or more, and the first half of them are
high. -/
def Wave.ofFrequency (host : Host) (frequency : Float) : Except Fault Wave :=
  match cycleLength frequency with
  | .error fault => .error fault
  | .ok samples =>
      if largestSize < samples then .error .endlessCycle
      else if host.largestBlock < samples then .error .outOfMemory
      else .ok { length := max 2 samples.toNat, high := max 2 samples.toNat / 2 }

namespace Speaker

/-- A speaker that makes no sound. -/
def openSilent : Opening Speaker :=
  .silent { voice := .silent }

/-- A speaker that beeps. -/
def openBell : Opening Speaker :=
  .silent { voice := .bell }

/-- The calls that start the mixer. -/
def mixerPlan : List HostCall := [.prepareMixer 44100 8 1 512 0, .openMixer]

/-- A speaker that plays through the mixer. -/
def openMixer (host : Host) : Opening Speaker :=
  host.openWith mixerPlan { voice := .mixer none }

/-- Whether the mixer holds the wave of a frequency. -/
def holds (loaded : Option (Float × Wave)) (frequency : Float) : Bool :=
  match loaded with
  | none => false
  | some (known, _) => known == frequency

/-- The calls that end a tone, if there is one. -/
def hush (playing : Bool) : List HostCall :=
  if playing then [.stopSound] else []

/-- The calls that give the mixer a wave. -/
def loadCalls (wave : Wave) : List HostCall :=
  [.newSound wave, .setVolume 1]

/-- Play a tone on the mixer. A new frequency ends the tone before its wave is built. -/
def playWave (host : Host) (playing : Bool) (loaded : Option (Float × Wave)) (frequency : Float) :
    List HostCall × Option Fault × Speaker :=
  if holds loaded frequency then
    (if playing then [] else [.loopSound], none, { voice := .mixer loaded, playing := true })
  else
    match Wave.ofFrequency host frequency with
    | .error fault => (hush playing, some fault, { voice := .mixer loaded, playing := false })
    | .ok wave =>
        (hush playing ++ loadCalls wave ++ [.loopSound], none,
          { voice := .mixer (some (frequency, wave)), playing := true })

/-- Play a tone: the calls made, the fault met, and the speaker afterwards. -/
def play (host : Host) (speaker : Speaker) (frequency : Float) :
    List HostCall × Option Fault × Speaker :=
  match speaker.voice with
  | .silent => ([], none, { speaker with playing := true })
  | .bell => (if speaker.playing then [] else [.beep], none, { speaker with playing := true })
  | .mixer loaded => playWave host speaker.playing loaded frequency

theorem playing_play
    {host : Host} {speaker : Speaker} {frequency : Float}
    (played : (speaker.play host frequency).2.1 = none) :
    (speaker.play host frequency).2.2.playing = true := by
  unfold play at *
  split
  · rfl
  · rfl
  · rename_i loaded found
    simp only [found] at played
    unfold playWave at *
    split
    · rfl
    · rename_i absent
      rw [if_neg absent] at played
      split at played
      · contradiction
      · rfl

/-- Play a tone that was given no frequency, without which a mixer has no wave. -/
def playUnpitched (speaker : Speaker) : List HostCall × Option Fault × Speaker :=
  match speaker.voice with
  | .silent => ([], none, { speaker with playing := true })
  | .bell => (if speaker.playing then [] else [.beep], none, { speaker with playing := true })
  | .mixer _ => (hush speaker.playing, some .frequencyMissing, { speaker with playing := false })

/-- Play a tone of a frequency, if there is one. -/
def sound (host : Host) (speaker : Speaker) :
    Option Float -> List HostCall × Option Fault × Speaker
  | none => speaker.playUnpitched
  | some frequency => speaker.play host frequency

/-- The calls that stop the tone. -/
def stopCalls (speaker : Speaker) : List HostCall :=
  match speaker.voice with
  | .mixer _ => hush speaker.playing
  | _ => []

/-- The speaker with its tone stopped. -/
def stopped (speaker : Speaker) : Speaker :=
  { speaker with playing := false }

/-- The calls that close the speaker. A wave that was ever built is stopped first. -/
def closeCalls (speaker : Speaker) : List HostCall :=
  match speaker.voice with
  | .mixer loaded => hush loaded.isSome ++ [.closeMixer]
  | _ => []

end Speaker
end Chip8
