import Chip8.Proofs.Speaker.Mixer
import Chip8.Proofs.Speaker.Wave

/-!
# One tone at a time

A speaker that plays through a mixer may be told to play any frequencies and to stop,
in any order. Whatever it is told, its calls never let two sounds loop at once, and the
newest loops exactly while the tone plays. A tone that cannot be built ends the one
before it, but not for good: the sound built last is still there to be played.
-/

namespace Chip8

/-- What a speaker is told. -/
inductive Order
  | play (frequency : Float)
  | stop

/-- The frequency that an order asks for. -/
def Order.frequency? : Order -> Option Float
  | .play frequency => some frequency
  | .stop => none

/-- Whether a call makes a sound. -/
def HostCall.isNewSound : HostCall -> Bool
  | .newSound _ => true
  | _ => false

/-- The frequency for which a sound was made last, once an order has led to calls. -/
def Order.built (order : Order) (calls : List HostCall) (before : Option Float) : Option Float :=
  if calls.any HostCall.isNewSound then order.frequency? else before

/-- A speaker at work: the calls it has made, and the frequency for which it last made a sound. -/
structure Playback where
  speaker : Speaker
  calls : List HostCall := []
  built : Option Float := none

namespace Speaker

/-- Do what is told: the calls made, the fault met, and the speaker afterwards. -/
def obey (host : Host) (speaker : Speaker) : Order -> List HostCall × Option Fault × Speaker
  | .play frequency => speaker.play host frequency
  | .stop => (speaker.stopCalls, none, speaker.stopped)

end Speaker

namespace Playback

/-- The playback after an order. -/
def follow (host : Host) (playback : Playback) (order : Order) : Playback where
  speaker := (playback.speaker.obey host order).2.2
  calls := playback.calls ++ (playback.speaker.obey host order).1
  built := order.built (playback.speaker.obey host order).1 playback.built

/-- The playback after orders in turn. -/
def after (host : Host) (playback : Playback) (orders : List Order) : Playback :=
  orders.foldl (follow host) playback

end Playback

namespace Speaker

variable {host : Host} {speaker : Speaker} {playing : Bool} {loaded : Option (Float × Wave)}
  {frequency : Float}

/-- How a tone may be played on a mixer. -/
inductive Played (host : Host) (playing : Bool) (loaded : Option (Float × Wave))
    (frequency : Float) : List HostCall × Option Fault × Speaker -> Prop
  /-- The mixer holds its wave. -/
  | again {known : Float} {wave : Wave}
      (held : loaded = some (known, wave))
      (same : (known == frequency) = true) :
      Played host playing loaded frequency
        (if playing then [] else [.loopSound], none, { voice := .mixer loaded, playing := true })
  /-- Its wave cannot be built. -/
  | unbuilt {fault : Fault}
      (absent : holds loaded frequency = false)
      (fails : Wave.ofFrequency host frequency = .error fault) :
      Played host playing loaded frequency
        (hush playing, some fault, { voice := .mixer loaded, playing := false })
  /-- Its wave is built. -/
  | anew {wave : Wave}
      (absent : holds loaded frequency = false)
      (made : Wave.ofFrequency host frequency = .ok wave) :
      Played host playing loaded frequency
        (hush playing ++ loadCalls wave ++ [.loopSound], none,
          { voice := .mixer (some (frequency, wave)), playing := true })

/-- Every tone is played in one of these ways. -/
theorem played
    (host : Host)
    (playing : Bool)
    (loaded : Option (Float × Wave))
    (frequency : Float) :
    Played host playing loaded frequency (playWave host playing loaded frequency) := by
  unfold playWave
  split
  · rename_i held
    cases loaded with
    | none => contradiction
    | some known => exact .again rfl held
  · rename_i absent
    have absent : holds loaded frequency = false := by simpa using absent
    split
    · rename_i fails
      exact .unbuilt absent fails
    · rename_i made
      exact .anew absent made

/-- A speaker and a mixer are in tune: the newest sound is that of the wave that the speaker holds,
it was built for the frequency that the speaker knows, and it loops while the tone plays; no other
loops. -/
inductive InTune (host : Host) : Speaker -> Option Float -> Mixer -> Prop
  | unused : InTune host { voice := .mixer none } none {}
  | holding {known : Float} {wave : Wave} {playing : Bool} {older : List MixerSound}
      (made : Wave.ofFrequency host known = .ok wave)
      (silent : ∀ sound ∈ older, sound.looping = false) :
      InTune host { voice := .mixer (some (known, wave)), playing } (some known)
        { sounds := { wave, looping := playing } :: older }

namespace InTune

variable {built : Option Float} {mixer : Mixer}

theorem loops_eq (tuned : InTune host speaker built mixer) : mixer.loops = speaker.playing := by
  cases tuned <;> rfl

/-- Calls that end the tone silence the mixer. -/
theorem takes_hush (tuned : InTune host speaker built mixer) :
    ∃ silent,
      mixer.Takes (hush speaker.playing) silent ∧
        InTune host speaker.stopped built silent ∧
        ∀ sound ∈ silent.sounds, sound.looping = false := by
  cases tuned with
  | unused => exact ⟨{}, .done (by simp [Mixer.Alone]), .unused, by simp⟩
  | @holding known wave playing older made silent =>
      refine ⟨{ sounds := { wave } :: older }, ?_, .holding made silent, by simpa using silent⟩
      cases playing with
      | false => exact .done silent
      | true => exact .call silent rfl (.done silent)

/-- A sound that is made while none loops, and then started, is the only one that loops. -/
theorem takes_new
    (wave : Wave)
    (silent : ∀ sound ∈ mixer.sounds, sound.looping = false) :
    mixer.Takes (loadCalls wave ++ [.loopSound])
      { sounds := { wave, looping := true } :: mixer.sounds } :=
  .call (fun sound older => silent sound (List.mem_of_mem_tail older)) rfl
    (.call silent rfl (.call silent rfl (.done silent)))

/-- A speaker in tune stays so when it is told to play. If it meets no fault, the wave of the
frequency loops; otherwise nothing does, and no sound was made. -/
theorem play (tuned : InTune host speaker built mixer) (frequency : Float) :
    ∃ next,
      mixer.Takes (speaker.play host frequency).1 next ∧
        InTune host (speaker.play host frequency).2.2
          ((Order.play frequency).built (speaker.play host frequency).1 built) next ∧
        match (speaker.play host frequency).2.1 with
        | none =>
            ∃ wave older,
              next.sounds = { wave, looping := true } :: older ∧
                Wave.ofFrequency host frequency = .ok wave
        | some fault =>
            Wave.ofFrequency host frequency = .error fault ∧
              (∀ sound ∈ next.sounds, sound.looping = false) ∧
              (speaker.play host frequency).2.2 = speaker.stopped ∧
              (Order.play frequency).built (speaker.play host frequency).1 built = built := by
  obtain ⟨silent, hushes, quiet, still⟩ := tuned.takes_hush
  obtain ⟨loaded, voice⟩ : ∃ loaded, speaker.voice = .mixer loaded := by
    cases tuned <;> exact ⟨_, rfl⟩
  have way : Played host speaker.playing loaded frequency (speaker.play host frequency) := by
    rw [Speaker.play, voice]
    exact played host speaker.playing loaded frequency
  have hushed : (hush speaker.playing).any HostCall.isNewSound = false := by
    cases speaker.playing <;> rfl
  unfold Order.built
  generalize speaker.play host frequency = result at way
  cases way with
  | @again known wave held same =>
      cases tuned with
      | unused => cases voice; contradiction
      | @holding known wave playing older made alone =>
          cases voice
          cases held
          -- Zero equals its negative, so an equal frequency need not be the known one.
          have found := (Wave.ofFrequency_eq_of_beq same).symm.trans made
          refine ⟨{ sounds := { wave, looping := true } :: older }, ?_, ?_, wave, older, rfl, found⟩
          · cases playing with
            | true => exact .done alone
            | false => exact .call alone rfl (.done alone)
          · cases playing <;> exact .holding made alone
  | unbuilt absent fails =>
      have stopped : { voice := .mixer loaded, playing := false } = speaker.stopped := by
        rw [Speaker.stopped, voice]
      rw [hushed, stopped]
      exact ⟨silent, hushes, quiet, fails, still, rfl, rfl⟩
  | @anew wave absent made =>
      refine ⟨{ sounds := { wave, looping := true } :: silent.sounds }, ?_, ?_, wave, _, rfl, made⟩
      · rw [List.append_assoc]
        exact hushes.append (takes_new wave still)
      · simp only [List.any_append, hushed]
        exact .holding made still

/-- A speaker in tune stays so whatever it is told. -/
theorem obey (tuned : InTune host speaker built mixer) (order : Order) :
    ∃ next,
      mixer.Takes (speaker.obey host order).1 next ∧
        InTune host (speaker.obey host order).2.2
          (order.built (speaker.obey host order).1 built) next := by
  cases order with
  | play frequency =>
      obtain ⟨next, takes, kept, _⟩ := tuned.play frequency
      exact ⟨next, takes, kept⟩
  | stop =>
      obtain ⟨silent, hushes, quiet, _⟩ := tuned.takes_hush
      have calls : speaker.stopCalls = hush speaker.playing := by cases tuned <;> rfl
      refine ⟨silent, ?_, ?_⟩
      · rw [Speaker.obey, calls]
        exact hushes
      · have unbuilt : Order.stop.built speaker.stopCalls built = built := by
          rw [calls]
          cases speaker.playing <;> rfl
        rw [Speaker.obey, unbuilt]
        exact quiet

theorem of_open (opened : (openMixer host).outcome = .ok speaker) :
    InTune host speaker none {} := by
  simp only [openMixer, Host.openWith] at opened
  split at opened
  · cases opened
    exact .unused
  · contradiction

/-- The sound that was made last is played again as it is. -/
theorem play_known {known : Float} (tuned : InTune host speaker (some known) mixer) :
    speaker.play host known =
      (if speaker.playing then [] else [.loopSound], none, { speaker with playing := true }) := by
  cases tuned with
  | @holding _ wave playing older made silent =>
      have number : known.isNaN = false := by
        rw [← Bool.not_eq_true]
        intro absent
        obtain ⟨fault, fails⟩ := Wave.exists_fault_iff.mpr (.inr (.inl absent))
        rw [made] at fails
        contradiction
      have held : holds (some (known, wave)) known = true := beq_self_of_number number
      simp only [Speaker.play, playWave, held, if_true]

end InTune

end Speaker

namespace Playback

variable {host : Host} {playback : Playback} {mixer : Mixer}

/-- Whatever a speaker in tune is told, its calls let no sound loop but the newest, and it stays in
tune. -/
theorem exists_takes_after
    (takes : Mixer.Takes {} playback.calls mixer)
    (tuned : playback.speaker.InTune host playback.built mixer)
    (orders : List Order) :
    ∃ final,
      Mixer.Takes {} (playback.after host orders).calls final ∧
        (playback.after host orders).speaker.InTune host
          (playback.after host orders).built final := by
  induction orders generalizing playback mixer with
  | nil => exact ⟨mixer, takes, tuned⟩
  | cons order rest hypothesis =>
      obtain ⟨next, leads, kept⟩ := tuned.obey order
      have begun : Mixer.Takes {} (playback.follow host order).calls next := takes.append leads
      exact hypothesis begun kept

/-- A speaker opens on a mixer and is then told to play and to stop, in any order. At no time does a
sound loop but the newest, which loops exactly while the tone plays, and none is started that loops
already. The frequency for which a sound was made last can be played at any time without making
another. Playing fails just where a frequency is zero, no number or too low. Where it does not fail,
one cycle of the frequency loops; where it fails, the mixer falls silent, the tone no longer plays
and no sound was made. -/
theorem mixer_follows_orders
    {host : Host}
    {speaker : Speaker}
    (opened : (Speaker.openMixer host).outcome = .ok speaker)
    (orders : List Order) :
    let playback := Playback.after host { speaker } orders
    (∀ before, before <+: playback.calls ->
      ∃ between, Mixer.replay {} before = some between ∧ between.Alone) ∧
    ∃ mixer,
      Mixer.replay {} playback.calls = some mixer ∧
      mixer.loops = playback.speaker.playing ∧
      (∀ known, playback.built = some known ->
        playback.speaker.play host known =
          (if playback.speaker.playing then [] else [.loopSound], none,
            { playback.speaker with playing := true })) ∧
      ∀ frequency,
        ((playback.speaker.play host frequency).2.1 ≠ none ↔
          (frequency == 0) = true ∨ frequency.isNaN = true ∨ Wave.TooLow host frequency) ∧
        ∃ next,
          mixer.replay (playback.speaker.play host frequency).1 = some next ∧
          match (playback.speaker.play host frequency).2.1 with
          | none =>
              ∃ newest older,
                next.sounds = newest :: older ∧
                newest.looping = true ∧
                newest.wave.IsCycleOf frequency
          | some _ =>
              (∀ sound ∈ next.sounds, sound.looping = false) ∧
              (playback.follow host (.play frequency)).speaker.playing = false ∧
              (playback.follow host (.play frequency)).built = playback.built := by
  intro playback
  have alone : Mixer.Alone {} := by simp [Mixer.Alone]
  have begun : Mixer.Takes {} (Playback.calls { speaker }) {} := .done alone
  obtain ⟨mixer, takes, tuned⟩ := exists_takes_after begun (.of_open opened) orders
  refine ⟨fun before starts => takes.alone_of_prefix starts, mixer, takes.replay_eq,
    tuned.loops_eq, ?_, ?_⟩
  · intro known built
    change playback.speaker.InTune host playback.built mixer at tuned
    rw [built] at tuned
    exact tuned.play_known
  · intro frequency
    change playback.speaker.InTune host playback.built mixer at tuned
    obtain ⟨next, leads, _, ends⟩ := tuned.play frequency
    rw [← Wave.exists_fault_iff]
    have stopped : (playback.follow host (.play frequency)).speaker =
        (playback.speaker.play host frequency).2.2 := rfl
    have kept : (playback.follow host (.play frequency)).built =
        (Order.play frequency).built (playback.speaker.play host frequency).1 playback.built := rfl
    rw [stopped, kept]
    generalize playback.speaker.play host frequency = result at leads ends ⊢
    obtain ⟨calls, fault, speaker⟩ := result
    cases fault with
    | none =>
        obtain ⟨wave, older, sounds, made⟩ := ends
        refine ⟨by simp [made], next, leads.replay_eq, _, older, sounds, rfl, ?_⟩
        exact Wave.isCycleOf_of_ofFrequency made
    | some fault =>
        obtain ⟨fails, still, stopped, kept⟩ := ends
        refine ⟨by simp [fails], next, leads.replay_eq, still, ?_, kept⟩
        rw [stopped]
        rfl

/-- A tone plays, and then one of frequency zero is asked for; the first is played again as it is. -/
theorem mixer_follows_orders_resumed :
    ∃ speaker,
      (Speaker.openMixer {}).outcome = .ok speaker ∧
      let playback := Playback.after {} { speaker } [.play 440, .play 0]
      playback.built = some 440 ∧
      playback.speaker.playing = false ∧
      (playback.speaker.play {} 440).1 = [.loopSound] := by
  have opened : (Speaker.openMixer {}).outcome = .ok { voice := .mixer none } := rfl
  obtain ⟨_, _, _, _, known, _⟩ := mixer_follows_orders opened [.play 440, .play 0]
  refine ⟨{ voice := .mixer none }, opened, ?_, ?_, ?_⟩
  · rfl
  · rfl
  · rw [known 440 rfl]
    rfl

end Playback
end Chip8
