import Chip8.Fault
import Chip8.Number.Binary64

/-!
# Scales of time

Times are read off a scale in seconds. A session runs on any scale that can
say what is left of a time by an interval, and which whole second a time falls
in. Doubles are the scale of a running emulator; fractions are the scale on
which its schedule is exact.
-/

namespace Chip8

/-- What a scale of times offers beside its arithmetic and its order. -/
class TimeScale (τ : Type) where
  /-- The start of the scale. -/
  zero : τ
  /-- One second. -/
  second : τ
  /-- How long a typed key counts as held, a fifth of a second. -/
  keyHold : τ
  /-- A whole number of seconds. -/
  ofInt : Int -> Except Fault τ
  /-- What is left of a time after taking off an interval as often as it fits. -/
  remainder : τ -> τ -> τ
  /-- The whole seconds of a time, toward zero. -/
  wholeSeconds : τ -> Except Fault τ

instance : TimeScale Float where
  zero := 0
  second := 1
  keyHold := 0.2
  ofInt seconds :=
    match nearestDouble? seconds with
    | some time => .ok time
    | none => .error .numberTooLarge
  remainder := exactRemainder
  wholeSeconds time :=
    match wholePart time with
    | .ok seconds => .ok (Float.ofInt seconds)
    | .error .infinite => .error .endlessTime
    | .error .notANumber => .error .timeNotANumber

instance : TimeScale Rat where
  zero := 0
  second := 1
  keyHold := 1 / 5
  ofInt seconds := .ok seconds
  remainder time interval := time - interval * (time / interval).floor
  wholeSeconds time := .ok (if 0 ≤ time then time.floor else time.ceil)

/-- A clock: reading it and sleeping may both move it. -/
class Clock (κ : Type) (τ : outParam Type) where
  /-- The time a clock shows, and the clock afterwards. -/
  read : κ -> τ × κ
  /-- The clock after a sleep. -/
  sleep : κ -> τ -> κ

/-- A clock that moves on by one step with each reading. -/
structure SteppingClock (τ : Type) where
  now : τ
  step : τ

instance {τ : Type} [Add τ] : Clock (SteppingClock τ) τ where
  read clock := (clock.now, { clock with now := clock.now + clock.step })
  sleep clock time := { clock with now := clock.now + time }

end Chip8
