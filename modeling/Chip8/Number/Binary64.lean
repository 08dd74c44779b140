/-!
# Double-precision numbers, exactly

A finite double is a whole number times a power of two. Its whole part and its
remainder by another are computed on that form, without rounding.
-/

namespace Chip8

/-- What a double stands for: `mantissa * 2 ^ exponent` with a sign, an infinity, or no number. -/
inductive Magnitude
  | finite (negative : Bool) (mantissa : Nat) (exponent : Int)
  | infinite (negative : Bool)
  | notANumber
  deriving DecidableEq, Repr

namespace Magnitude

/-- The sign bit of a double. -/
def signBit : Nat := 0x8000000000000000

/-- The unit of a double's exponent field. -/
def exponentUnit : Nat := 0x10000000000000

/-- The largest exponent field of a double, which no finite number has. -/
def exponentLimit : Nat := 0x7FF

/-- What a double stands for. -/
def ofFloat (value : Float) : Magnitude :=
  let bits := value.toBits.toNat
  let negative := decide (signBit ≤ bits)
  let biased : Nat := bits % signBit / exponentUnit
  let fraction : Nat := bits % exponentUnit
  if biased = exponentLimit then if fraction = 0 then infinite negative else notANumber
  else if biased = 0 then finite negative fraction (-1074)
  else finite negative (fraction + exponentUnit) ((biased : Int) - 1075)

/-- A whole number times a power of two, with the power brought down to a lower exponent. -/
def scaled (mantissa : Nat) (exponent lower : Int) : Nat :=
  mantissa <<< (exponent - lower).toNat

/-- The whole part of a magnitude, toward zero. -/
def wholePart (mantissa : Nat) (exponent : Int) : Nat :=
  if 0 ≤ exponent then mantissa <<< exponent.toNat else mantissa >>> (-exponent).toNat

/-- The double that a magnitude of at most 53 bits is, when it is in range. -/
def toFloat (negative : Bool) (mantissa : Nat) (exponent : Int) : Float :=
  let shift := min (52 - mantissa.log2) (exponent + 1074).toNat
  let fraction := mantissa <<< shift
  let biased := (exponent - shift + 1075).toNat
  let bits :=
    if fraction < exponentUnit then fraction
    else biased * exponentUnit + (fraction - exponentUnit)
  Float.ofBits (UInt64.ofNat (bits + if negative then signBit else 0))

end Magnitude

/-- Why a double has no whole part. -/
inductive NotFinite
  | infinite
  | notANumber
  deriving DecidableEq, Repr

/-- The whole part of a double, toward zero. -/
def wholePart (value : Float) : Except NotFinite Int :=
  match Magnitude.ofFloat value with
  | .infinite _ => .error .infinite
  | .notANumber => .error .notANumber
  | .finite negative mantissa exponent =>
      let whole : Int := Magnitude.wholePart mantissa exponent
      .ok (if negative then -whole else whole)

/-- A double that is no number. -/
def notANumber : Float := 0 / 0

/-- The exact remainder of one double by another, with the sign of the first. -/
def exactRemainder (value divisor : Float) : Float :=
  match Magnitude.ofFloat value, Magnitude.ofFloat divisor with
  | .finite negative mantissa exponent, .finite _ unit unitExponent =>
      if unit = 0 then notANumber
      else
        let lower := min exponent unitExponent
        let rest :=
          Magnitude.scaled mantissa exponent lower % Magnitude.scaled unit unitExponent lower
        Magnitude.toFloat negative rest lower
  | .finite .., .infinite _ => value
  | _, _ => notANumber

/-- The double nearest to a whole number, unless it is out of range. -/
def nearestDouble? (value : Int) : Option Float :=
  let nearest := Float.ofInt value
  if nearest.isInf then none else some nearest

/-- The double nearest to `mantissa * 10 ^ exponent`, given the number of digits of the mantissa. -/
def ofDecimal (mantissa digits : Nat) (exponent : Int) : Float :=
  if mantissa = 0 then 0
  else if exponent + digits > 400 then 1 / 0
  else if exponent + digits < -400 then 0
  else Float.ofScientific mantissa (exponent < 0) exponent.natAbs

end Chip8
