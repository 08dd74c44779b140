/-!
# Choices

What can be chosen may be left open, and then a default holds. It may also be
named without a value; then neither a value nor the default holds.
-/

namespace Chip8

/-- What is chosen for something that has a default. -/
inductive Choice (Value : Type)
  /-- Nothing. -/
  | unset
  /-- It is named, and its value is left out. -/
  | blank
  | value (chosen : Value)
  deriving DecidableEq, Repr

namespace Choice

variable {Value Other : Type}

/-- The choice with a function applied to its value. -/
def map (change : Value -> Other) : Choice Value -> Choice Other
  | unset => unset
  | blank => blank
  | value chosen => value (change chosen)

/-- The value that holds, if one does. -/
def resolve (standard : Value) : Choice Value -> Option Value
  | unset => some standard
  | blank => none
  | value chosen => some chosen

@[simp] theorem resolve_value (standard chosen : Value) :
    (value chosen).resolve standard = some chosen := rfl

end Choice
end Chip8
