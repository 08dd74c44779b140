/-!
# Pieces of a text

A text that lists things is cut where its separator stands.
-/

namespace Chip8
namespace Text

/-- The pieces of a text before, between and after a separator. -/
def pieces (separator : Char) (text : String) : List String :=
  (text.toList.splitOn separator).map String.ofList

end Text
end Chip8
