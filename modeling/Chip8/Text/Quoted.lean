import Chip8.Text.Hex
import Chip8.Text.Printable

/-!
# Quoted text

Text is quoted with apostrophes, or with double quotes when it holds an
apostrophe and no double quote. Backslashes, the quote itself and characters
that are not printable are escaped.
-/

namespace Chip8
namespace Text

/-- The quote that encloses a text. -/
def quoteFor (text : List Char) : Char :=
  if text.contains '\'' && !text.contains '"' then '"' else '\''

/-- A character that is not printable, by its code in the shortest form that holds it. -/
def escapeCode (code : Nat) : List Char :=
  if code < 0x100 then '\\' :: 'x' :: hexField 2 code
  else if code < 0x10000 then '\\' :: 'u' :: hexField 4 code
  else '\\' :: 'U' :: hexField 8 code

/-- A character as it stands between quotes. -/
def escape (quote character : Char) : List Char :=
  if character = quote ∨ character = '\\' then ['\\', character]
  else if character = '\n' then ['\\', 'n']
  else if character = '\r' then ['\\', 'r']
  else if character = '\t' then ['\\', 't']
  else if isPrintable character then [character]
  else escapeCode character.toNat

/-- Text between quotes. -/
def quoted (text : String) : String :=
  let quote := quoteFor text.toList
  String.ofList (quote :: text.toList.flatMap (escape quote) ++ [quote])

end Text
end Chip8
