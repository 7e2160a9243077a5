import Chip8.Text.Printable
import Chip8.Text.Radix

/-!
# Quoted text

A text between quotes, with everything that would not show written as an escape.  The quotes are
single, unless the text has a single quote and no double one.
-/

namespace Chip8.Text

/-- A number in lower-case hexadecimal digits, filled up with zeros. -/
def escapeDigits (width n : Nat) : List Char :=
  (HexForm.mk "" width false).write n |>.toList

/-- How a character is written between quotes of a kind. -/
def escapeChar (quote c : Char) : List Char :=
  if c = '\\' then ['\\', '\\']
  else if c = quote then ['\\', c]
  else if c = '\t' then ['\\', 't']
  else if c = '\n' then ['\\', 'n']
  else if c = '\r' then ['\\', 'r']
  else if isPrintable c then [c]
  else if c.toNat < 0x100 then '\\' :: 'x' :: escapeDigits 2 c.toNat
  else if c.toNat < 0x10000 then '\\' :: 'u' :: escapeDigits 4 c.toNat
  else '\\' :: 'U' :: escapeDigits 8 c.toNat

/-- The kind of quotes around a text. -/
def quoteFor (s : List Char) : Char :=
  if s.contains '\'' && !s.contains '"' then '"' else '\''

/-- A text between quotes. -/
def quoted (s : String) : String :=
  let quote := quoteFor s.toList
  String.ofList (quote :: s.toList.flatMap (escapeChar quote) ++ [quote])

example : quoted "a'b\n" = "\"a'b\\n\"" := by decide +kernel

end Chip8.Text
