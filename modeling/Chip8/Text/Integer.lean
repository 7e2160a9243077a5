import Chip8.Text.Blank
import Chip8.Text.DecimalDigit
import Chip8.Text.Quoted

/-!
# Reading integers

An integer in a base is a sign, which may be missing, and digits, between any two of which a
single underscore may stand.  Blank space around it does not count, but the four separators of
ASCII are not blank here.  In base sixteen the digits may follow `0x`, and then an underscore may
come before the first digit too.

`readInteger` refuses anything else, and in base ten it refuses more than 4300 digits.
-/

namespace Chip8.Text

/-- Why a text is no integer. -/
inductive IntegerError where
  /-- The text does not spell an integer in the base. -/
  | malformed (base : Nat) (text : String)
  /-- The text has more digits than are read. -/
  | tooLong (digits : Nat)
  deriving DecidableEq, Repr

/-- The wording of the error; of the text, no more than two hundred characters are shown. -/
def IntegerError.message : IntegerError → String
  | malformed base text =>
    s!"invalid literal for int() with base {base}: " ++
      String.ofList ((quoted text).toList.take 200)
  | tooLong digits =>
    "Exceeds the limit (4300 digits) for integer string conversion: " ++
      s!"value has {digits} digits; " ++
      "use sys.set_int_max_str_digits() to increase the limit"

/-- Whether a character may stand around an integer. -/
def isMargin (c : Char) : Bool := isBlank c && !(0x1C ≤ c.toNat && c.toNat ≤ 0x1F)

/-- A list of characters without the margin at its two ends. -/
def trimMargin (cs : List Char) : List Char :=
  ((cs.dropWhile isMargin).reverse.dropWhile isMargin).reverse

/-- The values of digits with single underscores between them; the first argument says whether an
underscore may come now. -/
def readDigits (base : Nat) : Bool → List Char → Option (List Nat)
  | afterDigit, [] => if afterDigit then some [] else none
  | afterDigit, c :: cs =>
    if c = '_' then
      if afterDigit then readDigits base false cs else none
    else do
      let d ← digitValue? base c
      let ds ← readDigits base true cs
      return d :: ds

/-- Whether a character can be part of the digits in a base. -/
def isDigitOrUnderscore (base : Nat) (c : Char) : Bool := c == '_' || (digitValue? base c).isSome

/-- The sign of a number and what follows it. -/
def splitSign : List Char → Bool × List Char
  | '-' :: cs => (true, cs)
  | '+' :: cs => (false, cs)
  | cs => (false, cs)

/-- The digits after the mark of base sixteen, which may be missing. -/
def dropHexMark : List Char → List Char
  | '0' :: x :: '_' :: cs => if x = 'x' ∨ x = 'X' then cs else '0' :: x :: '_' :: cs
  | '0' :: x :: cs => if x = 'x' ∨ x = 'X' then cs else '0' :: x :: cs
  | cs => cs

/-- The integer that a text spells in a base. -/
def readInteger (base : Nat) (text : String) : Except IntegerError Int :=
  let (negative, unsigned) := splitSign (trimMargin text.toList)
  let body := if base = 16 then dropHexMark unsigned else unsigned
  let run := body.takeWhile (isDigitOrUnderscore base)
  match readDigits base false run with
  | none => .error (.malformed base text)
  | some ds =>
    if base = 10 ∧ 4300 < ds.length then .error (.tooLong ds.length)
    else if run.length < body.length then .error (.malformed base text)
    else
      let n : Int := ofDigits base ds
      .ok (if negative then -n else n)

end Chip8.Text
