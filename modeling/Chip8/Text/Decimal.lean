import Chip8.Text.Radix

/-!
# Decimal numbers and floating point

`Decimal.shortest` finds, for a positive number of the form m · 2^e, the decimal with the fewest
digits that is read back as the same number, and of those the nearest one.  A decimal is read back
as the number when it lies between the midpoints to the two neighbours of the number; the midpoints
themselves belong to it when m is even.  `floatText` writes the result, positionally for decimal
exponents from −4 to 15 and with a power of ten otherwise.

`readFloat?` goes the other way: it reads a decimal with or without a point and a power of ten.
-/

namespace Chip8.Text

/-- Digits, most significant first, and the place of the decimal point counted from their start. -/
structure Decimal where
  digits : List Nat
  point : Int
  deriving DecidableEq, Repr

/-- A positive binary number: mantissa times a power of two.  `closeBelow` says that the next
smaller number is only half as far away as the next greater one. -/
structure Binary where
  mantissa : Nat
  exponent : Int
  closeBelow : Bool
  deriving DecidableEq, Repr

namespace Decimal

/-- Whether a · 10^p ≤ b · 2^q. -/
def le (a : Nat) (p : Int) (b : Nat) (q : Int) : Bool :=
  a * Nat.pow 10 p.toNat * Nat.pow 2 (-q).toNat ≤ b * Nat.pow 2 q.toNat * Nat.pow 10 (-p).toNat

/-- Whether b · 2^q ≤ a · 10^p. -/
def ge (a : Nat) (p : Int) (b : Nat) (q : Int) : Bool :=
  b * Nat.pow 2 q.toNat * Nat.pow 10 (-p).toNat ≤ a * Nat.pow 10 p.toNat * Nat.pow 2 (-q).toNat

/-- Whether a · 10^p is read back as a number. -/
def readsBack (x : Binary) (a : Nat) (p : Int) : Bool :=
  let low := 4 * x.mantissa - (if x.closeBelow then 1 else 2)
  let high := 4 * x.mantissa + 2
  let q := x.exponent - 2
  if x.mantissa % 2 = 0 then ge a p low q && le a p high q
  else !le a p low q && !ge a p high q

/-- The number of zeros after the point before the first digit of a fraction below one. -/
def leadingZeros (num den : Nat) : Nat → Nat
  | 0 => 0
  | fuel + 1 => if den ≤ num * 10 then 0 else leadingZeros (num * 10) den fuel + 1

/-- The exponent of the leading decimal digit of a number. -/
def leading (x : Binary) : Int :=
  let num := x.mantissa * Nat.pow 2 x.exponent.toNat
  let den := Nat.pow 2 (-x.exponent).toNat
  if den ≤ num then (Text.digits 10 (num / den)).length - 1
  else -(leadingZeros num den 400 : Int) - 1

/-- The number in units of 10^p, rounded down, and whether it is nearer to the next unit. -/
def units (x : Binary) (p : Int) : Nat × Ordering :=
  let num := x.mantissa * Nat.pow 2 x.exponent.toNat * Nat.pow 10 (-p).toNat
  let den := Nat.pow 2 (-x.exponent).toNat * Nat.pow 10 p.toNat
  (num / den, compare (2 * (num % den)) den)

/-- The decimal with a number of digits that is read back as a number, if there is one. -/
def withDigits (x : Binary) (count : Nat) : Option (Nat × Int) :=
  let p := leading x - count + 1
  let (below, nearer) := units x p
  let low := readsBack x below p
  let high := readsBack x (below + 1) p
  let up := match nearer with
    | .lt => false
    | .gt => true
    | .eq => below % 2 == 1
  if low && high then some (if up then below + 1 else below, p)
  else if low then some (below, p)
  else if high then some (below + 1, p)
  else none

/-- The digits of a number without the zeros at the end, and where the point stands. -/
def ofUnits (a : Nat) (p : Int) : Decimal :=
  let ds := Text.digits 10 a
  ⟨(ds.reverse.dropWhile (· = 0)).reverse, ds.length + p⟩

/-- The nearest one of the decimals with the fewest digits that are read back as a number. -/
def shortest (x : Binary) : Decimal :=
  match (List.range 17).findSome? fun (k : Nat) => withDigits x (k + 1) with
  | some (a, p) => ofUnits a p
  | none => let p := leading x - 16; ofUnits (units x p).1 p

/-- The digits as text. -/
def digitText (ds : List Nat) : String := String.ofList (ds.map lowerDigit)

/-- A row of zeros. -/
def zeros (n : Nat) : String := String.ofList (List.replicate n '0')

/-- A power of ten, with its sign and at least two digits. -/
def exponentText (e : Int) : String :=
  let ds := digitText (Text.digits 10 e.natAbs)
  "e" ++ (if e < 0 then "-" else "+") ++ zeros (2 - ds.length) ++ ds

/-- The text of a decimal: with a point and at least one digit on each side of it, or for very
large and very small numbers with a power of ten. -/
def text (d : Decimal) : String :=
  let n : Int := d.digits.length
  if -4 < d.point ∧ d.point ≤ 0 then "0." ++ zeros (-d.point).toNat ++ digitText d.digits
  else if 0 < d.point ∧ d.point ≤ 16 then
    if n ≤ d.point then digitText d.digits ++ zeros (d.point - n).toNat ++ ".0"
    else
      digitText (d.digits.take d.point.toNat) ++ "." ++ digitText (d.digits.drop d.point.toNat)
  else
    digitText (d.digits.take 1) ++ (if 1 < n then "." ++ digitText (d.digits.drop 1) else "") ++
      exponentText (d.point - 1)

end Decimal

/-- The text of a floating-point number: the fewest digits that are read back as it. -/
def floatText (x : Float) : String :=
  let bits : Nat := x.toBits.toNat
  let sign := if bits / Nat.pow 2 63 = 1 then "-" else ""
  let biased : Nat := bits / Nat.pow 2 52 % 2048
  let fraction : Nat := bits % Nat.pow 2 52
  if biased = 2047 then
    if fraction = 0 then sign ++ "inf" else "nan"
  else if biased = 0 ∧ fraction = 0 then sign ++ "0.0"
  else if biased = 0 then sign ++ (Decimal.shortest ⟨fraction, -1074, false⟩).text
  else
    let mantissa := Nat.pow 2 52 + fraction
    let number : Binary := ⟨mantissa, (biased : Int) - 1075, fraction = 0 ∧ 1 < biased⟩
    sign ++ (Decimal.shortest number).text

/-! ## Reading -/

/-- A number in decimal digits; none if there is a character that is no digit. -/
def readDecimalDigits (cs : List Char) : Option (List Nat) :=
  cs.mapM fun c => if c.isDigit then some (c.toNat - 48) else none

/-- A whole number without a sign. -/
def readNatural? (cs : List Char) : Option Nat :=
  if cs.isEmpty then none else (readDecimalDigits cs).map (ofDigits 10)

/-- A whole number with a sign that may be missing. -/
def readExponent? : List Char → Option Int
  | '-' :: cs => (readNatural? cs).map fun n => -(n : Int)
  | '+' :: cs => (readNatural? cs).map fun n => (n : Int)
  | cs => (readNatural? cs).map fun n => (n : Int)

/-- The floating-point number nearest to digits times a power of ten. -/
def nearestFloat (n : Nat) (exponent : Int) : Float :=
  let size : Int := (digits 10 n).length + exponent
  if n = 0 ∨ size < -400 then 0.0
  else if 400 < size then 1.0 / 0.0
  else if exponent < 0 then Float.ofScientific n true exponent.natAbs
  else Float.ofScientific n false exponent.natAbs

/-- A decimal without a sign: digits, a point among them or none, and a power of ten or none. -/
def readUnsignedFloat? (cs : List Char) : Option Float := do
  let isMark (c : Char) : Bool := c == 'e' || c == 'E'
  let mantissa := cs.takeWhile fun c => !isMark c
  let rest := cs.dropWhile fun c => !isMark c
  let exponent ← match rest with
    | [] => some 0
    | _ :: cs => readExponent? cs
  let whole ← readDecimalDigits (mantissa.takeWhile (· != '.'))
  let fraction ← readDecimalDigits ((mantissa.dropWhile (· != '.')).drop 1)
  if whole.isEmpty && fraction.isEmpty then none
  else some (nearestFloat (ofDigits 10 (whole ++ fraction)) (exponent - fraction.length))

/-- The floating-point number that a text spells. -/
def readFloat? (s : String) : Option Float :=
  let unsigned (cs : List Char) : Option Float :=
    if cs = "inf".toList then some (1.0 / 0.0)
    else if cs = "nan".toList then some (0.0 / 0.0)
    else readUnsignedFloat? cs
  match s.toList with
  | '-' :: cs => (unsigned cs).map (- ·)
  | '+' :: cs => unsigned cs
  | cs => unsigned cs

end Chip8.Text
