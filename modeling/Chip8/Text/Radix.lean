/-!
# Numerals in a base

`digits` writes a natural number most significant digit first, `ofDigits` reads such a list
back, and `ofDigits_digits` says that the second undoes the first.  `HexForm` is the shape of a
hexadecimal field (its lead, its width, its letter case) and `HexForm.write` fills such a field:
the sign comes first, then the lead, then zeros up to the width, which counts every character.
-/

namespace Chip8.Text

/-! ## Digit lists -/

/-- The digits of a number in a base, most significant first; zero has the one digit zero. -/
def digits (base n : Nat) : List Nat :=
  if _h : base < 2 ∨ n < base then [n]
  else digits base (n / base) ++ [n % base]
termination_by n
decreasing_by exact Nat.div_lt_self (by omega) (by omega)

/-- The number that a list of digits stands for, most significant first. -/
def ofDigits (base : Nat) (ds : List Nat) : Nat :=
  ds.foldl (fun acc d => acc * base + d) 0

theorem ofDigits_append_singleton (base : Nat) (ds : List Nat) (d : Nat) :
    ofDigits base (ds ++ [d]) = ofDigits base ds * base + d := by
  simp [ofDigits]

/-- Reading the digits of a number gives the number back. -/
theorem ofDigits_digits (base n : Nat) : ofDigits base (digits base n) = n := by
  fun_induction digits base n with
  | case1 n h => simp [ofDigits]
  | case2 n h ih =>
    rw [ofDigits_append_singleton, ih]
    exact Nat.div_add_mod' n base

/-- Every digit of a number is below the base. -/
theorem lt_of_mem_digits {base n d : Nat} (hb : 2 ≤ base) (h : d ∈ digits base n) : d < base := by
  fun_induction digits base n with
  | case1 n h' => simp at h; omega
  | case2 n h' ih =>
    rcases List.mem_append.1 h with h | h
    · exact ih h
    · simp at h; subst h; exact Nat.mod_lt _ (by omega)

/-- The character of a digit below sixteen, in lower case. -/
def lowerDigit (d : Nat) : Char :=
  if d < 10 then Char.ofNat (48 + d) else Char.ofNat (87 + d)

/-- The character of a digit below sixteen, in upper case. -/
def upperDigit (d : Nat) : Char :=
  if d < 10 then Char.ofNat (48 + d) else Char.ofNat (55 + d)

/-! ## Hexadecimal fields -/

/-- The shape of a hexadecimal field. -/
structure HexForm where
  /-- What stands between the sign and the digits. -/
  lead : String
  /-- The least number of characters of the whole field. -/
  width : Nat
  /-- Whether the digits above nine are capital letters. -/
  capital : Bool

namespace HexForm

/-- The characters of one digit of a field. -/
def digit (f : HexForm) (d : Nat) : Char :=
  if f.capital then upperDigit d else lowerDigit d

/-- The sign, the lead and the digits, with zeros before the digits up to the width. -/
def write (f : HexForm) (x : Int) : String :=
  let head := (if x < 0 then "-" else "") ++ f.lead
  let body := (digits 16 x.natAbs).map f.digit
  head ++ String.ofList (List.replicate (f.width - head.length - body.length) '0' ++ body)

/-- An address or a program counter in running text: `0x` and at least four digits. -/
def address : HexForm := ⟨"0x", 6, false⟩

/-- A byte in running text: `0x` and at least two digits. -/
def byte : HexForm := ⟨"0x", 4, false⟩

/-- A word in a column: at least four capital digits. -/
def word : HexForm := ⟨"", 4, true⟩

/-- An address in assembly text: at least three capital digits. -/
def operandAddress : HexForm := ⟨"", 3, true⟩

/-- A byte in a column or in assembly text: at least two capital digits. -/
def pair : HexForm := ⟨"", 2, true⟩

/-- A single register or key number: capital digits without padding. -/
def bare : HexForm := ⟨"", 1, true⟩

end HexForm

example : HexForm.address.write (-1) = "-0x001" := by decide +kernel
example : HexForm.word.write (-1) = "-001" := by decide +kernel
example : HexForm.address.write 4096 = "0x1000" := by decide +kernel

end Chip8.Text
