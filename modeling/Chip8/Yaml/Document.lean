import Chip8.Yaml.Node
import Chip8.Config.Value
import Chip8.Text.Integer

/-!
# The values of a document

A plain scalar may spell nothing, a truth value or a number; `resolve` says which, and anything
else is a text, as is every scalar between quotes.  `Node.valueWithin` turns a tree into a value, and
`load` reads a whole document: `Chip8.Yaml.load` is `null` for a document without content.

Numbers are spelled as in the older version of the format: integers in base two, eight, ten,
sixteen and sixty, with underscores anywhere after the first digit, and floating-point numbers only
with a point.
-/

namespace Chip8.Yaml

open Text

/-- Why a document has no value. -/
inductive LoadError where
  /-- The text is no document. -/
  | notDocument (reason : SyntaxError)
  /-- A scalar looks like an integer but has no digits. -/
  | integerText (reason : IntegerError)
  deriving DecidableEq, Repr

/-! ## The kinds of plain scalars -/

/-- What a plain scalar spells. -/
inductive Kind where
  | null
  | bool (b : Bool)
  | int
  | float
  | merge
  | value
  | text
  deriving DecidableEq, Repr

/-- A list of characters without an optional sign in front. -/
def unsigned (cs : List Char) : List Char := (splitSign cs).2

/-- Whether a list has a first character and all the others satisfy a condition. -/
def startsThen (first others : Char → Bool) : List Char → Bool
  | [] => false
  | c :: cs => first c && cs.all others

/-- A decimal digit or an underscore. -/
def digitOrBar (c : Char) : Bool := c.isDigit || c == '_'

/-- Parts of one or two digits below sixty, separated by colons. -/
def isSexagesimalTail (cs : List Char) : Bool :=
  (cs.splitOn ':').all fun part =>
    match part with
    | [a] => a.isDigit
    | [a, b] => '0' ≤ a && a ≤ '5' && b.isDigit
    | _ => false

/-- Whether a scalar spells an integer in base sixty. -/
def isSexagesimal (cs : List Char) : Bool :=
  let head := cs.takeWhile (· != ':')
  let tail := cs.dropWhile (· != ':')
  startsThen (fun c => '1' ≤ c && c ≤ '9') digitOrBar head && !tail.isEmpty &&
    isSexagesimalTail (tail.drop 1)

/-- Whether a scalar spells an integer. -/
def isInt (s : List Char) : Bool :=
  let cs := unsigned s
  match cs with
  | '0' :: 'b' :: ds => !ds.isEmpty && ds.all fun c => c == '0' || c == '1' || c == '_'
  | '0' :: 'x' :: ds => !ds.isEmpty && ds.all fun c => (Cursor.hexValue? c).isSome || c == '_'
  | '0' :: ds => ds.all fun c => ('0' ≤ c && c ≤ '7') || c == '_'
  | _ => startsThen (fun c => '1' ≤ c && c ≤ '9') digitOrBar cs || isSexagesimal cs

/-- A power of ten, with its sign, or nothing. -/
def isExponent : List Char → Bool
  | [] => true
  | e :: sign :: ds =>
    (e == 'e' || e == 'E') && (sign == '-' || sign == '+') && !ds.isEmpty && ds.all Char.isDigit
  | _ => false

/-- Whether a scalar spells a floating-point number. -/
def isFloat (s : List Char) : Bool :=
  let cs := unsigned s
  let whole := cs.takeWhile (· != '.')
  let point := cs.dropWhile (· != '.')
  let fraction := point.drop 1
  let places := fraction.takeWhile digitOrBar
  let exponent := fraction.dropWhile digitOrBar
  if point.isEmpty then false
  else if whole.isEmpty then
    [".inf", ".Inf", ".INF"].contains (String.ofList cs) ||
      (cs == s && ([".nan", ".NaN", ".NAN"].contains (String.ofList cs) ||
        (startsThen Char.isDigit digitOrBar places && isExponent exponent)))
  else
    (startsThen Char.isDigit digitOrBar whole && isExponent exponent) ||
      (let head := whole.takeWhile (· != ':')
       let tail := whole.dropWhile (· != ':')
       startsThen Char.isDigit digitOrBar head && !tail.isEmpty &&
         isSexagesimalTail (tail.drop 1) && exponent.isEmpty)

/-- The spellings of a word in lower case, with a capital, and in capitals. -/
def spellings (lower title capital : String) : List String := [lower, title, capital]

/-- The words that are true. -/
def trueWords : List String :=
  spellings "yes" "Yes" "YES" ++ spellings "true" "True" "TRUE" ++ spellings "on" "On" "ON"

/-- The words that are false. -/
def falseWords : List String :=
  spellings "no" "No" "NO" ++ spellings "false" "False" "FALSE" ++ spellings "off" "Off" "OFF"

/-- What a plain scalar spells. -/
def resolve (s : String) : Kind :=
  let cs := s.toList
  if ["", "~", "null", "Null", "NULL"].contains s then .null
  else if trueWords.contains s then .bool true
  else if falseWords.contains s then .bool false
  else if isFloat cs then .float
  else if isInt cs then .int
  else if s = "<<" then .merge
  else if s = "=" then .value
  else .text

/-! ## The values of numbers -/

/-- A number in base sixty from its parts, the most significant one first. -/
def ofSixtieths (parts : List Int) : Int := parts.foldl (fun n d => 60 * n + d) 0

/-- The integer that a scalar spells. -/
def intOf (s : String) : Except LoadError Int := do
  let (negative, cs) := splitSign (s.toList.filter (· != '_'))
  let read (base : Nat) (cs : List Char) : Except LoadError Int :=
    (readInteger base (String.ofList cs)).mapError .integerText
  let n ← match cs with
    | ['0'] => pure 0
    | '0' :: 'b' :: ds => read 2 ds
    | '0' :: 'x' :: ds => read 16 ds
    | '0' :: _ => read 8 cs
    | _ => ofSixtieths <$> (cs.splitOn ':').mapM (read 10)
  return if negative then -n else n

/-- The floating-point number that a scalar spells. -/
def floatOf (s : String) : Float :=
  let (negative, cs) := splitSign ((s.toList.filter (· != '_')).map Char.toLower)
  let part (cs : List Char) : Float := (readUnsignedFloat? cs).getD 0.0
  let x :=
    if cs = ".inf".toList then 1.0 / 0.0
    else if cs = ".nan".toList then 0.0 / 0.0
    else
      ((cs.splitOn ':').reverse.foldl
        (fun (acc : Float × Float) p => (acc.1 + part p * acc.2, acc.2 * 60.0)) (0.0, 1.0)).1
  if negative then -x else x

/-! ## Trees -/

/-- The value of a scalar. -/
def scalarValue (text : String) (plain : Bool) : Except LoadError Value :=
  if !plain then .ok (.text text)
  else match resolve text with
    | .null => .ok .null
    | .bool b => .ok (.bool b)
    | .int => .int <$> intOf text
    | .float => .ok (.float (floatOf text))
    | .merge => .error (.notDocument .noValue)
    | .value => .error (.notDocument .noValue)
    | .text => .ok (.text text)

/-- What a node is as a key. -/
inductive KeyRole where
  /-- It merges another mapping. -/
  | merge
  /-- It is a text, whatever it spells. -/
  | sign
  /-- It is a key with its own value. -/
  | ordinary

/-- What a node is as a key. -/
def Node.keyRole : Node → KeyRole
  | .scalar text true =>
    match resolve text with
    | .merge => .merge
    | .value => .sign
    | _ => .ordinary
  | _ => .ordinary

mutual

/-- The entries of a mapping with those of merged mappings in front. -/
def Node.flatten : Node → Except LoadError (List (Node × Node))
  | .mapping entries => do
    let (merged, own) ← flattenEntries entries
    return merged ++ own
  | _ => .error (.notDocument .badMerge)

/-- The entries that are merged into a mapping, and its own ones. -/
def Node.flattenEntries :
    List (Node × Node) → Except LoadError (List (Node × Node) × List (Node × Node))
  | [] => .ok ([], [])
  | (key, value) :: rest =>
    match key.keyRole with
    | .merge => do
      let merged ← value.mergedEntries
      let (others, own) ← flattenEntries rest
      return (merged ++ others, own)
    | .sign => do
      let (merged, own) ← flattenEntries rest
      return (merged, (.scalar "=" false, value) :: own)
    | .ordinary => do
      let (merged, own) ← flattenEntries rest
      return (merged, (key, value) :: own)

/-- The entries that a merge brings in: those of a mapping, or of a list of mappings, where an
earlier mapping counts more and so comes later. -/
def Node.mergedEntries : Node → Except LoadError (List (Node × Node))
  | .sequence items => do
    let parts ← flattenItems items
    return parts.reverse.flatten
  | .mapping entries => do
    let (merged, own) ← flattenEntries entries
    return merged ++ own
  | .scalar .. => .error (.notDocument .badMerge)

/-- The entries of each mapping of a list. -/
def Node.flattenItems : List Node → Except LoadError (List (List (Node × Node)))
  | [] => .ok []
  | node :: rest => do
    let first ← node.flatten
    let others ← flattenItems rest
    return first :: others

end

/-- The value of a key: a list or a mapping cannot be one. -/
def Node.keyValue : Node → Except LoadError Value
  | .scalar text plain => scalarValue text plain
  | _ => .error (.notDocument .unhashableKey)

/-- The value of a node, with a bound on its depth. -/
def Node.valueWithin : Nat → Node → Except LoadError Value
  | _, .scalar text plain => scalarValue text plain
  | 0, _ => .error (.notDocument .expectedEnd)
  | depth + 1, .sequence items => .list <$> items.mapM (valueWithin depth)
  | depth + 1, .mapping entries => do
    let flat ← (Node.mapping entries).flatten
    let pairs ← flat.mapM fun (key, value) =>
      return (← key.keyValue, ← value.valueWithin depth)
    return Value.ofEntries pairs

/-! ## Documents -/

/-- Whether a document may have a character. -/
def isAllowed (c : Char) : Bool :=
  let n := c.toNat
  n == 0x09 || n == 0x0A || n == 0x0D || (0x20 ≤ n && n ≤ 0x7E) || n == 0x85
    || (0xA0 ≤ n && n ≤ 0xD7FF) || (0xE000 ≤ n && n ≤ 0xFFFD) || 0x10000 ≤ n

/-- A text in which every line ends with a single line feed. -/
def unifyLineEnds : List Char → List Char
  | '\r' :: '\n' :: cs => '\n' :: unifyLineEnds cs
  | '\r' :: cs => '\n' :: unifyLineEnds cs
  | c :: cs => c :: unifyLineEnds cs
  | [] => []

/-- The tree of a document, if it has content. -/
def nodeOf (text : String) : Except SyntaxError (Option Node) := do
  let cs := unifyLineEnds text.toList
  match cs.find? fun c => !isAllowed c with
  | some c => throw (.unprintable c)
  | none => Node.ofTokens (← tokens cs).toList

/-- The value of a document. -/
def load (text : String) : Except LoadError Value := do
  match ← (nodeOf text).mapError .notDocument with
  | none => return .null
  | some node => node.valueWithin (text.length + 2)

end Chip8.Yaml
