import Chip8.Text.Decimal
import Chip8.Text.Quoted

/-!
# Configuration values

What a configuration document can say: nothing, a truth value, a number, a text, a list, a mapping,
or something else that a configuration has no use for.

`Value.display` is the text of a value in a message.  Not every value has one: integers of more than
4300 digits are not written (`Value.isWritable`), and a value that is nested deeper than there is
room for is not written either.  `Value.obstacle?` is what is in the way, the first thing if there
are several.  `Value.isTruthy` tells the values that count as true, and `Value.insert` puts an entry
into a mapping, where keys are the same when they are equal as numbers, whatever kind of number each
of them is.
-/

namespace Chip8

open Text

/-- A value of a configuration document. -/
inductive Value where
  | null
  | bool (b : Bool)
  | int (n : Int)
  | float (x : Float)
  | text (s : String)
  | list (items : List Value)
  | map (entries : List (Value × Value))
  /-- A value of another kind, such as a date: what its kind is called, whether it counts as true,
  and its texts, by itself and inside a list. -/
  | other (kind : String) (truthy : Bool) (alone inside : String)
  deriving Inhabited

namespace Value

/-- The name of a value's kind. -/
def kindName : Value → String
  | null => "NoneType"
  | bool _ => "bool"
  | int _ => "int"
  | float _ => "float"
  | text _ => "str"
  | list _ => "list"
  | map _ => "dict"
  | other kind .. => kind

/-- Whether a value counts as true: nothing, zero and what is empty do not. -/
def isTruthy : Value → Bool
  | null => false
  | bool b => b
  | int n => n != 0
  | float x => x != 0.0
  | text s => !s.isEmpty
  | list items => !items.isEmpty
  | map entries => !entries.isEmpty
  | other _ truthy .. => truthy

/-! ## The text of a value -/

mutual

/-- The text of a value inside a list or a mapping. -/
def nested : Value → String
  | null => "None"
  | bool b => if b then "True" else "False"
  | int n => toString n
  | float x => floatText x
  | text s => quoted s
  | list items => "[" ++ String.intercalate ", " (nestedItems items) ++ "]"
  | map entries => "\x7b" ++ String.intercalate ", " (nestedEntries entries) ++ "\x7d"
  | other _ _ _ inside => inside

/-- The texts of the members of a list. -/
def nestedItems : List Value → List String
  | [] => []
  | v :: vs => nested v :: nestedItems vs

/-- The texts of the entries of a mapping. -/
def nestedEntries : List (Value × Value) → List String
  | [] => []
  | (k, v) :: es => (nested k ++ ": " ++ nested v) :: nestedEntries es

end

/-- The text of a value in a message: texts as they are, and most other values as in a list. -/
def display : Value → String
  | text s => s
  | other _ _ alone _ => alone
  | v => nested v

mutual

/-- Whether a value has a text: integers of more than 4300 digits are not written. -/
def isWritable : Value → Bool
  | int n => (digits 10 n.natAbs).length ≤ 4300
  | list items => itemsWritable items
  | map entries => entriesWritable entries
  | _ => true

/-- Whether all members of a list have a text. -/
def itemsWritable : List Value → Bool
  | [] => true
  | v :: vs => isWritable v && itemsWritable vs

/-- Whether all keys and values of a mapping have a text. -/
def entriesWritable : List (Value × Value) → Bool
  | [] => true
  | (k, v) :: es => isWritable k && isWritable v && entriesWritable es

end

/-- Why a value is not written. -/
inductive Obstacle where
  /-- An integer has more than 4300 digits. -/
  | tooLong
  /-- There is no room for another level of nesting. -/
  | tooDeep
  deriving DecidableEq, Repr

/-- What is said of an obstacle. -/
def Obstacle.message : Obstacle → String
  | tooLong =>
    "Exceeds the limit (4300 digits) for integer string conversion; " ++
      "use sys.set_int_max_str_digits() to increase the limit"
  | tooDeep => "maximum recursion depth exceeded while getting the repr of an object"

mutual

/-- The first obstacle that is met when a value is written, with room for a number of levels of
nesting. -/
def obstacle? (room : Nat) : Value → Option Obstacle
  | int n => if isWritable (int n) then none else some .tooLong
  | list items => itemsObstacle? room items
  | map entries => entriesObstacle? room entries
  | _ => none

/-- The first obstacle among the members of a list, each of which is a level further inside. -/
def itemsObstacle? (room : Nat) : List Value → Option Obstacle
  | [] => none
  | v :: vs =>
    match room with
    | 0 => some .tooDeep
    | inside + 1 => (obstacle? inside v).or (itemsObstacle? (inside + 1) vs)

/-- The first obstacle among the keys and values of a mapping. -/
def entriesObstacle? (room : Nat) : List (Value × Value) → Option Obstacle
  | [] => none
  | (k, v) :: es =>
    match room with
    | 0 => some .tooDeep
    | inside + 1 =>
      (obstacle? inside k).or ((obstacle? inside v).or (entriesObstacle? (inside + 1) es))

end

/-! ## Keys -/

/-- What decides whether two keys of a mapping are the same. -/
inductive Key where
  | null
  | number (n : Int)
  | fraction (bits : UInt64)
  | text (s : String)
  deriving DecidableEq, Repr

/-- The whole number that a floating-point number is, if it is one. -/
def wholeOfFloat? (x : Float) : Option Int :=
  let bits : Nat := x.toBits.toNat
  let biased : Nat := bits / Nat.pow 2 52 % 2048
  let fraction : Nat := bits % Nat.pow 2 52
  let signed (n : Nat) : Int := if bits / Nat.pow 2 63 = 1 then -n else n
  if biased = 2047 then none
  else if biased = 0 then if fraction = 0 then some 0 else none
  else if 1075 ≤ biased then
    some (signed ((Nat.pow 2 52 + fraction) * Nat.pow 2 (biased - 1075)))
  else if (Nat.pow 2 52 + fraction) % Nat.pow 2 (1075 - biased) = 0 then
    some (signed ((Nat.pow 2 52 + fraction) / Nat.pow 2 (1075 - biased)))
  else none

/-- The key that a value stands for.  A list, a mapping, a value of another kind and the float that
is no number stand for none, and so are not the same as any key. -/
def key? : Value → Option Key
  | null => some .null
  | bool b => some (.number (if b then 1 else 0))
  | int n => some (.number n)
  | float x =>
    match wholeOfFloat? x with
    | some n => some (.number n)
    | none => if x.isNaN then none else some (.fraction x.toBits)
  | text s => some (.text s)
  | list _ => none
  | map _ => none
  | other .. => none

/-- Whether two values are the same key. -/
def sameKey (a b : Value) : Bool :=
  match a.key?, b.key? with
  | some k, some l => k == l
  | _, _ => false

/-- The entries of a mapping with one more: a key that is there already keeps its place and its
spelling and gets the new value. -/
def insert (key value : Value) : List (Value × Value) → List (Value × Value)
  | [] => [(key, value)]
  | (k, v) :: es => if sameKey k key then (k, value) :: es else (k, v) :: insert key value es

/-- The mapping that a sequence of entries builds up. -/
def ofEntries (entries : List (Value × Value)) : Value :=
  map (entries.foldl (fun es e => insert e.1 e.2 es) [])

/-- The value of an entry that has a text for its key. -/
def get? (entries : List (Value × Value)) (name : String) : Option Value :=
  (entries.find? fun e => sameKey e.1 (.text name)).map (·.2)

end Value

end Chip8
