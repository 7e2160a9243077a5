import Chip8.Yaml.Cursor
import Chip8.Text.DecimalDigit

/-!
# Scalars as they are written

A scalar is written plainly or between quotes, on one line or on several.  Line breaks inside a
scalar are folded: a single one becomes a space, and of several the first one is dropped.

`Cursor.plain` reads a plain scalar; it ends before a comment, before a colon that starts a value,
and, inside brackets, before anything that belongs to the brackets.  `Cursor.quoted` reads one
between quotes, with the escapes that double quotes allow.
-/

namespace Chip8.Yaml

/-- Line breaks as they count after folding: of one break a space is left, of more than one the
first is dropped, and a break that is no ordinary one stays. -/
def fold (first : Char) (others : List Char) : List Char :=
  if breakText first ≠ '\n' then first :: others
  else if others.isEmpty then [' ']
  else others

/-! ## Plain scalars -/

namespace Cursor

/-- Whether a plain scalar ends before a text. -/
def plainEnds (inFlow : Bool) : List Char → Bool
  | [] => true
  | c :: rest =>
    isSeparator c
      || (c == ':' &&
        (endsWord rest || (inFlow && rest.head?.any (",[]\x7b\x7d".toList.contains ·))))
      || (inFlow && ",?[]\x7b\x7d".toList.contains c)

/-- The number of characters up to the end of a word of a plain scalar. -/
def plainLength (inFlow : Bool) : List Char → Nat
  | [] => 0
  | c :: rest => if plainEnds inFlow (c :: rest) then 0 else plainLength inFlow rest + 1

/-- What stands between two words of a plain scalar: its text after folding, which is empty if the
scalar ends, the place after it, and whether a line has ended. -/
structure Gap where
  text : List Char
  after : Cursor
  newLine : Bool

/-- The further line breaks of a gap, and whether a document mark ends it. -/
def blankLines (found : List Char) (c : Cursor) : List Char × Cursor × Bool :=
  match _h : c.rest with
  | [] => (found, c, false)
  | x :: _ =>
    if x = ' ' then blankLines found c.next
    else if isBreak x then
      let found := found ++ [breakText x]
      if c.next.atAnyMark then (found, c.next, true) else blankLines found c.next
    else (found, c, false)
termination_by c.rest.length
decreasing_by all_goals (rw [length_rest_next]; simp_all)

/-- The gap that follows a word of a plain scalar. -/
def gap (c : Cursor) : Gap :=
  let spaces := c.rest.takeWhile (· = ' ')
  let c := c.advance spaces.length
  match c.rest with
  | [] => ⟨spaces, c, false⟩
  | x :: _ =>
    if !isBreak x then ⟨spaces, c, false⟩
    else if c.next.atAnyMark then ⟨[], c.next, true⟩
    else
      let (others, c, stopped) := blankLines [] c.next
      ⟨if stopped then [] else fold x others, c, true⟩

/-- The words of a plain scalar with the gaps between them.  The last part of the answer says
whether a line ended after the last word. -/
def plainWords (inFlow : Bool) (indent : Int) (text between : List Char) (newLine : Bool)
    (c : Cursor) : Nat → List Char × Cursor × Bool
  | 0 => (text, c, newLine)
  | fuel + 1 =>
    let length := plainLength inFlow c.rest
    if length = 0 || c.rest.head? == some '#' then (text, c, newLine)
    else
      let text := text ++ between ++ c.rest.take length
      let gap := (c.advance length).gap
      if gap.text.isEmpty || gap.after.rest.head? == some '#'
          || (!inFlow && gap.after.column < indent) then
        (text, gap.after, gap.newLine)
      else plainWords inFlow indent text gap.text gap.newLine gap.after fuel

/-- A plain scalar, whose lines have to be indented by at least a number of columns. -/
def plain (inFlow : Bool) (indent : Int) (c : Cursor) : List Char × Cursor × Bool :=
  plainWords inFlow indent [] [] false c (c.rest.length + 1)

/-! ## Scalars between quotes -/

/-- The character that an escape of one letter stands for. -/
def escape? (c : Char) : Option Char :=
  match c with
  | '0' => some '\x00'
  | 'a' => some '\x07'
  | 'b' => some '\x08'
  | 't' => some '\t'
  | '\t' => some '\t'
  | 'n' => some '\n'
  | 'v' => some '\x0b'
  | 'f' => some '\x0c'
  | 'r' => some '\r'
  | 'e' => some '\x1b'
  | ' ' => some ' '
  | '"' => some '"'
  | '\\' => some '\\'
  | '/' => some '/'
  | 'N' => some '\u0085'
  | '_' => some '\u00a0'
  | 'L' => some '\u2028'
  | 'P' => some '\u2029'
  | _ => none

/-- The number of digits of an escape that gives a code point. -/
def codeLength? (c : Char) : Option Nat :=
  match c with
  | 'x' => some 2
  | 'u' => some 4
  | 'U' => some 8
  | _ => none

/-- The value of a digit of base sixteen. -/
def hexValue? (c : Char) : Option Nat := if c.toNat < 128 then Text.digitValue? 16 c else none

/-- A number of a given count of digits in base sixteen. -/
def code? (count : Nat) (text : List Char) : Option Nat :=
  if text.length < count then none
  else (text.take count).foldlM (fun acc c => (hexValue? c).map (16 * acc + ·)) 0

/-- The character that a code point stands for, and how many more characters belong to it: two
escapes that give the halves of a character stand for the whole. -/
def decode (n : Nat) (after : List Char) : Char × Nat :=
  match after with
  | '\\' :: 'u' :: digits =>
    match code? 4 digits with
    | some low =>
      if 0xD800 ≤ n ∧ n < 0xDC00 ∧ 0xDC00 ≤ low ∧ low < 0xE000 then
        (Char.ofNat (0x10000 + (n - 0xD800) * 0x400 + (low - 0xDC00)), 6)
      else (Char.ofNat n, 0)
    | none => (Char.ofNat n, 0)
  | _ => (Char.ofNat n, 0)

/-- Blank lines inside quotes, after a line break. -/
def quotedBreaks (found : List Char) (c : Cursor) : Nat → Except SyntaxError (List Char × Cursor)
  | 0 => .ok (found, c)
  | fuel + 1 =>
    if c.atAnyMark then .error .markInQuotes
    else
      let c := c.skip fun x => x == ' ' || x == '\t'
      match c.rest with
      | [] => .ok (found, c)
      | x :: _ =>
        if isBreak x then quotedBreaks (found ++ [breakText x]) c.next fuel
        else .ok (found, c)

/-- The text between quotes, up to the closing one. -/
def quotedText (quote : Char) (text : List Char) (c : Cursor) :
    Nat → Except SyntaxError (List Char × Cursor)
  | 0 => .error .unclosedQuotes
  | fuel + 1 =>
    match c.rest with
    | [] => .error .unclosedQuotes
    | x :: rest =>
      if x = quote then
        if quote = '\'' ∧ rest.head? = some '\'' then
          quotedText quote (text ++ ['\'']) c.next.next fuel
        else .ok (text, c.next)
      else if x = '\\' ∧ quote = '"' then
        match rest with
        | [] => .error .unknownEscape
        | e :: digits =>
          match escape? e, codeLength? e with
          | some y, _ => quotedText quote (text ++ [y]) c.next.next fuel
          | none, some count =>
            match code? count digits with
            | some n =>
              let (y, more) := decode n (digits.drop count)
              quotedText quote (text ++ [y]) (c.advance (count + 2 + more)) fuel
            | none => .error .unknownEscape
          | none, none =>
            if isBreak e then do
              let (others, after) ← quotedBreaks [] c.next.next (rest.length + 1)
              quotedText quote (text ++ others) after fuel
            else .error .unknownEscape
      else if x = ' ' ∨ x = '\t' then
        let spaces := c.rest.takeWhile fun y => y == ' ' || y == '\t'
        let after := c.advance spaces.length
        match after.rest with
        | [] => .error .unclosedQuotes
        | y :: _ =>
          if isBreak y then quotedText quote text after fuel
          else quotedText quote (text ++ spaces) after fuel
      else if isBreak x then do
        let (others, after) ← quotedBreaks [] c.next (rest.length + 1)
        quotedText quote (text ++ fold x others) after fuel
      else quotedText quote (text ++ [x]) c.next fuel

/-- A scalar between quotes, from the opening one on. -/
def quoted (quote : Char) (c : Cursor) : Except SyntaxError (List Char × Cursor) :=
  quotedText quote [] c.next (c.rest.length + 1)

end Cursor

end Chip8.Yaml
