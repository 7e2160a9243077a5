import Chip8.Yaml.Scalar

/-!
# Tokens

The marks, brackets and scalars of a document, in order.  Nesting that is shown by indentation is
made explicit: a list or a mapping that starts further to the right than what surrounds it is put
between `blockSequence` or `blockMapping` and `blockEnd`.

A key is only known to be one when the colon after it is met, so `Scanner` remembers where a key
may have started, one place for each level of brackets; the colon puts the `key` token in front of
it.  A place is given up when its line ends, or after 1024 characters.
-/

namespace Chip8.Yaml

/-- A mark, a bracket or a scalar. -/
inductive Token where
  /-- A line that starts with a percent sign; the number is the main version it asks for, if it
  asks for one. -/
  | directive (version : Option Nat)
  | documentStart
  | documentEnd
  | blockSequence
  | blockMapping
  | blockEnd
  | flowSequence
  | flowSequenceEnd
  | flowMapping
  | flowMappingEnd
  | blockEntry
  | flowEntry
  | key
  | value
  | scalar (text : String) (plain : Bool)
  | streamEnd
  deriving DecidableEq, Repr

/-- A place where a key may have started. -/
structure KeyPlace where
  /-- How many tokens come before it. -/
  token : Nat
  /-- Whether something that starts there has to be a key. -/
  required : Bool
  index : Nat
  line : Nat
  column : Nat

/-- The state of reading a document into tokens. -/
structure Scanner where
  cursor : Cursor
  /-- The column of the innermost list or mapping that is shown by indentation. -/
  indent : Int
  /-- The columns of those around it. -/
  indents : List Int
  /-- Whether a key may start here. -/
  allowKey : Bool
  /-- Where a key may have started, for each level of brackets, the innermost first. -/
  places : List (Option KeyPlace)
  tokens : Array Token

namespace Scanner

/-- The start of a document. -/
def start (text : List Char) : Scanner := ⟨.start text, -1, [], true, [none], #[]⟩

/-- Whether the place is inside brackets. -/
def inFlow (s : Scanner) : Bool := 1 < s.places.length

/-- Add a token. -/
def emit (s : Scanner) (t : Token) : Scanner := { s with tokens := s.tokens.push t }

/-- Put a token in front of another one. -/
def emitAt (s : Scanner) (place : Nat) (t : Token) : Scanner :=
  { s with tokens := s.tokens.insertIdxIfInBounds place t }

/-- The column of the place. -/
def column (s : Scanner) : Int := s.cursor.column

/-! ## Places for keys -/

/-- Give up a place; one where a key is required may not be given up. -/
def giveUp (place : Option KeyPlace) : Except SyntaxError (Option KeyPlace) :=
  match place with
  | some p => if p.required then .error .missingColon else .ok none
  | none => .ok none

/-- Give up the places that are on another line or too far away. -/
def dropStale (s : Scanner) : Except SyntaxError Scanner := do
  let places ← s.places.mapM fun place =>
    match place with
    | some p =>
      if p.line ≠ s.cursor.line ∨ 1024 < s.cursor.index - p.index then giveUp place else .ok place
    | none => .ok none
  return { s with places := places }

/-- Give up the place of the innermost level. -/
def dropPlace (s : Scanner) : Except SyntaxError Scanner :=
  match s.places with
  | [] => .ok s
  | place :: rest => do
    let place ← giveUp place
    return { s with places := place :: rest }

/-- Remember that a key may start here, if one may. -/
def savePlace (s : Scanner) : Except SyntaxError Scanner := do
  if !s.allowKey then return s
  let required := !s.inFlow && s.indent == s.column
  let s ← s.dropPlace
  let place : KeyPlace :=
    ⟨s.tokens.size, required, s.cursor.index, s.cursor.line, s.cursor.column⟩
  return { s with places := some place :: s.places.tail }

/-! ## Indentation -/

/-- End the lists and mappings that are indented further than a column. -/
def unwindFrom (column : Int) (s : Scanner) : List Int → Scanner
  | [] => s
  | outer :: rest =>
    if column < s.indent then
      unwindFrom column { s.emit .blockEnd with indent := outer, indents := rest } rest
    else s

/-- End the lists and mappings that are indented further than a column, except inside brackets. -/
def unwind (s : Scanner) (column : Int) : Scanner :=
  if s.inFlow then s else unwindFrom column s s.indents

/-- Whether a column is further to the right than what surrounds it. -/
def isDeeper (s : Scanner) (column : Int) : Bool := s.indent < column

/-- Start a list or a mapping at a column. -/
def indentTo (s : Scanner) (column : Int) : Scanner :=
  { s with indent := column, indents := s.indent :: s.indents }

/-! ## Between tokens -/

/-- Move over a comment. -/
def skipComment (c : Cursor) : Cursor :=
  if c.rest.head? = some '#' then c.skip fun x => !isBreak x else c

/-- Move over spaces, comments and line breaks.  Outside brackets a key may start on a new line. -/
def skipBlank (s : Scanner) : Nat → Scanner
  | 0 => s
  | fuel + 1 =>
    let c := skipComment (s.cursor.skip (· == ' '))
    match c.rest with
    | x :: _ =>
      if isBreak x then
        skipBlank { s with cursor := c.next, allowKey := s.allowKey || !s.inFlow } fuel
      else { s with cursor := c }
    | [] => { s with cursor := c }

/-- Move to the next token; a byte order mark at the very start does not count. -/
def toNextToken (s : Scanner) : Scanner :=
  let s :=
    if s.cursor.index = 0 ∧ s.cursor.rest.head? = some '\ufeff' then
      { s with cursor := s.cursor.next }
    else s
  s.skipBlank (s.cursor.rest.length + 1)

/-! ## Single tokens -/

/-- Move over a number of characters. -/
def advance (s : Scanner) (n : Nat) : Scanner := { s with cursor := s.cursor.advance n }

/-- A document mark. -/
def documentMark (s : Scanner) (t : Token) : Except SyntaxError Scanner := do
  let s ← (s.unwind (-1)).dropPlace
  return { (s.advance 3).emit t with allowKey := false }

/-- The digits of a number at the start of a text. -/
def number? (c : Cursor) : Option (Nat × Cursor) :=
  let ds := c.rest.takeWhile Char.isDigit
  if ds.isEmpty then none
  else some (ds.foldl (fun n d => 10 * n + (d.toNat - 48)) 0, c.advance ds.length)

/-- Nothing but spaces and a comment up to the end of the line. -/
def atLineEnd (c : Cursor) : Bool :=
  match (c.skip (· == ' ')).rest with
  | [] => true
  | x :: _ => x == '#' || isBreak x

/-- The version that a directive asks for, if it is a directive about versions. -/
def directiveVersion (c : Cursor) : Except SyntaxError (Option Nat) :=
  let name := c.rest.takeWhile fun x => x.isAlphanum || x == '-' || x == '_'
  let c := c.advance name.length
  let spaced := c.rest.isEmpty || c.rest.head?.any fun x => x == ' ' || isBreak x
  if name.isEmpty || !spaced then .error .badDirective
  else if name = "YAML".toList then
    match number? (c.skip (· == ' ')) with
    | some (major, c) =>
      if c.rest.head? = some '.' then
        match number? c.next with
        | some (_, c) =>
          let spaced := c.rest.isEmpty || c.rest.head?.any fun x => x == ' ' || isBreak x
          if spaced && atLineEnd c then .ok (some major) else .error .badDirective
        | none => .error .badDirective
      else .error .badDirective
    | none => .error .badDirective
  else if name = "TAG".toList then .error (.unsupported '!')
  else .ok none

/-- A directive. -/
def directive (s : Scanner) : Except SyntaxError Scanner := do
  let s ← (s.unwind (-1)).dropPlace
  let version ← directiveVersion s.cursor.next
  let cursor := s.cursor.skip fun x => !isBreak x
  return { s.emit (.directive version) with cursor := cursor, allowKey := false }

/-- An opening bracket. -/
def openFlow (s : Scanner) (t : Token) : Except SyntaxError Scanner := do
  let s ← s.savePlace
  return { (s.advance 1).emit t with places := none :: s.places, allowKey := true }

/-- A closing bracket. -/
def closeFlow (s : Scanner) (t : Token) : Except SyntaxError Scanner := do
  if !s.inFlow then throw .unbalanced
  let s ← s.dropPlace
  return { (s.advance 1).emit t with places := s.places.tail, allowKey := false }

/-- A comma between brackets. -/
def flowEntry (s : Scanner) : Except SyntaxError Scanner := do
  let s ← s.dropPlace
  return { (s.advance 1).emit .flowEntry with allowKey := true }

/-- Outside brackets, start a list or a mapping here if this is further to the right; something
has to be allowed to start here. -/
def openBlock (s : Scanner) (t : Token) (fault : SyntaxError) : Except SyntaxError Scanner :=
  if s.inFlow then .ok s
  else if !s.allowKey then .error fault
  else if s.isDeeper s.column then .ok ((s.indentTo s.column).emit t)
  else .ok s

/-- The mark of a list entry. -/
def blockEntry (s : Scanner) : Except SyntaxError Scanner := do
  let s ← s.openBlock .blockSequence .misplacedEntry
  let s ← s.dropPlace
  return { (s.advance 1).emit .blockEntry with allowKey := true }

/-- The mark of a key. -/
def explicitKey (s : Scanner) : Except SyntaxError Scanner := do
  let s ← s.openBlock .blockMapping .misplacedKey
  let s ← s.dropPlace
  return { (s.advance 1).emit .key with allowKey := !s.inFlow }

/-- The colon before a value: what stands before it may turn out to be its key. -/
def value (s : Scanner) : Except SyntaxError Scanner := do
  match s.places with
  | some place :: rest =>
    let s := { s with places := none :: rest }
    let s := s.emitAt place.token .key
    let s :=
      if !s.inFlow && s.isDeeper place.column then
        (s.indentTo place.column).emitAt place.token .blockMapping
      else s
    return { (s.advance 1).emit .value with allowKey := false }
  | _ =>
    let s ← s.openBlock .blockMapping .misplacedValue
    let s ← s.dropPlace
    return { (s.advance 1).emit .value with allowKey := !s.inFlow }

/-- A scalar between quotes. -/
def quotedScalar (s : Scanner) (quote : Char) : Except SyntaxError Scanner := do
  let s ← s.savePlace
  let (text, cursor) ← s.cursor.quoted quote
  return { s.emit (.scalar (String.ofList text) false) with cursor := cursor, allowKey := false }

/-- A plain scalar.  After one that ends with a line, a key may start. -/
def plainScalar (s : Scanner) : Except SyntaxError Scanner := do
  let s ← s.savePlace
  let (text, cursor, newLine) := s.cursor.plain s.inFlow (s.indent + 1)
  return { s.emit (.scalar (String.ofList text) true) with cursor := cursor, allowKey := newLine }

/-- Whether a plain scalar can start with a character. -/
def startsPlain (s : Scanner) (c : Char) (rest : List Char) : Bool :=
  !(isSeparator c || "-?:,[]\x7b\x7d#&*!|>'\"%@\x60".toList.contains c)
    || (!endsWord rest && (c == '-' || (!s.inFlow && (c == '?' || c == ':'))))

/-- The token that starts with a character. -/
def token (s : Scanner) (c : Char) (rest : List Char) : Except SyntaxError Scanner :=
  if c = '%' ∧ s.cursor.column = 0 then s.directive
  else if s.cursor.column = 0 ∧ s.cursor.atMark '-' then s.documentMark .documentStart
  else if s.cursor.column = 0 ∧ s.cursor.atMark '.' then s.documentMark .documentEnd
  else if c = '[' then s.openFlow .flowSequence
  else if c = '\x7b' then s.openFlow .flowMapping
  else if c = ']' then s.closeFlow .flowSequenceEnd
  else if c = '\x7d' then s.closeFlow .flowMappingEnd
  else if c = ',' then s.flowEntry
  else if c = '-' ∧ endsWord rest then s.blockEntry
  else if c = '?' ∧ (s.inFlow ∨ endsWord rest) then s.explicitKey
  else if c = ':' ∧ (s.inFlow ∨ endsWord rest) then s.value
  else if c = '\'' ∨ c = '"' then s.quotedScalar c
  else if s.startsPlain c rest then s.plainScalar
  else if "*&!|>".toList.contains c then .error (.unsupported c)
  else .error (.strayCharacter c)

/-- The end of the text. -/
def finish (s : Scanner) : Except SyntaxError Scanner := do
  let s ← (s.unwind (-1)).dropPlace
  return s.emit .streamEnd

/-- Read token after token. -/
def run (s : Scanner) : Nat → Except SyntaxError Scanner
  | 0 => .error .expectedEnd
  | fuel + 1 => do
    let s ← s.toNextToken.dropStale
    let s := s.unwind s.column
    match s.cursor.rest with
    | [] => s.finish
    | c :: rest =>
      let s ← s.token c rest
      s.run fuel

end Scanner

/-- The tokens of a document; every token but the last one takes at least one character. -/
def tokens (text : List Char) : Except SyntaxError (Array Token) :=
  (·.tokens) <$> (Scanner.start text).run (text.length + 1)

end Chip8.Yaml
