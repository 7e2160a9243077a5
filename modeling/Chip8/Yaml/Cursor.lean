/-!
# Places in a document

A `Cursor` is a place in the text of a document: the characters that follow, and how many
characters, lines and columns lie before it.  `Cursor.next` moves over one character; a line break
starts a new line, and a byte order mark takes no column.
-/

namespace Chip8.Yaml

/-- Why a text is no document of the supported kind. -/
inductive SyntaxError where
  /-- The text has a character that no document may have. -/
  | unprintable (c : Char)
  /-- Nothing can start with this character. -/
  | strayCharacter (c : Char)
  /-- The text ends inside quotes. -/
  | unclosedQuotes
  /-- A document mark stands inside quotes. -/
  | markInQuotes
  /-- A backslash is followed by something that is no escape. -/
  | unknownEscape
  /-- A key that its place requires has no colon after it. -/
  | missingColon
  /-- An entry of a list stands where none can start. -/
  | misplacedEntry
  /-- A key stands where none can start. -/
  | misplacedKey
  /-- A colon stands where no value can start. -/
  | misplacedValue
  /-- A bracket is closed that was not opened. -/
  | unbalanced
  /-- A directive cannot be read, or is not followed by a document. -/
  | badDirective
  /-- Something that is not read: a name for a value, a reference, a tag, or a literal block. -/
  | unsupported (c : Char)
  /-- A value is expected. -/
  | expectedNode
  /-- The end of a list or a mapping, or another entry, is expected. -/
  | expectedEnd
  /-- More than one document. -/
  | severalDocuments
  /-- A list or a mapping is used as a key. -/
  | unhashableKey
  /-- Something that is no mapping is merged into one. -/
  | badMerge
  /-- A plain scalar of a kind that has no value. -/
  | noValue
  deriving DecidableEq, Repr

/-- Whether a character ends a line. -/
def isBreak (c : Char) : Bool :=
  c == '\n' || c == '\u0085' || c == '\u2028' || c == '\u2029'

/-- Whether a character separates words or lines. -/
def isSeparator (c : Char) : Bool := c == ' ' || c == '\t' || isBreak c

/-- Whether what follows is the end of the text or a separator. -/
def endsWord : List Char → Bool
  | [] => true
  | c :: _ => isSeparator c

/-- What a line break counts as in a scalar. -/
def breakText (c : Char) : Char := if c == '\u0085' then '\n' else c

/-- A place in a text. -/
structure Cursor where
  /-- The characters that follow. -/
  rest : List Char
  index : Nat
  line : Nat
  column : Nat
  deriving DecidableEq, Repr

namespace Cursor

/-- The start of a text. -/
def start (text : List Char) : Cursor := ⟨text, 0, 0, 0⟩

/-- The place after the next character. -/
def next (c : Cursor) : Cursor :=
  match c.rest with
  | [] => c
  | x :: rest =>
    if isBreak x then ⟨rest, c.index + 1, c.line + 1, 0⟩
    else ⟨rest, c.index + 1, c.line, if x == '\ufeff' then c.column else c.column + 1⟩

/-- The place after a number of characters. -/
def advance (c : Cursor) : Nat → Cursor
  | 0 => c
  | n + 1 => c.next.advance n

/-- The place after the characters that satisfy a condition. -/
def skip (p : Char → Bool) (c : Cursor) : Cursor := c.advance (c.rest.takeWhile p).length

/-- Whether a document mark stands here: three equal characters and the end of a word. -/
def atMark (x : Char) (c : Cursor) : Bool :=
  match c.rest with
  | a :: b :: d :: rest => a == x && b == x && d == x && endsWord rest
  | _ => false

/-- Whether the mark of a document's start or end stands here. -/
def atAnyMark (c : Cursor) : Bool := c.atMark '-' || c.atMark '.'

theorem length_rest_next (c : Cursor) : c.next.rest.length = c.rest.length - 1 := by
  unfold next
  split
  · simp_all
  · split <;> simp_all

end Cursor

end Chip8.Yaml
