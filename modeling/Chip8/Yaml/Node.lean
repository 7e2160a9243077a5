import Chip8.Yaml.Token

/-!
# Nodes

The tree that the tokens of a document spell: scalars, lists and mappings.  A value that is left
out is an empty plain scalar.  `Node.ofTokens` reads the one document of a token list, and answers
`none` if there is none.

Inside brackets a single `key: value` may stand for a mapping with one entry, and outside brackets
the entries of a list may stand no further to the right than the key that they belong to.
-/

namespace Chip8.Yaml

/-- A part of a document. -/
inductive Node where
  | scalar (text : String) (plain : Bool)
  | sequence (items : List Node)
  | mapping (entries : List (Node × Node))
  deriving Repr

namespace Node

/-- A value that is left out. -/
def empty : Node := scalar "" true

/-- What is read, and the tokens after it. -/
abbrev Parsed (α : Type) := α × List Token

/-- Where a value may be left out: before any of these tokens. -/
def omitted (ends : List Token) (ts : List Token) : Bool :=
  match ts with
  | t :: _ => ends.contains t
  | [] => true

mutual

/-- A value, inside brackets or outside them.  After the mark of a key, the entries of a list may
follow without indentation. -/
def read (block unindented : Bool) (ts : List Token) : Nat → Except SyntaxError (Parsed Node)
  | 0 => .error .expectedNode
  | fuel + 1 =>
    match ts with
    | .blockEntry :: _ =>
      if unindented then do
        let (items, rest) ← unindentedEntries ts fuel
        return (sequence items, rest)
      else .error .expectedNode
    | .scalar text plain :: rest => .ok (scalar text plain, rest)
    | .flowSequence :: rest => do
      let (items, rest) ← flowItems true rest fuel
      return (sequence items, rest)
    | .flowMapping :: rest => do
      let (entries, rest) ← flowEntries true rest fuel
      return (mapping entries, rest)
    | .blockSequence :: rest =>
      if block then do
        let (items, rest) ← blockItems rest fuel
        return (sequence items, rest)
      else .error .expectedNode
    | .blockMapping :: rest =>
      if block then do
        let (entries, rest) ← blockEntries rest fuel
        return (mapping entries, rest)
      else .error .expectedNode
    | _ => .error .expectedNode

/-- A value, unless it is left out. -/
def readOr (ends : List Token) (block unindented : Bool) (ts : List Token) :
    Nat → Except SyntaxError (Parsed Node)
  | 0 => .error .expectedNode
  | fuel + 1 =>
    if omitted ends ts then .ok (empty, ts) else read block unindented ts fuel

/-- The entries of an indented list, and its end. -/
def blockItems (ts : List Token) : Nat → Except SyntaxError (Parsed (List Node))
  | 0 => .error .expectedEnd
  | fuel + 1 =>
    match ts with
    | .blockEntry :: rest => do
      let (item, rest) ← readOr [.blockEntry, .blockEnd] true false rest fuel
      let (items, rest) ← blockItems rest fuel
      return (item :: items, rest)
    | .blockEnd :: rest => .ok ([], rest)
    | _ => .error .expectedEnd

/-- The entries of a list that is not indented. -/
def unindentedEntries (ts : List Token) : Nat → Except SyntaxError (Parsed (List Node))
  | 0 => .error .expectedEnd
  | fuel + 1 =>
    match ts with
    | .blockEntry :: rest => do
      let (item, rest) ← readOr [.blockEntry, .key, .value, .blockEnd] true false rest fuel
      let (items, rest) ← unindentedEntries rest fuel
      return (item :: items, rest)
    | _ => .ok ([], ts)

/-- The entries of an indented mapping, and its end. -/
def blockEntries (ts : List Token) : Nat → Except SyntaxError (Parsed (List (Node × Node)))
  | 0 => .error .expectedEnd
  | fuel + 1 =>
    match ts with
    | .key :: rest => do
      let (key, rest) ← readOr [.key, .value, .blockEnd] true true rest fuel
      let (value, rest) ← valueAfter [.key, .value, .blockEnd] true rest fuel
      let (entries, rest) ← blockEntries rest fuel
      return ((key, value) :: entries, rest)
    | .blockEnd :: rest => .ok ([], rest)
    | _ => .error .expectedEnd

/-- The value after a key, which may be left out together with its colon. -/
def valueAfter (ends : List Token) (block : Bool) (ts : List Token) :
    Nat → Except SyntaxError (Parsed Node)
  | 0 => .error .expectedNode
  | fuel + 1 =>
    match ts with
    | .value :: rest => readOr ends block block rest fuel
    | _ => .ok (empty, ts)

/-- The entries of a list in brackets, and the closing one. -/
def flowItems (first : Bool) (ts : List Token) : Nat → Except SyntaxError (Parsed (List Node))
  | 0 => .error .expectedEnd
  | fuel + 1 =>
    match ts with
    | .flowSequenceEnd :: rest => .ok ([], rest)
    | .flowEntry :: rest =>
      if first then .error .expectedNode
      else
        match rest with
        | .flowSequenceEnd :: rest => .ok ([], rest)
        | _ => flowItem rest fuel
    | _ => if first then flowItem ts fuel else .error .expectedEnd

/-- An entry of a list in brackets, and those after it. -/
def flowItem (ts : List Token) : Nat → Except SyntaxError (Parsed (List Node))
  | 0 => .error .expectedEnd
  | fuel + 1 =>
    match ts with
    | .key :: rest => do
      let (key, rest) ← readOr [.value, .flowEntry, .flowSequenceEnd] false false rest fuel
      let (value, rest) ← valueAfter [.flowEntry, .flowSequenceEnd] false rest fuel
      let (items, rest) ← flowItems false rest fuel
      return (mapping [(key, value)] :: items, rest)
    | _ => do
      let (item, rest) ← read false false ts fuel
      let (items, rest) ← flowItems false rest fuel
      return (item :: items, rest)

/-- The entries of a mapping in brackets, and the closing one. -/
def flowEntries (first : Bool) (ts : List Token) :
    Nat → Except SyntaxError (Parsed (List (Node × Node)))
  | 0 => .error .expectedEnd
  | fuel + 1 =>
    match ts with
    | .flowMappingEnd :: rest => .ok ([], rest)
    | .flowEntry :: rest =>
      if first then .error .expectedNode
      else
        match rest with
        | .flowMappingEnd :: rest => .ok ([], rest)
        | _ => flowEntryPair rest fuel
    | _ => if first then flowEntryPair ts fuel else .error .expectedEnd

/-- An entry of a mapping in brackets, and those after it. -/
def flowEntryPair (ts : List Token) : Nat → Except SyntaxError (Parsed (List (Node × Node)))
  | 0 => .error .expectedEnd
  | fuel + 1 =>
    match ts with
    | .key :: rest => do
      let (key, rest) ← readOr [.value, .flowEntry, .flowMappingEnd] false false rest fuel
      let (value, rest) ← valueAfter [.flowEntry, .flowMappingEnd] false rest fuel
      let (entries, rest) ← flowEntries false rest fuel
      return ((key, value) :: entries, rest)
    | _ => do
      let (key, rest) ← read false false ts fuel
      let (entries, rest) ← flowEntries false rest fuel
      return ((key, empty) :: entries, rest)

end

/-! ## Documents -/

/-- The directives in front of a document: at most one may ask for a version, whose main number has
to be one, and a document has to start after them. -/
def skipDirectives (versioned : Bool) : List Token → Except SyntaxError (List Token)
  | .directive version :: rest =>
    match version with
    | none => skipDirectives versioned rest
    | some n => if versioned ∨ n ≠ 1 then .error .badDirective else skipDirectives true rest
  | .documentStart :: rest => .ok rest
  | _ => .error .badDirective

/-- The marks of a document's end. -/
def skipEnds : List Token → List Token
  | .documentEnd :: rest => skipEnds rest
  | ts => ts

/-- Nothing but marks of the document's end. -/
def readEnd (ts : List Token) : Except SyntaxError Unit :=
  match skipEnds ts with
  | [.streamEnd] => .ok ()
  | _ => .error .severalDocuments

/-- The document that starts after its mark, which may be empty. -/
def readContent (ts : List Token) (fuel : Nat) : Except SyntaxError (Parsed Node) :=
  match ts with
  | .directive _ :: _ => .ok (empty, ts)
  | .documentStart :: _ => .ok (empty, ts)
  | .documentEnd :: _ => .ok (empty, ts)
  | .streamEnd :: _ => .ok (empty, ts)
  | _ => read true false ts fuel

/-- The one document that tokens spell, if they spell one. -/
def ofTokens (ts : List Token) : Except SyntaxError (Option Node) := do
  let fuel := 4 * ts.length + 4
  match ts with
  | [.streamEnd] => return none
  | .directive _ :: _ =>
    let (node, rest) ← readContent (← skipDirectives false ts) fuel
    readEnd rest
    return some node
  | .documentStart :: _ =>
    let (node, rest) ← readContent (← skipDirectives false ts) fuel
    readEnd rest
    return some node
  | _ =>
    let (node, rest) ← read true false ts fuel
    readEnd rest
    return some node

end Node

end Chip8.Yaml
