import Chip8.Journal
import Chip8.Text.DecimalDigit
import Chip8.Text.Quoted

/-!
# The command line

A command line names a program, a configuration and how much is to be reported, each at most once
and each only if it is wanted.  `Word.ofArgument` tells what an argument looks like by itself,
`CommandLine.scan` takes the words in order, and `CommandLine.read` does both.

A flag may be shortened as long as only one flag starts with what is left of it.  Its value may be
attached, after `=` or, for a flag of one letter, without anything in between; otherwise it is the
argument that follows, if that does not look like a flag.  After `--` nothing is a flag.  A
request for help is answered as soon as it is met.
-/

namespace Chip8

open Text

/-- What can be said on the command line with a flag. -/
inductive Flag where
  | help
  | config
  | logLevel
  deriving DecidableEq, Repr

namespace Flag

/-- The spellings of the flags. -/
def spellings : List (String × Flag) :=
  [("-h", help), ("--help", help), ("-c", config), ("--config", config),
   ("--log-level", logLevel)]

/-- What a flag is called in a message: all its spellings. -/
def label (f : Flag) : String :=
  String.intercalate "/" ((spellings.filter fun s => s.2 == f).map Prod.fst)

end Flag

/-- Why a command line is refused. -/
inductive Refusal where
  /-- More than one flag starts like that. -/
  | ambiguous (argument : String) (candidates : List String)
  /-- A flag without its value. -/
  | missingValue (flag : Flag)
  /-- A value attached to a flag that takes none. -/
  | ignoredValue (flag : Flag) (value : String)
  /-- No level has that name. -/
  | invalidLevel (name : String)
  /-- Arguments that are left over. -/
  | unrecognized (arguments : List String)
  deriving DecidableEq, Repr

/-- The wording of a refusal. -/
def Refusal.message : Refusal → String
  | ambiguous argument candidates =>
    "ambiguous option: " ++ argument ++ " could match " ++ String.intercalate ", " candidates
  | missingValue flag => "argument " ++ flag.label ++ ": expected one argument"
  | ignoredValue flag value =>
    "argument " ++ flag.label ++ ": ignored explicit argument " ++ quoted value
  | invalidLevel name =>
    "argument " ++ Flag.logLevel.label ++ ": invalid choice: " ++ quoted name ++
      " (choose from " ++ String.intercalate ", " (Level.all.map fun l => quoted l.name) ++ ")"
  | unrecognized arguments => "unrecognized arguments: " ++ String.intercalate " " arguments

/-- What is chosen on the command line. -/
structure Options where
  rom : Option String := none
  config : Option String := none
  level : Level := .warning
  deriving DecidableEq, Repr

/-! ## Words -/

/-- An argument by itself. -/
inductive Word where
  /-- A flag, what is attached to it, and whether that stands right behind its only letter. -/
  | flag (flag : Flag) (joined : Bool) (attached : Option String)
  /-- Something that looks like a flag and is none. -/
  | unknown (text : String)
  /-- Anything else. -/
  | plain (text : String)
  /-- The mark after which nothing is a flag. -/
  | endMark
  deriving DecidableEq, Repr

namespace Word

/-- Whether a character is a digit of a number. -/
def isDigit (c : Char) : Bool := (decimalValue? c).isSome

/-- Whether the characters after a minus sign make a number of it. -/
def isUnsignedNumber (cs : List Char) : Bool :=
  let cs := if cs.getLast? = some '\n' then cs.dropLast else cs
  match cs.dropWhile isDigit with
  | [] => !cs.isEmpty
  | '.' :: fraction => !fraction.isEmpty && fraction.all isDigit
  | _ => false

/-- The part of an argument before the first equals sign, and the part after it. -/
def splitValue (cs : List Char) : List Char × Option (List Char) :=
  match cs.dropWhile (· ≠ '=') with
  | [] => (cs, none)
  | _ :: value => (cs.takeWhile (· ≠ '='), some value)

/-- The flag with a spelling, as a word. -/
def ofSpelling? (spelling : List Char) (attached : Option (List Char)) : Option Word :=
  (Flag.spellings.lookup (String.ofList spelling)).map fun f =>
    flag f false (attached.map String.ofList)

/-- The flags that an argument may be short for: after two dashes those that start like it, after
one dash the one with its first letter. -/
def candidates : List Char → List (String × Word)
  | '-' :: '-' :: cs =>
    let (start, value) := splitValue ('-' :: '-' :: cs)
    (Flag.spellings.filter fun s => start.isPrefixOf s.1.toList).map fun s =>
      (s.1, flag s.2 false (value.map String.ofList))
  | '-' :: c :: cs =>
    (Flag.spellings.filter fun s => s.1 == String.ofList ['-', c]).map fun s =>
      (s.1, flag s.2 true (some (String.ofList cs)))
  | _ => []

/-- What an argument is that is no flag: something like a flag, or anything else. -/
def ofOther (argument : String) : Word :=
  match argument.toList with
  | '-' :: cs =>
    if isUnsignedNumber cs || cs.contains ' ' then plain argument else unknown argument
  | _ => plain argument

/-- What an argument is that is not exactly a flag and has no flag before an equals sign. -/
def ofShortened (argument : String) : Except Refusal Word :=
  match candidates argument.toList with
  | [] => .ok (ofOther argument)
  | [(_, w)] => .ok w
  | several => .error (.ambiguous argument (several.map Prod.fst))

/-- What an argument is before the end mark. -/
def ofArgument (argument : String) : Except Refusal Word :=
  match argument.toList with
  | [] => .ok (plain argument)
  | ['-'] => .ok (plain argument)
  | cs =>
    match ofSpelling? cs none with
    | some w => .ok w
    | none =>
      match splitValue cs with
      | (spelling, some value) =>
        match ofSpelling? spelling (some value) with
        | some w => .ok w
        | none => ofShortened argument
      | (_, none) => ofShortened argument

/-- The words of a command line. -/
def ofArguments : List String → Except Refusal (List Word)
  | [] => .ok []
  | "--" :: rest => .ok (endMark :: rest.map plain)
  | argument :: rest => do
    let w ← ofArgument argument
    return w :: (← ofArguments rest)

end Word

/-! ## The command line as a whole -/

/-- What comes of a command line. -/
inductive CommandLine where
  /-- The window is to be opened. -/
  | proceed (options : Options)
  /-- Help was asked for. -/
  | help
  /-- The command line cannot be used. -/
  | refused (reason : Refusal)
  deriving DecidableEq, Repr

namespace CommandLine

/-- What a flag with an attached value comes to. -/
inductive Demand where
  /-- Help, at once. -/
  | help
  /-- A flag with its value; help first, if it was asked for in the same argument. -/
  | given (helpFirst : Bool) (flag : Flag) (value : String)
  /-- A flag whose value is the next argument. -/
  | next (helpFirst : Bool) (flag : Flag)
  deriving DecidableEq, Repr

/-- What comes of the text behind the letter of a request for help: more letters of flags, of
which one may take the rest of the text for its value.  A letter that is no flag changes nothing,
because help comes first. -/
def letters : List Char → Except Refusal Demand
  | '-' :: cs => .error (.ignoredValue .help (String.ofList ('-' :: cs)))
  | 'h' :: '=' :: cs => .error (.ignoredValue .help (String.ofList cs))
  | 'h' :: cs => letters cs
  | ['c'] => .ok (.next true .config)
  | 'c' :: '=' :: cs => .ok (.given true .config (String.ofList cs))
  | 'c' :: cs => .ok (.given true .config (String.ofList cs))
  | _ => .ok .help

/-- What a flag comes to. -/
def demand : Flag → Bool → Option String → Except Refusal Demand
  | .help, _, none => .ok .help
  | .help, true, some text => letters text.toList
  | .help, false, some value => .error (.ignoredValue .help value)
  | flag, _, some value => .ok (.given false flag value)
  | flag, _, none => .ok (.next false flag)

/-- Take note of the value of a flag. -/
def choose (options : Options) (flag : Flag) (value : String) : Except Refusal Options :=
  match flag with
  | .help => .ok options
  | .config => .ok { options with config := some value }
  | .logLevel =>
    match Level.ofName? value with
    | some level => .ok { options with level := level }
    | none => .error (.invalidLevel value)

/-- Take words in order.  `taken` tells whether there was a word that may be the program, and
`extras` are the words that nothing could be done with. -/
def scan (taken : Bool) (options : Options) (extras : List String) : List Word → CommandLine
  | [] => if extras.isEmpty then .proceed options else .refused (.unrecognized extras)
  | .unknown text :: rest => scan taken options (extras ++ [text]) rest
  | .endMark :: .plain text :: rest =>
    if taken then scan true options (extras ++ ["--", text]) rest
    else scan true { options with rom := some text } extras rest
  | .endMark :: rest => scan taken options (if taken then extras ++ ["--"] else extras) rest
  | .plain text :: .endMark :: rest =>
    if taken then scan true options (extras ++ [text, "--"]) rest
    else scan true { options with rom := some text } extras rest
  | .plain text :: rest =>
    if taken then scan true options (extras ++ [text]) rest
    else scan true { options with rom := some text } extras rest
  | .flag flag joined attached :: rest =>
    match demand flag joined attached with
    | .error r => .refused r
    | .ok .help => .help
    | .ok (.given true _ _) => .help
    | .ok (.given false flag value) =>
      match choose options flag value with
      | .error r => .refused r
      | .ok options => scan taken options extras rest
    | .ok (.next helpFirst flag) =>
      match rest with
      | .plain value :: rest =>
        if helpFirst then .help
        else match choose options flag value with
          | .error r => .refused r
          | .ok options => scan taken options extras rest
      | _ => .refused (.missingValue flag)

/-- What comes of the arguments of a command line. -/
def read (arguments : List String) : CommandLine :=
  match Word.ofArguments arguments with
  | .error r => .refused r
  | .ok words => scan false {} [] words

/-! ## Texts -/

/-- How the program is called. -/
def usage : String :=
  "usage: chip8-tracer [-h] [-c CONFIG] [--log-level \x7bDEBUG,INFO,WARNING,ERROR\x7d]\n" ++
  "                    [rom]\n"

/-- What is printed for a refused command line. -/
def refusalText (r : Refusal) : String := usage ++ "chip8-tracer: error: " ++ r.message ++ "\n"

/-- What is printed as help. -/
def helpText : String :=
  usage ++
  "\n" ++
  "CHIP-8 virtual machine with an instruction tracer.\n" ++
  "\n" ++
  "positional arguments:\n" ++
  "  rom                   ROM image to load at startup\n" ++
  "\n" ++
  "options:\n" ++
  "  -h, --help            show this help message and exit\n" ++
  "  -c CONFIG, --config CONFIG\n" ++
  "                        YAML system configuration file\n" ++
  "  --log-level \x7bDEBUG,INFO,WARNING,ERROR\x7d\n" ++
  "                        logging level (default: WARNING)\n"

end CommandLine

example : CommandLine.read ["a", "-c", "b", "--log=INFO"] =
    .proceed ⟨some "a", some "b", .info⟩ := by decide +kernel

end Chip8
