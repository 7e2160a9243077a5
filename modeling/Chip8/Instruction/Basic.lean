/-!
# Instructions

An instruction is a two-byte word whose top digit, and in some groups its low digit or low byte,
says what it does, while the remaining digits are its operands.  `Instruction` has one
constructor for each kind, with exactly the operands which that kind uses, and
`Instruction.decode` reads one off a word.

* Words of the groups `5` and `9` decode alike whatever their last digit is.
* A word that fits no pattern is `undefined`; it keeps the whole word, because that is what it is
  shown as.
* Decoding looks at the low sixteen bits only, so two words that agree in them decode alike unless
  they are undefined.
-/

namespace Chip8

/-- What one word asks the processor to do. -/
inductive Instruction where
  /-- `00E0`: turn every pixel off. -/
  | clear
  /-- `00EE`: go back to the address on top of the call stack. -/
  | ret
  /-- `1nnn`: go to an address. -/
  | jump (target : Fin 4096)
  /-- `2nnn`: go to an address, leaving the way back on the call stack. -/
  | call (target : Fin 4096)
  /-- `3xnn`: skip one instruction if a register holds a byte. -/
  | skipEqual (x : Fin 16) (byte : Fin 256)
  /-- `4xnn`: skip one instruction if a register does not hold a byte. -/
  | skipUnequal (x : Fin 16) (byte : Fin 256)
  /-- `5xy.`: skip one instruction if two registers agree. -/
  | skipSame (x y : Fin 16)
  /-- `6xnn`: put a byte into a register. -/
  | setByte (x : Fin 16) (byte : Fin 256)
  /-- `7xnn`: add a byte to a register, without a carry. -/
  | addByte (x : Fin 16) (byte : Fin 256)
  /-- `8xy0`: copy a register. -/
  | copy (x y : Fin 16)
  /-- `8xy1`: bitwise or. -/
  | bitOr (x y : Fin 16)
  /-- `8xy2`: bitwise and. -/
  | bitAnd (x y : Fin 16)
  /-- `8xy3`: bitwise exclusive or. -/
  | bitXor (x y : Fin 16)
  /-- `8xy4`: add with carry. -/
  | add (x y : Fin 16)
  /-- `8xy5`: subtract the second register from the first. -/
  | sub (x y : Fin 16)
  /-- `8xy6`: shift right by one. -/
  | shiftRight (x y : Fin 16)
  /-- `8xy7`: subtract the first register from the second. -/
  | subFrom (x y : Fin 16)
  /-- `8xyE`: shift left by one. -/
  | shiftLeft (x y : Fin 16)
  /-- `9xy.`: skip one instruction if two registers differ. -/
  | skipDifferent (x y : Fin 16)
  /-- `Annn`: point the index register at an address. -/
  | setIndex (address : Fin 4096)
  /-- `Bnnn`: go to an address plus register zero. -/
  | jumpOffset (base : Fin 4096)
  /-- `Cxnn`: a random byte under a mask. -/
  | random (x : Fin 16) (mask : Fin 256)
  /-- `Dxyn`: draw a sprite of `n` rows. -/
  | draw (x y : Fin 16) (rows : Fin 16)
  /-- `Ex9E`: skip one instruction if a key is down. -/
  | skipPressed (x : Fin 16)
  /-- `ExA1`: skip one instruction if a key is up. -/
  | skipReleased (x : Fin 16)
  /-- `Fx07`: read the delay timer. -/
  | getDelay (x : Fin 16)
  /-- `Fx0A`: wait for a key to go down and store its number. -/
  | awaitKey (x : Fin 16)
  /-- `Fx15`: start the delay timer. -/
  | setDelay (x : Fin 16)
  /-- `Fx18`: start the sound timer. -/
  | setSound (x : Fin 16)
  /-- `Fx1E`: add a register to the index register. -/
  | addIndex (x : Fin 16)
  /-- `Fx29`: point the index register at the glyph of a digit. -/
  | glyph (x : Fin 16)
  /-- `Fx33`: write the three decimal digits of a register to memory. -/
  | decimal (x : Fin 16)
  /-- `Fx55`: write the registers up to `x` to memory. -/
  | store (x : Fin 16)
  /-- `Fx65`: read the registers up to `x` from memory. -/
  | load (x : Fin 16)
  /-- A word that fits no pattern; it does nothing. -/
  | undefined (word : Int)
  deriving DecidableEq, Repr

namespace Instruction

/-- How many bytes of memory an instruction takes. -/
def length : Nat := 2

/-! ## The fields of a word -/

/-- The hexadecimal digit at a place, counted from the least significant one. -/
def digitAt (word : Int) (place : Nat) : Fin 16 :=
  ⟨(word / Nat.pow 16 place % 16).toNat, by omega⟩

/-- The low byte of a word. -/
def lowByte (word : Int) : Fin 256 :=
  ⟨(word % 256).toNat, by omega⟩

/-- The low three hexadecimal digits of a word, which spell an address. -/
def addressField (word : Int) : Fin 4096 :=
  ⟨(word % 4096).toNat, by omega⟩

/-! ## Decoding -/

/-- The instructions of group `8`, told apart by the last digit. -/
def decodeArithmetic (word : Int) (x y : Fin 16) : Instruction :=
  match (digitAt word 0).val with
  | 0x0 => copy x y
  | 0x1 => bitOr x y
  | 0x2 => bitAnd x y
  | 0x3 => bitXor x y
  | 0x4 => add x y
  | 0x5 => sub x y
  | 0x6 => shiftRight x y
  | 0x7 => subFrom x y
  | 0xE => shiftLeft x y
  | _ => undefined word

/-- The instructions of group `F`, told apart by the low byte. -/
def decodeTransfer (word : Int) (x : Fin 16) : Instruction :=
  match (lowByte word).val with
  | 0x07 => getDelay x
  | 0x0A => awaitKey x
  | 0x15 => setDelay x
  | 0x18 => setSound x
  | 0x1E => addIndex x
  | 0x29 => glyph x
  | 0x33 => decimal x
  | 0x55 => store x
  | 0x65 => load x
  | _ => undefined word

/-- The instruction that a word spells. -/
def decode (word : Int) : Instruction :=
  let x := digitAt word 2
  let y := digitAt word 1
  let byte := lowByte word
  let address := addressField word
  match (digitAt word 3).val with
  | 0x0 =>
    match byte.val with
    | 0xE0 => clear
    | 0xEE => ret
    | _ => undefined word
  | 0x1 => jump address
  | 0x2 => call address
  | 0x3 => skipEqual x byte
  | 0x4 => skipUnequal x byte
  | 0x5 => skipSame x y
  | 0x6 => setByte x byte
  | 0x7 => addByte x byte
  | 0x8 => decodeArithmetic word x y
  | 0x9 => skipDifferent x y
  | 0xA => setIndex address
  | 0xB => jumpOffset address
  | 0xC => random x byte
  | 0xD => draw x y (digitAt word 0)
  | 0xE =>
    match byte.val with
    | 0x9E => skipPressed x
    | 0xA1 => skipReleased x
    | _ => undefined word
  | _ => decodeTransfer word x

end Instruction

end Chip8
