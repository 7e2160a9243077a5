import Chip8.Instruction.Basic
import Chip8.Text.Radix

/-!
# Assembly text

How instructions are shown.  `Instruction.name` and `Instruction.pattern` are the two labels of
an instruction's kind, the second one being its encoding with the operands as letters.
`Instruction.assembly` is its line of assembly, a mnemonic and operands, and `Assembly.text` joins
the two.
-/

namespace Chip8

open Text

/-- A line of assembly: a mnemonic and its operands. -/
structure Assembly where
  mnemonic : String
  operands : List String
  deriving DecidableEq, Repr

/-- The mnemonic, and after a space the operands with commas between them. -/
def Assembly.text (a : Assembly) : String :=
  if a.operands.isEmpty then a.mnemonic
  else a.mnemonic ++ " " ++ String.intercalate ", " a.operands

/-- The four digits that a word is shown as. -/
def wordText (word : Int) : String := HexForm.word.write word

/-- The name of a register in running text and in assembly. -/
def registerName (x : Fin 16) : String := "V" ++ HexForm.bare.write x.val

namespace Instruction

/-- The label of an instruction's kind. -/
def name : Instruction → String
  | clear => "CLS"
  | ret => "RET"
  | jump _ => "JP"
  | call _ => "CALL"
  | skipEqual _ _ => "SE_VX_NN"
  | skipUnequal _ _ => "SNE_VX_NN"
  | skipSame _ _ => "SE_VX_VY"
  | setByte _ _ => "LD_VX_NN"
  | addByte _ _ => "ADD_VX_NN"
  | copy _ _ => "LD_VX_VY"
  | bitOr _ _ => "OR"
  | bitAnd _ _ => "AND"
  | bitXor _ _ => "XOR"
  | add _ _ => "ADD_VX_VY"
  | sub _ _ => "SUB_VX_VY"
  | shiftRight _ _ => "SHR"
  | subFrom _ _ => "SUBN_VX_VY"
  | shiftLeft _ _ => "SHL"
  | skipDifferent _ _ => "SNE_VX_VY"
  | setIndex _ => "LD_I"
  | jumpOffset _ => "JP_V0"
  | random _ _ => "RND"
  | draw _ _ _ => "DRW"
  | skipPressed _ => "SKP"
  | skipReleased _ => "SKNP"
  | getDelay _ => "LD_VX_DT"
  | awaitKey _ => "LD_VX_K"
  | setDelay _ => "LD_DT_VX"
  | setSound _ => "LD_ST_VX"
  | addIndex _ => "ADD_I_VX"
  | glyph _ => "LD_F_VX"
  | decimal _ => "LD_B_VX"
  | store _ => "LD_MEM_VX"
  | load _ => "LD_VX_MEM"
  | undefined _ => "INVALID"

/-- The encoding of an instruction's kind, with letters for its operands. -/
def pattern : Instruction → String
  | clear => "00E0"
  | ret => "00EE"
  | jump _ => "1nnn"
  | call _ => "2nnn"
  | skipEqual _ _ => "3xnn"
  | skipUnequal _ _ => "4xnn"
  | skipSame _ _ => "5xy0"
  | setByte _ _ => "6xnn"
  | addByte _ _ => "7xnn"
  | copy _ _ => "8xy0"
  | bitOr _ _ => "8xy1"
  | bitAnd _ _ => "8xy2"
  | bitXor _ _ => "8xy3"
  | add _ _ => "8xy4"
  | sub _ _ => "8xy5"
  | shiftRight _ _ => "8xy6"
  | subFrom _ _ => "8xy7"
  | shiftLeft _ _ => "8xyE"
  | skipDifferent _ _ => "9xy0"
  | setIndex _ => "Annn"
  | jumpOffset _ => "Bnnn"
  | random _ _ => "Cxnn"
  | draw _ _ _ => "Dxyn"
  | skipPressed _ => "Ex9E"
  | skipReleased _ => "ExA1"
  | getDelay _ => "Fx07"
  | awaitKey _ => "Fx0A"
  | setDelay _ => "Fx15"
  | setSound _ => "Fx18"
  | addIndex _ => "Fx1E"
  | glyph _ => "Fx29"
  | decimal _ => "Fx33"
  | store _ => "Fx55"
  | load _ => "Fx65"
  | undefined _ => "????"

/-- An address as an operand. -/
def addressOperand (a : Fin 4096) : String := "$" ++ HexForm.operandAddress.write a.val

/-- A byte as an operand. -/
def byteOperand (b : Fin 256) : String := "#$" ++ HexForm.pair.write b.val

/-- The line of assembly that an instruction is shown as. -/
def assembly : Instruction → Assembly
  | clear => ⟨"CLS", []⟩
  | ret => ⟨"RET", []⟩
  | jump a => ⟨"JP", [addressOperand a]⟩
  | call a => ⟨"CALL", [addressOperand a]⟩
  | skipEqual x b => ⟨"SE", [registerName x, byteOperand b]⟩
  | skipUnequal x b => ⟨"SNE", [registerName x, byteOperand b]⟩
  | skipSame x y => ⟨"SE", [registerName x, registerName y]⟩
  | setByte x b => ⟨"LD", [registerName x, byteOperand b]⟩
  | addByte x b => ⟨"ADD", [registerName x, byteOperand b]⟩
  | copy x y => ⟨"LD", [registerName x, registerName y]⟩
  | bitOr x y => ⟨"OR", [registerName x, registerName y]⟩
  | bitAnd x y => ⟨"AND", [registerName x, registerName y]⟩
  | bitXor x y => ⟨"XOR", [registerName x, registerName y]⟩
  | add x y => ⟨"ADD", [registerName x, registerName y]⟩
  | sub x y => ⟨"SUB", [registerName x, registerName y]⟩
  | shiftRight x y => ⟨"SHR", [registerName x, registerName y]⟩
  | subFrom x y => ⟨"SUBN", [registerName x, registerName y]⟩
  | shiftLeft x y => ⟨"SHL", [registerName x, registerName y]⟩
  | skipDifferent x y => ⟨"SNE", [registerName x, registerName y]⟩
  | setIndex a => ⟨"LD", ["I", addressOperand a]⟩
  | jumpOffset a => ⟨"JP", ["V0", addressOperand a]⟩
  | random x b => ⟨"RND", [registerName x, byteOperand b]⟩
  | draw x y n => ⟨"DRW", [registerName x, registerName y, toString n.val]⟩
  | skipPressed x => ⟨"SKP", [registerName x]⟩
  | skipReleased x => ⟨"SKNP", [registerName x]⟩
  | getDelay x => ⟨"LD", [registerName x, "DT"]⟩
  | awaitKey x => ⟨"LD", [registerName x, "K"]⟩
  | setDelay x => ⟨"LD", ["DT", registerName x]⟩
  | setSound x => ⟨"LD", ["ST", registerName x]⟩
  | addIndex x => ⟨"ADD", ["I", registerName x]⟩
  | glyph x => ⟨"LD", ["F", registerName x]⟩
  | decimal x => ⟨"LD", ["B", registerName x]⟩
  | store x => ⟨"LD", ["[I]", registerName x]⟩
  | load x => ⟨"LD", [registerName x, "[I]"]⟩
  | undefined w => ⟨"UNKNOWN", ["$" ++ wordText w]⟩

/-- The text of an instruction's line of assembly. -/
def text (i : Instruction) : String := i.assembly.text

end Instruction

end Chip8
