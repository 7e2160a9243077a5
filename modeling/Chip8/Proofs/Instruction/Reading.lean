import Chip8.Instruction.Assembly
import Chip8.Machine.Execution

/-!
# Reading assembly

Can an instruction be told from its line of assembly?  Mnemonics are shared (there are eleven forms
of `LD`), and a register, a byte, an address or a sign such as `DT` may stand in the same place.
But operands can be told apart by how they begin, and with that a line can be read.

* `readHex_write` — a hexadecimal field without a lead is read back, whatever its sign and width;
* `parts_text` — the mnemonic and the operands of a line are found again;
* `ofText?_text` — **a line is read as the instruction that it was written for**;
* `text_determines` — so two words with one line are one instruction, and do the same everywhere.
-/

namespace Chip8

namespace Text

/-! ## Hexadecimal fields -/

/-- The value of a digit in upper case. -/
def upperDigitValue (c : Char) : Nat := if c.toNat < 58 then c.toNat - 48 else c.toNat - 55

/-- The number that a field in upper case and without a lead shows. -/
def readHex : List Char → Int
  | '-' :: cs => -(ofDigits 16 (cs.map upperDigitValue) : Int)
  | cs => ofDigits 16 (cs.map upperDigitValue)

theorem upperDigitValue_upperDigit : ∀ d < 16, upperDigitValue (upperDigit d) = d := by decide

/-- A digit is no sign and does not end a part of a line. -/
theorem upperDigit_ne : ∀ d < 16, upperDigit d ≠ '-' ∧ upperDigit d ≠ ',' ∧ upperDigit d ≠ ' ' := by
  decide

/-- Zeros in front do not count. -/
theorem ofDigits_replicate_zero (base k : Nat) (ds : List Nat) :
    ofDigits base (List.replicate k 0 ++ ds) = ofDigits base ds := by
  induction k with
  | zero => rfl
  | succ k ih => simpa [ofDigits, List.replicate_succ] using ih

/-- Zeros and then the digits of a number. -/
def paddedDigits (k n : Nat) : List Char :=
  List.replicate k '0' ++ (digits 16 n).map upperDigit

theorem digit_of_mem_paddedDigits {c : Char} {k n : Nat} (h : c ∈ paddedDigits k n) :
    ∃ d < 16, c = upperDigit d := by
  rcases List.mem_append.1 h with h | h
  · exact ⟨0, by decide, List.eq_of_mem_replicate h⟩
  · obtain ⟨d, hd, rfl⟩ := List.mem_map.1 h
    exact ⟨d, lt_of_mem_digits (by decide) hd, rfl⟩

theorem ofDigits_paddedDigits (k n : Nat) :
    ofDigits 16 ((paddedDigits k n).map upperDigitValue) = n := by
  have hdigits : ((digits 16 n).map upperDigit).map upperDigitValue = digits 16 n := by
    rw [List.map_map]
    refine (List.map_congr_left fun d hd => ?_).trans (List.map_id _)
    exact upperDigitValue_upperDigit d (lt_of_mem_digits (by decide) hd)
  rw [paddedDigits, List.map_append, hdigits, List.map_replicate]
  exact (ofDigits_replicate_zero 16 k _).trans (ofDigits_digits 16 n)

section Write

variable {f : HexForm} (hlead : f.lead = "") (hcapital : f.capital = true)

include hlead hcapital

/-- Such a field is its sign, zeros, and the digits. -/
theorem toList_write (x : Int) :
    ∃ k, (f.write x).toList = (if x < 0 then ['-'] else []) ++ paddedDigits k x.natAbs := by
  have hdigit : f.digit = upperDigit := by
    funext d
    simp [HexForm.digit, hcapital]
  simp only [HexForm.write, hlead, hdigit, String.append_empty, String.toList_append,
    String.toList_ofList, paddedDigits]
  refine ⟨_, congrArg (· ++ _) ?_⟩
  split <;> rfl

/-- **Such a field is read back.** -/
theorem readHex_write (x : Int) : readHex (f.write x).toList = x := by
  obtain ⟨k, hwrite⟩ := toList_write hlead hcapital x
  rw [hwrite]
  by_cases hneg : x < 0
  · rw [if_pos hneg]
    show -(ofDigits 16 ((paddedDigits k x.natAbs).map upperDigitValue) : Int) = x
    rw [ofDigits_paddedDigits]
    omega
  · rw [if_neg hneg, List.nil_append, readHex, ofDigits_paddedDigits]
    · omega
    · intro rest hsign
      obtain ⟨d, hd, heq⟩ := digit_of_mem_paddedDigits (hsign ▸ List.mem_cons_self ..)
      exact (upperDigit_ne d hd).1 heq.symm

end Write

/-! ## Parts of a line -/

/-- Neither commas nor spaces stand in a part of a line. -/
def IsPart (s : String) : Prop := ',' ∉ s.toList ∧ ' ' ∉ s.toList

instance (s : String) : Decidable (IsPart s) := inferInstanceAs (Decidable (_ ∧ _))

theorem IsPart.append {s t : String} (hs : IsPart s) (ht : IsPart t) : IsPart (s ++ t) := by
  simp only [IsPart, String.toList_append, List.mem_append]
  exact ⟨fun h => h.elim hs.1 ht.1, fun h => h.elim hs.2 ht.2⟩

theorem isPart_write {f : HexForm} (hlead : f.lead = "") (hcapital : f.capital = true) (x : Int) :
    IsPart (f.write x) := by
  obtain ⟨k, hwrite⟩ := toList_write hlead hcapital x
  have hchar : ∀ c ∈ (f.write x).toList, c = '-' ∨ ∃ d < 16, c = upperDigit d := by
    intro c hc
    rw [hwrite] at hc
    rcases List.mem_append.1 hc with hc | hc
    · split at hc
      · exact .inl (List.mem_singleton.1 hc)
      · cases hc
    · exact .inr (digit_of_mem_paddedDigits hc)
  constructor <;>
    · intro hc
      rcases hchar _ hc with heq | ⟨d, hd, heq⟩
      · cases heq
      · have hdigit := upperDigit_ne d hd
        simp [← heq] at hdigit

/-- The parts of a line: the mnemonic and the operands. -/
def parts (text : String) : List (List Char) := (text.toList.filter (· ≠ ',')).splitOn ' '

theorem filter_isPart {s : String} (h : IsPart s) : s.toList.filter (· ≠ ',') = s.toList := by
  refine List.filter_eq_self.2 fun c hc => decide_eq_true ?_
  rintro rfl
  exact h.1 hc

/-- Between two operands stands a comma as well, and without it only the space. -/
theorem filter_intercalate {ss : List String} (h : ∀ s ∈ ss, IsPart s) :
    (", ".intercalate ss).toList.filter (· ≠ ',') = [' '].intercalate (ss.map String.toList) := by
  rw [String.toList_intercalate]
  induction ss with
  | nil => rfl
  | cons s rest ih =>
    have hs := filter_isPart (h s List.mem_cons_self)
    cases rest with
    | nil => simpa using hs
    | cons t rest =>
      have hrest := ih fun u hu => h u (List.mem_cons_of_mem s hu)
      simp only [List.map_cons] at hrest ⊢
      rw [List.intercalate_cons_cons, List.intercalate_cons_cons, List.filter_append,
        List.filter_append, hs, hrest]
      rfl

/-- Without its commas, a line is its parts with a space between any two of them. -/
theorem filter_text {a : Assembly} (hmnemonic : IsPart a.mnemonic)
    (hoperands : ∀ s ∈ a.operands, IsPart s) :
    a.text.toList.filter (· ≠ ',') =
      [' '].intercalate (a.mnemonic.toList :: a.operands.map String.toList) := by
  have hline := filter_intercalate hoperands
  have hfirst := filter_isPart hmnemonic
  rw [Assembly.text]
  cases hops : a.operands with
  | nil => simpa using hfirst
  | cons s rest =>
    rw [hops] at hline
    simp only [List.isEmpty_cons, Bool.false_eq_true, if_false, String.toList_append,
      List.filter_append, List.map_cons] at hline ⊢
    rw [List.intercalate_cons_cons, hfirst, hline]
    rfl

/-- **The parts of a line are found again.** -/
theorem parts_text {a : Assembly} (hmnemonic : IsPart a.mnemonic)
    (hoperands : ∀ s ∈ a.operands, IsPart s) :
    parts a.text = a.mnemonic.toList :: a.operands.map String.toList := by
  rw [parts, filter_text hmnemonic hoperands]
  refine List.splitOn_intercalate _ ?_ (List.cons_ne_nil _ _)
  intro part hpart
  rcases List.mem_cons.1 hpart with rfl | hpart
  · exact hmnemonic.2
  · obtain ⟨s, hs, rfl⟩ := List.mem_map.1 hpart
    exact (hoperands s hs).2

end Text

open Text

/-! ## Operands -/

/-- What an operand is taken for, by how it begins. -/
inductive Operand where
  | register (x : Fin 16)
  | byte (b : Fin 256)
  | address (n : Int)
  /-- Anything else. -/
  | sign (s : String)
  deriving DecidableEq, Repr

namespace Instruction

theorem digitAt_coe (x : Fin 16) : digitAt x.val 0 = x := by
  ext
  simp only [digitAt, Nat.pow]
  omega

theorem lowByte_coe (b : Fin 256) : lowByte b.val = b := by
  ext
  simp only [lowByte]
  omega

theorem addressField_coe (a : Fin 4096) : addressField a.val = a := by
  ext
  simp only [addressField]
  omega

end Instruction

open Instruction

namespace Operand

/-- What a part of a line is taken for. -/
def ofChars : List Char → Operand
  | 'V' :: cs => register (digitAt (readHex cs) 0)
  -- the sign of an address stands in a byte as well, but not at its beginning
  | '#' :: '$' :: cs => byte (lowByte (readHex cs))
  | '$' :: cs => address (readHex cs)
  | cs => sign (String.ofList cs)

theorem ofChars_registerName (x : Fin 16) : ofChars (registerName x).toList = register x := by
  rw [registerName, String.toList_append]
  show register (digitAt (readHex (HexForm.bare.write x.val).toList) 0) = _
  rw [readHex_write rfl rfl, digitAt_coe]

theorem ofChars_byteOperand (b : Fin 256) : ofChars (byteOperand b).toList = byte b := by
  rw [byteOperand, String.toList_append]
  show byte (lowByte (readHex (HexForm.pair.write b.val).toList)) = _
  rw [readHex_write rfl rfl, lowByte_coe]

theorem ofChars_addressOperand (a : Fin 4096) :
    ofChars (addressOperand a).toList = address a.val := by
  rw [addressOperand, String.toList_append]
  exact congrArg address (readHex_write rfl rfl a.val)

theorem ofChars_wordText (word : Int) : ofChars ("$" ++ wordText word).toList = address word := by
  rw [wordText, String.toList_append]
  exact congrArg address (readHex_write rfl rfl word)

/-- A number of rows is written in base ten. -/
theorem ofChars_rows : ∀ n : Fin 16, ofChars (toString n.val).toList = sign (toString n.val) := by
  decide

end Operand

/-- The number of rows that an operand shows. -/
def rowsOf (s : String) : Option (Fin 16) := (List.finRange 16).find? fun n => toString n.val == s

theorem rowsOf_rows : ∀ n : Fin 16, rowsOf (toString n.val) = some n := by decide

theorem isPart_registerName (x : Fin 16) : IsPart (registerName x) :=
  .append (by decide) (isPart_write rfl rfl _)

theorem isPart_byteOperand (b : Fin 256) : IsPart (byteOperand b) :=
  .append (by decide) (isPart_write rfl rfl _)

theorem isPart_addressOperand (a : Fin 4096) : IsPart (addressOperand a) :=
  .append (by decide) (isPart_write rfl rfl _)

theorem isPart_wordText (word : Int) : IsPart ("$" ++ wordText word) :=
  .append (by decide) (isPart_write rfl rfl _)

theorem isPart_rows : ∀ n : Fin 16, IsPart (toString n.val) := by decide

namespace Instruction

/-! ## Lines -/

/-- The instruction that a mnemonic and operands stand for. -/
def ofParts? : String → List Operand → Option Instruction
  | "CLS", [] => some clear
  | "RET", [] => some ret
  | "JP", [.address a] => some (jump (addressField a))
  | "CALL", [.address a] => some (call (addressField a))
  | "SE", [.register x, .byte b] => some (skipEqual x b)
  | "SNE", [.register x, .byte b] => some (skipUnequal x b)
  | "SE", [.register x, .register y] => some (skipSame x y)
  | "LD", [.register x, .byte b] => some (setByte x b)
  | "ADD", [.register x, .byte b] => some (addByte x b)
  | "LD", [.register x, .register y] => some (copy x y)
  | "OR", [.register x, .register y] => some (bitOr x y)
  | "AND", [.register x, .register y] => some (bitAnd x y)
  | "XOR", [.register x, .register y] => some (bitXor x y)
  | "ADD", [.register x, .register y] => some (add x y)
  | "SUB", [.register x, .register y] => some (sub x y)
  | "SHR", [.register x, .register y] => some (shiftRight x y)
  | "SUBN", [.register x, .register y] => some (subFrom x y)
  | "SHL", [.register x, .register y] => some (shiftLeft x y)
  | "SNE", [.register x, .register y] => some (skipDifferent x y)
  | "LD", [.sign "I", .address a] => some (setIndex (addressField a))
  | "JP", [.register 0, .address a] => some (jumpOffset (addressField a))
  | "RND", [.register x, .byte b] => some (random x b)
  | "DRW", [.register x, .register y, .sign n] => (rowsOf n).map (draw x y)
  | "SKP", [.register x] => some (skipPressed x)
  | "SKNP", [.register x] => some (skipReleased x)
  | "LD", [.register x, .sign "DT"] => some (getDelay x)
  | "LD", [.register x, .sign "K"] => some (awaitKey x)
  | "LD", [.sign "DT", .register x] => some (setDelay x)
  | "LD", [.sign "ST", .register x] => some (setSound x)
  | "ADD", [.sign "I", .register x] => some (addIndex x)
  | "LD", [.sign "F", .register x] => some (glyph x)
  | "LD", [.sign "B", .register x] => some (decimal x)
  | "LD", [.sign "[I]", .register x] => some (store x)
  | "LD", [.register x, .sign "[I]"] => some (load x)
  | "UNKNOWN", [.address w] => some (undefined w)
  | _, _ => none

/-- The instruction that a line of assembly stands for. -/
def ofText? (text : String) : Option Instruction :=
  match parts text with
  | [] => none
  | mnemonic :: operands => ofParts? (String.ofList mnemonic) (operands.map Operand.ofChars)

theorem isPart_mnemonic (i : Instruction) : IsPart i.assembly.mnemonic := by
  cases i <;> simp +decide only [assembly]

theorem isPart_operands (i : Instruction) : ∀ s ∈ i.assembly.operands, IsPart s := by
  cases i <;>
    simp +decide only [assembly, List.forall_mem_cons, isPart_registerName, isPart_byteOperand,
      isPart_addressOperand, isPart_wordText, isPart_rows]

/-- **The mnemonic and the operands tell the instruction.** -/
theorem ofParts?_assembly (i : Instruction) :
    ofParts? i.assembly.mnemonic (i.assembly.operands.map fun s => Operand.ofChars s.toList) =
      some i := by
  cases i with
  -- a number of rows is looked up and an address is cut, so these do not read back by themselves
  | draw x y n =>
    simp only [assembly, List.map_cons, List.map_nil, Operand.ofChars_registerName,
      Operand.ofChars_rows]
    show (rowsOf (toString n.val)).map (draw x y) = _
    rw [rowsOf_rows]
    rfl
  | jump a | call a | setIndex a | jumpOffset a =>
    simp only [assembly, List.map_cons, List.map_nil, Operand.ofChars_addressOperand]
    exact congrArg some (congrArg _ (addressField_coe a))
  | _ =>
    simp only [assembly, List.map_cons, List.map_nil, Operand.ofChars_registerName,
      Operand.ofChars_byteOperand, Operand.ofChars_wordText]
    rfl

/-- **A line is read as the instruction that it was written for.** -/
theorem ofText?_text (i : Instruction) : ofText? i.text = some i := by
  rw [ofText?, text, parts_text i.isPart_mnemonic i.isPart_operands]
  simp only [String.ofList_toList, List.map_map]
  exact ofParts?_assembly i

/-- **No two instructions have one line.** -/
theorem text_inj {i j : Instruction} : i.text = j.text ↔ i = j := by
  constructor
  · intro h
    have hread := ofText?_text i
    rw [h, ofText?_text] at hread
    exact (Option.some.inj hread).symm
  · exact congrArg text

/-! ## Words -/

/-- **A line determines what its word does**: words with one line are of one kind, and in every
state of the machine and of its host they have the same outcome, or fail alike, and leave the same
state. -/
theorem text_determines {a b : Int} (h : (decode a).text = (decode b).text) :
    ((decode a).name = (decode b).name ∧ (decode a).pattern = (decode b).pattern) ∧
      ∀ {τ : Type} [TimeScale τ] (s : System τ),
        Action.execute (decode a) s = Action.execute (decode b) s := by
  have hsame : decode a = decode b := text_inj.1 h
  rw [hsame]
  exact ⟨⟨rfl, rfl⟩, fun _ => rfl⟩

/-- The last digit of `5xy.` is not shown, and does nothing. -/
theorem text_determines_skip :
    (decode 0x5120).text = (decode 0x5127).text ∧
      ∀ {τ : Type} [TimeScale τ] (s : System τ),
        Action.execute (decode 0x5120) s = Action.execute (decode 0x5127) s :=
  ⟨rfl, fun s => (text_determines (a := 0x5120) (b := 0x5127) rfl).2 s⟩

end Instruction

end Chip8
