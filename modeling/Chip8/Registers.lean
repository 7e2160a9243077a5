import Chip8.Instruction.Assembly
import Chip8.Digit

/-!
# Registers

The sixteen general registers, the index register, the program counter, and the call stack with
its pointer, together with the two options of the processor and the note that a drawing is
waiting for the next picture.

A host may put any number into any register, so they hold integers; what a program writes is cut
to a byte by `Registers.put`.  `Registers.push` and `Registers.pop` keep to the sixteen slots of
the stack, and `pop_push` says that a return finds what the call left.
-/

namespace Chip8

open Text

/-- The registers of the processor. -/
structure Registers where
  /-- The general registers. -/
  v : Vector Int 16
  /-- The index register, which points into memory. -/
  index : Int
  /-- The address of the next instruction. -/
  pc : Int
  /-- The number of stack slots in use. -/
  sp : Int
  /-- The return addresses of the calls in progress. -/
  stack : Vector Int 16
  /-- Whether a shift takes its operand from the second register. -/
  shiftSecond : Bool
  /-- Whether drawing waits for the start of a picture. -/
  drawOnBlank : Bool
  /-- Whether a drawing is waiting now. -/
  awaitingBlank : Bool
  deriving DecidableEq

namespace Registers

/-- The registers at power-on: the program counter at the start of the program area. -/
def initial : Registers :=
  ⟨Vector.replicate 16 0, 0, 512, 0, Vector.replicate 16 0, false, false, false⟩

/-- The flag register. -/
def flag : Fin 16 := Digit.last

/-! ## General registers -/

/-- A general register. -/
def get (r : Registers) (x : Fin 16) : Int := r.v.get x

/-- Put a number into a general register as it is. -/
def assign (r : Registers) (x : Fin 16) (value : Int) : Registers :=
  { r with v := setEntry r.v x value }

/-- Put the low byte of a number into a general register. -/
def put (r : Registers) (x : Fin 16) (value : Int) : Registers := r.assign x (value % 256)

/-- The general register with a number, if there is one. -/
def locate (index : Int) : Except Fault (Fin 16) := Digit.require .registerOutOfRange index

/-- The value of the general register with a number. -/
def getAt (r : Registers) (index : Int) : Except Fault Int := (locate index).map r.get

/-- Put the low byte of a number into the general register with a number. -/
def putAt (r : Registers) (index value : Int) : Except Fault Registers :=
  (locate index).map fun x => r.put x value

theorem get_assign (r : Registers) (x y : Fin 16) (n : Int) :
    (r.assign x n).get y = if x = y then n else r.get y := get_setEntry ..

theorem get_put (r : Registers) (x y : Fin 16) (n : Int) :
    (r.put x n).get y = if x = y then n % 256 else r.get y := get_assign ..

/-! ## The call stack -/

/-- The address in a slot. -/
def slot (r : Registers) (k : Fin 16) : Int := r.stack.get k

/-- Put an address into a slot. -/
def setSlot (r : Registers) (k : Fin 16) (address : Int) : Registers :=
  { r with stack := setEntry r.stack k address }

/-- The slot with a number, where a negative number counts backwards from the end. -/
def place? (n : Int) : Option (Fin 16) := Digit.ofInt? (if n < 0 then n + 16 else n)

/-- Put a return address onto the stack. -/
def push (address : Int) : EStateM Fault Registers Unit := do
  let r ← MonadState.get
  if 16 ≤ r.sp then throw (.stackOverflow r.pc)
  match place? r.sp with
  | none => throw (.pushOutOfRange r.sp)
  | some k => set { r.setSlot k address with sp := r.sp + 1 }

/-- Take the top return address off the stack. -/
def pop : EStateM Fault Registers Int := do
  let r ← MonadState.get
  if r.sp ≤ 0 then throw (.stackUnderflow r.pc)
  set { r with sp := r.sp - 1 }
  match place? (r.sp - 1) with
  | none => throw (.popOutOfRange (r.sp - 1))
  | some k => return r.slot k

theorem slot_setSlot (r : Registers) (k l : Fin 16) (address : Int) :
    (r.setSlot k address).slot l = if k = l then address else r.slot l := get_setEntry ..

theorem place?_coe (k : Fin 16) : place? k.val = some k := by
  rw [place?, if_neg (by omega), Digit.ofInt?_coe]

/-- A call takes the slot that the pointer stands at. -/
theorem push_eq (r : Registers) (address : Int) (k : Fin 16) (h : r.sp = k.val) :
    push address r = .ok () { r.setSlot k address with sp := (k.val : Int) + 1 } := by
  have hfree : ¬ 16 ≤ r.sp := by omega
  show (if 16 ≤ r.sp then throw _ else _ : EStateM Fault Registers Unit) r = _
  rw [if_neg hfree]
  show (match place? r.sp with
    | none => _
    | some k => set { r.setSlot k address with sp := r.sp + 1 } : EStateM Fault Registers Unit) r =
      _
  rw [h, place?_coe]
  rfl

/-- A return takes the slot before the one that the pointer stands at. -/
theorem pop_eq (r : Registers) (k : Fin 16) (h : r.sp = (k.val : Int) + 1) :
    pop r = .ok (r.slot k) { r with sp := k.val } := by
  have hused : ¬ r.sp ≤ 0 := by omega
  have hbefore : r.sp - 1 = (k.val : Int) := by omega
  show (if r.sp ≤ 0 then throw _ else _ : EStateM Fault Registers Int) r = _
  rw [if_neg hused, hbefore]
  show (match place? k.val with
    | none => _
    | some k => pure (r.slot k) : EStateM Fault Registers Int) _ = _
  rw [place?_coe]
  rfl

/-- A return finds what the call left. -/
theorem pop_push (r : Registers) (address : Int) (k : Fin 16) (h : r.sp = k.val) :
    ∃ s, push address r = .ok () s ∧ pop s = .ok address { s with sp := r.sp } := by
  refine ⟨_, push_eq r address k h, ?_⟩
  rw [pop_eq _ k rfl, h]
  show EStateM.Result.ok ((r.setSlot k address).slot k) _ = _
  rw [slot_setSlot, if_pos rfl]

/-! ## Options -/

/-- Choose where shifts take their operand from. -/
def setShiftSecond (r : Registers) (on : Bool) : Registers := { r with shiftSecond := on }

/-- Choose whether drawing waits; a drawing that is waiting is let go when it does not. -/
def setDrawOnBlank (r : Registers) (on : Bool) : Registers :=
  { r with drawOnBlank := on, awaitingBlank := r.awaitingBlank && on }

/-- The registers at power-on, with the options kept. -/
def reset (r : Registers) : Registers :=
  (initial.setShiftSecond r.shiftSecond).setDrawOnBlank r.drawOnBlank

/-! ## Registers by name -/

/-- Every register that has a name, with its value, in the order in which they are listed. -/
def named (r : Registers) : List (String × Int) :=
  (List.finRange 16).map (fun x => (registerName x, r.get x)) ++
    [("I", r.index), ("PC", r.pc), ("SP", r.sp)]

/-- The register with a name. -/
def named? (r : Registers) (name : String) : Option Int := r.named.lookup name

/-- A group of registers that are shown together: its title, and names with widths in bits. -/
structure Group where
  title : String
  registers : List (String × Nat)
  deriving DecidableEq, Repr

/-- How the registers are grouped when they are shown. -/
def layout : List Group :=
  [⟨"General", (List.finRange 16).map fun x => (registerName x, 8)⟩,
   ⟨"Pointers", [("I", 16), ("PC", 16), ("SP", 8)]⟩]

end Registers

end Chip8
