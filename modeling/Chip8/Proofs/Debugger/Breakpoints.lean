import Chip8.Debugger
import Chip8.Proofs.Machine.Snapshot

/-!
# What breakpoints wait for

A breakpoint is looked at after an instruction, partly on the snapshot of the instruction and
partly on the registers of the moment.  `Breakpoint.Matches` says what it waits for in terms of the
snapshot alone, and `hit_iff` that the debugger finds a reason to stop exactly if an enabled
breakpoint matches.
-/

namespace Chip8

namespace Breakpoint

/-- The field that the condition of a breakpoint looks at holds a number. -/
def Proper (b : Breakpoint) : Prop :=
  match b.condition with
  | .pcMatch | .registerValue => ∃ value, b.value = some value
  | .memoryRead | .memoryWrite => ∃ address, b.address = some address

/-- A breakpoint waits for what an instruction did. -/
def Matches (b : Breakpoint) (s : Snapshot) : Prop :=
  b.enabled = true ∧
    match b.condition with
    | .pcMatch => b.value = some s.registers.pc
    | .memoryRead => ∃ a data, .read a data ∈ s.accesses ∧ b.address = some (a.val : Int)
    | .memoryWrite =>
      ∃ a data previous, .write a data previous ∈ s.accesses ∧ b.address = some (a.val : Int)
    | .registerValue =>
      ∃ name value, b.register = some name ∧ b.value = some value ∧
        s.registers.named? (Text.upper name) = some value

theorem any_isReadOf (accesses : Array Access) (address : Option Int) :
    accesses.any (Access.isReadOf address) = true ↔
      ∃ a data, .read a data ∈ accesses ∧ address = some (a.val : Int) := by
  rw [Array.any_eq_true']
  constructor
  · rintro ⟨access, hmem, hread⟩
    cases access with
    | read a data => exact ⟨a, data, hmem, eq_of_beq hread⟩
    | write a data previous => cases hread
  · rintro ⟨a, data, hmem, haddress⟩
    exact ⟨.read a data, hmem, beq_iff_eq.2 haddress⟩

theorem any_isWriteOf (accesses : Array Access) (address : Option Int) :
    accesses.any (Access.isWriteOf address) = true ↔
      ∃ a data previous, .write a data previous ∈ accesses ∧ address = some (a.val : Int) := by
  rw [Array.any_eq_true']
  constructor
  · rintro ⟨access, hmem, hwrite⟩
    cases access with
    | read a data => cases hwrite
    | write a data previous => exact ⟨a, data, previous, hmem, eq_of_beq hwrite⟩
  · rintro ⟨a, data, previous, hmem, haddress⟩
    exact ⟨.write a data previous, hmem, beq_iff_eq.2 haddress⟩

/-- The names of the registers do not depend on what they hold. -/
theorem map_fst_named (r : Registers) :
    r.named.map Prod.fst = (List.finRange 16).map registerName ++ ["I", "PC", "SP"] := by
  rw [Registers.named, List.map_append, List.map_map]
  rfl

/-- No register has an empty name. -/
theorem named?_empty (r : Registers) : r.named? (Text.upper "") = none := by
  have hnames : ∀ name ∈ (List.finRange 16).map registerName ++ ["I", "PC", "SP"],
      (Text.upper "" != name) = true := by decide
  rw [Registers.named?, List.lookup_eq_none_iff]
  intro p hp
  refine hnames p.1 ?_
  rw [← map_fst_named r]
  exact List.mem_map_of_mem hp

/-- A breakpoint stops a run if it waits for what the instruction did. -/
theorem stops_iff_matches {b : Breakpoint} (hb : b.Proper) (s : Snapshot) :
    (b.stopsAfter s s.registers = true ∨ b.stopsAt s.registers.pc = true) ↔ b.Matches s := by
  obtain ⟨condition, value?, address?, register?, enabled⟩ := b
  cases enabled with
  | false =>
    constructor
    · rintro (h | h) <;> cases h
    · rintro ⟨h, -⟩
      cases h
  | true =>
    cases condition with
    | pcMatch =>
      constructor
      · rintro (h | h)
        · cases h
        · exact ⟨rfl, eq_of_beq h⟩
      · rintro ⟨-, h⟩
        exact .inr (beq_iff_eq.2 h)
    | memoryRead =>
      constructor
      · rintro (h | h)
        · exact ⟨rfl, (any_isReadOf _ _).1 h⟩
        · cases h
      · rintro ⟨-, h⟩
        exact .inl ((any_isReadOf _ _).2 h)
    | memoryWrite =>
      constructor
      · rintro (h | h)
        · exact ⟨rfl, (any_isWriteOf _ _).1 h⟩
        · cases h
      · rintro ⟨-, h⟩
        exact .inl ((any_isWriteOf _ _).2 h)
    | registerValue =>
      obtain ⟨value, rfl : value? = some value⟩ := hb
      cases register? with
      | none =>
        constructor
        · rintro (h | h) <;> cases h
        · rintro ⟨-, name, _, hname, -⟩
          cases hname
      | some name =>
        constructor
        · rintro (h | h)
          · have hboth :
                (name != "" && s.registers.named? (Text.upper name) == some value) = true := h
            have hvalue := eq_of_beq (Bool.and_eq_true_iff.1 hboth).2
            exact ⟨rfl, name, value, rfl, rfl, hvalue⟩
          · cases h
        · rintro ⟨-, other, v, hother, hv, hvalue⟩
          cases hother
          cases hv
          have hname : (name != "") = true := by
            refine bne_iff_ne.2 fun hempty => ?_
            rw [hempty, named?_empty] at hvalue
            cases hvalue
          have hboth : (name != "" && s.registers.named? (Text.upper name) == some value) = true :=
            Bool.and_eq_true_iff.2 ⟨hname, beq_iff_eq.2 hvalue⟩
          exact .inl hboth

end Breakpoint

/-- **The debugger finds a reason to stop exactly if an enabled breakpoint matches** what the
instruction did. -/
theorem Debugger.hit_iff {d : Debugger} (hd : ∀ b ∈ d.breakpoints, b.Proper) (s : Snapshot) :
    (∃ event, d.hit? s s.registers = some event) ↔ ∃ b ∈ d.breakpoints, b.Matches s := by
  have hany : (∃ event, d.hit? s s.registers = some event) ↔
      (d.breakpoints.any fun b => b.stopsAfter s s.registers) = true ∨
        (d.breakpoints.any fun b => b.stopsAt s.registers.pc) = true := by
    rw [Debugger.hit?]
    cases d.breakpoints.any fun b => b.stopsAfter s s.registers with
    | true => exact ⟨fun _ => .inl rfl, fun _ => ⟨_, rfl⟩⟩
    | false =>
      cases d.breakpoints.any fun b => b.stopsAt s.registers.pc with
      | true => exact ⟨fun _ => .inr rfl, fun _ => ⟨_, rfl⟩⟩
      | false =>
        constructor
        · rintro ⟨event, h⟩
          cases h
        · rintro (h | h) <;> cases h
  rw [hany, List.any_eq_true, List.any_eq_true]
  constructor
  · rintro (⟨b, hmem, hb⟩ | ⟨b, hmem, hb⟩)
    · exact ⟨b, hmem, (Breakpoint.stops_iff_matches (hd b hmem) s).1 (.inl hb)⟩
    · exact ⟨b, hmem, (Breakpoint.stops_iff_matches (hd b hmem) s).1 (.inr hb)⟩
  · rintro ⟨b, hmem, hb⟩
    rcases (Breakpoint.stops_iff_matches (hd b hmem) s).2 hb with hb | hb
    · exact .inl ⟨b, hmem, hb⟩
    · exact .inr ⟨b, hmem, hb⟩

end Chip8
