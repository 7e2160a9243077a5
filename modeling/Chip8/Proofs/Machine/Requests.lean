import Chip8.Proofs.Machine.Effects

/-!
# The accesses that an instruction makes

Four instructions go through memory, and which accesses they make is known from the registers alone:
the cells are consecutive from the index register on, and a write is of a digit or of a register.
`Instruction.requests` lists them, and `execute_requests` says that **an instruction that succeeds
adds just these to the record of accesses**, in order, unless it is a drawing that has to wait, which
adds none.
-/

namespace Chip8

/-- An access that is asked for, by the numbers that it is asked with. -/
inductive Request where
  | read (address : Int)
  | write (address data : Int)
  deriving DecidableEq, Repr

namespace Request

/-- Reads of consecutive cells. -/
def reads (start : Int) : Nat → List Request
  | 0 => []
  | count + 1 => .read start :: reads (start + 1) count

/-- Writes to consecutive cells. -/
def writes (start : Int) : List Int → List Request
  | [] => []
  | value :: values => .write start value :: writes (start + 1) values

end Request

/-- What an access was asked for with. -/
def Access.request : Access → Request
  | .read a _ => .read a.val
  | .write a b _ => .write a.val b.toNat

/-- The accesses to memory that an instruction makes, other than to fetch it. -/
def Instruction.requests (r : Registers) : Instruction → List Request
  | .decimal x => Request.writes r.index [r.get x / 100 % 10, r.get x / 10 % 10, r.get x % 10]
  | .store x => Request.writes r.index ((Action.registersUpTo x).map r.get)
  | .load x => Request.reads r.index (x.val + 1)
  | .draw _ _ rows => Request.reads r.index rows.val
  | _ => []

namespace Action

variable {τ α : Type}

/-! ## Accesses that succeed -/

/-- A read that succeeds is of a cell. -/
theorem read_eq_ok {address : Int} {s t : System τ} {data : UInt8}
    (h : read address s = .ok data t) :
    ∃ a : Fin 4096, address = a.val ∧ data = s.machine.memory.get a ∧ t = hasRead s a := by
  by_cases hin : 0 ≤ address ∧ address < 4096
  · obtain ⟨a, ha⟩ := exists_cell hin
    rw [read_cell ha] at h
    cases h
    exact ⟨a, ha, rfl, rfl⟩
  · rw [read_outside hin] at h
    cases h

/-- A write that succeeds is of a byte to a cell. -/
theorem write_eq_ok {address data : Int} {s t : System τ} {a : Unit}
    (h : write address data s = .ok a t) :
    ∃ (a : Fin 4096) (b : UInt8), address = a.val ∧ data = b.toNat ∧ t = hasWritten s a b := by
  by_cases hin : 0 ≤ address ∧ address < 4096
  · obtain ⟨a, ha⟩ := exists_cell hin
    by_cases hdata : 0 ≤ data ∧ data ≤ 255
    · rw [write_cell ha hdata] at h
      cases h
      refine ⟨a, _, ha, ?_, rfl⟩
      rw [UInt8.toNat_ofNat']
      omega
    · rw [write, bind_of_ok (machine_apply s), locate_cell ha, bind_of_ok (check_ok _ s),
        show Memory.byteOf data = .error (.dataNotByte data) from if_neg hdata,
        bind_of_error (check_error _ s)] at h
      cases h
  · rw [write_outside _ hin] at h
    cases h

/-! ## What was asked for -/

/-- What was added to the record of accesses between two states. -/
def Requested (s : System τ) (requests : List Request) (t : System τ) : Prop :=
  t.machine.accesses.toList.map Access.request =
    s.machine.accesses.toList.map Access.request ++ requests

section Requested

variable {s t u : System τ} {requests more : List Request}

theorem requested_nil (h : t.machine.accesses = s.machine.accesses) : Requested s [] t := by
  rw [Requested, h, List.append_nil]

theorem Requested.trans (hst : Requested s requests t) (htu : Requested t more u) :
    Requested s (requests ++ more) u := by
  rw [Requested, htu, hst, List.append_assoc]

theorem requested_read (s : System τ) (a : Fin 4096) :
    Requested s [.read a.val] (hasRead s a) := by
  rw [Requested, hasRead, Array.toList_push, List.map_append]
  rfl

theorem requested_write (s : System τ) (a : Fin 4096) (b : UInt8) :
    Requested s [.write a.val b.toNat] (hasWritten s a b) := by
  rw [Requested, hasWritten, Array.toList_push, List.map_append]
  rfl

end Requested

/-! ## The sweeps -/

theorem storeRegisters_requests (xs : List (Fin 16)) : ∀ {s t : System τ} {a : Unit},
    storeRegisters xs s = .ok a t →
    Requested s (Request.writes s.machine.registers.index (xs.map s.machine.registers.get)) t := by
  induction xs with
  | nil =>
    intro s t a h
    cases h
    exact requested_nil rfl
  | cons x xs ih =>
    intro s t a h
    rw [storeRegisters, bind_of_ok (registers_apply s)] at h
    obtain ⟨_, u, hwrite, hrest⟩ := bind_eq_ok h
    obtain ⟨cell, b, hcell, hb, rfl⟩ := write_eq_ok hwrite
    rw [bind_of_ok (updateRegisters_apply _ _)] at hrest
    have hfirst := requested_write s cell b
    rw [← hcell, ← hb] at hfirst
    show Requested s ([.write s.machine.registers.index (s.machine.registers.get x)] ++
      Request.writes (s.machine.registers.index + 1) (xs.map s.machine.registers.get)) t
    refine Requested.trans ?_ (ih hrest)
    exact hfirst

theorem loadRegisters_requests (xs : List (Fin 16)) : ∀ {s t : System τ} {a : Unit},
    loadRegisters xs s = .ok a t →
    Requested s (Request.reads s.machine.registers.index xs.length) t := by
  induction xs with
  | nil =>
    intro s t a h
    cases h
    exact requested_nil rfl
  | cons x xs ih =>
    intro s t a h
    rw [loadRegisters, bind_of_ok (registers_apply s)] at h
    obtain ⟨data, u, hread, hrest⟩ := bind_eq_ok h
    obtain ⟨cell, hcell, -, rfl⟩ := read_eq_ok hread
    rw [bind_of_ok (updateRegisters_apply _ _)] at hrest
    have hfirst := requested_read s cell
    rw [← hcell] at hfirst
    show Requested s ([.read s.machine.registers.index] ++
      Request.reads (s.machine.registers.index + 1) xs.length) t
    refine Requested.trans ?_ (ih hrest)
    exact hfirst

/-- Drawing touches the screen, and leaves the record of accesses alone. -/
theorem onScreen_eq_ok {act : EStateM Fault Screen α} {s t : System τ} {a : α}
    (h : onScreen act s = .ok a t) : t.machine.accesses = s.machine.accesses := by
  rw [onScreen] at h
  cases hact : act s.machine.screen with
  | ok b screen =>
    rw [hact] at h
    cases h
    rfl
  | error f screen =>
    rw [hact] at h
    cases h

theorem drawRows_requests (x : Int) (rows : Nat) :
    ∀ {y address : Int} {hit b : Bool} {s t : System τ},
    drawRows x y address hit rows s = .ok b t → Requested s (Request.reads address rows) t := by
  induction rows with
  | zero =>
    intro y address hit b s t h
    cases h
    exact requested_nil rfl
  | succ rows ih =>
    intro y address hit b s t h
    rw [drawRows] at h
    obtain ⟨data, u, hread, hrest⟩ := bind_eq_ok h
    obtain ⟨cell, hcell, -, rfl⟩ := read_eq_ok hread
    obtain ⟨clash, v, hscreen, hrest⟩ := bind_eq_ok hrest
    have hfirst := requested_read s cell
    rw [← hcell] at hfirst
    exact (hfirst.trans (requested_nil (onScreen_eq_ok hscreen))).trans (ih hrest)

theorem drawSprite_requests {x y : Fin 16} {rows : Nat} {s t : System τ} {o : Outcome}
    (h : drawSprite x y rows s = .ok o t) :
    o.update = .advance ∧ Requested s (Request.reads s.machine.registers.index rows) t := by
  rw [drawSprite, bind_of_ok (updateRegisters_apply _ _), bind_of_ok (registers_apply _)] at h
  obtain ⟨hit, u, hrows, hrest⟩ := bind_eq_ok h
  cases hrest
  have hdrawn := drawRows_requests _ _ hrows
  exact ⟨rfl, hdrawn⟩

/-! ## Instructions -/

variable [TimeScale τ]

theorem execute_decimal_requests {x : Fin 16} {s t : System τ} {o : Outcome}
    (h : execute (.decimal x) s = .ok o t) : o.update = .advance ∧
      Requested s (Instruction.requests s.machine.registers (.decimal x)) t := by
  rw [execute, bind_of_ok (registers_apply s)] at h
  obtain ⟨_, u, hwrite, h⟩ := bind_eq_ok h
  obtain ⟨a, b, ha, hb, rfl⟩ := write_eq_ok hwrite
  obtain ⟨_, v, hwrite', h⟩ := bind_eq_ok h
  obtain ⟨a', b', ha', hb', rfl⟩ := write_eq_ok hwrite'
  obtain ⟨_, w, hwrite'', h⟩ := bind_eq_ok h
  obtain ⟨a'', b'', ha'', hb'', rfl⟩ := write_eq_ok hwrite''
  cases h
  have hall := ((requested_write s a b).trans (requested_write _ a' b')).trans
    (requested_write _ a'' b'')
  have hthird : s.machine.registers.index + 2 = s.machine.registers.index + 1 + 1 := by omega
  rw [← ha, ← hb, ← ha', ← hb', ← ha'', ← hb'', hthird] at hall
  exact ⟨rfl, hall⟩

/-- An instruction that does not go through memory makes no access. -/
theorem execute_accesses {i : Instruction} {s t : System τ} (hr : s.machine.registers.InRange)
    (hi : i.isSweep = false) {o : Outcome} (h : execute i s = .ok o t) :
    t.machine.accesses = s.machine.accesses := by
  by_cases hplain : i.isPlain = true
  · obtain ⟨o', v, index, host, hrun, -⟩ := execute_plain hplain hr
    rw [hrun] at h
    cases h
    rfl
  · cases i with
    | clear =>
      cases h
      rfl
    | ret =>
      rcases Int.lt_or_le 0 s.machine.registers.sp with hused | hempty
      · obtain ⟨k, -, hrun⟩ := execute_ret hr hused
        rw [hrun] at h
        cases h
        rfl
      · rw [execute_ret_empty hempty] at h
        cases h
    | call target =>
      rcases Int.lt_or_le s.machine.registers.sp 16 with hfree | hfull
      · obtain ⟨k, -, hrun⟩ := execute_call target hr hfree
        rw [hrun] at h
        cases h
        rfl
      · rw [execute_call_full target hfull] at h
        cases h
    | skipPressed x | skipReleased x =>
      rw [execute, skipOnKey, bind_of_ok (registers_apply s)] at h
      obtain ⟨pressed, u, hkey, h⟩ := bind_eq_ok h
      cases h
      rw [isPressed, bind_of_ok (machine_apply s)] at hkey
      rw [check_eq_ok hkey]
    | awaitKey x =>
      rw [execute_awaitKey] at h
      cases h
      rfl
    | setDelay x | setSound x =>
      rw [execute, startTimer_eq _ x hr] at h
      cases h
      rfl
    | decimal | store | load | draw => cases hi
    | _ => exact absurd rfl hplain

/-- A drawing that need not wait makes the accesses that it requests. -/
theorem execute_draw_requests {x y rows : Fin 16} {s t : System τ} {o : Outcome}
    (hstalls : s.drawStalls = false) (h : execute (.draw x y rows) s = .ok o t) :
    o.update = .advance ∧
      Requested s (Instruction.requests s.machine.registers (.draw x y rows)) t := by
  rw [execute, draw, bind_of_ok (mustWait_apply s), hstalls] at h
  have hdrawn : o.update = .advance ∧ Requested s.asked
      (Request.reads s.asked.machine.registers.index rows.val) t := drawSprite_requests h
  have hasked : s.asked.machine.registers = s.machine.registers ∧
      s.asked.machine.accesses = s.machine.accesses := by
    rw [System.asked]
    split <;> exact ⟨rfl, rfl⟩
  rw [hasked.1] at hdrawn
  exact ⟨hdrawn.1, (requested_nil hasked.2).trans hdrawn.2⟩

/-- **An instruction that succeeds makes just the accesses that it requests**, in order, and a
drawing that has to wait makes none. -/
theorem execute_requests {i : Instruction} {s t : System τ} (hr : s.machine.registers.InRange)
    {o : Outcome} (h : execute i s = .ok o t) :
    Requested s (if o.update = .stall then [] else i.requests s.machine.registers) t := by
  have hgoesOn : o.update = .advance →
      (if o.update = .stall then [] else i.requests s.machine.registers) =
        i.requests s.machine.registers := by
    intro hadvance
    rw [if_neg (by rw [hadvance]; exact PcUpdate.noConfusion)]
  cases i with
  | decimal x =>
    obtain ⟨hadvance, hwritten⟩ := execute_decimal_requests h
    rw [hgoesOn hadvance]
    exact hwritten
  | store x =>
    obtain ⟨_, u, hstore, hrest⟩ := bind_eq_ok h
    cases hrest
    exact storeRegisters_requests _ hstore
  | load x =>
    obtain ⟨_, u, hload, hrest⟩ := bind_eq_ok h
    cases hrest
    have hloaded := loadRegisters_requests _ hload
    rw [length_registersUpTo] at hloaded
    exact hloaded
  | draw x y rows =>
    cases hstalls : s.drawStalls with
    | true =>
      rw [execute_draw_stalled x y rows hstalls] at h
      cases h
      exact requested_nil rfl
    | false =>
      obtain ⟨hadvance, hdrawn⟩ := execute_draw_requests hstalls h
      rw [hgoesOn hadvance]
      exact hdrawn
  | _ =>
    show Requested s (if _ then [] else []) t
    rw [ite_self]
    exact requested_nil (execute_accesses hr rfl h)

end Action

end Chip8
