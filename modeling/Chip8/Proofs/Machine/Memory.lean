import Chip8.Machine.Execution
import Chip8.Proofs.Registers.Range
import Chip8.Proofs.Screen.Sprite
import Chip8.Proofs.Screen.TwoColored
import Chip8.Proofs.Sequence

/-!
# Going through memory

Four instructions go through memory a cell at a time: the decimal digits of a register, the two
block transfers and the drawing of a sprite.  They all end alike.  `endOfSweep` is that end: a
sweep of no cells, or one that stays below the end of memory, succeeds, and any other fails at the
first address outside, which is the end of memory unless the sweep starts beyond it.  Either way
the cells inside memory were gone through.

* `read_cell`, `read_outside`, `write_cell`, `write_outside` — one access;
* `storeRegisters_eq`, `loadRegisters_eq`, `drawRows_eq` — the sweeps that are loops: how they end,
  and all that they have done until then;
* `write_then_eq` — one more cell in front of a sweep of writes.
-/

namespace Chip8

namespace Action

variable {τ α β : Type}

/-! ## Parts of instructions -/

theorem machine_apply (s : System τ) : machine s = .ok s.machine s := rfl

theorem registers_apply (s : System τ) : registers s = .ok s.machine.registers s := rfl

theorem updateRegisters_apply (f : Registers → Registers) (s : System τ) :
    updateRegisters f s = .ok () { s with machine.registers := f s.machine.registers } := rfl

theorem check_ok (a : α) (s : System τ) : check (.ok a) s = .ok a s := rfl

theorem check_error (f : Fault) (s : System τ) :
    check (.error f : Except Fault α) s = .error f s := rfl

theorem check_eq_ok {r : Except Fault α} {s t : System τ} {a : α} (h : check r s = .ok a t) :
    t = s := by
  cases r with
  | ok b =>
    cases h
    rfl
  | error f => cases h

/-! ## One access -/

/-- An address inside memory is a cell. -/
theorem exists_cell {address : Int} (h : 0 ≤ address ∧ address < 4096) :
    ∃ a : Fin 4096, address = (a.val : Int) :=
  ⟨⟨address.toNat, by omega⟩, by simp only; omega⟩

/-- An address is a cell, or it is past the last one. -/
theorem cell_or_outside {address : Int} (h : 0 ≤ address) :
    (∃ a : Fin 4096, address = (a.val : Int)) ∨ 4096 ≤ address := by
  by_cases hlt : address < 4096
  · exact .inl (exists_cell ⟨h, hlt⟩)
  · exact .inr (by omega)

theorem locate_cell {address : Int} {a : Fin 4096} (h : address = a.val) :
    Memory.locate address = .ok a := by
  have hin : 0 ≤ (a.val : Int) ∧ (a.val : Int) < 4096 := by omega
  rw [h, Memory.locate, dif_pos hin]
  rfl

theorem locate_outside {address : Int} (h : ¬ (0 ≤ address ∧ address < 4096)) :
    Memory.locate address = .error (.addressOutOfBounds address) := dif_neg h

/-- What a read of a cell leaves behind. -/
def hasRead (s : System τ) (a : Fin 4096) : System τ :=
  { s with machine.accesses := s.machine.accesses.push (.read a (s.machine.memory.get a)) }

/-- What a write to a cell leaves behind. -/
def hasWritten (s : System τ) (a : Fin 4096) (b : UInt8) : System τ :=
  { s with
    machine.memory := s.machine.memory.set a b
    machine.accesses := s.machine.accesses.push (.write a b (s.machine.memory.get a)) }

theorem read_cell {address : Int} {a : Fin 4096} (h : address = a.val) (s : System τ) :
    read address s = .ok (s.machine.memory.get a) (hasRead s a) := by
  rw [read, bind_of_ok (machine_apply s), locate_cell h, bind_of_ok (check_ok _ s)]
  rfl

theorem read_outside {address : Int} (h : ¬ (0 ≤ address ∧ address < 4096)) (s : System τ) :
    read address s = .error (.addressOutOfBounds address) s := by
  rw [read, bind_of_ok (machine_apply s), locate_outside h, bind_of_error (check_error _ s)]

theorem write_cell {address data : Int} {a : Fin 4096} (h : address = a.val)
    (hd : 0 ≤ data ∧ data ≤ 255) (s : System τ) :
    write address data s = .ok () (hasWritten s a (UInt8.ofNat data.toNat)) := by
  have hbyte : Memory.byteOf data = .ok (UInt8.ofNat data.toNat) := if_pos hd
  rw [write, bind_of_ok (machine_apply s), locate_cell h, bind_of_ok (check_ok _ s), hbyte,
    bind_of_ok (check_ok _ s)]
  rfl

theorem write_outside {address : Int} (data : Int) (h : ¬ (0 ≤ address ∧ address < 4096))
    (s : System τ) : write address data s = .error (.addressOutOfBounds address) s := by
  rw [write, bind_of_ok (machine_apply s), locate_outside h, bind_of_error (check_error _ s)]

/-! ## How a sweep ends -/

/-- How a sweep through a number of consecutive cells ends. -/
def endOfSweep (first : Int) (count : Nat) (a : α) (t : System τ) :
    EStateM.Result Fault (System τ) α :=
  if count = 0 ∨ first + count ≤ 4096 then .ok a t
  else .error (.addressOutOfBounds (max 4096 first)) t

@[simp] theorem endOfSweep_zero (first : Int) (a : α) (t : System τ) :
    endOfSweep first 0 a t = .ok a t := if_pos (.inl rfl)

/-- A cell inside memory does not decide how a sweep ends. -/
theorem endOfSweep_inside {first : Int} (h : first < 4096) (count : Nat) (a : α) (t : System τ) :
    endOfSweep first (count + 1) a t = endOfSweep (first + 1) count a t := by
  have hmax : max 4096 first = max 4096 (first + 1) := by omega
  have hiff : (count + 1 = 0 ∨ first + (count + 1 : Nat) ≤ 4096) ↔
      (count = 0 ∨ first + 1 + count ≤ 4096) := by omega
  simp only [endOfSweep, hmax, hiff]

/-- A cell outside memory ends a sweep. -/
theorem endOfSweep_outside {first : Int} (h : 4096 ≤ first) (count : Nat) (a : α) (t : System τ) :
    endOfSweep first (count + 1) a t = .error (.addressOutOfBounds first) t := by
  rw [endOfSweep, if_neg (by omega), Int.max_eq_right h]

/-- The state which a result comes with. -/
def stateOf : EStateM.Result Fault (System τ) α → System τ
  | .ok _ t => t
  | .error _ t => t

theorem stateOf_endOfSweep (first : Int) (count : Nat) (a : α) (t : System τ) :
    stateOf (endOfSweep first count a t) = t := by
  rw [endOfSweep]
  split <;> rfl

/-- What follows a sweep is done only if the sweep succeeds. -/
theorem bind_of_sweep {first : Int} {count : Nat} {act : Action τ α} {f : α → Action τ β}
    {s t : System τ} {a : α} (h : act s = endOfSweep first count a t) :
    (act >>= f) s =
      if count = 0 ∨ first + count ≤ 4096 then f a t
      else .error (.addressOutOfBounds (max 4096 first)) t := by
  rw [endOfSweep] at h
  split
  · rename_i hin
    rw [if_pos hin] at h
    exact bind_of_ok h
  · rename_i hout
    rw [if_neg hout] at h
    exact bind_of_error h

/-- Where a register stands that a sweep has moved along, cell by cell. -/
def endOfMove (first : Int) (count : Nat) : Int := min (first + count) (max 4096 first)

theorem endOfMove_inside {first : Int} (h : first < 4096) (count : Nat) :
    endOfMove (first + 1) count = endOfMove first (count + 1) := by
  rw [endOfMove, endOfMove]
  omega

theorem endOfMove_outside {first : Int} (h : 4096 ≤ first) (count : Nat) :
    endOfMove first count = first := by
  rw [endOfMove]
  omega

/-! ## The sweeps -/

/-- **Storing registers writes them to the cells that there are**, and moves the index register past
the last one. -/
theorem storeRegisters_eq (xs : List (Fin 16)) : ∀ s : System τ,
    (∀ x, 0 ≤ s.machine.registers.get x ∧ s.machine.registers.get x ≤ 255) →
    0 ≤ s.machine.registers.index →
    ∃ memory accesses,
      (∀ a, memory.get a = s.machine.memory.storedAt s.machine.registers.index
        (xs.map s.machine.registers.get) a) ∧
      storeRegisters xs s = endOfSweep s.machine.registers.index xs.length ()
        { s with
          machine.memory := memory
          machine.accesses := accesses
          machine.registers.index := endOfMove s.machine.registers.index xs.length } := by
  induction xs with
  | nil =>
    intro s _ hi
    have hmove : endOfMove s.machine.registers.index 0 = s.machine.registers.index := by
      rw [endOfMove]
      omega
    refine ⟨s.machine.memory, s.machine.accesses, by simp, ?_⟩
    rw [List.length_nil, endOfSweep_zero, hmove]
    rfl
  | cons x xs ih =>
    intro s hbytes hi
    rw [storeRegisters, bind_of_ok (registers_apply s), List.length_cons, List.map_cons]
    rcases cell_or_outside hi with ⟨a, ha⟩ | hout
    · obtain ⟨memory, accesses, hmemory, hrun⟩ := ih
        { hasWritten s a (UInt8.ofNat (s.machine.registers.get x).toNat) with
          machine.registers.index := s.machine.registers.index + 1 } hbytes
        (by show 0 ≤ _ + 1; omega)
      refine ⟨memory, accesses, fun c => ?_, ?_⟩
      · rw [hmemory, Memory.storedAt_cons _ ha]
        rfl
      · rw [bind_of_ok (write_cell ha (hbytes x) s), bind_of_ok (updateRegisters_apply _ _),
          endOfSweep_inside (by omega), ← endOfMove_inside (by omega)]
        exact hrun
    · refine ⟨s.machine.memory, s.machine.accesses, fun c => ?_, ?_⟩
      · rw [Memory.storedAt_of_outside _ (by omega)]
      · rw [bind_of_error (write_outside _ (by omega) s), endOfSweep_outside hout,
          endOfMove_outside hout]

/-- **Loading registers reads them from the cells that there are**, and moves the index register past
the last one. -/
theorem loadRegisters_eq (xs : List (Fin 16)) : ∀ (s : System τ) (first : Nat),
    xs.map Fin.val = List.range' first xs.length → 0 ≤ s.machine.registers.index →
    ∃ (v : Vector Int 16) (accesses : Array Access),
      (∀ y, v.get y = s.machine.registers.loadedAt s.machine.memory s.machine.registers.index first
        xs.length y) ∧
      loadRegisters xs s = endOfSweep s.machine.registers.index xs.length ()
        { s with
          machine.registers.v := v
          machine.registers.index := endOfMove s.machine.registers.index xs.length
          machine.accesses := accesses } := by
  induction xs with
  | nil =>
    intro s first _ hi
    have hmove : endOfMove s.machine.registers.index 0 = s.machine.registers.index := by
      rw [endOfMove]
      omega
    refine ⟨s.machine.registers.v, s.machine.accesses, fun y => ?_, ?_⟩
    · rw [List.length_nil, Registers.loadedAt_zero]
      rfl
    · rw [List.length_nil, endOfSweep_zero, hmove]
      rfl
  | cons x xs ih =>
    intro s first hxs hi
    rw [List.map_cons, List.length_cons, List.range'_succ] at hxs
    obtain ⟨hx, hxs⟩ := List.cons.inj hxs
    rw [loadRegisters, bind_of_ok (registers_apply s), List.length_cons]
    rcases cell_or_outside hi with ⟨a, ha⟩ | hout
    · obtain ⟨v, accesses, hv, hrun⟩ := ih
        { hasRead s a with
          machine.registers :=
            { s.machine.registers.put x (s.machine.memory.get a).toNat with
              index := s.machine.registers.index + 1 } } (first + 1) hxs (by show 0 ≤ _ + 1; omega)
      refine ⟨v, accesses, fun y => ?_, ?_⟩
      · rw [hv, Registers.loadedAt_succ _ _ ha hx]
        rfl
      · rw [bind_of_ok (read_cell ha s), bind_of_ok (updateRegisters_apply _ _),
          endOfSweep_inside (by omega), ← endOfMove_inside (by omega)]
        exact hrun
    · refine ⟨s.machine.registers.v, s.machine.accesses, fun y => ?_, ?_⟩
      · rw [Registers.loadedAt_outside _ _ hout]
        rfl
      · rw [bind_of_error (read_outside (by omega) s), endOfSweep_outside hout,
          endOfMove_outside hout]

theorem onScreen_of_ok {act : EStateM Fault Screen α} {s : System τ} {a : α} {screen : Screen}
    (h : act s.machine.screen = .ok a screen) :
    onScreen act s = .ok a { s with machine.screen := screen } := by
  rw [onScreen, h]

/-- **Drawing rows draws those that memory has**, and tells whether they hit something. -/
theorem drawRows_eq (x rows : Nat) : ∀ (s : System τ) (y : Nat) (address : Int) (hit : Bool),
    0 ≤ address →
    ∃ b screen accesses,
      s.machine.screen.Combined (Screen.sprite s.machine.memory x y address rows) screen ∧
      (b = true ↔ hit = true ∨
        s.machine.screen.Clash (Screen.sprite s.machine.memory x y address rows)) ∧
      drawRows x y address hit rows s = endOfSweep address rows b
        { s with machine.screen := screen, machine.accesses := accesses } := by
  induction rows with
  | zero =>
    intro s y address hit _
    obtain ⟨hcombined, hclash⟩ := s.machine.screen.combined_unmet
      (Screen.sprite_zero s.machine.memory x y address)
    refine ⟨hit, s.machine.screen, s.machine.accesses, hcombined, ?_, ?_⟩
    · rw [or_iff_left hclash]
    · rw [endOfSweep_zero]
      rfl
  | succ rows ih =>
    intro s y address hit h0
    rw [drawRows]
    rcases cell_or_outside h0 with ⟨a, ha⟩ | hout
    · have hapart : ∀ c, Screen.strikes x y (s.machine.memory.get a).toNat c = none ∨
          Screen.sprite s.machine.memory x (y + 1) (address + 1) rows c = none :=
        Screen.sprite_apart s.machine.memory x y rows
      have hsprite : Screen.sprite s.machine.memory x y address (rows + 1) = fun c =>
          (Screen.strikes x y (s.machine.memory.get a).toNat c).or
            (Screen.sprite s.machine.memory x (y + 1) (address + 1) rows c) :=
        funext (Screen.sprite_succ s.machine.memory x y ha rows)
      obtain ⟨h, screen, hdraw, hfirst, hclash⟩ :=
        Screen.drawByte_combined s.machine.screen x y (s.machine.memory.get a).toNat
      obtain ⟨b, screen', accesses, hrest, hb, hrun⟩ := ih
        { hasRead s a with machine.screen := screen } (y + 1) (address + 1) (h || hit) (by omega)
      refine ⟨b, screen', accesses, ?_, ?_, ?_⟩
      · rw [hsprite]
        exact hfirst.or hapart hrest
      · rw [hb, hsprite, hfirst.clash_or hapart, ← hclash, Bool.or_eq_true, or_assoc, or_left_comm]
        rfl
      · rw [bind_of_ok (read_cell ha s), bind_of_ok (onScreen_of_ok (s := hasRead s a) hdraw),
          endOfSweep_inside (by omega)]
        exact hrun
    · obtain ⟨hcombined, hclash⟩ := s.machine.screen.combined_unmet
        (Screen.sprite_outside s.machine.memory x y hout (rows + 1))
      refine ⟨hit, s.machine.screen, s.machine.accesses, hcombined, ?_, ?_⟩
      · rw [or_iff_left hclash]
      · rw [bind_of_error (read_outside (by omega) s), endOfSweep_outside hout]

/-- **Writing a value to a cell, and then others to the cells behind it.** -/
theorem write_then_eq {address data : Int} {values : List Int} {next : Action τ α} {s : System τ}
    {a : α} (h0 : 0 ≤ address) (hd : 0 ≤ data ∧ data ≤ 255)
    (hnext : ∀ memory accesses, ∃ memory' accesses',
      (∀ c, memory'.get c = memory.storedAt (address + 1) values c) ∧
      next { s with machine.memory := memory, machine.accesses := accesses } =
        endOfSweep (address + 1) values.length a
          { s with machine.memory := memory', machine.accesses := accesses' }) :
    ∃ memory' accesses',
      (∀ c, memory'.get c = s.machine.memory.storedAt address (data :: values) c) ∧
      (write address data >>= fun _ => next) s = endOfSweep address (values.length + 1) a
        { s with machine.memory := memory', machine.accesses := accesses' } := by
  rcases cell_or_outside h0 with ⟨cell, hcell⟩ | hout
  · obtain ⟨memory', accesses', hmemory, hrun⟩ :=
      hnext (s.machine.memory.set cell (UInt8.ofNat data.toNat)) _
    refine ⟨memory', accesses', fun c => ?_, ?_⟩
    · rw [hmemory, Memory.storedAt_cons _ hcell]
    · rw [bind_of_ok (write_cell hcell hd s), endOfSweep_inside (by omega)]
      exact hrun
  · refine ⟨s.machine.memory, s.machine.accesses, fun c => ?_, ?_⟩
    · rw [Memory.storedAt_of_outside _ (by omega)]
    · rw [bind_of_error (write_outside _ (by omega) s), endOfSweep_outside hout]

end Action

end Chip8
