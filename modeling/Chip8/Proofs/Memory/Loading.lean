import Chip8.Proofs.Machine.History

/-!
# Placing a program

A program is placed in memory as it is, if it fits: a shorter one is filled up with zeros, and of a
longer one the end is cut off, of which the journal gets a warning.  So what is in the program area
afterwards depends on the program alone.

* `Memory.dump_loadRom` — after a program was placed, a dump of the program area is its image, cut
  off or filled up to the length of the area;
* `loadRom_loadRom`, `loadRom_extract`, `loadRom_dump` — an earlier program leaves nothing behind,
  what does not fit makes no difference, and what is in the program area can be put back;
* `Journal.foldl_note` — what reports add to a journal;
* `Action.places_program` — **what placing a program does**, to every memory and for every number of
  bytes.
-/

namespace Chip8

namespace Memory

variable (m : Memory)

/-- The program area can always be dumped. -/
theorem dump_program :
    m.dump romStart romSize = .ok (m.cells.toArray.extract romStart memorySize) := by
  have hfirst : locate romStart = .ok 512 := Action.locate_cell rfl
  have hlast : locate (romStart + romSize - 1) = .ok 4095 := Action.locate_cell rfl
  have hlength : ¬ (romSize : Int) < 0 := by decide
  have hsome : (romSize : Int) ≠ 0 := by decide
  rw [dump, if_neg hlength, hfirst]
  let program : Except Fault Bytes := .ok (m.cells.toArray.extract romStart memorySize)
  show (if (romSize : Int) ≠ 0 then locate (romStart + romSize - 1) >>= fun _ => program
    else program) = program
  rw [if_pos hsome, hlast]
  rfl

/-- The dump of the program area, byte by byte. -/
theorem getElem_program {k : Nat} (hk : k < (m.cells.toArray.extract romStart memorySize).size)
    {a : Fin 4096} (ha : a.val = romStart + k) :
    (m.cells.toArray.extract romStart memorySize)[k] = m.get a := by
  rw [Array.getElem_extract, Memory.get]
  simp [ha]

theorem size_program : (m.cells.toArray.extract romStart memorySize).size = romSize := by
  rw [Array.size_extract, Vector.size_toArray]
  rfl

/-- After a program was placed, the dump of the program area is its image. -/
theorem dump_loadRom (data : Bytes) :
    (m.loadRom data).dump romStart romSize = .ok (romImage data) := by
  have hfirst : romStart ≤ m.cells.toArray.size := by
    rw [Vector.size_toArray]
    decide
  have himage : (Bytes.splice m.cells.toArray romStart memorySize (romImage data)).extract
      romStart (romStart + romSize) = romImage data := by
    rw [← size_romImage data, Bytes.extract_splice hfirst]
  rw [dump_program]
  exact congrArg Except.ok himage

/-! ## Programs one after the other -/

/-- An earlier program leaves nothing behind. -/
theorem loadRom_loadRom (earlier data : Bytes) :
    (m.loadRom earlier).loadRom data = m.loadRom data := by
  refine Memory.ext fun a => ?_
  rw [get_loadRom, get_loadRom, get_loadRom]
  split
  · rfl
  · rfl

/-- What does not fit makes no difference. -/
theorem loadRom_extract (data : Bytes) :
    m.loadRom (data.extract 0 romSize) = m.loadRom data := by
  refine Memory.ext fun a => ?_
  rw [get_loadRom, get_loadRom]
  have hin : a.val - 512 < romSize := by
    rw [romSize]
    omega
  have hsame : (data.extract 0 romSize)[a.val - 512]? = data[a.val - 512]? := by
    rw [Array.getElem?_extract]
    by_cases hk : a.val - 512 < data.size
    · rw [if_pos (by omega), Nat.zero_add]
    · rw [if_neg (by omega), Array.getElem?_eq_none (by omega)]
  rw [hsame]

/-- What is in the program area can be put back. -/
theorem loadRom_dump {image : Bytes} (h : m.dump romStart romSize = .ok image) :
    m.loadRom image = m := by
  rw [dump_program] at h
  obtain rfl := Except.ok.inj h
  refine Memory.ext fun a => ?_
  rw [get_loadRom]
  split
  · rfl
  · rename_i habove
    have hin : a.val - 512 < (m.cells.toArray.extract romStart memorySize).size := by
      rw [size_program, romSize]
      omega
    have ha : a.val = romStart + (a.val - 512) := by
      rw [romStart]
      omega
    rw [Array.getElem?_eq_getElem hin, getElem_program m hin ha]
    rfl

/-- A later memory, in which a program was placed. -/
structure Placed (data : Bytes) (n : Memory) : Prop where
  size : n.cells.toArray.size = memorySize
  /-- Below the program area nothing changes. -/
  reserved : ∀ a : Fin 4096, a.val < romStart → n.get a = m.get a
  /-- In the program area the program comes first, and then zeros. -/
  program : ∀ (a : Fin 4096) (k : Nat), a.val = romStart + k →
    n.get a = if h : k < data.size then data[k] else 0
  /-- The dump of the program area is what fits of the program, filled up with zeros. -/
  dump : n.dump romStart romSize =
    .ok (data.extract 0 romSize ++ Array.replicate (romSize - data.size) 0)

theorem placed_loadRom (data : Bytes) : m.Placed data (m.loadRom data) where
  size := m.size_splice_romImage data
  reserved a ha := (m.get_loadRom data a).trans (if_pos ha)
  program a k ha := by
    have habove : ¬ a.val < 512 := by
      rw [ha, romStart]
      omega
    have hk : a.val - 512 = k := by
      rw [ha, romStart]
      omega
    rw [get_loadRom, if_neg habove, hk]
    split
    · rename_i hin
      rw [Array.getElem?_eq_getElem hin]
      rfl
    · rename_i hout
      rw [Array.getElem?_eq_none (by omega)]
      rfl
  dump := (m.dump_loadRom data).trans (congrArg Except.ok (romImage_eq data))

end Memory

/-! ## Reports -/

namespace Journal

/-- Those of some reports that a journal keeps. -/
def kept (j : Journal) (reports : List Event) : List Event :=
  reports.filter fun e => j.threshold.rank ≤ e.level.rank

/-- A journal grows by the reports that it keeps. -/
theorem foldl_note (reports : List Event) : ∀ j : Journal,
    reports.foldl note j = { j with events := j.events ++ (j.kept reports).toArray } := by
  induction reports with
  | nil => exact fun j => by simp [kept]
  | cons e reports ih =>
    intro j
    rw [List.foldl_cons, ih, note]
    by_cases he : j.threshold.rank ≤ e.level.rank
    · simp [kept, he]
    · simp [kept, he]

end Journal

namespace Action

variable {τ : Type}

/-- The warning is among them exactly if the program is too long. -/
theorem truncated_mem_romReports (data : Bytes) (n : Nat) :
    .imageTruncated n ∈ romReports data ↔ n = data.size ∧ romSize < data.size := by
  rw [romReports]
  split
  · rename_i hlong
    simp [hlong]
  · rename_i hfits
    simp [hfits]

/-- **What placing a program does.**  It always succeeds, and changes nothing but memory and the
journal, whatever memory holds and however long the program is.  Memory keeps its size and all that
is below the program area.  The program area then holds the program, filled up with zeros or cut off
at its end, and if it was cut off, and only then, the journal gets a warning of it, unless it keeps
errors only.

A program that was there before makes no difference, nor does the part of a program that does not
fit; and what is in the program area can be put back, which changes nothing. -/
theorem places_program (data : Bytes) (s : System τ) :
    (∃ (memory : Memory) (reports : List Event),
      loadRom data s = .ok ()
        { machine := { s.machine with memory := memory }
          host := { s.host with
            journal.events := s.host.journal.events ++ reports.toArray } } ∧
      s.machine.memory.Placed data memory ∧
      ∀ n, .imageTruncated n ∈ reports ↔
        n = data.size ∧ romSize < data.size ∧ s.host.journal.threshold ≠ .error) ∧
    (∀ earlier,
      (s.machine.memory.loadRom earlier).loadRom data = s.machine.memory.loadRom data) ∧
    s.machine.memory.loadRom (data.extract 0 romSize) = s.machine.memory.loadRom data ∧
    ∃ image, s.machine.memory.dump romStart romSize = .ok image ∧
      s.machine.memory.loadRom image = s.machine.memory := by
  refine ⟨⟨_, s.host.journal.kept (romReports data), ?_, s.machine.memory.placed_loadRom data,
    fun n => ?_⟩, fun earlier => ?_, ?_, _, s.machine.memory.dump_program, ?_⟩
  · rw [loadRom_eq, Journal.foldl_note]
  · have hlevel : s.host.journal.threshold.rank ≤ Level.warning.rank ↔
        s.host.journal.threshold ≠ .error := by
      cases s.host.journal.threshold <;> decide
    rw [Journal.kept, List.mem_filter, truncated_mem_romReports, decide_eq_true_iff, and_assoc,
      ← hlevel]
    rfl
  · exact s.machine.memory.loadRom_loadRom earlier data
  · exact s.machine.memory.loadRom_extract data
  · exact s.machine.memory.loadRom_dump s.machine.memory.dump_program

end Action

end Chip8
