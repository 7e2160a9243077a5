import Mathlib.Data.List.Induction
import Chip8.Proofs.Machine.Disassembly
import Chip8.Window.Listing

/-!
# How a listing is painted

A listing paints only the rows whose colour may have changed: two rows when the current row moves,
and all of them when the breakpoints change.  Does every row have its colour all the same, in
whatever order the listing is taken anew, moved along and marked?

* `Listing.Painted` — every row is painted as it would be if all rows were painted anew;
* `Painted.moveTo`, `Painted.setBreakpoints` — repainting what may have changed keeps it so;
* `Listing.Lists`, `Listing.TakenFrom` — the lines of a listing are those of a memory, and all words
  from an address on are among them;
* `refresh_ends`, `highlight_ends` — a listing can be taken anew and can follow the program counter
  wherever that has come to, and what becomes of it;
* `Kept.answer_ends` — one call, and `calls_painted` — **whatever is asked of a listing, each row
  has the colour of the current row, of a breakpoint or of neither, as it should**, and the current
  row is that of the program counter.
-/

namespace Chip8

open Text

/-- Of two coats of paint the second one is seen. -/
@[simp] theorem Row.paint_paint (r : Row) (first second : Shade) :
    (r.paint first).paint second = r.paint second := by
  rw [Row.paint, Row.paint, Row.paint, Vector.map_map]
  rfl

/-- Paint leaves the texts. -/
theorem Row.text_paint (r : Row) (shade : Shade) (column : Nat) (h : column < 3) :
    (r.paint shade)[column].text = r[column].text := by
  rw [Row.paint, Vector.getElem_map]

namespace Listing

/-! ## Painted rows -/

/-- A row holds its line, painted in the shade that a listing with the same lines calls for. -/
def RowPainted (l : Listing) (row : Nat) (shade : ListingRow → Shade) : Prop :=
  l.table[row]? = (l.lines[row]?).map fun line => (rowOfLine line).paint (shade line)

/-- The shade that a row calls for. -/
def shadeAt (l : Listing) (row : Nat) (line : ListingRow) : Shade := l.shadeOf row line.address

/-- Every row is painted as it would be if all rows were painted anew, and the current row is one of
them. -/
structure Painted (l : Listing) : Prop where
  rows : ∀ row, l.RowPainted row (l.shadeAt row)
  current : ∀ row, l.current = some row → row < l.lines.size

theorem painted_empty : empty.Painted := ⟨fun _ => rfl, nofun⟩

/-! ### Painting one row -/

section Paint

variable (l : Listing) (row : Nat)

@[simp] theorem paint_lines : (l.paint row).lines = l.lines := by
  rw [paint]
  split <;> rfl

@[simp] theorem paint_current : (l.paint row).current = l.current := by
  rw [paint]
  split <;> rfl

@[simp] theorem paint_breakpoints : (l.paint row).breakpoints = l.breakpoints := by
  rw [paint]
  split <;> rfl

@[simp] theorem paint_shadeAt : (l.paint row).shadeAt = l.shadeAt := by
  funext k line
  simp only [shadeAt, shadeOf, paint_current, paint_breakpoints]

variable {l row}

/-- A row that was painted in any way is painted rightly then. -/
theorem RowPainted.paint {shade : ListingRow → Shade} (h : l.RowPainted row shade) :
    (l.paint row).RowPainted row (l.shadeAt row) := by
  rw [RowPainted, paint_lines, Listing.paint]
  rw [RowPainted] at h
  cases hline : l.lines[row]? with
  | none =>
    rw [hline] at h
    exact h
  | some line =>
    rw [hline] at h
    simp only [Array.getElem?_modify, if_pos, h, Option.map_some, Row.paint_paint]
    rfl

/-- And every other row is as it was. -/
theorem RowPainted.paint_of_ne {k : Nat} {shade : ListingRow → Shade} (h : l.RowPainted k shade)
    (hne : row ≠ k) : (l.paint row).RowPainted k shade := by
  have htable : (l.paint row).table[k]? = l.table[k]? := by
    rw [Listing.paint]
    split
    · rfl
    · rw [Array.getElem?_modify, if_neg hne]
  rw [RowPainted, htable, paint_lines]
  exact h

end Paint

/-! ### Moving along -/

/-- The listing with its current row moved, and the row that was left painted. -/
def leave (l : Listing) (target : Option Nat) : Listing :=
  match l.current with
  | none => { l with current := target }
  | some row => { l with current := target }.paint row

/-- The listing with a row painted, if there is one to paint. -/
def enter (l : Listing) (target : Option Nat) : Listing :=
  match target with
  | none => l
  | some row => l.paint row

/-- The listing with some rows brought into view. -/
def withScrolls (l : Listing) (scrolls : Array Nat) : Listing := { l with scrolls := scrolls }

/-- To move along is to leave one row and to enter another. -/
theorem moveTo_eq (l : Listing) (target : Option Nat) :
    ∃ scrolls, l.moveTo target = ((l.leave target).enter target).withScrolls scrolls := by
  cases target <;> exact ⟨_, rfl⟩

section Moving

variable (l : Listing) (target : Option Nat)

@[simp] theorem leave_lines : (l.leave target).lines = l.lines := by
  rw [leave]
  split <;> simp

@[simp] theorem leave_current : (l.leave target).current = target := by
  rw [leave]
  split <;> simp

@[simp] theorem leave_breakpoints : (l.leave target).breakpoints = l.breakpoints := by
  rw [leave]
  split <;> simp

@[simp] theorem moveTo_lines : (l.moveTo target).lines = l.lines := by
  obtain ⟨scrolls, hmoved⟩ := l.moveTo_eq target
  rw [hmoved]
  cases target <;> simp [withScrolls, enter]

@[simp] theorem moveTo_current : (l.moveTo target).current = target := by
  obtain ⟨scrolls, hmoved⟩ := l.moveTo_eq target
  rw [hmoved]
  cases target <;> simp [withScrolls, enter]

@[simp] theorem moveTo_breakpoints : (l.moveTo target).breakpoints = l.breakpoints := by
  obtain ⟨scrolls, hmoved⟩ := l.moveTo_eq target
  rw [hmoved]
  cases target <;> simp [withScrolls, enter]

end Moving

variable {l : Listing} {target : Option Nat}

/-- A row that is current neither before nor after calls for the same shade. -/
theorem shadeAt_withCurrent {k : Nat} (hbefore : l.current ≠ some k) (hafter : target ≠ some k) :
    { l with current := target }.shadeAt k = l.shadeAt k := by
  funext line
  rw [shadeAt, shadeAt, shadeOf, shadeOf, if_neg hbefore, if_neg hafter]

/-- Once a row was left, every row is painted in some way, and rightly unless it is the next one. -/
theorem Painted.leave (h : l.Painted) (target : Option Nat) (k : Nat) :
    (∃ shade, (l.leave target).RowPainted k shade) ∧
      (target ≠ some k → (l.leave target).RowPainted k ((l.leave target).shadeAt k)) := by
  have hrow : { l with current := target }.RowPainted k (l.shadeAt k) := h.rows k
  rw [Listing.leave]
  cases hcurrent : l.current with
  | none =>
    refine ⟨⟨_, hrow⟩, fun htarget => ?_⟩
    rw [shadeAt_withCurrent (by rw [hcurrent]; nofun) htarget]
    exact hrow
  | some row =>
    by_cases hk : row = k
    · subst hk
      refine ⟨⟨_, hrow.paint⟩, fun _ => ?_⟩
      rw [paint_shadeAt]
      exact hrow.paint
    · refine ⟨⟨_, hrow.paint_of_ne hk⟩, fun htarget => ?_⟩
      have hbefore : l.current ≠ some k := by
        rw [hcurrent]
        exact fun hsame => hk (Option.some.inj hsame)
      rw [paint_shadeAt, shadeAt_withCurrent hbefore htarget]
      exact hrow.paint_of_ne hk

/-- And once the next row was entered, every row is painted rightly. -/
theorem Painted.enter (h : l.Painted) (target : Option Nat) (k : Nat) :
    ((l.leave target).enter target).RowPainted k
      (((l.leave target).enter target).shadeAt k) := by
  cases target with
  | none => exact (h.leave none k).2 nofun
  | some row =>
    rw [Listing.enter, paint_shadeAt]
    by_cases hk : row = k
    · subst hk
      obtain ⟨shade, hpainted⟩ := (h.leave (some row) row).1
      exact hpainted.paint
    · exact ((h.leave (some row) k).2 fun hsame => hk (Option.some.inj hsame)).paint_of_ne hk

/-- **A listing whose current row moves stays painted**, although two rows are painted and no
more. -/
theorem Painted.moveTo (h : l.Painted) (htarget : ∀ row, target = some row → row < l.lines.size) :
    (l.moveTo target).Painted := by
  refine ⟨fun k => ?_, fun row hrow => ?_⟩
  · obtain ⟨scrolls, hmoved⟩ := l.moveTo_eq target
    rw [hmoved]
    exact h.enter target k
  · rw [moveTo_current] at hrow
    rw [moveTo_lines]
    exact htarget row hrow

/-- **A listing whose breakpoints are set stays painted.** -/
theorem Painted.setBreakpoints (h : l.Painted) (addresses : List Int) :
    (l.setBreakpoints addresses).Painted := by
  refine ⟨fun k => ?_, h.current⟩
  have hrow := h.rows k
  rw [RowPainted] at hrow ⊢
  rw [Listing.setBreakpoints, Array.getElem?_mapIdx, hrow]
  cases hline : l.lines[k]? with
  | none => rfl
  | some line =>
    simp only [Option.map_some, Row.paint_paint]
    rfl

/-! ## Lines of a memory -/

/-- Every line of a listing is the line that a memory has at its address. -/
def Lists (l : Listing) (m : Memory) : Prop := ∀ line ∈ l.lines, ∃ a : Fin 4095, line = m.line a

/-- A listing was taken from a memory, from an address on: there is also a row for each word that
comes up in twos from there. -/
structure TakenFrom (l : Listing) (m : Memory) (start : Int) : Prop where
  lists : l.Lists m
  reaches : ∀ k : Nat, start + 2 * k < 4095 → l.rowOf? (start + 2 * k) ≠ none

/-- A listing has no row for an address in memory. -/
def Lacks (l : Listing) (address : Int) : Prop := address < 4096 ∧ l.rowOf? address = none

/-- Where an address stands depends on the lines only. -/
theorem rowOf?_congr {t : Listing} (h : t.lines = l.lines) (address : Int) :
    t.rowOf? address = l.rowOf? address := by
  rw [rowOf?, h, rowOf?]

theorem Lists.congr {t : Listing} {m : Memory} (hl : l.Lists m) (h : t.lines = l.lines) :
    t.Lists m := by
  rw [Lists, h]
  exact hl

theorem TakenFrom.congr {t : Listing} {m : Memory} {start : Int} (hl : l.TakenFrom m start)
    (h : t.lines = l.lines) : t.TakenFrom m start := by
  refine ⟨hl.lists.congr h, fun k hk => ?_⟩
  rw [rowOf?_congr h]
  exact hl.reaches k hk

theorem line_of_rowOf? {address : Int} {row : Nat} (h : l.rowOf? address = some row) :
    ∃ line, l.lines[row]? = some line ∧ line.address = address := by
  obtain ⟨hrow, haddress, -⟩ := Array.findIdx?_eq_some_iff_getElem.1 h
  exact ⟨l.lines[row], Array.getElem?_eq_getElem hrow, eq_of_beq haddress⟩

theorem rowOf?_eq_none_iff {address : Int} :
    l.rowOf? address = none ↔ ∀ line ∈ l.lines, line.address ≠ address := by
  rw [rowOf?, Array.findIdx?_eq_none_iff]
  exact forall₂_congr fun _ _ => beq_eq_false_iff_ne

theorem lt_of_rowOf? {address : Int} {row : Nat} (h : l.rowOf? address = some row) :
    row < l.lines.size := by
  obtain ⟨line, hline, -⟩ := line_of_rowOf? h
  exact (Array.getElem?_eq_some_iff.1 hline).1

/-- The row of a word has the line of that word. -/
theorem Lists.line_of_rowOf? {m : Memory} (h : l.Lists m) {a : Fin 4095} {row : Nat}
    (hrow : l.rowOf? a.val = some row) : l.lines[row]? = some (m.line a) := by
  obtain ⟨line, hline, haddress⟩ := Listing.line_of_rowOf? hrow
  obtain ⟨b, rfl⟩ := h line (Array.mem_of_getElem? hline)
  obtain rfl : b = a := Fin.ext (Int.ofNat.inj haddress)
  exact hline

/-- No row is past the last word. -/
theorem Lists.rowOf?_eq_none {m : Memory} (h : l.Lists m) {address : Int}
    (hpast : 4095 ≤ address) : l.rowOf? address = none := by
  refine rowOf?_eq_none_iff.2 fun line hline => ?_
  obtain ⟨a, rfl⟩ := h line hline
  show (a.val : Int) ≠ address
  omega

/-! ### Taking a listing -/

/-- A listing never starts below memory. -/
theorem startFor_nonneg {pc : Int} (h : 0 ≤ pc) : 0 ≤ startFor pc := by
  rw [startFor]
  split <;> omega

/-- The address that has to be in a listing comes up in twos from its start. -/
theorem startFor_reaches (pc : Int) : ∃ k : Nat, pc = startFor pc + 2 * k := by
  refine ⟨((pc - startFor pc) / 2).toNat, ?_⟩
  rw [startFor]
  split <;> omega

/-- So it is in a listing that was taken for it, if a word starts there. -/
theorem TakenFrom.reaches_pc {m : Memory} {pc : Int} (h : l.TakenFrom m (startFor pc))
    (hpc : pc < 4095) : l.rowOf? pc ≠ none := by
  obtain ⟨k, hk⟩ := startFor_reaches pc
  rw [hk]
  exact h.reaches k (hk ▸ hpc)

/-- **A listing can be taken anew, wherever the program counter has come to.** -/
theorem refresh_ends (m : Memory) {pc : Int} (h : 0 ≤ pc) (l : Listing) :
    ∃ t, l.refresh m pc = .ok t ∧ t.Painted ∧ t.TakenFrom m (startFor pc) ∧
      t.breakpoints = l.breakpoints := by
  have hstart := startFor_nonneg h
  obtain ⟨lines, hlines, hlength, hline⟩ :=
    Disassembly.listing_inside m hstart (4096 - startFor pc)
  have hinside : ∀ k, k < lines.length ↔ startFor pc + 2 * k < 4095 := by
    intro k
    rw [hlength, Disassembly.lt_rowCount_iff]
    omega
  have hword : ∀ k : Nat, startFor pc + 2 * k < 4095 → ∃ a : Fin 4095,
      (a.val : Int) = startFor pc + 2 * k ∧ lines[k]? = some (m.line a) := by
    intro k hk
    obtain ⟨n, hn⟩ := Int.eq_ofNat_of_zero_le (show 0 ≤ startFor pc + 2 * k by omega)
    have ha := hline k ⟨n, by omega⟩ (hlength ▸ (hinside k).2 hk) hn.symm
    exact ⟨_, hn.symm, ha⟩
  rw [refresh, hlines]
  refine ⟨_, rfl, ⟨fun row => Array.getElem?_mapIdx, nofun⟩, ⟨?_, ?_⟩, rfl⟩
  · intro line hmem
    obtain ⟨k, hk⟩ := List.getElem?_of_mem (List.mem_toArray.1 hmem)
    obtain ⟨a, -, ha⟩ := hword k ((hinside k).1 (List.getElem?_eq_some_iff.1 hk).1)
    exact ⟨a, Option.some.inj (hk.symm.trans ha)⟩
  · intro k hk hnone
    obtain ⟨a, hplace, ha⟩ := hword k hk
    have hmem : m.line a ∈ lines.toArray := List.mem_toArray.2 (List.mem_of_getElem? ha)
    exact rowOf?_eq_none_iff.1 hnone _ hmem hplace

/-- A listing follows a place when it is painted and its current row is the one for the place.  It
has such a row if a word starts there. -/
structure Follows (l : Listing) (pc : Int) : Prop where
  painted : l.Painted
  current : l.current = l.rowOf? pc
  reaches : pc < 4095 → l.rowOf? pc ≠ none

/-- The address in the current row. -/
theorem Follows.currentAddress {pc : Int} (h : l.Follows pc) {m : Memory} (hlists : l.Lists m) :
    l.currentAddress = if pc ≤ 4094 then pc else -1 := by
  rw [Listing.currentAddress, h.current]
  split_ifs with hlast
  · obtain ⟨row, hrow⟩ := Option.ne_none_iff_exists'.1 (h.reaches (by omega))
    obtain ⟨line, hline, haddress⟩ := line_of_rowOf? hrow
    rw [hrow, Option.bind_some, hline]
    exact haddress
  · rw [hlists.rowOf?_eq_none (by omega)]
    rfl

/-- A listing that has a row for the place, or needs none, follows it by moving along. -/
theorem Painted.follows (h : l.Painted) {pc : Int} (hreaches : pc < 4095 → l.rowOf? pc ≠ none) :
    (l.moveTo (l.rowOf? pc)).Follows pc := by
  have hrow := rowOf?_congr (l.moveTo_lines (l.rowOf? pc)) pc
  refine ⟨h.moveTo fun _ => lt_of_rowOf?, ?_, ?_⟩
  · rw [moveTo_current, hrow]
  · rw [hrow]
    exact hreaches

/-- **A listing can follow the program counter, wherever that has come to.**  Only if it lacks the
place it is taken anew first; otherwise its lines stay. -/
theorem highlight_ends (m : Memory) {pc : Int} (hpc : 0 ≤ pc) (l : Listing) :
    ∃ t, l.highlight m pc = .ok t ∧ t.breakpoints = l.breakpoints ∧
      (l.Painted → t.Follows pc) ∧
      (¬ l.Lacks pc ∧ t.lines = l.lines ∨ l.Lacks pc ∧ t.TakenFrom m (startFor pc)) := by
  rw [highlight]
  by_cases hlacks : pc < 4096 ∧ l.rowOf? pc = none
  · obtain ⟨taken, htaken, hpainted, hlines, hmarks⟩ := refresh_ends m hpc l
    rw [if_pos hlacks, htaken]
    exact ⟨_, rfl, (moveTo_breakpoints _ _).trans hmarks,
      fun _ => hpainted.follows hlines.reaches_pc,
      .inr ⟨hlacks, hlines.congr (moveTo_lines _ _)⟩⟩
  · rw [if_neg hlacks]
    refine ⟨_, rfl, moveTo_breakpoints _ _, fun hpainted => hpainted.follows ?_,
      .inl ⟨hlacks, moveTo_lines _ _⟩⟩
    intro hlt hnone
    exact hlacks ⟨by omega, hnone⟩

/-! ## Calls -/

/-- What is asked of a listing; the first two look at a system. -/
inductive Call (τ : Type) where
  | refresh (s : System τ)
  | highlight (s : System τ)
  | setBreakpoints (addresses : List Int)

namespace Call

variable {τ : Type}

/-- Do what is asked. -/
def answer (c : Call τ) (l : Listing) : Except Fault Listing :=
  match c with
  | .refresh s => l.refresh s.machine.memory s.machine.registers.pc
  | .highlight s => l.highlight s.machine.memory s.machine.registers.pc
  | .setBreakpoints addresses => .ok (l.setBreakpoints addresses)

/-- The addresses with a breakpoint, from those that had one before. -/
def marks (c : Call τ) (addresses : List Int) : List Int :=
  match c with
  | .setBreakpoints given => given
  | _ => addresses

/-- A call that looks at a system looks at one that some history leads to. -/
def OnReachable [TimeScale τ] (c : Call τ) : Prop :=
  match c with
  | .refresh s | .highlight s => s.Reachable
  | .setBreakpoints _ => True

end Call

variable {τ : Type}

/-- The listing after calls, one after the other. -/
def answerAll (l : Listing) (calls : List (Call τ)) : Except Fault Listing :=
  calls.foldlM (fun l c => c.answer l) l

/-- The addresses that were given last. -/
def lastMarks (calls : List (Call τ)) : List Int :=
  calls.foldl (fun addresses c => c.marks addresses) []

/-- What holds of a listing after each call: it is painted, with the addresses that were given last,
and its lines are those of some memory. -/
structure Kept (l : Listing) (addresses : List Int) : Prop where
  painted : l.Painted
  breakpoints : l.breakpoints = addresses
  lists : ∃ m, l.Lists m

theorem kept_empty : empty.Kept [] := ⟨painted_empty, rfl, .blank, nofun⟩

/-- A listing that follows the program counter keeps what holds of it. -/
theorem Kept.highlight_ends {addresses : List Int} (h : l.Kept addresses) (m : Memory) {pc : Int}
    (hpc : 0 ≤ pc) :
    ∃ t, l.highlight m pc = .ok t ∧ t.Kept addresses ∧
      t.currentAddress = if pc ≤ 4094 then pc else -1 := by
  obtain ⟨t, ht, hmarks, hfollows, hlines⟩ := l.highlight_ends m hpc
  have hfollowed := hfollows h.painted
  obtain ⟨n, hlists⟩ : ∃ n, t.Lists n := by
    obtain ⟨-, hsame⟩ | ⟨-, hnew⟩ := hlines
    · obtain ⟨n, hlists⟩ := h.lists
      exact ⟨n, hlists.congr hsame⟩
    · exact ⟨m, hnew.lists⟩
  exact ⟨t, ht, ⟨hfollowed.painted, hmarks.trans h.breakpoints, n, hlists⟩,
    hfollowed.currentAddress hlists⟩

/-- **One call** is answered, and keeps what holds of a listing. -/
theorem Kept.answer_ends [TimeScale τ] {addresses : List Int} (h : l.Kept addresses) {c : Call τ}
    (hc : c.OnReachable) :
    ∃ t, c.answer l = .ok t ∧ t.Kept (c.marks addresses) ∧
      ∀ s, c = .highlight s → t.currentAddress =
        if s.machine.registers.pc ≤ 4094 then s.machine.registers.pc else -1 := by
  cases c with
  | refresh s =>
    obtain ⟨t, ht, hpainted, hlines, hmarks⟩ :=
      l.refresh_ends s.machine.memory hc.wellFormed.registers.pc.1
    refine ⟨t, ht, ⟨hpainted, hmarks.trans h.breakpoints, _, hlines.lists⟩, ?_⟩
    intro s hsame
    cases hsame
  | highlight s =>
    obtain ⟨t, ht, hkept, hcurrent⟩ :=
      h.highlight_ends s.machine.memory hc.wellFormed.registers.pc.1
    refine ⟨t, ht, hkept, ?_⟩
    rintro _ ⟨⟩
    exact hcurrent
  | setBreakpoints given =>
    obtain ⟨m, hlists⟩ := h.lists
    refine ⟨l.setBreakpoints given, rfl, ⟨h.painted.setBreakpoints given, rfl, m, hlists⟩, ?_⟩
    intro s hsame
    cases hsame

/-- What is seen of a painted row. -/
theorem Painted.row_seen (h : l.Painted) {row : Nat} {cells : Row}
    (hcells : l.table[row]? = some cells) :
    ∃ line, l.lines[row]? = some line ∧ (cells.get 0).text = HexForm.word.write line.address ∧
      ∀ cell ∈ cells, cell.shade = some (l.shadeOf row line.address) := by
  have hrow := h.rows row
  rw [RowPainted, hcells] at hrow
  obtain ⟨line, hline, rfl⟩ := Option.map_eq_some_iff.1 hrow.symm
  exact ⟨line, hline, Row.text_paint _ _ 0 _, fun cell => Row.shade_of_mem_paint⟩

/-- There is a row for each line. -/
theorem Painted.size (h : l.Painted) : l.table.size = l.lines.size := by
  have hnone : ∀ row, l.table.size ≤ row ↔ l.lines.size ≤ row := by
    intro row
    rw [← Array.getElem?_eq_none_iff, h.rows row, Option.map_eq_none_iff,
      Array.getElem?_eq_none_iff]
  exact Nat.le_antisymm ((hnone _).2 (Nat.le_refl _)) ((hnone _).1 (Nat.le_refl _))

/-- The call that is made last. -/
theorem answerAll_concat {l t : Listing} {calls : List (Call τ)} (h : empty.answerAll calls = .ok l)
    {c : Call τ} (hc : c.answer l = .ok t) : empty.answerAll (calls ++ [c]) = .ok t := by
  rw [answerAll, List.foldlM_append, ← answerAll, h]
  show (c.answer l >>= pure) = _
  rw [hc]
  rfl

/-- The calls so far are answered, and what holds of a listing holds. -/
theorem kept_answerAll [TimeScale τ] (calls : List (Call τ)) (hcalls : ∀ c ∈ calls, c.OnReachable) :
    ∃ l, empty.answerAll calls = .ok l ∧ l.Kept (lastMarks calls) := by
  induction calls using List.reverseRecOn with
  | nil => exact ⟨_, rfl, kept_empty⟩
  | append_singleton calls c ih =>
    obtain ⟨l, hl, hkept⟩ := ih fun d hd => hcalls d (List.mem_append_left [c] hd)
    obtain ⟨t, ht, htkept, -⟩ :=
      hkept.answer_ends (hcalls c (List.mem_append_right calls List.mem_cons_self))
    refine ⟨t, answerAll_concat hl ht, ?_⟩
    rw [lastMarks, List.foldl_append]
    exact htkept

/-- **Every row has its colour, whatever is asked of a listing.**  The listing may be taken anew and
follow the program counter in any states of machines, and any addresses may be marked, in any order:
no call fails, and after each of them all three cells of a row have the colour of the current row,
or else that of a breakpoint if the address in the row was marked last, or else the plain one.  The
current row is one of the rows, if there is one; and after the listing followed the program counter,
it is the row of the next instruction, or there is none if no word starts there. -/
theorem calls_painted [TimeScale τ] (calls : List (Call τ))
    (hcalls : ∀ c ∈ calls, c.OnReachable) :
    ∃ l, empty.answerAll calls = .ok l ∧
      (∀ row cells, l.table[row]? = some cells → ∃ line, l.lines[row]? = some line ∧
        (cells.get 0).text = HexForm.word.write line.address ∧
        ∀ cell ∈ cells, cell.shade = some
          (if l.current = some row then .current
          else if line.address ∈ lastMarks calls then .breakpoint
          else .plain)) ∧
      (∀ row, l.current = some row → row < l.table.size) ∧
      ∀ before s, calls = before ++ [.highlight s] → l.currentAddress =
        if s.machine.registers.pc ≤ 4094 then s.machine.registers.pc else -1 := by
  obtain ⟨l, hl, hkept⟩ := kept_answerAll calls hcalls
  refine ⟨l, hl, ?_, ?_, ?_⟩
  · intro row cells hcells
    rw [← hkept.breakpoints]
    exact hkept.painted.row_seen hcells
  · intro row hrow
    rw [hkept.painted.size]
    exact hkept.painted.current row hrow
  · rintro before s rfl
    obtain ⟨l', hl', hkept'⟩ :=
      kept_answerAll before fun c hc => hcalls c (List.mem_append_left _ hc)
    obtain ⟨t, ht, -, hcurrent⟩ :=
      hkept'.answer_ends (hcalls _ (List.mem_append_right before List.mem_cons_self))
    obtain rfl : t = l := Except.ok.inj ((answerAll_concat hl' ht).symm.trans hl)
    exact hcurrent s rfl

/-- A machine with a program of two instructions. -/
def twoLines : System Rat := .started (Host.still 0 fun _ => 0) #[0x60, 0x01, 0x00, 0xEE]

/-- A listing is taken, the next instruction is marked, and the listing goes along to it.  Its row
has the colour of the current row, and not that of a breakpoint. -/
theorem calls_painted_twoLines :
    (∀ c ∈ [Call.refresh twoLines, .setBreakpoints [512], .highlight twoLines], c.OnReachable) ∧
      ∃ l row cells, empty.answerAll [.refresh twoLines, .setBreakpoints [512],
          .highlight twoLines] = .ok l ∧
        l.currentAddress = 512 ∧ l.current = some row ∧ l.table[row]? = some cells ∧
        ∀ cell ∈ cells, cell.shade = some .current := by
  have hreachable : twoLines.Reachable := System.reachable_started _ _
  have hcalls : ∀ c ∈ [Call.refresh twoLines, .setBreakpoints [512], .highlight twoLines],
      c.OnReachable := by
    simp only [List.mem_cons, List.not_mem_nil, or_false]
    rintro c (rfl | rfl | rfl)
    · exact hreachable
    · trivial
    · exact hreachable
  obtain ⟨l, hl, hrows, hsize, hcurrent⟩ := calls_painted _ hcalls
  have hpc : twoLines.machine.registers.pc = 512 := rfl
  have haddress : l.currentAddress = 512 := by
    rw [hcurrent [.refresh twoLines, .setBreakpoints [512]] twoLines rfl, hpc]
    rfl
  obtain ⟨row, hrow⟩ : ∃ row, l.current = some row := by
    cases hnone : l.current with
    | none =>
      rw [currentAddress, hnone] at haddress
      cases haddress
    | some row => exact ⟨row, rfl⟩
  have hcells := Array.getElem?_eq_getElem (hsize row hrow)
  obtain ⟨line, -, -, hshade⟩ := hrows row _ hcells
  rw [if_pos hrow] at hshade
  exact ⟨hcalls, l, row, _, hl, haddress, hrow, hcells, hshade⟩

end Listing

end Chip8
