import Mathlib.Data.List.Basic
import Mathlib.Data.List.Induction
import Chip8.Proofs.Instruction.Reading
import Chip8.Proofs.Machine.Failing
import Chip8.Proofs.Window.Deeds

/-!
# The row of the next instruction

A listing is taken when a program is started over, and when the program counter comes to a place
that the listing lacks.  It is not taken again when the program writes over its own code.  What is
in the row of the next instruction then?

* `Memory.cells_of_bytes` — the bytes in a line tell the two cells that it was made from;
* `Listing.Highlights` — a line, and no other one, has the colour of the current row;
* `Sound.step_stepped`, `Sound.listed_after` — a step, and any of the deeds, takes the listing anew
  or leaves its lines;
* `TakenLast`, `listed_afterAll` — when in a history the listing was taken last, and that its lines
  are those of the memory at that time;
* `next_highlighted` — **the row of the next instruction is the current one, and it shows what was
  in memory when the listing was taken last**, so that it is right if and only if neither of the two
  bytes has changed since then;
* `next_written_over` — a program that changes one of them: its next instruction is not shown.
-/

namespace Chip8

open Text

/-! ## Lines -/

namespace Memory

variable {m n : Memory} {a : Fin 4095}

/-- The bytes in a line tell the cells. -/
theorem cells_of_bytes (h : (m.line a).bytes = (n.line a).bytes) :
    m.get a.castSucc = n.get a.castSucc ∧ m.get a.succ = n.get a.succ := by
  have hread : ∀ b : UInt8, readHex (HexForm.pair.write b.toNat).toList = b.toNat :=
    fun b => readHex_write rfl rfl _
  have hpart : ∀ b : UInt8, ' ' ∉ (HexForm.pair.write b.toNat).toList :=
    fun b => (isPart_write rfl rfl _).2
  have hbyte : ∀ b c : UInt8,
      (HexForm.pair.write b.toNat).toList = (HexForm.pair.write c.toNat).toList → b = c := by
    intro b c hsame
    have hvalue := congrArg readHex hsame
    rw [hread, hread] at hvalue
    exact UInt8.toNat_inj.1 (Int.ofNat.inj hvalue)
  have hlist := congrArg String.toList h
  simp only [line, String.toList_append, List.append_assoc] at hlist
  -- there is one blank, between the two bytes
  obtain ⟨hhigh, -, hlow⟩ := (List.append_cons_inj_of_notMem (hpart _) (hpart _)).1 hlist
  exact ⟨hbyte _ _ hhigh, hbyte _ _ hlow⟩

/-- The cells make the line. -/
theorem line_eq {high low : UInt8} (hhigh : m.get a.castSucc = high) (hlow : m.get a.succ = low) :
    m.line a = ⟨a.val, HexForm.pair.write high.toNat ++ " " ++ HexForm.pair.write low.toNat,
      (Instruction.decode (256 * high.toNat + low.toNat)).text⟩ := by
  rw [line, word, hhigh, hlow]

end Memory

namespace Listing

variable {l : Listing}

/-- One row, and no other, has the colour of the current row, and it shows a line. -/
def Highlights (l : Listing) (line : ListingRow) : Prop :=
  ∃ row : Nat, l.table[row]? = some ((rowOfLine line).paint .current) ∧
    ∀ k cells, l.table[k]? = some cells → cells.shade = some .current → k = row

/-- A listing that follows a place highlights the line of its memory there. -/
theorem Follows.highlights {m : Memory} {a : Fin 4095} (h : l.Follows a.val) (hlists : l.Lists m) :
    l.Highlights (m.line a) := by
  obtain ⟨row, hrow⟩ := Option.ne_none_iff_exists'.1 (h.reaches (by omega))
  have hcurrent : l.current = some row := h.current.trans hrow
  refine ⟨row, ?_, ?_⟩
  · have hpainted := h.painted.rows row
    rw [RowPainted, hlists.line_of_rowOf? hrow, Option.map_some, shadeAt, shadeOf,
      if_pos hcurrent] at hpainted
    exact hpainted
  · intro k cells hcells hshade
    obtain ⟨line, -, -, hcell⟩ := h.painted.row_seen hcells
    have hshadeOf : l.shadeOf k line.address = .current :=
      Option.some.inj ((hcell cells[0] (Vector.getElem_mem _)).symm.trans hshade)
    by_cases hk : l.current = some k
    · exact Option.some.inj (hk.symm.trans hcurrent)
    · rw [shadeOf, if_neg hk] at hshadeOf
      split at hshadeOf <;> cases hshadeOf

/-- Two lines that are highlighted look alike. -/
theorem Highlights.bytes_eq {x y : ListingRow} (hx : l.Highlights x) (hy : l.Highlights y) :
    x.bytes = y.bytes := by
  obtain ⟨row, hrow, honly⟩ := hx
  obtain ⟨k, hk, -⟩ := hy
  obtain rfl := honly k _ hk (Row.shade_of_mem_paint (Vector.getElem_mem _))
  have hcells := Option.some.inj (hrow.symm.trans hk)
  have htext := congrArg (fun cells : Row => cells[1].text) hcells
  simp only [Row.text_paint] at htext
  exact htext

/-- **Whether a line is right** that stands in the current row: it is if its two cells are as they
were. -/
theorem Highlights.iff_cells {m n : Memory} {a : Fin 4095} (h : l.Highlights (m.line a)) :
    l.Highlights (n.line a) ↔
      m.get a.castSucc = n.get a.castSucc ∧ m.get a.succ = n.get a.succ := by
  constructor
  · exact fun hn => Memory.cells_of_bytes (h.bytes_eq hn)
  · rintro ⟨hhigh, hlow⟩
    have hsame : m.line a = n.line a := Memory.line_eq hhigh hlow
    rw [← hsame]
    exact h

end Listing

/-! ## When a listing is taken -/

namespace Deed

variable {τ : Type} [TimeScale τ]

/-- The deeds that load a program, start it over, or make a step. -/
def LoadsOrSteps (d : Deed) : Prop :=
  match d with
  | .loadRom _ _ | .reset | .step => True
  | _ => False

/-- Such a deed takes the listing anew: it starts the machine over, or is a step to a place that the
listing lacks. -/
def TakesListing (d : Deed) (w : Window τ) : Prop :=
  d.StartsOver w ∨ d = .step ∧ w.listing.Lacks (w.after .step).machine.registers.pc

end Deed

/-- The debugger makes the steps of its machine. -/
theorem Session.machine_step {τ : Type} [TimeScale τ] (s : Session τ) :
    (Session.stateOf (Session.step s)).system.machine = (s.system.after .step).machine := by
  cases hplain : Action.step s.system with
  | error f t =>
    rw [Session.step_of_error hplain, System.after_of_error hplain]
    rfl
  | ok a t =>
    rw [Session.step_of_ok hplain, System.after_of_ok hplain]
    rfl

namespace Window

variable {τ : Type}

/-- The listing follows the program counter, and its lines are those of a memory. -/
structure Listed (w : Window τ) (m : Memory) : Prop where
  follows : w.listing.Follows w.machine.registers.pc
  lists : w.listing.Lists m

/-- The listing has just been taken. -/
structure Relisted (w : Window τ) : Prop where
  follows : w.listing.Follows w.machine.registers.pc
  taken : w.listing.TakenFrom w.machine.memory (Listing.startFor w.machine.registers.pc)

theorem Relisted.listed {w : Window τ} (h : w.Relisted) : w.Listed w.machine.memory :=
  ⟨h.follows, h.taken.lists⟩

/-- The listing was taken last when so many deeds were done, or with the window itself. -/
structure TakenLast [TimeScale τ] (w : Window τ) (deeds : List Deed) (i : Nat) : Prop where
  le : i ≤ deeds.length
  taken : ∀ k, i = k + 1 → ∃ d, deeds[k]? = some d ∧ d.TakesListing (w.before deeds k)
  since : ∀ j d, i ≤ j → deeds[j]? = some d → ¬ d.TakesListing (w.before deeds j)

/-! ### One deed -/

section Deeds

variable {w : Window τ}

/-- A full refresh takes the listing. -/
theorem Sound.relisted_ends (hw : w.Sound) (hpainted : w.listing.Painted) :
    Ends (refreshViews true) w fun _ t => t.Relisted := by
  obtain ⟨listing, hviews, hrelists⟩ := refreshViews_apply hw.pc_nonneg true
  exact ⟨(), _, hviews, hrelists.follows hpainted, hrelists.anew (.inl rfl)⟩

theorem Sound.useProgram_relisted (hw : w.Sound) (hpainted : w.listing.Painted)
    (program : Program) : Ends (useProgram program) w fun _ t => t.Relisted := by
  have hchosen : Sound { w with program := some program } := ⟨hw.machine, hw.registers⟩
  refine .change ((hchosen.startOver_ends program.data).bind fun _ t ht => .change (.change ?_))
  obtain ⟨hsound, s, -, rfl⟩ := ht
  refine Ends.bind (Sound.relisted_ends ⟨hsound.machine, hsound.registers⟩ hpainted) ?_
  exact fun _ u hu => ⟨(), _, rfl, hu.follows, hu.taken⟩

/-- A program that is loaded is listed, -/
theorem Sound.loadRom_relisted (hw : w.Sound) (hpainted : w.listing.Painted) {path : String}
    {contents : Option Bytes} {data : Bytes} (hfile : RomFile.read path contents = .ok data) :
    Ends (loadRom path contents) w fun _ t => t.Relisted := by
  rw [loadRom, hfile]
  refine (hw.notes_ends _).bind fun _ t ht => ?_
  obtain ⟨hsound, journal, rfl⟩ := ht
  exact hsound.useProgram_relisted hpainted _

/-- and so is one that is started over. -/
theorem Sound.reset_relisted (hw : w.Sound) (hpainted : w.listing.Painted) {program : Program}
    (hprogram : w.program = some program) : Ends Window.reset w fun _ t => t.Relisted := by
  refine .look ?_
  simp only [hprogram]
  refine (hw.startOver_ends program.data).bind fun _ t ht => .change (.change ?_)
  obtain ⟨hsound, s, -, rfl⟩ := ht
  exact Sound.relisted_ends ⟨hsound.machine, hsound.registers⟩ hpainted

variable [TimeScale τ]

/-- **What a step makes of the machine and of the listing**: the lines stay if the place that was
stepped to is among them. -/
structure Stepped (w t : Window τ) : Prop where
  machine : t.machine = (w.session.system.after .step).machine
  follows : t.listing.Follows t.machine.registers.pc
  anew : w.listing.Lacks t.machine.registers.pc → t.Relisted
  stays : ¬ w.listing.Lacks t.machine.registers.pc → t.listing.lines = w.listing.lines

/-- It does so when the views are refreshed, with the machine stepped and the listing as it was. -/
theorem Sound.refresh_stepped {v : Window τ} (hv : v.Sound) (hpainted : w.listing.Painted)
    (hmachine : v.machine = (w.session.system.after .step).machine)
    (hlisting : v.listing = w.listing) :
    Ends (refreshViews false) v fun _ t => w.Stepped t := by
  obtain ⟨listing, hviews, follows, anew, stays⟩ := refreshViews_apply hv.pc_nonneg false
  rw [hlisting] at follows anew stays
  exact ⟨(), _, hviews, hmachine, follows hpainted,
    fun hlacks => ⟨follows hpainted, anew (.inr hlacks)⟩, stays rfl⟩

/-- So it does whether or not the step fails. -/
theorem Sound.step_stepped (hw : w.Sound) (hpainted : w.listing.Painted) :
    Ends step w fun _ t => w.Stepped t := by
  have hsound : Sound { w with session := Session.stateOf (Session.step w.session) } :=
    ⟨(Session.advances_step w.session).wellFormed hw.machine, hw.registers⟩
  have hmachine := w.session.machine_step
  obtain ⟨r, hattempt⟩ : ∃ r, attempt Session.step w =
      .ok r { w with session := Session.stateOf (Session.step w.session) } := by
    rw [attempt]
    cases Session.step w.session <;> exact ⟨_, rfl⟩
  refine .next hattempt ?_
  cases r with
  | ok a => exact hsound.refresh_stepped hpainted hmachine rfl
  | error f =>
    -- telling the fault moves neither the machine nor the listing
    obtain ⟨u, hreport, hu, hmachine', hlisting⟩ : ∃ u : Window τ,
        reportFault f { w with session := Session.stateOf (Session.step w.session) } = .ok () u ∧
          u.Sound ∧ u.machine = (w.session.system.after .step).machine ∧
          u.listing = w.listing :=
      ⟨_, rfl, ⟨hsound.machine, hsound.registers⟩, hmachine, rfl⟩
    exact .next hreport (hu.refresh_stepped hpainted hmachine' hlisting)

/-- A step to a place in the listing leaves the lines. -/
theorem Sound.after_step (hw : w.Sound) (hpainted : w.listing.Painted) {pc : Int}
    (hpc : (w.session.system.after .step).machine.registers.pc = pc)
    (hplace : w.listing.rowOf? pc ≠ none) :
    (w.after .step).machine = (w.session.system.after .step).machine ∧
      (w.after .step).listing.Follows pc ∧ (w.after .step).listing.lines = w.listing.lines := by
  obtain ⟨hmachine, hfollows, -, hstays⟩ := (hw.step_stepped hpainted).stateOf
  have hcome : (stateOf (step w)).machine.registers.pc = pc := by
    rw [hmachine]
    exact hpc
  rw [hcome] at hfollows hstays
  exact ⟨hmachine, hfollows, hstays fun hlacks => hplace hlacks.2⟩

/-- **One deed** takes the listing anew, or keeps what holds of it. -/
theorem Sound.listed_after (hw : w.Sound) {m : Memory} (h : w.Listed m) {d : Deed}
    (hd : d.LoadsOrSteps) :
    (d.TakesListing w → (w.after d).Relisted) ∧ (¬ d.TakesListing w → (w.after d).Listed m) := by
  have hpainted := h.follows.painted
  cases d with
  | loadRom path contents =>
    cases hfile : RomFile.read path contents with
    | ok data =>
      have htaken := (hw.loadRom_relisted hpainted hfile).stateOf
      exact ⟨fun _ => htaken, fun hnot => absurd (.inl ⟨data, hfile⟩) hnot⟩
    | error f =>
      rw [after_loadRom_refused hfile]
      refine ⟨?_, fun _ => h⟩
      rintro (⟨data, hdata⟩ | ⟨⟨⟩, -⟩)
      rw [hfile] at hdata
      cases hdata
  | reset =>
    cases hprogram : w.program with
    | some program =>
      have htaken := (hw.reset_relisted hpainted hprogram).stateOf
      have hover : Deed.reset.StartsOver w := fun hnone => Option.some_ne_none _
        (hprogram.symm.trans hnone)
      exact ⟨fun _ => htaken, fun hnot => absurd (.inl hover) hnot⟩
    | none =>
      rw [after_reset_none hprogram]
      refine ⟨?_, fun _ => h⟩
      rintro (hover | ⟨⟨⟩, -⟩)
      exact absurd hprogram hover
  | step =>
    obtain ⟨-, hfollows, hanew, hstays⟩ := (hw.step_stepped hpainted).stateOf
    constructor
    · rintro (⟨⟨⟩⟩ | ⟨-, hlacks⟩)
      exact hanew hlacks
    · exact fun hnot => ⟨hfollows, h.lists.congr (hstays fun hlacks => hnot (.inr ⟨rfl, hlacks⟩))⟩
  | applyConfig | run | stop | frame | key | toggleBreakpoint | addBreakpoint => exact hd.elim

/-! ### Histories -/

omit [TimeScale τ] in
/-- A new window has taken its listing. -/
theorem create_relisted {config : Config} {fonts : FontSet} {host : Host τ}
    (h : create config fonts host = .ok w) : w.Relisted := by
  obtain ⟨start, hbuilt, hsession, hpane, -, -, -, hlisting⟩ := create_built h
  have hpainted : start.listing.Painted := by
    rw [hlisting]
    exact Listing.painted_empty
  have hpower : start.session.system.machine.WellFormed := by
    rw [hsession]
    exact .powerOn _
  obtain ⟨s, hs, -, happly | ⟨-, f, happly⟩⟩ := config.apply_cases hpower
  · have hsound : (start.withSystem s).Sound := ⟨hs, by
      rw [RegisterPane.LaidOut, ← hpane]
      rfl⟩
    obtain ⟨⟨⟩, t, hviews, ht⟩ := hsound.relisted_ends hpainted
    rw [bind_of_ok (onMachine_of_ok happly), hviews] at hbuilt
    cases hbuilt
    exact ht
  · rw [bind_of_error (onMachine_of_error happly)] at hbuilt
    cases hbuilt

/-- One more deed, which takes the listing. -/
theorem takenLast_of_takes {deeds : List Deed} {d : Deed}
    (h : d.TakesListing (w.afterAll deeds)) :
    w.TakenLast (deeds ++ [d]) (deeds.length + 1) := by
  have hlength : (deeds ++ [d]).length = deeds.length + 1 := List.length_append
  refine ⟨hlength.ge, ?_, ?_⟩
  · rintro k ⟨⟩
    refine ⟨d, List.getElem?_concat_length, ?_⟩
    rw [before_length]
    exact h
  · intro j e hj he
    have hlt := (List.getElem?_eq_some_iff.1 he).1
    omega

/-- One more deed, which does not. -/
theorem TakenLast.concat {deeds : List Deed} {i : Nat} (h : w.TakenLast deeds i) {d : Deed}
    (hd : ¬ d.TakesListing (w.afterAll deeds)) : w.TakenLast (deeds ++ [d]) i := by
  have hlength : (deeds ++ [d]).length = deeds.length + 1 := List.length_append
  refine ⟨hlength ▸ Nat.le_succ_of_le h.le, ?_, ?_⟩
  · intro k hk
    obtain ⟨e, he, htakes⟩ := h.taken k hk
    have hlt := (List.getElem?_eq_some_iff.1 he).1
    refine ⟨e, (List.getElem?_append_left hlt).trans he, ?_⟩
    rw [before_append w (Nat.le_of_lt hlt)]
    exact htakes
  · intro j e hj he
    rcases getElem?_concat_cases he with ⟨hlt, he⟩ | ⟨rfl, rfl⟩
    · rw [before_append w (Nat.le_of_lt hlt)]
      exact h.since j e hj he
    · rw [before_length]
      exact hd

/-- **A history** leaves a listing that follows the program counter and has the lines of the memory
as it was when the listing was taken last. -/
theorem listed_afterAll {config : Config} {fonts : FontSet} {host : Host τ}
    (hw : create config fonts host = .ok w) (deeds : List Deed)
    (hdeeds : ∀ d ∈ deeds, d.LoadsOrSteps) :
    ∃ i, w.TakenLast deeds i ∧
      (w.afterAll deeds).Listed (w.before deeds i).machine.memory := by
  induction deeds using List.reverseRecOn with
  | nil =>
    refine ⟨0, ⟨Nat.le_refl 0, ?_, ?_⟩, (create_relisted hw).listed⟩
    · intro k hk
      cases hk
    · intro j d _ hd
      cases hd
  | append_singleton deeds d ih =>
    obtain ⟨i, htaken, hlisted⟩ := ih fun e he => hdeeds e (List.mem_append_left [d] he)
    obtain ⟨htakes, hkeeps⟩ := ((create_shows hw).1.afterAll deeds).listed_after hlisted
      (hdeeds d (List.mem_append_right deeds List.mem_cons_self))
    have hlast : w.afterAll (deeds ++ [d]) = (w.afterAll deeds).after d :=
      afterAll_append w deeds [d]
    by_cases hd : d.TakesListing (w.afterAll deeds)
    · have hall : w.before (deeds ++ [d]) (deeds.length + 1) = w.afterAll (deeds ++ [d]) := by
        rw [before, List.take_of_length_le (by rw [List.length_append, List.length_singleton])]
      refine ⟨deeds.length + 1, takenLast_of_takes hd, ?_⟩
      rw [hall, hlast]
      exact (htakes hd).listed
    · refine ⟨i, htaken.concat hd, ?_⟩
      rw [before_append w htaken.le, hlast]
      exact hkeeps hd

end Deeds

/-! ### A program that writes over its own code -/

/-- A program that stores a register over the high byte of its third instruction. -/
def overwritingData : Bytes := #[0xA2, 0x04, 0xF0, 0x55, 0x60, 0xE0]

/-- The third instruction as it is loaded. -/
theorem overwritingData_third : (Memory.blank.loadRom overwritingData).get 517 = 0xE0 ∧
    (Memory.blank.loadRom overwritingData).line 516 = ⟨516, "60 E0", "LD V0, #$E0"⟩ := by
  have hhigh : (Memory.blank.loadRom overwritingData).get (516 : Fin 4095).castSucc = 0x60 := by
    rw [Memory.get_loadRom, if_neg (by decide),
      show (516 : Fin 4095).castSucc.val - 512 = 4 from rfl]
    rfl
  have hlow : (Memory.blank.loadRom overwritingData).get (516 : Fin 4095).succ = 0xE0 := by
    rw [Memory.get_loadRom, if_neg (by decide), show (516 : Fin 4095).succ.val - 512 = 5 from rfl]
    rfl
  refine ⟨hlow, (Memory.line_eq hhigh hlow).trans ?_⟩
  decide +kernel

/-- Load it, and make two steps. -/
def overwriting : List Deed := [.loadRom "over.ch8" (some overwritingData), .step, .step]

section Overwriting

variable {s : System Rat} {r : Registers} (hkeypad : s.machine.keypad = .initial)
  (hmemory : s.machine.memory = Memory.blank.loadRom overwritingData)

include hkeypad hmemory

/-- The first instruction lets the index register point to the third one. -/
theorem overwriting_first (hregisters : s.machine.registers = r.reset) :
    (s.after .step).machine.keypad = .initial ∧
      (s.after .step).machine.memory = Memory.blank.loadRom overwritingData ∧
      (s.after .step).machine.registers = { r.reset with index := 516, pc := 514 } := by
  have hdecode : Instruction.decode (s.machine.memory.word 512) = .setIndex 516 := by
    have hword : s.machine.memory.word 512 = 0xA204 := by
      rw [hmemory]
      exact Memory.word_loadRom _ _ (k := 0) rfl
    rw [hword]
    decide
  obtain ⟨hkeypad', hmemory', hregisters'⟩ := System.after_computed (a := 512)
    (f := fun r => { r with index := 516 }) (by rw [hkeypad]; rfl) (by rw [hkeypad]; rfl)
    (by rw [hregisters]; rfl) hdecode fun t => ⟨_, rfl⟩
  rw [hregisters] at hregisters'
  exact ⟨hkeypad'.trans hkeypad, hmemory'.trans hmemory, hregisters'⟩

/-- The second one stores the register there, so that the third one becomes another one. -/
theorem overwriting_second (hs : s.machine.WellFormed)
    (hregisters : s.machine.registers = { r.reset with index := 516, pc := 514 }) :
    (s.after .step).machine.registers.pc = 516 ∧
      (s.after .step).machine.memory.line 516 = ⟨516, "00 E0", "CLS"⟩ := by
  have hdecode : Instruction.decode (s.machine.memory.word 514) = .store 0 := by
    have hword : s.machine.memory.word 514 = 0xF055 := by
      rw [hmemory]
      exact Memory.word_loadRom _ _ (k := 2) rfl
    rw [hword]
    decide
  have hpc : s.machine.registers.pc = ((514 : Fin 4095).val : Int) := by
    rw [hregisters]
    rfl
  have hready := (System.registers_fetched (by rw [hkeypad]; rfl) 514).trans hregisters
  obtain ⟨memory, accesses, hcells, hrun⟩ := Action.execute_store_eq 0
    (s := s.prepared.fetched 514) (hs.registers.deliver _)
  rw [hready] at hcells hrun
  replace hcells : ∀ a, memory.get a = s.machine.memory.storedAt 516 [0] a := hcells
  have hinside : (516 : Int) + ((0 : Fin 16).val + 1 : Nat) ≤ 4096 := by decide
  have hok := hrun.trans (if_pos (.inr hinside))
  rw [System.after, Action.step_inside (by rw [hkeypad]; rfl) hpc, hdecode, hok]
  refine ⟨?_, ?_⟩
  · show (s.prepared.fetched 514).machine.registers.pc + 2 = 516
    rw [hready]
    rfl
  · have hhigh : memory.get (516 : Fin 4095).castSucc = 0 := (hcells 516).trans rfl
    have hlow : memory.get (516 : Fin 4095).succ = 0xE0 := by
      refine (hcells 517).trans ((Memory.storedAt_of_outside _ (by decide)).trans ?_)
      rw [hmemory]
      exact overwritingData_third.1
    refine (Memory.line_eq hhigh hlow).trans ?_
    decide +kernel

end Overwriting

/-- Both places that the steps come to are in the listing, so it is not taken anew. -/
theorem Relisted.overwriting_stays {w : Window Rat} {r : Registers} (h : w.Relisted)
    (hw : w.Sound) (hkeypad : w.machine.keypad = .initial)
    (hmemory : w.machine.memory = Memory.blank.loadRom overwritingData)
    (hregisters : w.machine.registers = r.reset) :
    ((w.after .step).after .step).machine.registers.pc = 516 ∧
      ((w.after .step).after .step).machine.memory.line 516 = ⟨516, "00 E0", "CLS"⟩ ∧
      ((w.after .step).after .step).listing.Highlights (w.machine.memory.line 516) := by
  have hstart : Listing.startFor w.machine.registers.pc = 512 := by
    rw [hregisters]
    rfl
  have htaken := h.taken
  rw [hstart] at htaken
  -- the first step
  obtain ⟨hkeypad', hmemory', hregisters'⟩ := overwriting_first hkeypad hmemory hregisters
  have hfirst : (w.session.system.after .step).machine.registers.pc = 514 := by
    rw [hregisters']
  obtain ⟨hmachine, hfollows, hlines⟩ :=
    hw.after_step h.follows.painted hfirst (htaken.reaches 1 (by decide))
  rw [← hmachine] at hkeypad' hmemory' hregisters'
  -- the second step
  have hsound : (w.after .step).Sound := hw.after .step
  obtain ⟨hpc, hline⟩ := overwriting_second hkeypad' hmemory' hsound.machine hregisters'
  obtain ⟨hmachine', hfollows', hlines'⟩ := hsound.after_step hfollows.painted hpc
    ((Listing.rowOf?_congr hlines 516).trans_ne (htaken.reaches 2 (by decide)))
  rw [← hmachine'] at hpc hline
  refine ⟨hpc, hline, ?_⟩
  exact hfollows'.highlights (a := 516) (htaken.lists.congr (hlines'.trans hlines))

/-- After the two steps the row of the next instruction shows the one that was there before. -/
theorem overwriting_ends :
    ∃ w : Window Rat, create .default ⟨[], "Monospace"⟩ (Host.still 0 fun _ => 0) = .ok w ∧
      (w.afterAll overwriting).machine.registers.pc = 516 ∧
      (w.afterAll overwriting).machine.memory.line 516 = ⟨516, "00 E0", "CLS"⟩ ∧
      (w.afterAll overwriting).listing.Highlights ⟨516, "60 E0", "LD V0, #$E0"⟩ := by
  obtain ⟨w, -, hw, hsound, -⟩ :=
    create_default ⟨[], "Monospace"⟩ (Host.still (0 : Rat) fun _ => 0)
  have hfile : RomFile.read "over.ch8" (some overwritingData) = .ok overwritingData := rfl
  have hpainted := (create_relisted hw).follows.painted
  have htaken := (hsound.loadRom_relisted hpainted hfile).stateOf
  obtain ⟨hshown, hover⟩ := (hsound.loadRom_ends hfile).stateOf
  obtain ⟨journal, hrun⟩ := hover.system
  obtain ⟨now, host, happly, -⟩ := Action.resetAndLoad_apply overwritingData
    { w.session.system with host.journal := journal }
  rw [hrun] at happly
  have hsystem := (EStateM.Result.ok.inj happly).2
  obtain ⟨hpc, hline, hhighlights⟩ := htaken.overwriting_stays
    (r := w.session.system.machine.registers) hshown.sound (by rw [machine, hsystem]; rfl)
    (by rw [machine, hsystem]) (by rw [machine, hsystem])
  refine ⟨w, hw, hpc, hline, ?_⟩
  have hlisted : (stateOf (loadRom "over.ch8" (some overwritingData) w)).machine.memory.line 516 =
      ⟨516, "60 E0", "LD V0, #$E0"⟩ := by
    rw [machine, hsystem]
    exact overwritingData_third.2
  rw [← hlisted]
  exact hhighlights

/-! ### The row of the next instruction -/

/-- **The row of the next instruction.**  Programs are loaded and started over, and steps are made,
in any order.  As long as the program counter is at a word, one row has the colour of the current
row, and it shows the word as it was when the listing was taken last: that was with the window, or
with a deed that started over or stepped to a place which the listing lacked, and no deed since then
was of this kind.  So the row shows the word that is there now if and only if its two bytes are as
they were then; and the next step, if it carries anything out, carries out the word that is there
now. -/
theorem next_highlighted [TimeScale τ] {w : Window τ} {config : Config} {fonts : FontSet}
    {host : Host τ} (hw : create config fonts host = .ok w) (deeds : List Deed)
    (hdeeds : ∀ d ∈ deeds, d.LoadsOrSteps) {a : Fin 4095}
    (hpc : (w.afterAll deeds).machine.registers.pc = a.val) :
    ∃ i, w.TakenLast deeds i ∧
      (w.afterAll deeds).listing.Highlights ((w.before deeds i).machine.memory.line a) ∧
      ((w.afterAll deeds).listing.Highlights ((w.afterAll deeds).machine.memory.line a) ↔
        (w.before deeds i).machine.memory.get a.castSucc =
            (w.afterAll deeds).machine.memory.get a.castSucc ∧
          (w.before deeds i).machine.memory.get a.succ =
            (w.afterAll deeds).machine.memory.get a.succ) ∧
      ∀ snapshot s, Action.step (w.afterAll deeds).session.system = .ok (some snapshot) s →
        snapshot.instruction.text = ((w.afterAll deeds).machine.memory.line a).text := by
  obtain ⟨i, htaken, hfollows, hlists⟩ := listed_afterAll hw deeds hdeeds
  rw [hpc] at hfollows
  have hhighlights := hfollows.highlights hlists
  refine ⟨i, htaken, hhighlights, hhighlights.iff_cells, ?_⟩
  intro snapshot s hstep
  obtain ⟨-, b, -, hb, hinstruction, -⟩ := Action.step_snapshot hstep
  obtain rfl : b = a := Fin.ext (Int.ofNat.inj (hb.symm.trans hpc))
  rw [hinstruction]
  rfl

/-- The listing was taken before the steps, and one byte has changed since. -/
theorem next_highlighted_overwriting :
    ∃ w : Window Rat, create .default ⟨[], "Monospace"⟩ (Host.still 0 fun _ => 0) = .ok w ∧
      (∀ d ∈ overwriting, d.LoadsOrSteps) ∧
      (w.afterAll overwriting).machine.registers.pc = 516 ∧
      ∃ i, w.TakenLast overwriting i ∧
        (w.afterAll overwriting).listing.Highlights
          ((w.before overwriting i).machine.memory.line 516) ∧
        ¬ ((w.before overwriting i).machine.memory.get 516 =
              (w.afterAll overwriting).machine.memory.get 516 ∧
            (w.before overwriting i).machine.memory.get 517 =
              (w.afterAll overwriting).machine.memory.get 517) := by
  obtain ⟨w, hw, hpc, hline, hshown⟩ := overwriting_ends
  have hdeeds : ∀ d ∈ overwriting, d.LoadsOrSteps := by
    simp only [overwriting, List.mem_cons, List.not_mem_nil, or_false]
    rintro d (rfl | rfl | rfl) <;> trivial
  obtain ⟨i, htaken, hhighlights, hright, -⟩ :=
    next_highlighted hw overwriting hdeeds (a := 516) hpc
  refine ⟨w, hw, hdeeds, hpc, i, htaken, hhighlights, fun hsame => ?_⟩
  have hnow := hright.2 hsame
  rw [hline] at hnow
  exact absurd (hshown.bytes_eq hnow) (by decide)

/-- **The next instruction is not shown** once the program has written over it: the row of the next
instruction shows other bytes than are there, and another instruction than the next step carries
out. -/
theorem next_written_over :
    ∃ w : Window Rat, create .default ⟨[], "Monospace"⟩ (Host.still 0 fun _ => 0) = .ok w ∧
      (w.afterAll overwriting).machine.registers.pc = 516 ∧
      (w.afterAll overwriting).machine.memory.line 516 = ⟨516, "00 E0", "CLS"⟩ ∧
      (w.afterAll overwriting).listing.Highlights ⟨516, "60 E0", "LD V0, #$E0"⟩ ∧
      ¬ (w.afterAll overwriting).listing.Highlights
        ((w.afterAll overwriting).machine.memory.line 516) := by
  obtain ⟨w, hw, hpc, hline, hhighlights⟩ := overwriting_ends
  refine ⟨w, hw, hpc, hline, hhighlights, fun hnow => ?_⟩
  rw [hline] at hnow
  exact absurd (hhighlights.bytes_eq hnow) (by decide)

end Window

end Chip8
