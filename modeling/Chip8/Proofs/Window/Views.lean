import Chip8.Proofs.Machine.WellFormed
import Chip8.Proofs.Screen.Bitmap
import Chip8.Proofs.Window.Painting
import Chip8.Window.Basic

/-!
# What a window shows

The picture, the registers and the trace in a window are copies.  `Window.Shows` says that they are
those of the machine at the moment, and this is what a refresh is for.

* `RegisterPane.shows_update` — a pane that is laid out can show all values, each in its own field;
* `Window.Ends` — what can be done with a window does not fail, and leaves it in a certain way;
* `Window.Sound` — what a window needs for that, from its machine and from its pane;
* `Window.Sound.refreshViews_ends` — **a refresh does not fail, and then the window shows its
  machine**.
-/

namespace Chip8

/-! ## The register pane -/

/-- A name that stands only once in a list is looked up with its own value. -/
theorem lookup_of_mem {l : List (String × Int)} (hnodup : (l.map Prod.fst).Nodup) {v : String × Int}
    (hv : v ∈ l) : l.lookup v.1 = some v.2 := by
  obtain ⟨before, after, rfl⟩ := List.append_of_mem hv
  refine List.lookup_eq_some_iff.2 ⟨before, after, rfl, ?_⟩
  intro p hp
  rw [List.map_append, List.map_cons, List.nodup_append] at hnodup
  have hne := hnodup.2.2 p.1 (List.mem_map_of_mem hp) v.1 List.mem_cons_self
  exact bne_iff_ne.2 hne.symm

namespace RegisterPane

variable {τ : Type}

/-- A pane shows all values: it has a field for each of them, with the value in it, and a stack slot
is dimmed if it is not in use. -/
structure Shows (p : RegisterPane) (r : Registers) (c : Clock τ) : Prop where
  names : p.fields.map Field.name = (values r c).map Prod.fst
  texts : ∀ f ∈ p.fields, ∀ v ∈ values r c, f.name = v.1 → f.text = Field.write f.width v.2
  lit : ∀ f ∈ p.fields, f.lit = !(unusedSlots r).contains f.name

/-- A pane is laid out when it has the fields that it starts with. -/
def LaidOut (p : RegisterPane) : Prop := p.fields.map Field.name = blank.fields.map Field.name

/-- A field with its value written into it. -/
def filled (r : Registers) (c : Clock τ) (f : Field) : Field :=
  { f with
    text := match (values r c).lookup f.name with
      | none => f.text
      | some value => Field.write f.width value
    lit := !(unusedSlots r).contains f.name }

theorem fields_update (p : RegisterPane) (r : Registers) (c : Clock τ) :
    (p.update r c).fields = p.fields.map (filled r c) := by
  rw [update, fields, fields, List.flatMap_map, List.map_flatMap]
  rfl

/-- The fields are laid out for the values, in the same order. -/
theorem map_fst_values (r : Registers) (c : Clock τ) :
    (values r c).map Prod.fst = blank.fields.map Field.name := rfl

/-- No two fields have one name. -/
theorem nodup_names : (blank.fields.map Field.name).Nodup := by decide +kernel

variable {p : RegisterPane}

theorem LaidOut.update (h : p.LaidOut) (r : Registers) (c : Clock τ) : (p.update r c).LaidOut := by
  rw [LaidOut, fields_update, List.map_map]
  exact h

/-- **A pane that is laid out shows what is written into it.** -/
theorem shows_update (h : p.LaidOut) (r : Registers) (c : Clock τ) : (p.update r c).Shows r c where
  names := (h.update r c).trans (map_fst_values r c).symm
  texts := by
    intro f hf v hv hname
    rw [fields_update] at hf
    obtain ⟨g, hg, rfl⟩ := List.mem_map.1 hf
    have hnodup : ((values r c).map Prod.fst).Nodup := by
      rw [map_fst_values]
      exact nodup_names
    have hlookup : (values r c).lookup g.name = some v.2 := by
      rw [show g.name = v.1 from hname]
      exact lookup_of_mem hnodup hv
    simp only [filled, hlookup]
  lit := by
    intro f hf
    rw [fields_update] at hf
    obtain ⟨g, hg, rfl⟩ := List.mem_map.1 hf
    rfl

end RegisterPane

/-! ## The window -/

namespace Window

variable {τ α β : Type}

/-! ### Doing something without a failure -/

/-- What can be done with a window, in some state of it, does not fail, and something holds of its
answer and of the window that it leaves. -/
def Ends (act : WindowAction τ α) (w : Window τ) (Q : α → Window τ → Prop) : Prop :=
  ∃ a t, act w = .ok a t ∧ Q a t

theorem get_apply (w : Window τ) : (get : WindowAction τ (Window τ)) w = .ok w w := rfl

namespace Ends

variable {act : WindowAction τ α} {w : Window τ}

/-- One thing after the other. -/
theorem bind {f : α → WindowAction τ β} {R : α → Window τ → Prop} {Q : β → Window τ → Prop}
    (hact : Ends act w R) (hf : ∀ a t, R a t → Ends (f a) t Q) : Ends (act >>= f) w Q := by
  obtain ⟨a, t, hrun, ht⟩ := hact
  obtain ⟨b, u, hrest, hu⟩ := hf a t ht
  exact ⟨b, u, (bind_of_ok hrun).trans hrest, hu⟩

theorem mono {R Q : α → Window τ → Prop} (h : Ends act w R) (hQ : ∀ a t, R a t → Q a t) :
    Ends act w Q := by
  obtain ⟨a, t, hrun, ht⟩ := h
  exact ⟨a, t, hrun, hQ a t ht⟩

/-- Going on with what is known to have been done. -/
theorem next {f : α → WindowAction τ β} {Q : β → Window τ → Prop} {a : α} {t : Window τ}
    (hrun : act w = .ok a t) (h : Ends (f a) t Q) : Ends (act >>= f) w Q := by
  rw [Ends, bind_of_ok hrun]
  exact h

theorem pure {a : α} {Q : α → Window τ → Prop} (h : Q a w) :
    Ends (Pure.pure a : WindowAction τ α) w Q := ⟨a, w, rfl, h⟩

/-- A look at the window, and then something with what is seen. -/
theorem look {f : Window τ → WindowAction τ β} {Q : β → Window τ → Prop} (h : Ends (f w) w Q) :
    Ends (get >>= f) w Q := h

/-- A change, and then something with the changed window. -/
theorem change {f : Unit → WindowAction τ β} {change : Window τ → Window τ}
    {Q : β → Window τ → Prop} (h : Ends (f ()) (change w) Q) :
    Ends (modify change >>= f) w Q := h

end Ends

/-! ### Refreshing -/

/-- What holds of a window, whatever was done with it. -/
structure Sound (w : Window τ) : Prop where
  machine : w.machine.WellFormed
  registers : w.registers.LaidOut

/-- A window shows its machine: every register, timer and stack slot, the instructions carried out
last, and the picture. -/
structure Shows (w : Window τ) : Prop where
  registers : w.registers.Shows w.machine.registers w.machine.clock
  trace : w.trace = .ofTrace w.machine.trace
  picture : w.display.picture = w.machine.screen.rgb

/-- The window with the picture and the sign of the buzzer as they are now. -/
def pictured (w : Window τ) : Window τ :=
  { w with
    display := { w.display with picture := w.machine.screen.rgb }
    buzzing := 0 < w.machine.clock.sound }

/-- The window with everything as it is now, and with a listing. -/
def refreshed (w : Window τ) (listing : Listing) : Window τ :=
  { w.pictured with
    registers := w.registers.update w.machine.registers w.machine.clock
    trace := .ofTrace w.machine.trace
    listing := listing }

theorem refreshScreen_apply (w : Window τ) : refreshScreen w = .ok () w.pictured := by
  have hpicture : w.display.showPicture w.machine.screen.rgb =
      .ok { w.display with picture := w.machine.screen.rgb } := if_pos (Screen.size_rgb _)
  show (check (w.display.showPicture w.machine.screen.rgb) >>= fun display => _) w = _
  rw [hpicture]
  rfl

theorem highlightNext_of_ok {w : Window τ} {listing : Listing}
    (h : w.listing.highlight w.machine.memory w.machine.registers.pc = .ok listing) :
    highlightNext w = .ok () { w with listing := listing } := by
  show (check (w.listing.highlight w.machine.memory w.machine.registers.pc) >>= fun l => _) w = _
  rw [h]
  rfl

theorem refreshListing_of_ok {w : Window τ} {listing : Listing}
    (h : w.listing.refresh w.machine.memory w.machine.registers.pc = .ok listing) :
    refreshListing w = .ok () { w with listing := listing } := by
  show (check (w.listing.refresh w.machine.memory w.machine.registers.pc) >>= fun l => _) w = _
  rw [h]
  rfl

/-- What a refresh makes of the listing of a window: it follows the program counter, its lines are
those of the memory if it was to be taken anew or lacked the place, and otherwise they stay. -/
structure Relists (w : Window τ) (full : Bool) (t : Listing) : Prop where
  follows : w.listing.Painted → t.Follows w.machine.registers.pc
  anew : full = true ∨ w.listing.Lacks w.machine.registers.pc →
    t.TakenFrom w.machine.memory (Listing.startFor w.machine.registers.pc)
  stays : full = false → ¬ w.listing.Lacks w.machine.registers.pc → t.lines = w.listing.lines

/-- **The views can be refreshed wherever the program counter has come to.** -/
theorem refreshViews_apply {w : Window τ} (h : 0 ≤ w.machine.registers.pc) (full : Bool) :
    ∃ listing, refreshViews full w = .ok () (w.refreshed listing) ∧ w.Relists full listing := by
  rw [refreshViews, bind_of_ok (refreshScreen_apply w)]
  -- the listing is all that is left to change, and it is given by what takes it last
  cases full with
  | false =>
    obtain ⟨t, ht, -, hfollows, hlines⟩ := w.listing.highlight_ends w.machine.memory h
    refine ⟨t, highlightNext_of_ok (w := w.refreshed w.listing) ht, hfollows, ?_, ?_⟩
    · rintro (hfull | hlacks)
      · cases hfull
      · exact (hlines.resolve_left fun hhas => hhas.1 hlacks).2
    · exact fun _ hhas => (hlines.resolve_right fun hlacks => hhas hlacks.1).2
  | true =>
    obtain ⟨taken, htaken, hpainted, hlines, -⟩ := w.listing.refresh_ends w.machine.memory h
    obtain ⟨addresses, hmark⟩ : ∃ addresses, (refreshListing >>= fun _ => markBreakpoints >>=
        fun _ => highlightNext) (w.refreshed w.listing) =
          highlightNext (w.refreshed (taken.setBreakpoints addresses)) := by
      rw [bind_of_ok (refreshListing_of_ok (w := w.refreshed w.listing) htaken)]
      exact ⟨_, rfl⟩
    obtain ⟨t, ht, -, hfollows, hthen⟩ :=
      (taken.setBreakpoints addresses).highlight_ends w.machine.memory h
    refine ⟨t, hmark.trans (highlightNext_of_ok (w := w.refreshed _) ht), ?_, ?_, nofun⟩
    · exact fun _ => hfollows (hpainted.setBreakpoints addresses)
    · intro _
      -- the marks do not change the lines
      rcases hthen with ⟨-, hsame⟩ | ⟨-, hnew⟩
      · exact hlines.congr hsame
      · exact hnew

/-- A later window that shows its machine, under the same configuration. -/
structure Shown (w t : Window τ) : Prop where
  sound : t.Sound
  shows : t.Shows
  config : t.config = w.config

/-- The same window, which now shows its machine. -/
structure Refreshed (w t : Window τ) : Prop extends Shown w t where
  session : t.session = w.session
  timer : t.timer = w.timer

theorem Refreshed.machine {w t : Window τ} (h : w.Refreshed t) : t.machine = w.machine :=
  congrArg (fun session => session.system.machine) h.session

namespace Sound

variable {w : Window τ}

theorem pc_nonneg (h : w.Sound) : 0 ≤ w.machine.registers.pc := h.machine.registers.pc.1

/-- **A refresh does not fail, and then the window shows its machine.** -/
theorem refreshViews_ends (h : w.Sound) (full : Bool) :
    Ends (refreshViews full) w fun _ t => w.Refreshed t := by
  obtain ⟨listing, hviews, -⟩ := refreshViews_apply h.pc_nonneg full
  refine ⟨(), _, hviews, ⟨⟨h.machine, h.registers.update _ _⟩, ⟨?_, rfl, rfl⟩, rfl⟩, rfl, rfl⟩
  exact RegisterPane.shows_update h.registers _ _

end Sound

end Window

end Chip8
