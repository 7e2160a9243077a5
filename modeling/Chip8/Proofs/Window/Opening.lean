import Chip8.Proofs.Config.Refusals
import Chip8.Window.Control

/-!
# Opening a configuration in the window

The user chooses a file, and what is wrong with it is told in a box.  A fault of the file that is
not foreseen goes past the box.  What the file spells is left to the loader of documents, of which
nothing is assumed but, in one place, that it fails as is documented (`DocumentHost.Foresees`).

* `OnlyMachine` — what can be done with a window and fails for a fault of the machine, if it fails;
  putting a configuration into effect is one such thing;
* `useContents_refused` — a fault that is foreseen is told, and the machine is left alone;
* `openConfig_faults` — **a document that is misshapen or nested too deeply, and nothing else, goes
  past the box**, unless it is a fault of the loader.
-/

namespace Chip8

namespace Window

variable {τ : Type} {α β : Type}

/-! ## Faults of the machine -/

/-- What fails for a fault of the machine, if it fails. -/
def OnlyMachine (act : WindowAction τ α) : Prop :=
  ∀ w f t, act w = .error f t → ∃ g, f = .machine g

theorem OnlyMachine.bind {act : WindowAction τ α} {next : α → WindowAction τ β}
    (hact : OnlyMachine act) (hnext : ∀ a, OnlyMachine (next a)) : OnlyMachine (act >>= next) := by
  intro w f t h
  rcases bind_eq_error_iff.1 h with h | ⟨a, u, -, h⟩
  · exact hact w f t h
  · exact hnext a u f t h

/-- Answering something else afterwards makes no fault and hides none. -/
theorem bind_pure_eq_error_iff {act : WindowAction τ α} {b : β} {w t : Window τ}
    {f : WindowFault} :
    (act >>= fun _ => pure b) w = .error f t ↔ act w = .error f t :=
  bind_eq_error_iff.trans (or_iff_left fun ⟨_, _, _, h⟩ => nomatch h)

theorem onlyMachine_modify (change : Window τ → Window τ) :
    OnlyMachine (modify change : WindowAction τ Unit) := fun _ _ _ h => nomatch h

theorem onlyMachine_get : OnlyMachine (get : WindowAction τ (Window τ)) := fun _ _ _ h => nomatch h

theorem onlyMachine_check (r : Except Fault α) : OnlyMachine (check r : WindowAction τ α) := by
  intro w f t h
  cases r with
  | ok a => cases h
  | error g =>
    cases h
    exact ⟨g, rfl⟩

theorem onlyMachine_onMachine (act : Action τ α) : OnlyMachine (onMachine act) := by
  intro w f t h
  rw [onMachine, onSession] at h
  split at h
  · cases h
  · cases h
    exact ⟨_, rfl⟩

theorem onlyMachine_refreshScreen : OnlyMachine (refreshScreen : WindowAction τ Unit) :=
  onlyMachine_get.bind fun _ => (onlyMachine_check _).bind fun _ => onlyMachine_modify _

theorem onlyMachine_highlightNext : OnlyMachine (highlightNext : WindowAction τ Unit) :=
  onlyMachine_get.bind fun _ => (onlyMachine_check _).bind fun _ => onlyMachine_modify _

theorem onlyMachine_refreshListing : OnlyMachine (refreshListing : WindowAction τ Unit) :=
  onlyMachine_get.bind fun _ => (onlyMachine_check _).bind fun _ => onlyMachine_modify _

theorem onlyMachine_refreshViews (full : Bool) : OnlyMachine (refreshViews full (τ := τ)) := by
  refine onlyMachine_refreshScreen.bind fun _ => (onlyMachine_modify _).bind fun _ => ?_
  cases full with
  | true =>
    exact onlyMachine_refreshListing.bind fun _ => (onlyMachine_modify _).bind fun _ =>
      onlyMachine_highlightNext
  | false => exact onlyMachine_highlightNext

/-- A configuration is refused by the machine, if by anything. -/
theorem onlyMachine_applyConfig (config : Config) : OnlyMachine (applyConfig config (τ := τ)) :=
  (onlyMachine_modify _).bind fun _ => (onlyMachine_onMachine _).bind fun _ =>
    (onlyMachine_modify _).bind fun _ => onlyMachine_refreshViews false

theorem onlyMachine_refuseConfig (path reason : String) :
    OnlyMachine (refuseConfig path reason (τ := τ)) :=
  (onlyMachine_onMachine _).bind fun _ => onlyMachine_modify _

theorem onlyMachine_useConfigFile (path : String) (config : Config) :
    OnlyMachine (useConfigFile path config (τ := τ)) := by
  intro w f t h
  rw [useConfigFile] at h
  split at h
  · cases h
  · split at h
    · exact onlyMachine_refuseConfig _ _ _ _ _ h
    · cases h
      exact ⟨_, rfl⟩
  · rename_i hrun
    cases h
    exact onlyMachine_applyConfig config _ _ _ hrun

/-! ## Opening a file -/

/-- A refusal is told in a box, and is reported; nothing else changes. -/
theorem refuseConfig_apply (path reason : String) (w : Window τ) :
    ∃ t, refuseConfig path reason w = .ok () t ∧
      t.messages = w.messages.push ⟨"Error", "Failed to load system config: " ++ reason⟩ ∧
      t.machine = w.machine := ⟨_, rfl, rfl, rfl⟩

section Files

variable {host : DocumentHost} {contents : Option Bytes} {f : ConfigFileFault}

/-- What is done with the contents of a chosen file. -/
def useContents (host : DocumentHost) (path : String) (contents : Option Bytes) :
    WindowAction τ Unit :=
  match Config.ofFile host contents with
  | .ok config => useConfigFile path config
  | .error f =>
    if f.isForeseen host.room then refuseConfig path (f.message host.room path)
    else throw (.config f)

/-- A file is used if the command can be given and a file is chosen. -/
theorem openConfig_eq (host : DocumentHost) (path : String) (contents : Option Bytes)
    (w : Window τ) :
    openConfig host path contents w =
      if w.switches.loadConfig = true ∧ path ≠ "" then
        (useContents host path contents >>= fun _ => pure (some configDialog)) w
      else .ok (if w.switches.loadConfig then some configDialog else none) w := by
  have hrun : openConfig host path contents w =
      (if (!w.switches.loadConfig) = true then pure none
      else if (path != "") = true then
        useContents host path contents >>= fun _ => pure (some configDialog)
      else pure (some configDialog) : WindowAction τ (Option FileDialog)) w := by
    rw [openConfig, useContents]
    cases Config.ofFile host contents with
    | ok config => rfl
    | error f => cases hforeseen : f.isForeseen host.room <;> simp only [hforeseen] <;> rfl
  rw [hrun]
  cases hcommand : w.switches.loadConfig with
  | false => rfl
  | true =>
    by_cases hpath : path = ""
    · subst hpath
      rfl
    · simp [hpath]

/-- A fault that is foreseen is told, and the machine is left alone. -/
theorem useContents_refused (hfile : Config.ofFile host contents = .error f)
    (hforeseen : f.isForeseen host.room = true) (path : String) (w : Window τ) :
    ∃ t, useContents host path contents w = .ok () t ∧
      t.messages =
        w.messages.push ⟨"Error", "Failed to load system config: " ++ f.message host.room path⟩ ∧
      t.machine = w.machine := by
  rw [useContents, hfile]
  simp only [hforeseen, if_true]
  exact refuseConfig_apply path (f.message host.room path) w

theorem useContents_unforeseen (hfile : Config.ofFile host contents = .error f)
    (hunforeseen : f.isForeseen host.room = false) (path : String) (w : Window τ) :
    useContents host path contents w = .error (.config f) w := by
  rw [useContents, hfile]
  simp only [hunforeseen]
  rfl

/-- **Only what fails unforeseen gets past the box.** -/
theorem useContents_config_iff (path : String) (w : Window τ) :
    (∃ f t, useContents host path contents w = .error (.config f) t) ↔ host.GetsPast contents := by
  rw [← Config.ofFile_strays_iff]
  constructor
  · rintro ⟨f, t, hrun⟩
    cases hfile : Config.ofFile host contents with
    | ok config =>
      rw [useContents, hfile] at hrun
      obtain ⟨g, hg⟩ := onlyMachine_useConfigFile path config _ _ _ hrun
      cases hg
    | error g =>
      refine ⟨g, rfl, Bool.eq_false_iff.2 fun hforeseen => ?_⟩
      obtain ⟨u, htold, -⟩ := useContents_refused hfile hforeseen path w
      rw [htold] at hrun
      cases hrun
  · rintro ⟨f, hfile, hunforeseen⟩
    exact ⟨f, w, useContents_unforeseen hfile hunforeseen path w⟩

theorem openConfig_config_iff (path : String) (w : Window τ) :
    (∃ f t, openConfig host path contents w = .error (.config f) t) ↔
      w.switches.loadConfig = true ∧ path ≠ "" ∧ host.GetsPast contents := by
  rw [openConfig_eq]
  by_cases hchosen : w.switches.loadConfig = true ∧ path ≠ ""
  · rw [if_pos hchosen, and_iff_right hchosen.1, and_iff_right hchosen.2,
      ← useContents_config_iff path w]
    simp only [bind_pure_eq_error_iff]
  · rw [if_neg hchosen]
    exact ⟨fun ⟨_, _, h⟩ => (nomatch h), fun ⟨hcommand, hpath, _⟩ =>
      absurd ⟨hcommand, hpath⟩ hchosen⟩

end Files

/-- **What becomes of a document that is wrong.**  A value that is neither misshapen nor nested too
deeply is read or refused for a fault that is foreseen, and any other is neither.  In the window,
such a document goes past the box, as does a fault of the loader that is not foreseen; anything else
that is wrong with a file is told in a box and leaves the machine alone. -/
theorem openConfig_faults (host : DocumentHost) (v : Value) (w : Window τ) (path : String)
    (contents : Option Bytes) :
    (((∃ c, Config.ofValue v = .ok c) ∨
        ∃ f, Config.ofValue v = .error f ∧ f.isForeseen host.room = true) ↔
      ¬ (v.IsMisshapen ∨ v.IsOverdeep host.room)) ∧
    ((∃ f t, openConfig host path contents w = .error (.config f) t) ↔
      w.switches.loadConfig = true ∧ path ≠ "" ∧ host.GetsPast contents) ∧
    (host.Foresees contents →
      ((∃ f t, openConfig host path contents w = .error (.config f) t) ↔
        w.switches.loadConfig = true ∧ path ≠ "" ∧ ∃ bytes u, contents = some bytes ∧
          host.load bytes = .ok u ∧ (u.IsMisshapen ∨ u.IsOverdeep host.room))) ∧
    (w.switches.loadConfig = true → path ≠ "" → ¬ host.GetsPast contents →
      ∀ f, Config.ofFile host contents = .error f → ∃ t,
        openConfig host path contents w = .ok (some configDialog) t ∧
        t.messages =
          w.messages.push
            ⟨"Error", "Failed to load system config: " ++ f.message host.room path⟩ ∧
        t.machine = w.machine) := by
  refine ⟨Config.ofValue_foreseen_iff host.room v, openConfig_config_iff path w, ?_, ?_⟩
  · intro hforesees
    rw [openConfig_config_iff, hforesees.getsPast_iff]
  · intro hcommand hpath hbox f hfile
    have hforeseen : f.isForeseen host.room = true := eq_true_of_ne_false fun hunforeseen =>
      hbox (Config.ofFile_strays_iff.1 ⟨f, hfile, hunforeseen⟩)
    obtain ⟨t, hrun, htold, hmachine⟩ := useContents_refused hfile hforeseen path w
    refine ⟨t, ?_, htold, hmachine⟩
    rw [openConfig_eq, if_pos ⟨hcommand, hpath⟩, bind_of_ok hrun]
    rfl

/-- A window at rest, in which nothing has been told yet. -/
def quietWindow : Window Rat :=
  { session := .powerOn (Host.still 0 fun _ => 0)
    config := .default
    fonts := ⟨[], "Monospace"⟩
    program := none
    timer := ⟨false, 16⟩
    switches := .ofState false false
    status := "No ROM loaded"
    buzzing := false
    display := .initial 10
    listing := .empty
    trace := #[]
    registers := .blank
    messages := #[] }

/-- A file in which the options are a block of text. -/
def blockFile : Bytes := "quirks: |\n  yes\n".toUTF8.data

/-- A loader that knows the document in `blockFile`, and no other. -/
def blockHost : DocumentHost where
  load bytes :=
    if bytes = blockFile then .ok (.map [(.text "quirks", .text "yes\n")])
    else .error (.malformed "no document")
  room := 900

/-- Options that are a block of text go past the box, and a file that does not exist is told. -/
theorem openConfig_blockFile :
    (∃ f t, openConfig blockHost "colors.yaml" (some blockFile) quietWindow =
      .error (.config f) t) ∧
    ∃ t, openConfig blockHost "colors.yaml" none quietWindow = .ok (some configDialog) t ∧
      t.messages = #[⟨"Error", "Failed to load system config: " ++
        ConfigFileFault.missing.message 900 "colors.yaml"⟩] ∧
      t.machine = quietWindow.machine := by
  have hload : blockHost.load blockFile = .ok (.map [(.text "quirks", .text "yes\n")]) := by
    simp only [blockHost, if_true]
  have hforesees : blockHost.Foresees (some blockFile) := by
    rintro bytes f hbytes h
    cases hbytes
    cases hload.symm.trans h
  constructor
  · have hshape : (Value.map [(.text "quirks", .text "yes\n")]).IsMisshapen :=
      ⟨_, rfl, .options rfl⟩
    exact ((openConfig_faults blockHost .null quietWindow "colors.yaml" (some blockFile)).2.2.1
      hforesees).2 ⟨rfl, by decide, blockFile, _, rfl, hload, .inl hshape⟩
  · have hbox : ¬ blockHost.GetsPast none := nofun
    exact (openConfig_faults blockHost .null quietWindow "colors.yaml" none).2.2.2 rfl (by decide)
      hbox .missing rfl

/-- Options that are a text are neither read nor refused for a fault that is foreseen, and neither
is a colour that is nested one level deeper than there is room for. -/
theorem ofValue_textOptions :
    let options : Value := .map [(.text "quirks", .text "yes")]
    let color (room : Nat) : Value :=
      .map [(.text "display", .map [(.text "foreground", .nest (room + 1))])]
    Config.ofValue options = .error .sectionNotMapping ∧ options.IsMisshapen ∧
      ∀ room, (color room).IsOverdeep room ∧ ∀ v ∈ [options, color room],
        ¬ ((∃ c, Config.ofValue v = .ok c) ∨
          ∃ f, Config.ofValue v = .error f ∧ f.isForeseen room = true) := by
  intro options color
  have hshape : options.IsMisshapen := ⟨_, rfl, .options rfl⟩
  refine ⟨rfl, hshape, fun room => ?_⟩
  have hdeep : (color room).IsOverdeep room := by
    refine ⟨_, rfl, .display (.foreground rfl (.shape ?_ ?_))⟩
    · rintro r g b h
      cases h
    · exact Value.tooDeep_nest.2 (Nat.lt_succ_self room)
  refine ⟨hdeep, ?_⟩
  simp only [List.forall_mem_cons, Config.ofValue_foreseen_iff, Classical.not_not]
  exact ⟨.inl hshape, .inr hdeep, List.forall_mem_nil _⟩

end Window

end Chip8
