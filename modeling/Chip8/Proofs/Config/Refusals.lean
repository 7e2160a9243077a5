import Chip8.Config.Document
import Chip8.Proofs.Config.Quoting
import Chip8.Proofs.Config.Reading

/-!
# Documents that fail otherwise

What is wrong with a document is told as a fault of one of its values, with two exceptions that
nobody who opens a file foresees.  A section is taken for a mapping without a check, so a section
that is none fails in another way.  And a colour, a number or a code that is refused is quoted, which
fails in another way if it is nested deeper than there is room for.

* `Strays` — a reader that fails in such a way; one lemma for each reader says when it does;
* `Misshapen`, `Overdeep` — the documents in which the reader comes to a section that is no mapping,
  or to a value that it cannot quote;
* `strays_ofValue_iff` and `ofFile_strays_iff` — **these documents, and no others, fail in such a
  way**, unless it is the loader that does.
-/

namespace Chip8

namespace Config

variable {room : Nat} {α β : Type}

/-- A reader that fails for a fault that is not foreseen. -/
def Strays (room : Nat) (x : Except ConfigFault α) : Prop :=
  ∃ f, x = .error f ∧ f.isForeseen room = false

/-! ## Sequences -/

section Sequences

variable {x : Except ConfigFault α} {f : α → Except ConfigFault β}

theorem not_strays_ok (a : α) : ¬ Strays room (.ok a : Except ConfigFault α) :=
  fun ⟨_, h, _⟩ => nomatch h

theorem strays_error_iff {f : ConfigFault} :
    Strays room (.error f : Except ConfigFault α) ↔ f.isForeseen room = false := by
  constructor
  · rintro ⟨_, h, hf⟩
    cases h
    exact hf
  · exact fun hf => ⟨f, rfl, hf⟩

/-- A fault that quotes one value fails with that value. -/
theorem strays_quoting_iff {f : ConfigFault} {v : Value} (h : f.quotes = [v]) :
    Strays room (.error f : Except ConfigFault α) ↔ v.TooDeep room :=
  strays_error_iff.trans (ConfigFault.isForeseen_quoting h room)

theorem strays_bind_iff :
    Strays room (x >>= f) ↔ Strays room x ∨ ∃ a, x = .ok a ∧ Strays room (f a) := by
  constructor
  · rintro ⟨e, h, he⟩
    rcases Except.bind_eq_error_iff.1 h with h | ⟨a, ha, h⟩
    · exact .inl ⟨e, h, he⟩
    · exact .inr ⟨a, ha, e, h, he⟩
  · rintro (⟨e, h, he⟩ | ⟨a, ha, e, h, he⟩)
    · exact ⟨e, Except.bind_eq_error_iff.2 (.inl h), he⟩
    · exact ⟨e, Except.bind_eq_error_iff.2 (.inr ⟨a, ha, h⟩), he⟩

theorem not_strays_integerText (x : Except Text.IntegerError α) :
    ¬ Strays room (x.mapError .integerText) := by
  rintro ⟨f, h, hf⟩
  obtain ⟨reason, -, rfl⟩ := Except.mapError_eq_error_iff.1 h
  cases hf

end Sequences

/-! ## Fields -/

/-- An integer is quoted if it is neither a number nor a text. -/
theorem strays_readInt_iff (v : Value) : Strays room (readInt v) ↔ v.TooDeep room := by
  cases v with
  | int n =>
    refine ⟨fun h => absurd h (not_strays_ok n), fun h => ?_⟩
    rw [Value.TooDeep, Value.obstacle?] at h
    split at h <;> cases h
  | text s =>
    refine ⟨fun h => absurd h (not_strays_integerText _), fun h => ?_⟩
    cases h
  | _ => exact strays_quoting_iff rfl

theorem not_tooDeep_of_readInt {v : Value} {n : Int} (h : readInt v = .ok n) :
    ¬ v.TooDeep room := by
  intro hdeep
  obtain ⟨f, hf, -⟩ := (strays_readInt_iff v).2 hdeep
  rw [h] at hf
  cases hf

theorem strays_readPositive_iff (name : String) (v : Value) :
    Strays room (readPositive name v) ↔ v.TooDeep room := by
  rw [readPositive, strays_bind_iff, strays_readInt_iff]
  refine ⟨?_, .inl⟩
  rintro (h | ⟨n, -, h⟩)
  · exact h
  · split at h
    · exact (strays_quoting_iff rfl).1 h
    · exact absurd h (not_strays_ok n)

/-- A value that is quoted because it is no colour, or because it is no component of one, and that
is nested too deeply. -/
inductive DeepColor (room : Nat) : Value → Prop where
  | red {r g b : Value} (h : r.TooDeep room) : DeepColor room (.list [r, g, b])
  | green {r g b : Value} {red : Int} (hred : readInt r = .ok red) (h : g.TooDeep room) :
    DeepColor room (.list [r, g, b])
  | blue {r g b : Value} {red green : Int} (hred : readInt r = .ok red)
      (hgreen : readInt g = .ok green) (h : b.TooDeep room) :
    DeepColor room (.list [r, g, b])
  | range {r g b : Value} {c : Rgb} (hred : readInt r = .ok c.red)
      (hgreen : readInt g = .ok c.green) (hblue : readInt b = .ok c.blue)
      (hrange : c.components.all isByte = false)
      (h : (Value.list [r, g, b]).TooDeep room) :
    DeepColor room (.list [r, g, b])
  | shape {v : Value} (hshape : ∀ r g b, v ≠ .list [r, g, b]) (h : v.TooDeep room) :
    DeepColor room v

theorem not_strays_ofHex (s : String) : ¬ Strays room (Rgb.ofHex s) := by
  unfold Rgb.ofHex
  split
  · rename_i a b c d e f _
    have hpair (a b : Char) : ¬ Strays room (Rgb.readPair [a, b]) := not_strays_integerText _
    simp only [strays_bind_iff, hpair, false_or]
    rintro ⟨red, -, green, -, blue, -, h⟩
    exact not_strays_ok _ h
  · rw [strays_quoting_iff rfl]
    exact nofun

/-- A colour is quoted as a whole, unless one of three components is no integer. -/
theorem strays_readColor_iff (v : Value) : Strays room (readColor v) ↔ DeepColor room v := by
  unfold readColor
  split
  · rename_i s
    refine ⟨fun h => absurd h (not_strays_ofHex s), fun h => ?_⟩
    cases h with
    | shape _ h => cases h
  · rename_i r g b
    simp only [strays_bind_iff, strays_readInt_iff]
    constructor
    · rintro (h | ⟨red, hred, h | ⟨green, hgreen, h | ⟨blue, hblue, h⟩⟩⟩)
      · exact .red h
      · exact .green hred h
      · exact .blue hred hgreen h
      · split at h
        · exact absurd h (not_strays_ok _)
        · rename_i hrange
          exact .range (c := ⟨red, green, blue⟩) hred hgreen hblue (Bool.eq_false_iff.2 hrange)
            ((strays_quoting_iff rfl).1 h)
    · intro h
      cases h with
      | red h => exact .inl h
      | green hred h => exact .inr ⟨_, hred, .inl h⟩
      | blue hred hgreen h => exact .inr ⟨_, hred, .inr ⟨_, hgreen, .inl h⟩⟩
      | @range _ _ _ c hred hgreen hblue hrange h =>
        refine .inr ⟨_, hred, .inr ⟨_, hgreen, .inr ⟨_, hblue, ?_⟩⟩⟩
        rw [if_neg (Bool.eq_false_iff.1 hrange)]
        exact (strays_quoting_iff rfl).2 h
      | shape hshape _ => exact absurd rfl (hshape r g b)
  · rename_i htext hlist
    rw [strays_quoting_iff rfl]
    constructor
    · exact .shape hlist
    · intro h
      cases h with
      | shape _ h => exact h
      | _ => exact absurd rfl (hlist _ _ _)

/-- A field is read as its default if it is left out. -/
theorem strays_readOr_iff {read : Value → Except ConfigFault α} {P : Value → Prop}
    (hread : ∀ v, Strays room (read v) ↔ P v) (entries : Entries) (name : String) (default : α) :
    Strays room (readOr entries name default read) ↔
      ∃ v, Value.get? entries name = some v ∧ P v := by
  unfold readOr
  split
  · rename_i hnone
    exact ⟨fun h => absurd h (not_strays_ok default), fun ⟨_, h, _⟩ => nomatch hnone.symm.trans h⟩
  · rename_i v hsome
    rw [hread]
    constructor
    · exact fun h => ⟨v, hsome, h⟩
    · rintro ⟨w, hw, h⟩
      cases hsome.symm.trans hw
      exact h

/-! ## Keys -/

/-- An entry of a keymap that is read: a key with a text, and a code of the keypad. -/
structure ReadsEntry (key code : Value) : Prop where
  code : ∃ n, readInt code = .ok n ∧ 0 ≤ n ∧ n ≤ 15
  name : key.isWritable = true

/-- An entry of a keymap that is quoted and is nested too deeply: a code that is no integer, or the
key of a code that is out of range. -/
inductive DeepEntry (room : Nat) (key code : Value) : Prop where
  | code (h : code.TooDeep room)
  | name {n : Int} (hcode : readInt code = .ok n) (hrange : n < 0 ∨ 15 < n) (h : key.TooDeep room)

/-- Entries of a keymap that are read up to one that is quoted and is nested too deeply. -/
inductive DeepKeys (room : Nat) : Entries → Prop where
  | here {key code : Value} {rest : Entries} (h : DeepEntry room key code) :
    DeepKeys room ((key, code) :: rest)
  | there {key code : Value} {rest : Entries} (hentry : ReadsEntry key code)
      (h : DeepKeys room rest) :
    DeepKeys room ((key, code) :: rest)

/-- The code has been read, so that it is the key that can be nested too deeply. -/
theorem strays_codeOutOfRange_iff {key code : Value} {n : Int} (hcode : readInt code = .ok n) :
    Strays room (throw (.codeOutOfRange key code) : Except ConfigFault α) ↔ key.TooDeep room :=
  strays_error_iff.trans (ConfigFault.isForeseen_codeOutOfRange (not_tooDeep_of_readInt hcode))

theorem strays_readKeys_iff (entries : Entries) : ∀ keymap,
    Strays room (readKeys keymap entries) ↔ DeepKeys room entries := by
  induction entries with
  | nil => exact fun keymap => ⟨fun h => absurd h (not_strays_ok keymap), fun h => nomatch h⟩
  | cons e entries ih =>
    obtain ⟨key, code⟩ := e
    intro keymap
    rw [readKeys, strays_bind_iff, strays_readInt_iff]
    constructor
    · rintro (h | ⟨n, hcode, h⟩)
      · exact .here (.code h)
      split at h
      · rename_i hrange
        exact .here (.name hcode hrange ((strays_codeOutOfRange_iff hcode).1 h))
      split at h
      · cases strays_error_iff.1 h
      · rename_i hrange hname
        have hwritable : key.isWritable = true := by simpa using hname
        exact .there ⟨⟨n, hcode, by omega⟩, hwritable⟩ ((ih _).1 h)
    · intro h
      cases h with
      | here h => cases h with
        | code h => exact .inl h
        | name hcode hrange h =>
          refine .inr ⟨_, hcode, ?_⟩
          rw [if_pos hrange]
          exact (strays_codeOutOfRange_iff hcode).2 h
      | there hentry h =>
        obtain ⟨n, hcode, hrange⟩ := hentry.code
        refine .inr ⟨n, hcode, ?_⟩
        rw [if_neg (by omega), hentry.name]
        exact (ih _).2 h

/-- A keymap that is neither a mapping nor nothing. -/
def isMisplacedKeymap : Option Value → Bool
  | none => false
  | some .null => false
  | some (.map _) => false
  | some _ => true

theorem strays_readKeymap_iff (v : Option Value) :
    Strays room (readKeymap v) ↔
      isMisplacedKeymap v = true ∨ ∃ entries, v = some (.map entries) ∧ DeepKeys room entries := by
  cases v with
  | none =>
    refine ⟨fun h => absurd h (not_strays_ok _), ?_⟩
    rintro (h | ⟨_, h, -⟩) <;> cases h
  | some v => cases v with
    | null =>
      refine ⟨fun h => absurd h (not_strays_ok _), ?_⟩
      rintro (h | ⟨_, h, -⟩) <;> cases h
    | map entries =>
      rw [readKeymap, strays_readKeys_iff]
      constructor
      · exact fun h => .inr ⟨entries, rfl, h⟩
      · rintro (h | ⟨_, hentries, h⟩)
        · cases h
        · cases hentries
          exact h
    | _ => exact ⟨fun _ => .inl rfl, fun _ => ⟨.sectionNotMapping, rfl, rfl⟩⟩

/-! ## Sections -/

/-- After a section, it is the section that fails, or what follows with its entries. -/
theorem strays_readSection_bind_iff {v : Option Value} {f : Entries → Except ConfigFault α} :
    Strays room (readSection v >>= f) ↔ isMisplaced v = true ∨ Strays room (f (entriesOf v)) := by
  rw [readSection_eq]
  cases isMisplaced v with
  | true => exact ⟨fun _ => .inl rfl, fun _ => ⟨.sectionNotMapping, rfl, rfl⟩⟩
  | false => exact ⟨.inr, fun h => h.resolve_left Bool.false_ne_true⟩

/-- What is read of the section of the display: two colours and a scale. -/
structure ReadsDisplay (display : Entries) (foreground background : Rgb) (scale : Int) : Prop where
  hforeground : readOr display "foreground" default.foreground readColor = .ok foreground
  hbackground : readOr display "background" default.background readColor = .ok background
  hscale : readOr display "scale" default.scale (readPositive "display.scale") = .ok scale

/-- A section of the display in which the reader comes to a value that is quoted and is nested too
deeply. -/
inductive DeepDisplay (room : Nat) (display : Entries) : Prop where
  | foreground {v : Value} (hv : Value.get? display "foreground" = some v) (h : DeepColor room v)
  | background {v : Value} {foreground : Rgb}
      (hforeground : readOr display "foreground" default.foreground readColor = .ok foreground)
      (hv : Value.get? display "background" = some v) (h : DeepColor room v)
  | scale {v : Value} {foreground background : Rgb}
      (hforeground : readOr display "foreground" default.foreground readColor = .ok foreground)
      (hbackground : readOr display "background" default.background readColor = .ok background)
      (hv : Value.get? display "scale" = some v) (h : v.TooDeep room)

/-- After the section of the display, it is one of its values that fails, or what follows with what
was read of it. -/
theorem strays_display_bind_iff {display : Entries} {f : Rgb → Rgb → Int → Except ConfigFault α} :
    Strays room (do
      let foreground ← readOr display "foreground" default.foreground readColor
      let background ← readOr display "background" default.background readColor
      let scale ← readOr display "scale" default.scale (readPositive "display.scale")
      f foreground background scale) ↔
    DeepDisplay room display ∨ ∃ foreground background scale,
      ReadsDisplay display foreground background scale ∧
        Strays room (f foreground background scale) := by
  simp only [strays_bind_iff, strays_readOr_iff strays_readColor_iff,
    strays_readOr_iff (strays_readPositive_iff _)]
  constructor
  · rintro (⟨v, hv, h⟩ | ⟨foreground, hforeground, ⟨v, hv, h⟩ |
      ⟨background, hbackground, ⟨v, hv, h⟩ | ⟨scale, hscale, h⟩⟩⟩)
    · exact .inl (.foreground hv h)
    · exact .inl (.background hforeground hv h)
    · exact .inl (.scale hforeground hbackground hv h)
    · exact .inr ⟨_, _, _, ⟨hforeground, hbackground, hscale⟩, h⟩
  · rintro ((⟨hv, h⟩ | ⟨hforeground, hv, h⟩ | ⟨hforeground, hbackground, hv, h⟩) |
      ⟨foreground, background, scale, hreads, h⟩)
    · exact .inl ⟨_, hv, h⟩
    · exact .inr ⟨_, hforeground, .inl ⟨_, hv, h⟩⟩
    · exact .inr ⟨_, hforeground, .inr ⟨_, hbackground, .inl ⟨_, hv, h⟩⟩⟩
    · exact .inr ⟨_, hreads.hforeground, .inr ⟨_, hreads.hbackground, .inr ⟨_, hreads.hscale, h⟩⟩⟩

/-- What is read of the section of the speeds: a number of instructions and a time. -/
structure ReadsTiming (timing : Entries) (instructions interval : Int) : Prop where
  hinstructions : readOr timing "instructions_per_frame" default.instructionsPerFrame
    (readPositive "timing.instructions_per_frame") = .ok instructions
  hinterval : readOr timing "frame_interval_ms" default.frameInterval
    (readPositive "timing.frame_interval_ms") = .ok interval

/-- A section of the speeds in which the reader comes to a value that is quoted and is nested too
deeply. -/
inductive DeepTiming (room : Nat) (timing : Entries) : Prop where
  | instructions {v : Value} (hv : Value.get? timing "instructions_per_frame" = some v)
      (h : v.TooDeep room)
  | interval {v : Value} {instructions : Int}
      (hinstructions : readOr timing "instructions_per_frame" default.instructionsPerFrame
        (readPositive "timing.instructions_per_frame") = .ok instructions)
      (hv : Value.get? timing "frame_interval_ms" = some v) (h : v.TooDeep room)

theorem strays_timing_bind_iff {timing : Entries} {f : Int → Int → Except ConfigFault α} :
    Strays room (do
      let instructions ← readOr timing "instructions_per_frame" default.instructionsPerFrame
        (readPositive "timing.instructions_per_frame")
      let interval ← readOr timing "frame_interval_ms" default.frameInterval
        (readPositive "timing.frame_interval_ms")
      f instructions interval) ↔
    DeepTiming room timing ∨ ∃ instructions interval,
      ReadsTiming timing instructions interval ∧ Strays room (f instructions interval) := by
  simp only [strays_bind_iff, strays_readOr_iff (strays_readPositive_iff _)]
  constructor
  · rintro (⟨v, hv, h⟩ | ⟨instructions, hinstructions, ⟨v, hv, h⟩ | ⟨interval, hinterval, h⟩⟩)
    · exact .inl (.instructions hv h)
    · exact .inl (.interval hinstructions hv h)
    · exact .inr ⟨_, _, ⟨hinstructions, hinterval⟩, h⟩
  · rintro ((⟨hv, h⟩ | ⟨hinstructions, hv, h⟩) | ⟨instructions, interval, hreads, h⟩)
    · exact .inl ⟨_, hv, h⟩
    · exact .inr ⟨_, hinstructions, .inl ⟨_, hv, h⟩⟩
    · exact .inr ⟨_, hreads.hinstructions, .inr ⟨_, hreads.hinterval, h⟩⟩

/-! ## Documents -/

/-- A mapping in which the reader comes to a section that is no mapping: nothing that is read
before it is wrong. -/
inductive Misshapen (data : Entries) : Prop where
  | options (h : isMisplaced (Value.get? data "quirks") = true)
  | display (h : isMisplaced (Value.get? data "display") = true)
  | timing {foreground background : Rgb} {scale : Int}
      (hdisplay : ReadsDisplay (entriesOf (Value.get? data "display")) foreground background scale)
      (h : isMisplaced (Value.get? data "timing") = true)
  | keymap {foreground background : Rgb} {scale instructions interval : Int}
      (hdisplay : ReadsDisplay (entriesOf (Value.get? data "display")) foreground background scale)
      (htiming : ReadsTiming (entriesOf (Value.get? data "timing")) instructions interval)
      (h : isMisplacedKeymap (Value.get? data "keymap") = true)

/-- A mapping in which the reader comes to a value that is quoted and is nested too deeply: nothing
that is read before it is wrong, unless it is a section. -/
inductive Overdeep (room : Nat) (data : Entries) : Prop where
  | display (h : DeepDisplay room (entriesOf (Value.get? data "display")))
  | timing {foreground background : Rgb} {scale : Int}
      (hdisplay : ReadsDisplay (entriesOf (Value.get? data "display")) foreground background scale)
      (h : DeepTiming room (entriesOf (Value.get? data "timing")))
  | keymap {foreground background : Rgb} {scale instructions interval : Int} {entries : Entries}
      (hdisplay : ReadsDisplay (entriesOf (Value.get? data "display")) foreground background scale)
      (htiming : ReadsTiming (entriesOf (Value.get? data "timing")) instructions interval)
      (hkeymap : Value.get? data "keymap" = some (.map entries)) (h : DeepKeys room entries)

/-- **A mapping fails unforeseen exactly if it is misshapen, or nested too deeply.** -/
theorem strays_mapping_iff (room : Nat) (data : Entries) :
    Strays room (ofValue (.map data)) ↔ Misshapen data ∨ Overdeep room data := by
  rw [ofValue, strays_readSection_bind_iff, strays_readSection_bind_iff, strays_display_bind_iff]
  -- one section after the other: the general rule for sequences would take the sections apart
  simp only [strays_readSection_bind_iff]
  simp only [strays_timing_bind_iff]
  simp only [strays_bind_iff, strays_readKeymap_iff]
  constructor
  · rintro (hoptions | hdisplay | h | ⟨_, _, _, hdisplay, htiming | h |
      ⟨_, _, htiming, (hkeymap | ⟨_, hkeymap, h⟩) | ⟨_, -, h⟩⟩⟩)
    · exact .inl (.options hoptions)
    · exact .inl (.display hdisplay)
    · exact .inr (.display h)
    · exact .inl (.timing hdisplay htiming)
    · exact .inr (.timing hdisplay h)
    · exact .inl (.keymap hdisplay htiming hkeymap)
    · exact .inr (.keymap hdisplay htiming hkeymap h)
    · exact absurd h (not_strays_ok _)
  · rintro ((hoptions | hdisplay | ⟨hdisplay, htiming⟩ | ⟨hdisplay, htiming, hkeymap⟩) |
      (h | ⟨hdisplay, h⟩ | ⟨hdisplay, htiming, hkeymap, h⟩))
    · exact .inl hoptions
    · exact .inr (.inl hdisplay)
    · exact .inr (.inr (.inr ⟨_, _, _, hdisplay, .inl htiming⟩))
    · exact .inr (.inr (.inr ⟨_, _, _, hdisplay, .inr (.inr ⟨_, _, htiming, .inl (.inl hkeymap)⟩)⟩))
    · exact .inr (.inr (.inl h))
    · exact .inr (.inr (.inr ⟨_, _, _, hdisplay, .inr (.inl h)⟩))
    · exact .inr (.inr (.inr ⟨_, _, _, hdisplay,
        .inr (.inr ⟨_, _, htiming, .inl (.inr ⟨_, hkeymap, h⟩)⟩)⟩))

end Config

/-- A value that is a misshapen mapping. -/
def Value.IsMisshapen (v : Value) : Prop := ∃ data, v = .map data ∧ Config.Misshapen data

/-- A value that is a mapping with something in it that is quoted and is nested too deeply. -/
def Value.IsOverdeep (room : Nat) (v : Value) : Prop :=
  ∃ data, v = .map data ∧ Config.Overdeep room data

namespace Config

theorem strays_ofValue_iff (room : Nat) (v : Value) :
    Strays room (ofValue v) ↔ v.IsMisshapen ∨ v.IsOverdeep room := by
  cases v with
  | map data =>
    rw [strays_mapping_iff]
    constructor
    · exact Or.imp (fun h => ⟨data, rfl, h⟩) fun h => ⟨data, rfl, h⟩
    · rintro (⟨_, hdata, h⟩ | ⟨_, hdata, h⟩)
      · cases hdata
        exact .inl h
      · cases hdata
        exact .inr h
  | _ =>
    -- the root is quoted by the name of its kind only
    constructor
    · intro h
      cases strays_error_iff.1 h
    · rintro (⟨_, hdata, -⟩ | ⟨_, hdata, -⟩) <;> cases hdata

/-- Any other value is read, or refused for a fault that is foreseen. -/
theorem ofValue_foreseen_iff (room : Nat) (v : Value) :
    ((∃ c, ofValue v = .ok c) ∨ ∃ f, ofValue v = .error f ∧ f.isForeseen room = true) ↔
      ¬ (v.IsMisshapen ∨ v.IsOverdeep room) := by
  rw [← strays_ofValue_iff]
  cases ofValue v with
  | ok c => exact ⟨fun _ => not_strays_ok c, fun _ => .inl ⟨c, rfl⟩⟩
  | error f => simp [strays_error_iff]

/-! ## Files -/

/-- A document that does not count as true is read as the empty mapping.  Neither of the two fails
unforeseen. -/
theorem strays_truthy_iff (room : Nat) (v : Value) :
    Strays room (ofValue (if v.isTruthy then v else .map [])) ↔
      v.IsMisshapen ∨ v.IsOverdeep room := by
  rw [← strays_ofValue_iff]
  cases htrue : v.isTruthy with
  | true => exact Iff.rfl
  | false => cases v with
    | map data => cases data with
      | nil => exact Iff.rfl
      | cons e data => cases htrue
    | _ => exact ⟨fun h => absurd h (not_strays_ok _), fun h => nomatch strays_error_iff.1 h⟩

end Config

/-- The contents of a file that fail unforeseen: the loader does, or the document that they spell is
misshapen or nested too deeply. -/
inductive DocumentHost.GetsPast (host : DocumentHost) : Option Bytes → Prop where
  | loader {bytes : Bytes} {f : LoadFault} (hload : host.load bytes = .error f)
      (hf : f.isForeseen = false) :
    GetsPast host (some bytes)
  | document {bytes : Bytes} {v : Value} (hload : host.load bytes = .ok v)
      (hv : v.IsMisshapen ∨ v.IsOverdeep host.room) :
    GetsPast host (some bytes)

section Files

variable {host : DocumentHost} {contents : Option Bytes}

/-- Where the loader fails, it does so in a way that is documented: for what is no document, or for
a value that there is not. -/
def DocumentHost.Foresees (host : DocumentHost) (contents : Option Bytes) : Prop :=
  ∀ bytes f, contents = some bytes → host.load bytes = .error f → f.isForeseen = true

/-- With such a loader, it is the document that fails unforeseen. -/
theorem DocumentHost.Foresees.getsPast_iff (h : host.Foresees contents) :
    host.GetsPast contents ↔ ∃ bytes v, contents = some bytes ∧ host.load bytes = .ok v ∧
      (v.IsMisshapen ∨ v.IsOverdeep host.room) := by
  constructor
  · rintro (⟨hload, hf⟩ | ⟨hload, hv⟩)
    · exact absurd (h _ _ rfl hload) (Bool.eq_false_iff.1 hf)
    · exact ⟨_, _, rfl, hload, hv⟩
  · rintro ⟨bytes, v, rfl, hload, hv⟩
    exact .document hload hv

namespace Config

/-- **The files that fail unforeseen.** -/
theorem ofFile_strays_iff :
    (∃ f, ofFile host contents = .error f ∧ f.isForeseen host.room = false) ↔
      host.GetsPast contents := by
  cases contents with
  | none =>
    constructor
    · rintro ⟨f, h, hf⟩
      cases h
      cases hf
    · exact nofun
  | some bytes =>
    cases hload : host.load bytes with
    | error reason =>
      have hfile : ofFile host (some bytes) = .error (.document reason) := by
        rw [ofFile, hload]
        rfl
      rw [hfile]
      constructor
      · rintro ⟨f, h, hf⟩
        cases h
        exact .loader hload hf
      · intro h
        cases h with
        | loader hother hf =>
          cases hload.symm.trans hother
          exact ⟨_, rfl, hf⟩
        | document hother _ => cases hload.symm.trans hother
    | ok v =>
      have hfile : ofFile host (some bytes) =
          (ofValue (if v.isTruthy then v else .map [])).mapError .config := by
        rw [ofFile, hload]
        rfl
      rw [hfile]
      constructor
      · rintro ⟨f, h, hf⟩
        obtain ⟨reason, hread, rfl⟩ := Except.mapError_eq_error_iff.1 h
        exact .document hload ((strays_truthy_iff host.room v).1 ⟨reason, hread, hf⟩)
      · intro h
        cases h with
        | loader hother _ => cases hload.symm.trans hother
        | document hother hv =>
          cases hload.symm.trans hother
          obtain ⟨reason, hread, hf⟩ := (strays_truthy_iff host.room v).2 hv
          exact ⟨.config reason, Except.mapError_eq_error_iff.2 ⟨reason, hread, rfl⟩, hf⟩

end Config

end Files

end Chip8
