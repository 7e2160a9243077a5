import Chip8.Proofs.Config.Fields
import Chip8.Proofs.Config.Places

/-!
# Documents that spell a configuration out

A document spells a configuration out if every choice stands at its place (`SpellsOut`); what else
stands in it does not matter.  The reader answers with that configuration, and if parts are left out
of the document, with the configuration that has the default choices there.

* `Spells` — a document that spells some choices, the other ones being the default ones; it stays
  one when a part is left out (`Spells.leaveOut`), and is all that the reader needs
  (`ofValue_of_spells`);
* `ofValue_spelled` — **what is spelled out is read**, whatever is left out of it;
* `ofValue_lax_refused` — none of the three bounds that the document has to keep to can be dropped.
-/

namespace Chip8

open Text

namespace Config

/-! ## Documents -/

/-- Every choice of a configuration stands at its place in a document. -/
def SpellsOut (limits : Limits) (c : Config) (v : Value) : Prop :=
  ∀ f : Field, ∃ w, v.at? f.path = some w ∧ f.Spells limits (c.get f) w

/-- A document in which some choices of a configuration stand at their places, the other ones being
the default ones.  What stands above a place is a mapping. -/
structure Spells (limits : Limits) (c : Config) (v : Value) : Prop where
  mapping : ∀ (f : Field) (p q : List String), q ≠ [] → p ++ q = f.path →
    ∀ w, v.at? p = some w → ∃ entries, w = .map entries
  field : ∀ f : Field, (v.at? f.path = none ∧ c.get f = default.get f) ∨
    ∃ w, v.at? f.path = some w ∧ f.Spells limits (c.get f) w

theorem SpellsOut.spells {limits : Limits} {c : Config} {v : Value} (h : SpellsOut limits c v) :
    Spells limits c v := by
  constructor
  · intro f p q hq hpath w hw
    obtain ⟨u, hu, -⟩ := h f
    rw [← hpath] at hu
    exact Value.exists_map_of_at? hq hw hu
  · exact fun f => .inr (h f)

/-- **Leaving a part out makes the choices in it the default ones.** -/
theorem Spells.without {limits : Limits} {c : Config} {v : Value} (h : Spells limits c v)
    (p : Part) : Spells limits (c.reset p) (v.without p.path) := by
  have hne := p.path_ne_nil
  constructor
  · -- a place above the part is a mapping with one entry less further down
    intro f above below hbelow hpath w hw
    by_cases hunder : p.path <+: above
    · obtain ⟨q, rfl⟩ := hunder
      rw [Value.at?_without_below hne] at hw
      cases hw
    by_cases hover : above <+: p.path
    · obtain ⟨r, hr⟩ := hover
      have hrest : r ≠ [] := by
        rintro rfl
        exact hunder ⟨[], by rw [← hr, List.append_nil, List.append_nil]⟩
      rw [← hr, Value.at?_without_above hrest] at hw
      obtain ⟨u, hu, rfl⟩ := Option.map_eq_some_iff.1 hw
      obtain ⟨entries, rfl⟩ := h.mapping f above below hbelow hpath u hu
      exact Value.without_map r entries
    · rw [Value.at?_without_beside hunder hover] at hw
      exact h.mapping f above below hbelow hpath w hw
  · intro f
    by_cases hf : f ∈ p.fields
    · obtain ⟨q, hq⟩ := (p.path_prefix_iff f).2 hf
      refine .inl ⟨?_, by rw [get_reset, if_pos hf]⟩
      rw [← hq, Value.at?_without_below hne]
    · have hbeside := Value.at?_without_beside (fun hp => hf ((p.path_prefix_iff f).1 hp))
        (fun hp => hf (Part.mem_fields_of_prefix hp)) v
      rw [get_reset, if_neg hf, hbeside]
      exact h.field f

/-- The document with some parts left out. -/
def leaveOut (v : Value) (parts : List Part) : Value :=
  parts.foldl (fun v p => v.without p.path) v

theorem Spells.leaveOut {limits : Limits} (parts : List Part) : ∀ {c : Config} {v : Value},
    Spells limits c v → Spells limits (c.resetAll parts) (leaveOut v parts) := by
  induction parts with
  | nil => exact fun h => h
  | cons p parts ih => exact fun h => ih (h.without p)

/-! ## Reading documents -/

theorem readSection_of_map {v : Option Value}
    (h : ∀ w, v = some w → ∃ entries, w = Value.map entries) :
    readSection v = .ok (entriesOf v) := by
  have hplaced : isMisplaced v = false := by
    cases v with
    | none => rfl
    | some w =>
      obtain ⟨entries, rfl⟩ := h w rfl
      rfl
  rw [readSection_eq, hplaced, if_neg Bool.false_ne_true]

theorem get?_entriesOf (data : Entries) (part name : String) :
    Value.get? (entriesOf (Value.get? data part)) name =
      (Value.map data).at? [part, name] := by
  rw [Value.at?]
  cases Value.get? data part with
  | none => rfl
  | some w =>
    rw [Option.bind_some]
    rcases w.isMap_or_not with hmap | ⟨entries, rfl⟩
    · rw [Value.at?_of_not_map hmap]
      unfold entriesOf
      split
      · rename_i heq
        cases heq
        exact absurd rfl (hmap _)
      · rfl
    · exact (Option.bind_fun_some _).symm

theorem readChoice_eq {entries : Entries} {name : String} {b : Bool}
    (h : (Value.get? entries name = none ∧ b = false) ∨
      ∃ w, Value.get? entries name = some w ∧ w.isTruthy = b) :
    readChoice entries name = b := by
  rcases h with ⟨hnone, rfl⟩ | ⟨w, hw, hread⟩
  · rw [readChoice, hnone]
    rfl
  · rw [readChoice, hw, ← hread]
    rfl

/-- An answer of the reader is a configuration: the choices are the same ones, and the keymap names
each key once and says the same of every name, if not in the same order. -/
structure Matches (answer c : Config) : Prop where
  choices : { answer with keymap := c.keymap } = c
  names : (answer.keymap.map Prod.fst).Nodup
  keymap : ∀ name, answer.keymap.lookup name = c.keymap.lookup name

section Spells

variable {c : Config} {data : Entries} (h : Spells .strict c (.map data))
include h

theorem Spells.readSection_eq_ok (f : Field) {part name : String} (hpath : f.path = [part, name]) :
    readSection (Value.get? data part) = .ok (entriesOf (Value.get? data part)) := by
  refine readSection_of_map fun w hw => h.mapping f [part] [name] (by simp) hpath.symm w ?_
  rw [Value.at?, hw]
  rfl

theorem Spells.entry_of_field (f : Field) {part name : String} (hpath : f.path = [part, name]) :
    (Value.get? (entriesOf (Value.get? data part)) name = none ∧ c.get f = default.get f) ∨
      ∃ w, Value.get? (entriesOf (Value.get? data part)) name = some w ∧
        f.Spells .strict (c.get f) w := by
  rw [get?_entriesOf, ← hpath]
  exact h.field f

/-- A choice is read if its reader reads what spells it. -/
theorem Spells.readOr_eq_ok (f : Field) {part name : String} (hpath : f.path = [part, name])
    {read : Value → Except ConfigFault f.Choice}
    (hread : ∀ w, f.Spells .strict (c.get f) w → read w = .ok (c.get f)) :
    readOr (entriesOf (Value.get? data part)) name (default.get f) read = .ok (c.get f) := by
  rcases h.entry_of_field f hpath with ⟨hnone, hdefault⟩ | ⟨w, hw, hspells⟩
  · rw [readOr, hnone, hdefault]
  · rw [readOr, hw]
    exact hread w hspells

theorem Spells.readKeymap_eq_ok :
    ∃ m, readKeymap (Value.get? data "keymap") = .ok m ∧ (m.map Prod.fst).Nodup ∧
      ∀ name, m.lookup name = c.keymap.lookup name := by
  have hentry : (Value.map data).at? Field.keymap.path = Value.get? data "keymap" :=
    Option.bind_fun_some _
  rcases h.field .keymap with ⟨hnone, hdefault⟩ | ⟨_, hw, entries, rfl, keys, hkeys, hlookup⟩
  · rw [← hentry, hnone]
    refine ⟨Keymap.default, rfl, by decide, fun name => ?_⟩
    exact congrArg (List.lookup name) hdefault.symm
  · rw [← hentry, hw]
    refine ⟨Keymap.addAll [] keys, readKeys_of_spells hkeys [], Keymap.nodup_addAll List.nodup_nil,
      fun name => ?_⟩
    rw [Keymap.lookup_addAll]
    exact Option.or_none.trans (hlookup name).symm

end Spells

/-- **What is spelled is read**, and what is left out is chosen by default. -/
theorem ofValue_of_spells {c : Config} {v : Value} (h : Spells .strict c v) (hc : c.InRange) :
    ∃ answer, ofValue v = .ok answer ∧ answer.Matches c := by
  obtain ⟨data, rfl⟩ := h.mapping .keymap [] ["keymap"] (by simp) rfl v rfl
  have hforeground := h.readOr_eq_ok .foreground rfl
    fun w hw => readColor_of_spells hw (hc .foreground)
  have hbackground := h.readOr_eq_ok .background rfl
    fun w hw => readColor_of_spells hw (hc .background)
  have hscale := h.readOr_eq_ok .scale rfl
    fun w hw => readPositive_of_spells hw (hc .scale) "display.scale"
  have hinstructions := h.readOr_eq_ok .instructionsPerFrame rfl
    fun w hw => readPositive_of_spells hw (hc .instructionsPerFrame) "timing.instructions_per_frame"
  have hinterval := h.readOr_eq_ok .frameInterval rfl
    fun w hw => readPositive_of_spells hw (hc .frameInterval) "timing.frame_interval_ms"
  have hshift := readChoice_eq (h.entry_of_field .shiftSecond rfl)
  have hblank := readChoice_eq (h.entry_of_field .drawOnBlank rfl)
  obtain ⟨m, hkeymap, hnames, hlookup⟩ := h.readKeymap_eq_ok
  refine ⟨{ c with keymap := m }, ?_, rfl, hnames, hlookup⟩
  rw [ofValue]
  refine Except.bind_eq_ok_iff.2 ⟨_, h.readSection_eq_ok .shiftSecond rfl, ?_⟩
  refine Except.bind_eq_ok_iff.2 ⟨_, h.readSection_eq_ok .scale rfl, ?_⟩
  refine Except.bind_eq_ok_iff.2 ⟨_, hforeground, ?_⟩
  refine Except.bind_eq_ok_iff.2 ⟨_, hbackground, ?_⟩
  refine Except.bind_eq_ok_iff.2 ⟨_, hscale, ?_⟩
  refine Except.bind_eq_ok_iff.2 ⟨_, h.readSection_eq_ok .frameInterval rfl, ?_⟩
  refine Except.bind_eq_ok_iff.2 ⟨_, hinstructions, ?_⟩
  refine Except.bind_eq_ok_iff.2 ⟨_, hinterval, ?_⟩
  refine Except.bind_eq_ok_iff.2 ⟨_, hkeymap, ?_⟩
  rw [hshift, hblank]
  rfl

/-- **What is spelled out is read**: the answer is the configuration, with every name standing for
the code of its last entry, and with parts of the document left out it has the default choices
there. -/
theorem ofValue_spelled {c : Config} {v : Value} (hc : c.InRange) (h : SpellsOut .strict c v)
    (parts : List Part) :
    ∃ answer, ofValue (leaveOut v parts) = .ok answer ∧ answer.Matches (c.resetAll parts) :=
  ofValue_of_spells (h.spells.leaveOut parts) (hc.resetAll parts)

/-! ## A document -/

/-- A configuration with a keymap of two names. -/
def sample : Config where
  shiftSecond := true
  drawOnBlank := false
  foreground := ⟨0x33, 0xFF, 0x66⟩
  background := ⟨16, 16, 16⟩
  scale := 8
  instructionsPerFrame := 20
  frameInterval := 20
  keymap := [("Q", 7), ("1", 15)]

/-- A document for it with a scale and keys, and with entries that mean nothing. -/
def sampleDocument (scale : Value) (keys : Entries) : Value :=
  .map [(.text "quirks", .map [(.text "shift_quirk", .bool true), (.text "speed", .null),
      (.text "vblank_wait", .bool false)]),
    (.int 5, .text "quirks"),
    (.text "display", .map [(.text "foreground", .text "#33fF66"),
      (.text "background", .list [.int 16, .text "0x10", .text "0X010"]),
      (.text "scale", scale)]),
    (.text "timing", .map [(.text "instructions_per_frame", .text "0x14"),
      (.text "frame_interval_ms", .int 20)]),
    (.text "keymap", .map keys)]

/-- Keys for it, with a name that is given twice. -/
def sampleKeys : Entries :=
  [(.text "q", .int 2), (.int 1, .text "0xF"), (.text "Q", .text "07")]

theorem sample_inRange {n : Int} {m : Keymap} (hn : 0 < n) (hm : m.InRange) :
    InRange { sample with scale := n, keymap := m } := by
  intro f
  cases f with
  | shiftSecond => trivial
  | drawOnBlank => trivial
  | foreground => show sample.foreground.IsBytes; decide
  | background => show sample.background.IsBytes; decide
  | scale => exact hn
  | instructionsPerFrame => show 0 < sample.instructionsPerFrame; decide
  | frameInterval => show 0 < sample.frameInterval; decide
  | keymap => exact hm

theorem sample_spellsOut {limits : Limits} {n : Int} {scale : Value} {m : Keymap} {keys : Entries}
    (hscale : SpellsInt limits n scale) (hkeys : SpellsKeys limits m keys) :
    SpellsOut limits { sample with scale := n, keymap := m } (sampleDocument scale keys) := by
  intro f
  cases f with
  | shiftSecond => exact ⟨.bool true, rfl, rfl⟩
  | drawOnBlank => exact ⟨.bool false, rfl, rfl⟩
  | foreground =>
    have hred : Numeral 16 ['3', '3'] 0x33 := numeral_pair 3 3 (by decide) (by decide)
    have hgreen : Numeral 16 ['f', 'F'] 0xFF := numeral_pair 15 15 (by decide) (by decide)
    have hblue : Numeral 16 ['6', '6'] 0x66 := numeral_pair 6 6 (by decide) (by decide)
    exact ⟨.text "#33fF66", rfl, SpellsColor.digits hred hgreen hblue⟩
  | background =>
    have hshort : Numeral 16 ['1', '0'] 16 := numeral_pair 1 0 (by decide) (by decide)
    have hlong : Numeral 16 (['0', '1'] ++ ['0']) (1 * 16 + 0) :=
      .more (numeral_pair 0 1 (by decide) (by decide)) (by decide)
    exact ⟨.list [.int 16, .text "0x10", .text "0X010"], rfl,
      SpellsColor.components (.number 16) (.hexadecimal hshort (.inl rfl))
        (.hexadecimal hlong (.inr rfl))⟩
  | scale => exact ⟨scale, rfl, hscale⟩
  | instructionsPerFrame =>
    have h : Numeral 16 ['1', '4'] 20 := numeral_pair 1 4 (by decide) (by decide)
    exact ⟨.text "0x14", rfl, SpellsInt.hexadecimal h (.inl rfl)⟩
  | frameInterval => exact ⟨.int 20, rfl, SpellsInt.number 20⟩
  | keymap => exact ⟨.map keys, rfl, keys, rfl, hkeys⟩

theorem sampleKeys_spellsKeys : SpellsKeys .strict sample.keymap sampleKeys := by
  have hseven : Numeral 10 ['0', '7'] 7 := numeral_pair 0 7 (by decide) (by decide)
  have hfifteen : Numeral 16 ['F'] 15 := .digit (by decide)
  have hfirst : SpellsKey .strict ("Q", 2) (.text "q", .int 2) :=
    ⟨by decide +kernel, .number 2, rfl, by decide, by decide⟩
  have hone : Value.isWritable (.int 1) = true := by decide +kernel
  have hsecond : SpellsKey .strict ("1", 15) (.int 1, .text "0xF") :=
    ⟨by decide +kernel, .hexadecimal hfifteen (.inl rfl), hone, by decide, by decide⟩
  have hshort : 2 ≤ 4300 := by decide
  have hthird : SpellsKey .strict ("Q", 7) (.text "Q", .text "07") :=
    ⟨by decide +kernel, .decimal hseven hshort, rfl, by decide, by decide⟩
  refine ⟨[("Q", 2), ("1", 15), ("Q", 7)], .cons hfirst (.cons hsecond (.cons hthird .nil)),
    fun name => ?_⟩
  cases hq : name == "Q" <;> cases hone : name == "1" <;> simp [sample, List.lookup_cons, hq, hone]

/-- A document is read without its timing and one of its options. -/
theorem ofValue_spelled_sample :
    sample.InRange ∧ SpellsOut .strict sample (sampleDocument (.int 8) sampleKeys) ∧
      ∃ answer, ofValue (leaveOut (sampleDocument (.int 8) sampleKeys)
          [.timing, .field .shiftSecond]) = .ok answer ∧
        answer.Matches { sample with
          shiftSecond := false, instructionsPerFrame := 10, frameInterval := 16 } := by
  have hrange : sample.InRange := sample_inRange (by decide) (by unfold Keymap.InRange; decide)
  have hspells : SpellsOut .strict sample (sampleDocument (.int 8) sampleKeys) :=
    sample_spellsOut (.number 8) sampleKeys_spellsKeys
  exact ⟨hrange, hspells, ofValue_spelled hrange hspells [.timing, .field .shiftSecond]⟩

/-! ## The bounds -/

theorem ofValue_sampleDocument (scale : Value) (keys : Entries) :
    ofValue (sampleDocument scale keys) = (do
      let n ← readPositive "display.scale" scale
      let m ← readKeys [] keys
      return { sample with scale := n, keymap := m }) := rfl

/-- A document that keeps to bounds keeps to none. -/
theorem SpellsInt.lax {limits : Limits} {n : Int} {v : Value} (h : SpellsInt limits n v) :
    SpellsInt .lax n v := by
  cases h with
  | number => exact .number n
  | decimal h => exact .decimal h trivial
  | hexadecimal h hx => exact .hexadecimal h hx

theorem SpellsKeys.lax {limits : Limits} {m : Keymap} {entries : Entries}
    (h : SpellsKeys limits m entries) : SpellsKeys .lax m entries := by
  obtain ⟨keys, hkeys, hlookup⟩ := h
  exact ⟨keys, hkeys.imp fun k e hk => ⟨hk.name, hk.code.lax, trivial, trivial⟩, hlookup⟩

/-- A document that spells a configuration out, but for the bounds, is refused. -/
structure Refused (c : Config) (v : Value) (fault : ConfigFault) : Prop where
  inRange : c.InRange
  spellsOut : SpellsOut .lax c v
  refused : ofValue v = .error fault

/-- The number eight with 4301 digits. -/
def longNumeral : List Char := List.replicate 4300 '0' ++ ['8']

theorem numeral_zeros (k : Nat) : Numeral 10 (List.replicate (k + 1) '0') 0 := by
  induction k with
  | zero => exact .digit (by decide)
  | succ k ih =>
    have h : Numeral 10 (List.replicate (k + 1) '0' ++ ['0']) (0 * 10 + 0) := .more ih (by decide)
    rwa [← List.replicate_succ'] at h

theorem numeral_longNumeral : Numeral 10 longNumeral 8 := by
  have h : Numeral 10 (List.replicate 4300 '0' ++ ['8']) (0 * 10 + 8) :=
    .more (numeral_zeros 4299) (by decide)
  exact h

theorem refused_longNumeral :
    Refused sample (sampleDocument (.text (String.ofList longNumeral)) sampleKeys)
      (.integerText (.tooLong 4301)) where
  inRange := sample_inRange (by decide) (by unfold Keymap.InRange; decide)
  spellsOut := sample_spellsOut (.decimal numeral_longNumeral trivial) sampleKeys_spellsKeys.lax
  refused := by
    have hlength : longNumeral.length = 4301 := by
      rw [longNumeral, List.length_append, List.length_replicate]
      rfl
    rw [ofValue_sampleDocument, readPositive, readInt_decimal numeral_longNumeral, hlength]
    rfl

/-- A code that the keypad does not have, for a name that is given again. -/
def strayKeys : Entries := [(.text "q", .int 99), (.text "Q", .int 7)]

theorem refused_strayKeys :
    Refused { sample with keymap := [("Q", 7)] } (sampleDocument (.int 8) strayKeys)
      (.codeOutOfRange (.text "q") (.int 99)) where
  inRange := sample_inRange (by decide) (by unfold Keymap.InRange; decide)
  spellsOut := by
    have hfirst : SpellsKey .lax ("Q", 99) (.text "q", .int 99) :=
      ⟨by decide +kernel, .number 99, trivial, trivial⟩
    have hsecond : SpellsKey .lax ("Q", 7) (.text "Q", .int 7) :=
      ⟨by decide +kernel, .number 7, trivial, trivial⟩
    refine sample_spellsOut (.number 8) ⟨[("Q", 99), ("Q", 7)], .cons hfirst (.cons hsecond .nil),
      fun name => ?_⟩
    cases hq : name == "Q" <;> simp [List.lookup_cons, hq]
  refused := rfl

/-- A power of ten for a name. -/
def powerName (k : Nat) : Value := .int (Nat.pow 10 k : Nat)

theorem isWritable_powerName {k : Nat} (hk : 4300 ≤ k) : (powerName k).isWritable = false := by
  rw [← Bool.not_eq_true]
  intro h
  have hshort : (digits 10 (Nat.pow 10 k)).length ≤ k := Nat.le_trans (of_decide_eq_true h) hk
  have hlt : ofDigits 10 (digits 10 (Nat.pow 10 k)) < Nat.pow 10 k :=
    Nat.lt_of_lt_of_le (ofDigits_lt fun d hd => lt_of_mem_digits (by decide) hd)
      (Nat.pow_le_pow_right (by decide) hshort)
  rw [ofDigits_digits] at hlt
  exact Nat.lt_irrefl _ hlt

theorem refused_powerName {k : Nat} (hk : 4300 ≤ k) :
    Refused { sample with keymap := [(upper (powerName k).display, 7)] }
      (sampleDocument (.int 8) [(powerName k, .int 7)]) (.unwritableName (powerName k)) where
  inRange := sample_inRange (by decide) (by simp [Keymap.InRange])
  spellsOut := sample_spellsOut (.number 8) ⟨[(upper (powerName k).display, 7)],
    .cons ⟨rfl, .number 7, trivial, trivial⟩ .nil, fun name => rfl⟩
  refused := by
    have hkeys : readKeys [] [(powerName k, .int 7)] = .error (.unwritableName (powerName k)) := by
      rw [readKeys, isWritable_powerName hk]
      rfl
    rw [ofValue_sampleDocument, hkeys]
    rfl

/-- **None of the bounds can be dropped**: a longer numeral in base ten, a code that the keypad does
not have for a name that is given again, and a name that has no text are refused. -/
theorem ofValue_lax_refused :
    Refused sample (sampleDocument (.text (String.ofList longNumeral)) sampleKeys)
      (.integerText (.tooLong 4301)) ∧
    Refused { sample with keymap := [("Q", 7)] } (sampleDocument (.int 8) strayKeys)
      (.codeOutOfRange (.text "q") (.int 99)) ∧
    Refused { sample with keymap := [(upper (powerName 4300).display, 7)] }
      (sampleDocument (.int 8) [(powerName 4300, .int 7)]) (.unwritableName (powerName 4300)) :=
  ⟨refused_longNumeral, refused_strayKeys, refused_powerName (Nat.le_refl 4300)⟩

end Config

end Chip8
