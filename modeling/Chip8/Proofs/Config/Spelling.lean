import Chip8.Proofs.Config.Reading
import Chip8.Proofs.Text.Numeral

/-!
# Spellings

How the choices of a configuration are written in a document, told without the reader: integers as
numbers or as texts in base ten or sixteen (`SpellsInt`), colours as lists of three integers or as
six digits in base sixteen (`SpellsColor`), and keys as entries of which the last one with a name
decides (`SpellsKeys`).  `Limits` are the bounds that a document keeps to.  Within those of the
reader, which are `Limits.strict`, everything is read as what it spells (`readInt_of_spells`,
`readColor_of_spells`, `readKeys_of_spells`).
-/

namespace Chip8

open Text

namespace Keymap

/-! ## Keymaps that are built up -/

theorem names_insert (name : String) (code : Int) (m : Keymap) :
    (insert name code m).map Prod.fst =
      if name ∈ m.map Prod.fst then m.map Prod.fst else m.map Prod.fst ++ [name] := by
  induction m with
  | nil => simp [insert]
  | cons e m ih =>
    obtain ⟨n, c⟩ := e
    rw [insert]
    by_cases hn : n = name
    · simp [hn]
    · rw [if_neg hn, List.map_cons, ih]
      by_cases hname : name ∈ m.map Prod.fst
      · simp [hname]
      · simp [hname, Ne.symm hn]

theorem nodup_insert {m : Keymap} (h : (m.map Prod.fst).Nodup) (name : String) (code : Int) :
    ((insert name code m).map Prod.fst).Nodup := by
  rw [names_insert]
  split
  · exact h
  · rename_i hname
    refine List.nodup_append.2 ⟨h, by simp, fun other hother n hn => ?_⟩
    rintro rfl
    exact hname (List.mem_singleton.1 hn ▸ hother)

/-- The keymap with keys added one after the other. -/
def addAll (m : Keymap) (keys : List (String × Int)) : Keymap :=
  keys.foldl (fun m k => m.insert k.1 k.2) m

theorem nodup_addAll {keys : List (String × Int)} : ∀ {m : Keymap}, (m.map Prod.fst).Nodup →
    ((m.addAll keys).map Prod.fst).Nodup := by
  induction keys with
  | nil => exact fun h => h
  | cons k keys ih => exact fun h => ih (nodup_insert h k.1 k.2)

/-- The last of the keys with a name decides what the name stands for. -/
theorem lookup_addAll (keys : List (String × Int)) (name : String) : ∀ m : Keymap,
    (m.addAll keys).lookup name = (keys.reverse.lookup name).or (m.lookup name) := by
  induction keys with
  | nil => exact fun m => rfl
  | cons k keys ih =>
    intro m
    obtain ⟨n, code⟩ := k
    show ((m.insert n code).addAll keys).lookup name = _
    have hsingle : (if name = n then some code else m.lookup name) =
        (List.lookup name [(n, code)]).or (m.lookup name) := by
      by_cases hname : name = n
      · simp [hname]
      · simp [List.lookup_cons, hname, beq_false_of_ne hname]
    rw [ih, lookup_insert, List.reverse_cons, List.lookup_append, Option.or_assoc, hsingle]

end Keymap

namespace Config

/-! ## Spellings -/

/-- The bounds that a document keeps to. -/
structure Limits where
  /-- The numbers of digits that a text in base ten may have. -/
  digits : Nat → Prop
  /-- The codes that may be written, also for a name that is written again. -/
  code : Int → Prop
  /-- The values that may be names of keys. -/
  name : Value → Prop

/-- The bounds of the reader. -/
def Limits.strict : Limits where
  digits k := k ≤ 4300
  code n := 0 ≤ n ∧ n ≤ 15
  name v := v.isWritable = true

/-- No bounds. -/
def Limits.lax : Limits where
  digits _ := True
  code _ := True
  name _ := True

section

variable (limits : Limits)

/-- The values that spell an integer. -/
inductive SpellsInt : Int → Value → Prop
  | number (n : Int) : SpellsInt n (.int n)
  | decimal {cs : List Char} {n : Nat} (h : Numeral 10 cs n) (hdigits : limits.digits cs.length) :
      SpellsInt n (.text (String.ofList cs))
  | hexadecimal {cs : List Char} {n : Nat} {x : Char} (h : Numeral 16 cs n)
      (hx : x = 'x' ∨ x = 'X') : SpellsInt n (.text (String.ofList ('0' :: x :: cs)))

/-- The values that spell a colour. -/
inductive SpellsColor : Rgb → Value → Prop
  | components {c : Rgb} {r g b : Value} (hr : SpellsInt limits c.red r)
      (hg : SpellsInt limits c.green g) (hb : SpellsInt limits c.blue b) :
      SpellsColor c (.list [r, g, b])
  | digits {r₁ r₂ g₁ g₂ b₁ b₂ : Char} {r g b : Nat} (hr : Numeral 16 [r₁, r₂] r)
      (hg : Numeral 16 [g₁, g₂] g) (hb : Numeral 16 [b₁, b₂] b) :
      SpellsColor ⟨r, g, b⟩ (.text (String.ofList ['#', r₁, r₂, g₁, g₂, b₁, b₂]))

/-- An entry spells a key: the name counts in upper case. -/
structure SpellsKey (k : String × Int) (e : Value × Value) : Prop where
  name : upper e.1.display = k.1
  code : SpellsInt limits k.2 e.2
  nameLimit : limits.name e.1
  codeLimit : limits.code k.2

/-- Entries spell a keymap: the last of the entries with a name has its code. -/
def SpellsKeys (m : Keymap) (entries : Entries) : Prop :=
  ∃ keys : List (String × Int), List.Forall₂ (SpellsKey limits) keys entries ∧
    ∀ name, m.lookup name = keys.reverse.lookup name

end

/-! ## Reading what is spelled -/

theorem hasHexMark_of_isPlain {cs : List Char} (h : ∀ c ∈ cs, IsPlain c) :
    hasHexMark (String.ofList cs) = false := by
  rw [hasHexMark, String.toList_ofList]
  split
  · rename_i x cs
    obtain ⟨-, hx⟩ := h x (by simp)
    have hsmall : x ≠ 'x' := fun hx' => hx (by simp [hx'])
    have hcapital : x ≠ 'X' := fun hx' => hx (by simp [hx'])
    simp [hsmall, hcapital]
  · rfl

/-- A text in base ten is read unless it is too long. -/
theorem readInt_decimal {cs : List Char} {n : Nat} (h : Numeral 10 cs n) :
    readInt (.text (String.ofList cs)) =
      if 4300 < cs.length then .error (.integerText (.tooLong cs.length)) else .ok n := by
  rw [readInt, hasHexMark_of_isPlain (h.isPlain (by decide)), if_neg Bool.false_ne_true,
    readInteger_decimal h]
  split
  · rfl
  · rfl

theorem readInt_of_spells {n : Int} {v : Value} (h : SpellsInt .strict n v) :
    readInt v = .ok n := by
  cases h with
  | number => rfl
  | decimal h hdigits => rw [readInt_decimal h, if_neg (Nat.not_lt.2 hdigits)]
  | @hexadecimal cs n x h hx =>
    have hmark : hasHexMark (String.ofList ('0' :: x :: cs)) = true := by
      rw [hasHexMark, String.toList_ofList]
      rcases hx with rfl | rfl
      · rfl
      · rfl
    rw [readInt, hmark, if_pos rfl, readInteger_marked h hx]
    rfl

theorem readPositive_of_spells {n : Int} {v : Value} (h : SpellsInt .strict n v) (hn : 0 < n)
    (name : String) : readPositive name v = .ok n := by
  rw [readPositive, readInt_of_spells h]
  exact if_neg (Int.not_le.2 hn)

theorem ofHex_of_numerals {r₁ r₂ g₁ g₂ b₁ b₂ : Char} {r g b : Nat} (hr : Numeral 16 [r₁, r₂] r)
    (hg : Numeral 16 [g₁, g₂] g) (hb : Numeral 16 [b₁, b₂] b) :
    Rgb.ofHex (String.ofList ['#', r₁, r₂, g₁, g₂, b₁, b₂]) = .ok ⟨r, g, b⟩ := by
  have hplain : ∀ c ∈ [r₁, r₂] ++ [g₁, g₂] ++ [b₁, b₂], IsPlain c :=
    List.forall_mem_append.2 ⟨List.forall_mem_append.2 ⟨hr.isPlain (by decide),
      hg.isPlain (by decide)⟩, hb.isPlain (by decide)⟩
  have hstrip : strip ['#', r₁, r₂, g₁, g₂, b₁, b₂] = ['#', r₁, r₂, g₁, g₂, b₁, b₂] :=
    strip_of_not_blank (List.forall_mem_cons.2 ⟨by decide, fun c hc => (hplain c hc).1⟩)
  have hdigit : ¬ r₁ = '#' := fun h => (hplain r₁ List.mem_cons_self).2 (by simp [h])
  have hdrop : ['#', r₁, r₂, g₁, g₂, b₁, b₂].dropWhile (· = '#') = [r₁, r₂, g₁, g₂, b₁, b₂] := by
    simp [hdigit]
  rw [Rgb.ofHex, String.toList_ofList, hstrip, hdrop]
  simp only [Rgb.readPair, readInteger_numeral hr, readInteger_numeral hg, readInteger_numeral hb]
  rfl

theorem readColor_of_spells {c : Rgb} {v : Value} (h : SpellsColor .strict c v)
    (hc : c.IsBytes) : readColor v = .ok c := by
  cases h with
  | components hr hg hb =>
    have hall : c.components.all isByte = true := by
      simpa [Rgb.IsBytes, isByte] using hc
    rw [readColor, readInt_of_spells hr, readInt_of_spells hg, readInt_of_spells hb]
    exact if_pos hall
  | digits hr hg hb => exact ofHex_of_numerals hr hg hb

theorem readKeys_of_spells {keys : List (String × Int)} {entries : Entries}
    (h : List.Forall₂ (SpellsKey .strict) keys entries) :
    ∀ m : Keymap, readKeys m entries = .ok (m.addAll keys) := by
  induction h with
  | nil => exact fun m => rfl
  | @cons k e keys entries h _ ih =>
    intro m
    obtain ⟨name, n⟩ := k
    obtain ⟨key, code⟩ := e
    obtain ⟨rfl, hcode, hwritable, hlow, hhigh⟩ := h
    have hrange : ¬ (n < 0 ∨ 15 < n) := by omega
    have hnamed : ¬ (!key.isWritable) = true := by rw [hwritable]; exact Bool.false_ne_true
    rw [readKeys, readInt_of_spells hcode]
    show (if n < 0 ∨ 15 < n then _ else if (!key.isWritable) = true then _ else _) = _
    rw [if_neg hrange, if_neg hnamed]
    exact ih _

end Config

end Chip8
