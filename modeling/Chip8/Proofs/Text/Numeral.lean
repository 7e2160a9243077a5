import Chip8.Proofs.Text.Integer
import Mathlib.Data.List.Forall2
import Mathlib.Data.List.TakeWhile

/-!
# Numerals

A natural number is spelled by digits of a base, in either letter case and with any number of zeros
in front (`Numeral`).  A reader of integers reads such a text as the number:

* `readInteger_numeral`, `readInteger_marked` — in base sixteen always, without or with the mark of
  the base;
* `readInteger_decimal` — in base ten if there are no more than 4300 digits, and a longer numeral is
  refused for its length.
-/

namespace Chip8.Text

/-! ## Digits -/

/-- A character is a digit of a base, small or capital. -/
def IsDigit (base : Nat) (c : Char) (d : Nat) : Prop :=
  d < base ∧ (c = lowerDigit d ∨ c = upperDigit d)

instance (base : Nat) (c : Char) (d : Nat) : Decidable (IsDigit base c d) :=
  inferInstanceAs (Decidable (d < base ∧ (c = lowerDigit d ∨ c = upperDigit d)))

/-- A character that is not blank, and no sign, separator or mark. -/
def IsPlain (c : Char) : Prop := isBlank c = false ∧ c ∉ ['-', '+', '_', 'x', 'X', '#']

instance : DecidablePred IsPlain := fun c =>
  inferInstanceAs (Decidable (isBlank c = false ∧ c ∉ ['-', '+', '_', 'x', 'X', '#']))

/-- The digits of a smaller base are those of base sixteen that are small enough. -/
theorem digitValue?_eq_filter {base : Nat} (hbase : base ≤ 16) (c : Char) :
    digitValue? base c = (digitValue? 16 c).filter (· < base) := by
  simp only [digitValue?, Option.filter_filter]
  congr 1
  funext d
  rw [← Bool.decide_and, decide_eq_decide]
  omega

section IsDigit

variable {base : Nat} {c : Char} {d : Nat}

theorem IsDigit.digitValue?_eq (h : IsDigit base c d) (hbase : base ≤ 16) :
    digitValue? base c = some d := by
  have hall : ∀ e : Fin 16, digitValue? 16 (lowerDigit e) = some e.val ∧
      digitValue? 16 (upperDigit e) = some e.val := by decide +kernel
  obtain ⟨hd, hc⟩ := h
  obtain ⟨hlower, hupper⟩ := hall ⟨d, by omega⟩
  have hsixteen : digitValue? 16 c = some d := by
    rcases hc with rfl | rfl
    · exact hlower
    · exact hupper
  rw [digitValue?_eq_filter hbase, hsixteen, Option.filter_some, if_pos (decide_eq_true hd)]

theorem IsDigit.isPlain (h : IsDigit base c d) (hbase : base ≤ 16) : IsPlain c := by
  have hall : ∀ e : Fin 16, IsPlain (lowerDigit e) ∧ IsPlain (upperDigit e) := by decide +kernel
  obtain ⟨hd, hc⟩ := h
  obtain ⟨hlower, hupper⟩ := hall ⟨d, by omega⟩
  rcases hc with rfl | rfl
  · exact hlower
  · exact hupper

end IsDigit

/-! ## Numerals -/

/-- Characters that spell a number: a digit, or a number that is followed by one more digit. -/
inductive Numeral (base : Nat) : List Char → Nat → Prop
  | digit {c : Char} {d : Nat} (h : IsDigit base c d) : Numeral base [c] d
  | more {cs : List Char} {n : Nat} {c : Char} {d : Nat} (hcs : Numeral base cs n)
      (h : IsDigit base c d) : Numeral base (cs ++ [c]) (n * base + d)

section Numeral

variable {base : Nat} {cs : List Char} {n : Nat}

theorem numeral_pair {a b : Char} (m k : Nat) (ha : IsDigit base a m) (hb : IsDigit base b k) :
    Numeral base [a, b] (m * base + k) := .more (.digit ha) hb

theorem Numeral.exists_digits (h : Numeral base cs n) :
    ∃ ds, List.Forall₂ (IsDigit base) cs ds ∧ ofDigits base ds = n := by
  induction h with
  | @digit c d h => exact ⟨[d], .cons h .nil, by simp [ofDigits]⟩
  | @more cs n c d hcs h ih =>
    obtain ⟨ds, hds, hn⟩ := ih
    exact ⟨ds ++ [d], List.rel_append hds (.cons h .nil), by rw [ofDigits_append_singleton, hn]⟩

theorem Numeral.ne_nil (h : Numeral base cs n) : cs ≠ [] := by
  cases h with
  | digit h => exact List.cons_ne_nil _ _
  | more hcs h => exact List.append_ne_nil_of_right_ne_nil _ (List.cons_ne_nil _ _)

theorem exists_isDigit_of_mem {ds : List Nat} (h : List.Forall₂ (IsDigit base) cs ds) :
    ∀ c ∈ cs, ∃ d, IsDigit base c d := by
  induction h with
  | nil => exact List.forall_mem_nil _
  | @cons c d _ _ h _ ih => exact List.forall_mem_cons.2 ⟨⟨d, h⟩, ih⟩

theorem Numeral.isPlain (h : Numeral base cs n) (hbase : base ≤ 16) : ∀ c ∈ cs, IsPlain c := by
  intro c hc
  obtain ⟨ds, hds, -⟩ := h.exists_digits
  obtain ⟨d, hd⟩ := exists_isDigit_of_mem hds c hc
  exact hd.isPlain hbase

/-- Digits are read as what they stand for. -/
theorem readDigits_of_forall₂ {ds : List Nat} (h : List.Forall₂ (IsDigit base) cs ds)
    (hbase : base ≤ 16) : ∀ afterDigit : Bool, (afterDigit = true ∨ cs ≠ []) →
      readDigits base afterDigit cs = some ds := by
  induction h with
  | nil =>
    rintro afterDigit (rfl | hnil)
    · rfl
    · exact absurd rfl hnil
  | @cons c d cs ds h _ ih =>
    intro afterDigit _
    have hplain := h.isPlain hbase
    have hne : c ≠ '_' := fun hc => hplain.2 (by simp [hc])
    rw [readDigits, if_neg hne, h.digitValue?_eq hbase, ih true (.inl rfl)]
    rfl

/-! ## Signs and marks -/

/-- Where nothing is dropped in front, nothing is dropped at the ends. -/
theorem dropWhile_ends {p : Char → Bool} (h : ∀ c ∈ cs, p c = false) :
    ((cs.dropWhile p).reverse.dropWhile p).reverse = cs := by
  have hdrop : ∀ us : List Char, (∀ c ∈ us, p c = false) → us.dropWhile p = us := by
    intro us hus
    refine List.dropWhile_eq_self_iff.2 fun hpos => ?_
    rw [hus _ (List.getElem_mem hpos)]
    exact Bool.false_ne_true
  rw [hdrop cs h, hdrop cs.reverse fun c hc => h c (List.mem_reverse.1 hc), List.reverse_reverse]

theorem strip_of_not_blank (h : ∀ c ∈ cs, isBlank c = false) : strip cs = cs := dropWhile_ends h

theorem trimMargin_of_not_blank (h : ∀ c ∈ cs, isBlank c = false) : trimMargin cs = cs :=
  dropWhile_ends fun c hc => by rw [isMargin, h c hc, Bool.false_and]

theorem splitSign_of_isPlain {c : Char} (h : IsPlain c) :
    splitSign (c :: cs) = (false, c :: cs) := by
  unfold splitSign
  split
  · rename_i heq
    cases heq
    exact absurd List.mem_cons_self h.2
  · rename_i heq
    cases heq
    exact absurd (List.mem_cons_of_mem _ List.mem_cons_self) h.2
  · rfl

/-- Digits do not begin with the mark of base sixteen. -/
theorem dropHexMark_of_isPlain (h : ∀ c ∈ cs, IsPlain c) : dropHexMark cs = cs := by
  have hmark : ∀ x : Char, IsPlain x → ¬ (x = 'x' ∨ x = 'X') := by
    rintro x hx (rfl | rfl)
    · exact hx.2 (by decide)
    · exact hx.2 (by decide)
  unfold dropHexMark
  split
  · rw [if_neg (hmark _ (h _ (by simp)))]
  · rw [if_neg (hmark _ (h _ (by simp)))]
  · rfl

theorem dropHexMark_marked {x c : Char} (hx : x = 'x' ∨ x = 'X') (hc : IsPlain c) :
    dropHexMark ('0' :: x :: c :: cs) = c :: cs := by
  have hne : c ≠ '_' := fun h => hc.2 (by simp [h])
  unfold dropHexMark
  split
  · rename_i heq
    cases heq
    exact absurd rfl hne
  · rename_i heq
    cases heq
    rw [if_pos hx]
  · rename_i heq
    exact absurd rfl (heq x (c :: cs))

/-! ## Reading numerals -/

/-- A text of which the sign and the mark leave digits. -/
theorem readInteger_of_forall₂ {text : String} (unsigned : List Char) {ds : List Nat}
    (hbase : base ≤ 16) (hsign : splitSign (trimMargin text.toList) = (false, unsigned))
    (hbody : (if base = 16 then dropHexMark unsigned else unsigned) = cs)
    (h : List.Forall₂ (IsDigit base) cs ds) (hne : cs ≠ []) :
    readInteger base text =
      if base = 10 ∧ 4300 < cs.length then .error (.tooLong cs.length)
      else .ok (ofDigits base ds) := by
  have hrun : cs.takeWhile (isDigitOrUnderscore base) = cs := by
    refine List.takeWhile_eq_self_iff.2 fun c hc => ?_
    obtain ⟨d, hd⟩ := exists_isDigit_of_mem h c hc
    rw [isDigitOrUnderscore, hd.digitValue?_eq hbase, Option.isSome_some, Bool.or_true]
  have hwhole : ¬ cs.length < cs.length := Nat.lt_irrefl _
  simp only [readInteger, hsign, hbody, hrun, readDigits_of_forall₂ h hbase false (.inr hne),
    ← h.length_eq, if_neg hwhole, Bool.false_eq_true, if_false]

/-- A numeral without a mark. -/
theorem readInteger_unmarked (h : Numeral base cs n) (hbase : base ≤ 16) :
    readInteger base (String.ofList cs) =
      if base = 10 ∧ 4300 < cs.length then .error (.tooLong cs.length) else .ok n := by
  have hplain := h.isPlain hbase
  obtain ⟨ds, hds, rfl⟩ := h.exists_digits
  refine readInteger_of_forall₂ cs hbase ?_ ?_ hds h.ne_nil
  · rw [String.toList_ofList, trimMargin_of_not_blank fun c hc => (hplain c hc).1]
    cases cs with
    | nil => rfl
    | cons c cs => exact splitSign_of_isPlain (hplain c List.mem_cons_self)
  · rw [dropHexMark_of_isPlain hplain, ite_self]

theorem readInteger_decimal (h : Numeral 10 cs n) :
    readInteger 10 (String.ofList cs) =
      if 4300 < cs.length then .error (.tooLong cs.length) else .ok n := by
  rw [readInteger_unmarked h (by decide)]
  simp only [true_and]

theorem readInteger_numeral (h : Numeral 16 cs n) :
    readInteger 16 (String.ofList cs) = .ok n := by
  rw [readInteger_unmarked h (by decide)]
  rfl

/-- A numeral after the mark of base sixteen. -/
theorem readInteger_marked (h : Numeral 16 cs n) {x : Char} (hx : x = 'x' ∨ x = 'X') :
    readInteger 16 (String.ofList ('0' :: x :: cs)) = .ok n := by
  have hplain := h.isPlain (by decide)
  have hblank : ∀ c ∈ '0' :: x :: cs, isBlank c = false := by
    refine List.forall_mem_cons.2 ⟨by decide, List.forall_mem_cons.2 ⟨?_, ?_⟩⟩
    · rcases hx with rfl | rfl
      · decide
      · decide
    · exact fun c hc => (hplain c hc).1
  obtain ⟨ds, hds, rfl⟩ := h.exists_digits
  rw [readInteger_of_forall₂ ('0' :: x :: cs) (by decide) ?_ ?_ hds h.ne_nil]
  · rfl
  · rw [String.toList_ofList, trimMargin_of_not_blank hblank]
    rfl
  · cases cs with
    | nil => exact absurd rfl h.ne_nil
    | cons c cs => exact dropHexMark_marked hx (hplain c List.mem_cons_self)

end Numeral

end Chip8.Text
