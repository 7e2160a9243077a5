import Chip8.Text.Integer
import Chip8.Text.Radix

/-!
# Integers in texts

What `readInteger` makes of a text is bounded by the length of the text, because every digit takes a
character (`natAbs_lt_of_readInteger`).  Two characters in particular spell a number of at most two
digits, and a negative one exactly if they are a minus and a digit other than zero
(`readInteger_pair`).
-/

namespace Chip8.Text

/-! ## Digits -/

theorem lt_of_digitValue? {base : Nat} {c : Char} {d : Nat} (h : digitValue? base c = some d) :
    d < base := of_decide_eq_true (Option.filter_eq_some_iff.1 h).2

/-- Digits are read one by one: a character is an underscore that may come now, or a digit. -/
theorem readDigits_cons {base : Nat} {afterDigit : Bool} {c : Char} {cs : List Char}
    {ds : List Nat} (h : readDigits base afterDigit (c :: cs) = some ds) :
    readDigits base false cs = some ds ∨
      ∃ d rest, digitValue? base c = some d ∧ readDigits base true cs = some rest ∧
        ds = d :: rest := by
  rw [readDigits] at h
  split at h
  · split at h
    · exact .inl h
    · cases h
  · obtain ⟨d, hd, h⟩ := Option.bind_eq_some_iff.1 h
    obtain ⟨rest, hrest, h⟩ := Option.bind_eq_some_iff.1 h
    cases h
    exact .inr ⟨d, rest, hd, hrest, rfl⟩

theorem readDigits_bounds {base : Nat} {cs : List Char} : ∀ {afterDigit : Bool} {ds : List Nat},
    readDigits base afterDigit cs = some ds → ds.length ≤ cs.length ∧ ∀ d ∈ ds, d < base := by
  induction cs with
  | nil =>
    intro afterDigit ds h
    rw [readDigits] at h
    split at h
    · cases h
      exact ⟨Nat.le_refl _, fun d hd => nomatch hd⟩
    · cases h
  | cons c cs ih =>
    intro afterDigit ds h
    rw [List.length_cons]
    rcases readDigits_cons h with h | ⟨d, rest, hd, hrest, rfl⟩
    · obtain ⟨hlength, hdigits⟩ := ih h
      exact ⟨by omega, hdigits⟩
    · obtain ⟨hlength, hdigits⟩ := ih hrest
      rw [List.length_cons]
      exact ⟨by omega, List.forall_mem_cons.2 ⟨lt_of_digitValue? hd, hdigits⟩⟩

/-- A number is bounded by its number of digits. -/
theorem ofDigits_lt {base : Nat} {ds : List Nat} (h : ∀ d ∈ ds, d < base) :
    ofDigits base ds < Nat.pow base ds.length := by
  have hfold : ∀ acc,
      ds.foldl (fun acc d => acc * base + d) acc < (acc + 1) * Nat.pow base ds.length := by
    induction ds with
    | nil =>
      intro acc
      show acc < (acc + 1) * 1
      omega
    | cons d ds ih =>
      intro acc
      obtain ⟨hd, hds⟩ := List.forall_mem_cons.1 h
      have hstep : acc * base + d + 1 ≤ (acc + 1) * base := by
        rw [Nat.add_mul, Nat.one_mul]
        omega
      calc ds.foldl (fun acc d => acc * base + d) (acc * base + d)
          < (acc * base + d + 1) * Nat.pow base ds.length := ih hds _
        _ ≤ (acc + 1) * base * Nat.pow base ds.length := Nat.mul_le_mul_right _ hstep
        _ = (acc + 1) * (Nat.pow base ds.length * base) := by
          rw [Nat.mul_assoc, Nat.mul_comm base]
  have hzero := hfold 0
  rw [Nat.zero_add, Nat.one_mul] at hzero
  exact hzero

/-! ## Signs and margins -/

theorem length_trimMargin_le (cs : List Char) : (trimMargin cs).length ≤ cs.length := by
  rw [trimMargin, List.length_reverse]
  refine Nat.le_trans (List.dropWhile_sublist _).length_le ?_
  rw [List.length_reverse]
  exact (List.dropWhile_sublist _).length_le

theorem length_splitSign_le (cs : List Char) : (splitSign cs).2.length ≤ cs.length := by
  unfold splitSign
  split <;> simp

/-- Only a minus in front makes a number negative, and then it is no digit. -/
theorem length_splitSign_lt {cs : List Char} (h : (splitSign cs).1 = true) :
    (splitSign cs).2.length < cs.length := by
  unfold splitSign at h ⊢
  split at h
  · simp
  · cases h
  · cases h

theorem length_dropHexMark_le (cs : List Char) : (dropHexMark cs).length ≤ cs.length := by
  unfold dropHexMark
  split
  · split <;> simp only [List.length_cons] <;> omega
  · split <;> simp only [List.length_cons] <;> omega
  · exact Nat.le_refl _

/-! ## Numbers -/

/-- The digits of a text in a base, and what stands in for them. -/
def unsignedPart (base : Nat) (text : String) : List Char :=
  let unsigned := (splitSign (trimMargin text.toList)).2
  if base = 16 then dropHexMark unsigned else unsigned

/-- A text that spells an integer consists of a sign and digits. -/
theorem readInteger_ok {base : Nat} {text : String} {n : Int} (h : readInteger base text = .ok n) :
    ∃ ds, readDigits base false (unsignedPart base text) = some ds ∧
      n = if (splitSign (trimMargin text.toList)).1 then -(ofDigits base ds : Int)
        else ofDigits base ds := by
  rw [readInteger] at h
  generalize hsign : splitSign (trimMargin text.toList) = signed at h ⊢
  have hpart : (if base = 16 then dropHexMark signed.2 else signed.2) = unsignedPart base text := by
    rw [unsignedPart, hsign]
  obtain ⟨negative, unsigned⟩ := signed
  simp only at h hpart ⊢
  rw [hpart] at h
  split at h
  · cases h
  · rename_i ds hds
    split at h
    · cases h
    · split at h
      · cases h
      · rename_i hwhole
        have hrun : (unsignedPart base text).takeWhile (isDigitOrUnderscore base) =
            unsignedPart base text :=
          (List.takeWhile_sublist _).eq_of_length_le (Nat.le_of_not_lt hwhole)
        rw [hrun] at hds
        cases h
        exact ⟨ds, hds, rfl⟩

theorem length_unsignedPart_le (base : Nat) (text : String) :
    (unsignedPart base text).length ≤ (splitSign (trimMargin text.toList)).2.length := by
  rw [unsignedPart]
  split
  · exact length_dropHexMark_le _
  · exact Nat.le_refl _

/-- **An integer is bounded by the length of its text**, and a negative one has a minus there. -/
theorem natAbs_lt_of_readInteger {base : Nat} (hbase : 0 < base) {text : String} {n : Int}
    (h : readInteger base text = .ok n) :
    n.natAbs < Nat.pow base text.toList.length ∧
      (n < 0 → n.natAbs < Nat.pow base (text.toList.length - 1)) := by
  obtain ⟨ds, hds, hn⟩ := readInteger_ok h
  obtain ⟨hlength, hdigits⟩ := readDigits_bounds hds
  have hlt := ofDigits_lt hdigits
  have habs : n.natAbs = ofDigits base ds := by
    rw [hn]
    split <;> simp
  have hpart := length_unsignedPart_le base text
  have hsigned := length_splitSign_le (trimMargin text.toList)
  have htrimmed := length_trimMargin_le text.toList
  rw [habs]
  refine ⟨Nat.lt_of_lt_of_le hlt (Nat.pow_le_pow_right hbase (by omega)), fun hneg => ?_⟩
  have hminus : (splitSign (trimMargin text.toList)).1 = true := by
    cases hsign : (splitSign (trimMargin text.toList)).1 with
    | true => rfl
    | false =>
      rw [hsign] at hn
      simp only [Bool.false_eq_true, if_false] at hn
      omega
  have hfewer := length_splitSign_lt hminus
  exact Nat.lt_of_lt_of_le hlt (Nat.pow_le_pow_right hbase (by omega))

/-! ## Two characters -/

/-- Two characters that spell a negative number: a minus and a digit other than zero. -/
def isMinusPair (a b : Char) : Bool := a == '-' && (digitValue? 16 b).any (· != 0)

theorem splitSign_of_ne {c : Char} (h : c ≠ '-') (cs : List Char) :
    (splitSign (c :: cs)).1 = false := by
  unfold splitSign
  split
  · rename_i heq
    cases heq
    exact absurd rfl h
  · rfl
  · rfl

theorem trimMargin_pair (a b : Char) :
    trimMargin [a, b] =
      if isMargin b then (if isMargin a then [] else [a])
      else if isMargin a then [b] else [a, b] := by
  cases ha : isMargin a <;> cases hb : isMargin b <;> simp [trimMargin, ha, hb]

/-- A sign alone spells nothing. -/
theorem unsigned_ne_nil {base : Nat} {text : String} {ds : List Nat}
    (h : readDigits base false (unsignedPart base text) = some ds) :
    (splitSign (trimMargin text.toList)).2 ≠ [] := by
  intro hnil
  have hlength := length_unsignedPart_le base text
  rw [hnil, List.length_nil, Nat.le_zero, List.length_eq_zero_iff] at hlength
  rw [hlength] at h
  cases h

theorem dropHexMark_singleton (c : Char) : dropHexMark [c] = [c] := by
  unfold dropHexMark
  split
  · rename_i heq
    cases heq
  · rename_i heq
    cases heq
  · rfl

/-- After a minus, the second character is a digit. -/
theorem readInteger_minus {b : Char} {n : Int}
    (h : readInteger 16 (String.ofList ['-', b]) = .ok n) :
    ∃ d, digitValue? 16 b = some d ∧ n = -(d : Int) := by
  obtain ⟨ds, hds, hn⟩ := readInteger_ok h
  have hrest := unsigned_ne_nil hds
  rw [unsignedPart] at hds
  rw [String.toList_ofList, trimMargin_pair] at hds hn hrest
  have hminus : isMargin '-' = false := by decide
  rw [hminus] at hds hn hrest
  cases hb : isMargin b with
  | true =>
    rw [hb] at hrest
    exact absurd rfl hrest
  | false =>
    rw [hb] at hds hn
    have hdigit : readDigits 16 false [b] = some ds := by
      rw [← dropHexMark_singleton b]
      exact hds
    rcases readDigits_cons hdigit with hnone | ⟨d, rest, hd, hend, rfl⟩
    · cases hnone
    · cases hend
      exact ⟨d, hd, by simpa [splitSign, ofDigits] using hn⟩

/-- Without a minus in front, two characters spell no negative number: a minus at the second place
has no digit after it. -/
theorem nonneg_of_readInteger {a b : Char} (ha : a ≠ '-') {n : Int}
    (h : readInteger 16 (String.ofList [a, b]) = .ok n) : 0 ≤ n := by
  obtain ⟨ds, hds, hn⟩ := readInteger_ok h
  have hrest := unsigned_ne_nil hds
  rw [String.toList_ofList, trimMargin_pair] at hn hrest
  have hplus : (splitSign (if isMargin b then (if isMargin a then [] else [a])
      else if isMargin a then [b] else [a, b])).1 = false := by
    cases hmb : isMargin b with
    | true =>
      cases hma : isMargin a with
      | true => rfl
      | false => exact splitSign_of_ne ha []
    | false =>
      cases hma : isMargin a with
      | false => exact splitSign_of_ne ha [b]
      | true =>
        rw [hmb, hma] at hrest
        by_cases hb : b = '-'
        · subst hb
          exact absurd rfl hrest
        · exact splitSign_of_ne hb []
  rw [hplus] at hn
  simp only [Bool.false_eq_true, if_false] at hn
  omega

/-- **What two characters spell in base sixteen.** -/
theorem readInteger_pair {a b : Char} {n : Int}
    (h : readInteger 16 (String.ofList [a, b]) = .ok n) :
    (-15 ≤ n ∧ n ≤ 255) ∧ (n < 0 ↔ isMinusPair a b = true) := by
  obtain ⟨habs, hneg⟩ := natAbs_lt_of_readInteger (by decide) h
  rw [String.toList_ofList] at habs hneg
  have hrange : n.natAbs < 256 := habs
  have hnegative : n < 0 → n.natAbs < 16 := hneg
  refine ⟨by omega, ?_⟩
  by_cases ha : a = '-'
  · subst ha
    obtain ⟨d, hd, rfl⟩ := readInteger_minus h
    rw [isMinusPair, hd]
    simp
    omega
  · have hnonneg := nonneg_of_readInteger ha h
    simp [isMinusPair, ha]
    omega

end Chip8.Text
