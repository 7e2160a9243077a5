import Chip8.Fault

/-!
# Digits

The numbers below sixteen.  They name the general registers, the keys and the slots of the call
stack.  An integer that is meant as such a name is read by `Digit.ofInt?`, or by `Digit.require`
where everything else is a fault.
-/

namespace Chip8

namespace Digit

/-- The first digit. -/
def first : Fin 16 := 0

/-- The last digit. -/
def last : Fin 16 := 15

/-- The digit that an integer is, if it is one. -/
def ofInt? (n : Int) : Option (Fin 16) :=
  if h : 0 ≤ n ∧ n < 16 then some ⟨n.toNat, by omega⟩ else none

/-- The digit that an integer is, or else the given fault. -/
def require (fault : Int → Fault) (n : Int) : Except Fault (Fin 16) :=
  match ofInt? n with
  | some d => .ok d
  | none => .error (fault n)

theorem ofInt?_coe (d : Fin 16) : ofInt? d.val = some d := by
  have h : 0 ≤ (d.val : Int) ∧ (d.val : Int) < 16 := by omega
  rw [ofInt?, dif_pos h]
  rfl

theorem ofInt?_outside {n : Int} (h : ¬ (0 ≤ n ∧ n < 16)) : ofInt? n = none := dif_neg h

theorem require_coe (fault : Int → Fault) (d : Fin 16) : require fault d.val = .ok d := by
  rw [require, ofInt?_coe]

theorem require_outside (fault : Int → Fault) {n : Int} (h : ¬ (0 ≤ n ∧ n < 16)) :
    require fault n = .error (fault n) := by
  rw [require, ofInt?_outside h]

end Digit

/-- A sequence with one of its entries replaced. -/
def setEntry {α : Type} {n : Nat} (v : Vector α n) (i : Fin n) (a : α) : Vector α n :=
  v.set i a i.isLt

theorem get_setEntry {α : Type} {n : Nat} (v : Vector α n) (i j : Fin n) (a : α) :
    (setEntry v i a).get j = if i = j then a else v.get j := by
  have h : (v.set i.val a i.isLt)[j.val] = if i.val = j.val then a else v[j.val] :=
    Vector.getElem_set i.isLt j.isLt
  simp only [Fin.ext_iff]
  exact h

end Chip8
