import Chip8.Config.Reading

/-!
# Values that can be quoted

A fault that quotes a value has to write it.  Two things can be in the way: an integer that is too
long, and a value that is nested too deeply.

* `Value.levels` — how deeply a value is nested;
* `Value.obstacle?_eq_none_iff` — **a value is written exactly if its integers are, and if it has no
  more levels than there is room for**;
* `Value.tooDeep_iff` — which values have too many levels, if all their integers are written, and
  `Value.tooDeep_nest`, that there are such values whatever the room;
* `ConfigFault.isForeseen_quoting` — a fault that quotes one value is foreseen unless that value is
  nested too deeply.
-/

namespace Chip8

namespace Value

/-! ## Levels -/

mutual

/-- How many levels there are inside a value. -/
def levels : Value → Nat
  | list items => itemsLevels items
  | map entries => entriesLevels entries
  | _ => 0

/-- How many levels there are inside a list, with that of its members. -/
def itemsLevels : List Value → Nat
  | [] => 0
  | v :: vs => max (levels v + 1) (itemsLevels vs)

/-- How many levels there are inside a mapping, with that of its keys and values. -/
def entriesLevels : List (Value × Value) → Nat
  | [] => 0
  | (k, v) :: es => max (max (levels k + 1) (levels v + 1)) (entriesLevels es)

end

/-- The first obstacle to writing a value is that it is nested too deeply. -/
def TooDeep (room : Nat) (v : Value) : Prop := v.obstacle? room = some .tooDeep

/-! Whatever is said of all values is said of lists and mappings at the same time. -/

mutual

/-- **A value is written exactly if nothing in it is too long, and nothing too deep.** -/
theorem obstacle?_eq_none_iff (v : Value) (room : Nat) :
    v.obstacle? room = none ↔ v.isWritable = true ∧ v.levels ≤ room := by
  cases v with
  | int n =>
    have hlevels : (int n).levels = 0 := rfl
    rw [obstacle?, hlevels]
    cases (int n).isWritable <;> simp
  | list items => exact itemsObstacle?_eq_none_iff items room
  | map entries => exact entriesObstacle?_eq_none_iff entries room
  | null | bool | float | text | other =>
    exact ⟨fun _ => ⟨rfl, Nat.zero_le room⟩, fun _ => rfl⟩

theorem itemsObstacle?_eq_none_iff (vs : List Value) (room : Nat) :
    itemsObstacle? room vs = none ↔ itemsWritable vs = true ∧ itemsLevels vs ≤ room := by
  cases vs with
  | nil => exact ⟨fun _ => ⟨rfl, Nat.zero_le room⟩, fun _ => rfl⟩
  | cons v vs =>
    rw [itemsWritable, itemsLevels, Bool.and_eq_true]
    cases room with
    | zero => simp [itemsObstacle?]
    | succ inside =>
      rw [itemsObstacle?, Option.or_eq_none_iff, obstacle?_eq_none_iff v inside,
        itemsObstacle?_eq_none_iff vs (inside + 1), Nat.max_le, Nat.add_le_add_iff_right]
      exact and_and_and_comm

theorem entriesObstacle?_eq_none_iff (es : List (Value × Value)) (room : Nat) :
    entriesObstacle? room es = none ↔ entriesWritable es = true ∧ entriesLevels es ≤ room := by
  match es with
  | [] => exact ⟨fun _ => ⟨rfl, Nat.zero_le room⟩, fun _ => rfl⟩
  | (k, v) :: es =>
    rw [entriesWritable, entriesLevels, Bool.and_eq_true, Bool.and_eq_true]
    cases room with
    | zero => simp [entriesObstacle?]
    | succ inside =>
      rw [entriesObstacle?, Option.or_eq_none_iff, Option.or_eq_none_iff,
        obstacle?_eq_none_iff k inside, obstacle?_eq_none_iff v inside,
        entriesObstacle?_eq_none_iff es (inside + 1), Nat.max_le, Nat.max_le,
        Nat.add_le_add_iff_right, Nat.add_le_add_iff_right]
      constructor
      · rintro ⟨⟨hk, hkl⟩, ⟨hv, hvl⟩, hes, hesl⟩
        exact ⟨⟨⟨hk, hv⟩, hes⟩, ⟨hkl, hvl⟩, hesl⟩
      · rintro ⟨⟨⟨hk, hv⟩, hes⟩, ⟨hkl, hvl⟩, hesl⟩
        exact ⟨⟨hk, hkl⟩, ⟨hv, hvl⟩, hes, hesl⟩

end

mutual

/-- Where no integer is too long, none is met. -/
theorem obstacle?_ne_tooLong (v : Value) (room : Nat) (h : v.isWritable = true) :
    v.obstacle? room ≠ some .tooLong := by
  cases v with
  | int n =>
    rw [obstacle?, h]
    exact nofun
  | list items => exact itemsObstacle?_ne_tooLong items room h
  | map entries => exact entriesObstacle?_ne_tooLong entries room h
  | null | bool | float | text | other => exact nofun

theorem itemsObstacle?_ne_tooLong (vs : List Value) (room : Nat) (h : itemsWritable vs = true) :
    itemsObstacle? room vs ≠ some .tooLong := by
  cases vs with
  | nil => exact nofun
  | cons v vs =>
    rw [itemsWritable, Bool.and_eq_true] at h
    cases room with
    | zero => exact nofun
    | succ inside =>
      rw [itemsObstacle?, ne_eq, Option.or_eq_some_iff]
      rintro (hv | ⟨-, hvs⟩)
      · exact obstacle?_ne_tooLong v inside h.1 hv
      · exact itemsObstacle?_ne_tooLong vs (inside + 1) h.2 hvs

theorem entriesObstacle?_ne_tooLong (es : List (Value × Value)) (room : Nat)
    (h : entriesWritable es = true) : entriesObstacle? room es ≠ some .tooLong := by
  match es with
  | [] => exact nofun
  | (k, v) :: es =>
    rw [entriesWritable, Bool.and_eq_true, Bool.and_eq_true] at h
    cases room with
    | zero => exact nofun
    | succ inside =>
      rw [entriesObstacle?, ne_eq, Option.or_eq_some_iff, Option.or_eq_some_iff]
      rintro (hk | ⟨-, hv | ⟨-, hes⟩⟩)
      · exact obstacle?_ne_tooLong k inside h.1.1 hk
      · exact obstacle?_ne_tooLong v inside h.1.2 hv
      · exact entriesObstacle?_ne_tooLong es (inside + 1) h.2 hes

end

/-- A value of which all integers are written is nested too deeply exactly if it has more levels
than there is room for. -/
theorem tooDeep_iff {v : Value} (h : v.isWritable = true) (room : Nat) :
    v.TooDeep room ↔ room < v.levels := by
  have hlong := v.obstacle?_ne_tooLong room h
  have hnone := v.obstacle?_eq_none_iff room
  rw [TooDeep]
  cases hobstacle : v.obstacle? room with
  | none =>
    have hlevels := (hnone.1 hobstacle).2
    simp only [reduceCtorEq, false_iff]
    omega
  | some reason =>
    cases reason with
    | tooLong => exact absurd hobstacle hlong
    | tooDeep =>
      have hlevels : ¬ v.levels ≤ room := fun hle => by
        rw [hnone.2 ⟨h, hle⟩] at hobstacle
        cases hobstacle
      simp only [true_iff]
      omega

/-! ## Lists in lists -/

/-- Nothing, in a number of lists one inside the other. -/
def nest : Nat → Value
  | 0 => null
  | n + 1 => list [nest n]

theorem levels_nest (n : Nat) : (nest n).levels = n := by
  induction n with
  | zero => rfl
  | succ n ih =>
    rw [nest, levels, itemsLevels, itemsLevels, ih]
    exact Nat.max_zero (n + 1)

theorem isWritable_nest (n : Nat) : (nest n).isWritable = true := by
  induction n with
  | zero => rfl
  | succ n ih =>
    rw [nest, isWritable, itemsWritable, ih]
    rfl

theorem tooDeep_nest {n room : Nat} : (nest n).TooDeep room ↔ room < n := by
  rw [tooDeep_iff (isWritable_nest n), levels_nest]

end Value

namespace ConfigFault

theorem isForeseen_eq {f : ConfigFault} (h : f ≠ .sectionNotMapping) (room : Nat) :
    f.isForeseen room = (f.obstacle? room != some .tooDeep) := by
  cases f with
  | sectionNotMapping => exact absurd rfl h
  | _ => rfl

/-- A fault that quotes one value is foreseen unless that is nested too deeply. -/
theorem isForeseen_quoting {f : ConfigFault} {v : Value} (h : f.quotes = [v]) (room : Nat) :
    f.isForeseen room = false ↔ v.TooDeep room := by
  have hsection : f ≠ .sectionNotMapping := by
    rintro rfl
    cases h
  have hobstacle : f.obstacle? room = v.obstacle? room := by
    rw [obstacle?, h, List.findSome?_cons]
    cases v.obstacle? room <;> rfl
  rw [isForeseen_eq hsection, hobstacle, bne_eq_false_iff_eq, Value.TooDeep]

/-- One that quotes a key and its code quotes the key first. -/
theorem isForeseen_codeOutOfRange {key code : Value} {room : Nat} (h : ¬ code.TooDeep room) :
    (codeOutOfRange key code).isForeseen room = false ↔ key.TooDeep room := by
  rw [Value.TooDeep] at h
  have hsection : codeOutOfRange key code ≠ .sectionNotMapping := nofun
  rw [isForeseen_eq hsection, obstacle?, quotes, List.findSome?_cons, List.findSome?_cons,
    Value.TooDeep, bne_eq_false_iff_eq]
  cases key.obstacle? room with
  | some reason => rfl
  | none =>
    cases hcode : code.obstacle? room with
    | none => simp
    | some reason =>
      rw [hcode] at h
      simp [h]

end ConfigFault

end Chip8
