/-!
# One thing after another

A sequence of two things, of which each can fail.  Where only an answer is made (`Except`), the
second thing is done with the answer of the first; where something is done with a state (`EStateM`),
also in the state that the first one left.

* `bind_of_ok`, `bind_of_error` — what becomes of a sequence of which the first thing succeeds, or
  fails;
* `bind_eq_ok`, `bind_eq_error_iff` — what has become of the parts of a sequence;
* `Except.bind_eq_ok_iff`, `Except.bind_eq_error_iff`, `Except.mapError_eq_ok_iff`,
  `Except.mapError_eq_error_iff` — the same for answers, and for faults that are told as others.
-/

namespace Chip8

variable {ε α β : Type}

/-! ## With a state -/

section EStateM

variable {σ : Type} {act : EStateM ε σ α} {f : α → EStateM ε σ β} {s t : σ}

theorem bind_of_ok {a : α} (h : act s = .ok a t) : (act >>= f) s = f a t := by
  show EStateM.bind act f s = f a t
  rw [EStateM.bind, h]

theorem bind_of_error {e : ε} (h : act s = .error e t) : (act >>= f) s = .error e t := by
  show EStateM.bind act f s = .error e t
  rw [EStateM.bind, h]

/-- A sequence that succeeds does so in both parts. -/
theorem bind_eq_ok {b : β} (h : (act >>= f) s = .ok b t) :
    ∃ a u, act s = .ok a u ∧ f a u = .ok b t := by
  cases hact : act s with
  | ok a u =>
    rw [bind_of_ok hact] at h
    exact ⟨a, u, rfl, h⟩
  | error e u =>
    rw [bind_of_error hact] at h
    cases h

/-- A sequence fails in its first part, or in its second after the first. -/
theorem bind_eq_error_iff {e : ε} :
    (act >>= f) s = .error e t ↔
      act s = .error e t ∨ ∃ a u, act s = .ok a u ∧ f a u = .error e t := by
  cases hact : act s with
  | ok a u =>
    rw [bind_of_ok hact]
    constructor
    · exact fun h => .inr ⟨a, u, rfl, h⟩
    · rintro (h | ⟨_, _, h, hf⟩)
      · cases h
      · cases h
        exact hf
  | error e' u =>
    rw [bind_of_error hact]
    constructor
    · intro h
      cases h
      exact .inl rfl
    · rintro (h | ⟨_, _, h, -⟩)
      · cases h
        rfl
      · cases h

end EStateM

/-! ## Without a state -/

section Except

variable {x : Except ε α} {f : α → Except ε β}

/-- A sequence with an answer has made a first one. -/
theorem Except.bind_eq_ok_iff {b : β} :
    (x >>= f) = .ok b ↔ ∃ a, x = .ok a ∧ f a = .ok b := by
  cases x with
  | error e => exact ⟨fun h => (nomatch h), fun ⟨_, h, _⟩ => (nomatch h)⟩
  | ok a =>
    constructor
    · exact fun h => ⟨a, rfl, h⟩
    · rintro ⟨_, h, hb⟩
      cases h
      exact hb

/-- The fault of a sequence is that of its first part, or of what follows. -/
theorem Except.bind_eq_error_iff {e : ε} :
    (x >>= f) = .error e ↔ x = .error e ∨ ∃ a, x = .ok a ∧ f a = .error e := by
  cases x with
  | error e' =>
    constructor
    · intro h
      cases h
      exact .inl rfl
    · rintro (h | ⟨a, h, -⟩)
      · cases h
        rfl
      · cases h
  | ok a =>
    constructor
    · exact fun h => .inr ⟨a, rfl, h⟩
    · rintro (h | ⟨b, h, hb⟩)
      · cases h
      · cases h
        exact hb

theorem Except.mapError_eq_ok_iff {ε' : Type} {f : ε → ε'} {a : α} :
    x.mapError f = .ok a ↔ x = .ok a := by
  cases x with
  | error e => exact ⟨fun h => (nomatch h), fun h => (nomatch h)⟩
  | ok b =>
    constructor
    · intro h
      cases h
      rfl
    · intro h
      cases h
      rfl

theorem Except.mapError_eq_error_iff {ε' : Type} {f : ε → ε'} {e : ε'} :
    x.mapError f = .error e ↔ ∃ reason, x = .error reason ∧ f reason = e := by
  cases x with
  | error reason =>
    constructor
    · intro h
      cases h
      exact ⟨reason, rfl, rfl⟩
    · rintro ⟨_, h, rfl⟩
      cases h
      rfl
  | ok a =>
    constructor
    · intro h
      cases h
    · rintro ⟨_, h, -⟩
      cases h

end Except

end Chip8
