import Chip8.Config.Value
import Mathlib.Data.List.Infix

/-!
# Places in a document

A place is given by the names of the entries on the way to it.  `Value.at?` looks a place up and
`Value.without` takes the entry at a place away, with everything below it.  What is found after that
depends only on how the two places lie to each other:

* `at?_without_below` — nothing at the place and below it;
* `at?_without_above` — above it, what was there, but without the entry;
* `at?_without_beside` — everywhere else what was there.
-/

namespace Chip8

namespace Value

/-- The value at a place of a document. -/
def at? : List String → Value → Option Value
  | [], v => some v
  | name :: path, map entries => (get? entries name).bind (at? path)
  | _ :: _, _ => none

/-- The entry with its value changed, if its key is the name. -/
def alterEntry (name : String) (f : Value → Value) (e : Value × Value) : Value × Value :=
  (e.1, if sameKey e.1 (.text name) then f e.2 else e.2)

/-- The document without the entry at a place.  The whole document is no entry. -/
def without : List String → Value → Value
  | [name], map entries => map (entries.filter fun e => !sameKey e.1 (.text name))
  | name :: next :: path, map entries =>
    map (entries.map (alterEntry name (without (next :: path))))
  | _, v => v

/-! ## Entries of a mapping -/

theorem sameKey_text_iff {key : Value} {name : String} :
    sameKey key (.text name) = true ↔ key.key? = some (.text name) := by
  have htext : (text name).key? = some (.text name) := rfl
  rw [sameKey, htext]
  cases key.key? with
  | none => simp
  | some k => simp

/-- A key is not the same as two names. -/
theorem sameKey_of_ne {key : Value} {name other : String} (hne : other ≠ name)
    (h : sameKey key (.text other) = true) : sameKey key (.text name) = false := by
  rw [sameKey_text_iff] at h
  rw [← Bool.not_eq_true, sameKey_text_iff, h]
  simpa using hne

theorem get?_filter_self (entries : List (Value × Value)) (name : String) :
    get? (entries.filter fun e => !sameKey e.1 (.text name)) name = none := by
  rw [get?, List.find?_filter, List.find?_eq_none.2 fun e _ => by simp, Option.map_none]

theorem get?_filter_of_ne (entries : List (Value × Value)) {name other : String}
    (hne : other ≠ name) :
    get? (entries.filter fun e => !sameKey e.1 (.text name)) other = get? entries other := by
  rw [get?, List.find?_filter, get?]
  congr 2
  funext e
  cases h : sameKey e.1 (.text other) with
  | false => simp
  | true => simp [sameKey_of_ne hne h]

theorem get?_map_alterEntry (entries : List (Value × Value)) (name other : String)
    (f : Value → Value) :
    get? (entries.map (alterEntry name f)) other =
      (get? entries other).map (if other = name then f else id) := by
  have hkey : ((fun e : Value × Value => sameKey e.1 (.text other)) ∘ alterEntry name f) =
      fun e => sameKey e.1 (.text other) := rfl
  rw [get?, List.find?_map, hkey, get?]
  cases hfind : entries.find? fun e => sameKey e.1 (.text other) with
  | none => rfl
  | some e =>
    have hsame : sameKey e.1 (.text other) = true :=
      List.find?_some (p := fun e : Value × Value => sameKey e.1 (.text other)) hfind
    by_cases hname : other = name
    · subst hname
      simp [alterEntry, hsame]
    · simp [alterEntry, hname, sameKey_of_ne hname hsame]

/-! ## Places -/

theorem without_cons (name : String) {path : List String} (hpath : path ≠ [])
    (entries : List (Value × Value)) :
    (map entries).without (name :: path) = map (entries.map (alterEntry name (without path))) := by
  cases path with
  | nil => exact absurd rfl hpath
  | cons next path => rfl

/-- Taking an entry away from a mapping leaves a mapping. -/
theorem without_map (path : List String) (entries : List (Value × Value)) :
    ∃ rest, (map entries).without path = map rest := by
  unfold without
  split
  · exact ⟨_, rfl⟩
  · exact ⟨_, rfl⟩
  · exact ⟨_, rfl⟩

theorem without_of_not_map {v : Value} (h : ∀ entries, v ≠ map entries) (path : List String) :
    v.without path = v := by
  unfold without
  split
  · exact absurd rfl (h _)
  · exact absurd rfl (h _)
  · rfl

theorem at?_of_not_map {v : Value} (h : ∀ entries, v ≠ map entries) (name : String)
    (path : List String) : v.at? (name :: path) = none := by
  unfold at?
  split
  · rename_i heq
    cases heq
  · exact absurd rfl (h _)
  · rfl

/-- A step into a mapping from which an entry further down was taken away. -/
theorem at?_without_cons (entries : List (Value × Value)) (name other : String)
    {p : List String} (hp : p ≠ []) (q : List String) :
    ((map entries).without (name :: p)).at? (other :: q) =
      (get? entries other).bind fun v => (if other = name then v.without p else v).at? q := by
  rw [without_cons name hp, at?, get?_map_alterEntry, Option.bind_map]
  congr 1
  funext v
  by_cases hname : other = name
  · rw [Function.comp_apply, if_pos hname, if_pos hname]
  · rw [Function.comp_apply, if_neg hname, if_neg hname, id]

theorem isMap_or_not (v : Value) : (∀ entries, v ≠ map entries) ∨ ∃ entries, v = map entries := by
  by_cases h : ∃ entries, v = map entries
  · exact .inr h
  · exact .inl fun entries hv => h ⟨entries, hv⟩

theorem at?_append (p q : List String) : ∀ v : Value,
    v.at? (p ++ q) = (v.at? p).bind (at? q) := by
  induction p with
  | nil => exact fun v => rfl
  | cons name p ih =>
    intro v
    rcases v.isMap_or_not with hmap | ⟨entries, rfl⟩
    · rw [List.cons_append, at?_of_not_map hmap, at?_of_not_map hmap, Option.bind_none]
    · rw [List.cons_append, at?, at?, Option.bind_assoc]
      congr 1
      funext v
      exact ih v

/-- What stands above an entry is a mapping. -/
theorem exists_map_of_at? {v w u : Value} {p q : List String} (hq : q ≠ [])
    (hw : v.at? p = some w) (hu : v.at? (p ++ q) = some u) : ∃ entries, w = map entries := by
  rw [at?_append, hw, Option.bind_some] at hu
  rcases w.isMap_or_not with hmap | h
  · cases q with
    | nil => exact absurd rfl hq
    | cons name q =>
      rw [at?_of_not_map hmap] at hu
      cases hu
  · exact h

theorem at?_without_below {p : List String} (hp : p ≠ []) (q : List String) :
    ∀ v : Value, (v.without p).at? (p ++ q) = none := by
  induction p with
  | nil => exact absurd rfl hp
  | cons name p ih =>
    intro v
    rcases v.isMap_or_not with hmap | ⟨entries, rfl⟩
    · rw [without_of_not_map hmap]
      exact at?_of_not_map hmap name (p ++ q)
    · by_cases hnil : p = []
      · subst hnil
        show (get? _ name).bind (at? q) = none
        rw [get?_filter_self, Option.bind_none]
      · rw [List.cons_append, at?_without_cons entries name name hnil]
        simp only [if_true, ih hnil, Option.bind_fun_none]

theorem at?_without_above {r : List String} (hr : r ≠ []) (q : List String) :
    ∀ v : Value, (v.without (q ++ r)).at? q = (v.at? q).map (without r) := by
  induction q with
  | nil => exact fun v => rfl
  | cons name q ih =>
    intro v
    rcases v.isMap_or_not with hmap | ⟨entries, rfl⟩
    · rw [without_of_not_map hmap, at?_of_not_map hmap]
      rfl
    · rw [List.cons_append, at?_without_cons entries name name (by simp [hr]), at?,
        Option.map_bind]
      simp only [if_true, ih]
      rfl

theorem at?_without_beside {p : List String} : ∀ {q : List String}, ¬ p <+: q → ¬ q <+: p →
    ∀ v : Value, (v.without p).at? q = v.at? q := by
  induction p with
  | nil => exact fun hpq => absurd List.nil_prefix hpq
  | cons name p ih =>
    intro q hpq hqp v
    cases q with
    | nil => exact absurd List.nil_prefix hqp
    | cons other q =>
      rcases v.isMap_or_not with hmap | ⟨entries, rfl⟩
      · rw [without_of_not_map hmap]
      · by_cases hnil : p = []
        · subst hnil
          have hne : other ≠ name := by
            rintro rfl
            exact hpq (by simp)
          show (get? _ other).bind (at? q) = (get? entries other).bind (at? q)
          rw [get?_filter_of_ne entries hne]
        · rw [at?_without_cons entries name other hnil, at?]
          congr 1
          funext v
          by_cases hname : other = name
          · subst hname
            rw [List.prefix_cons_inj] at hpq hqp
            rw [if_pos rfl, ih hpq hqp]
          · rw [if_neg hname]

end Value

end Chip8
