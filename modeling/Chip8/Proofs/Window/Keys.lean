import Mathlib.Data.List.Induction
import Chip8.Proofs.Window.Deeds

/-!
# Keys that stay down

A key of the host that goes up lets go of the key of the keypad that it stands for at that moment.
Is this the key that it moved when it went down?  The keymap may be another one by then, and the
machine may have been started over.

* `isDown_after_iff` — one deed: which keys are down after it;
* `isDown_afterAll` — a history: behind a key that is down, there is a press that nothing has undone
  since;
* `keys_released` — **when every key of the host has gone up again, so has every key of the
  keypad**, as long as each one finds the key that it moved;
* `key_sticks` — with a change of the keymap at the wrong moment, a key stays down.
-/

namespace Chip8

namespace Keypad

theorem isDown_initial (k : Fin 16) : initial.isDown k = false := Vector.getElem_replicate k.isLt

theorem isDown_press (p : Keypad) (key k : Fin 16) (pressed : Bool) :
    (p.press key pressed).isDown k = if key = k then pressed else p.isDown k := by
  rw [press]
  split
  · rename_i hsame
    split
    · rename_i hkey
      rw [← hkey, hsame]
    · rfl
  · have hset : (setEntry p.down key pressed).get k = if key = k then pressed else p.isDown k :=
      get_setEntry ..
    simp only
    split <;> exact hset

end Keypad

namespace Deed

variable {τ : Type}

/-- A key of the host that stands for a key goes down or up. -/
def Moves (d : Deed) (w : Window τ) (k : Fin 16) (pressed : Bool) : Prop :=
  ∃ name, d = .key name pressed false ∧ w.keyFor name = some k

variable {d : Deed} {w : Window τ} {k : Fin 16}

theorem moves_key_iff {name : String} {pressed wanted : Bool} :
    (key name pressed false).Moves w k wanted ↔ pressed = wanted ∧ w.keyFor name = some k := by
  constructor
  · rintro ⟨_, ⟨⟩, hk⟩
    exact ⟨rfl, hk⟩
  · rintro ⟨rfl, hk⟩
    exact ⟨name, rfl, hk⟩

theorem Moves.not_startsOver {pressed : Bool} (h : d.Moves w k pressed) : ¬ d.StartsOver w := by
  obtain ⟨name, rfl, -⟩ := h
  exact id

theorem LeavesKeys.not_moves (h : d.LeavesKeys w) (k : Fin 16) (pressed : Bool) :
    ¬ d.Moves w k pressed := by
  rintro ⟨name, rfl, hkey⟩
  have hnone : w.keyFor name = none := h.2
  rw [hnone] at hkey
  cases hkey

end Deed

namespace Window

variable {τ : Type} [TimeScale τ] {w : Window τ}

/-! ## One deed -/

/-- **Which keys are down after a deed**: the one that it presses, and those that were down, unless
it releases them or starts over. -/
theorem isDown_after_iff (hw : w.Sound) (d : Deed) (k : Fin 16) :
    (w.after d).machine.keypad.isDown k = true ↔
      d.Moves w k true ∨
        w.machine.keypad.isDown k = true ∧ ¬ d.Moves w k false ∧ ¬ d.StartsOver w := by
  rcases (hw.turn d).2 with ⟨hd, -, hkeys⟩ | ⟨hd, hkey, -, -, hkeys⟩ | ⟨hd, hdown, -, -⟩
  · have hup : (w.after d).machine.keypad.isDown k = false := by
      rw [hkeys, Keypad.isDown_initial]
    rw [hup]
    constructor
    · intro h
      cases h
    · rintro (hpress | ⟨-, -, hover⟩)
      · exact absurd hd hpress.not_startsOver
      · exact absurd hd hover
  · rename_i name pressed key
    subst hd
    have hover : ¬ (Deed.key name pressed false).StartsOver w := id
    rw [hkeys, Keypad.isDown_press, Deed.moves_key_iff, Deed.moves_key_iff, hkey,
      Option.some.injEq]
    by_cases hk : key = k
    · cases pressed <;> simp [hk]
    · simp [hk, hover]
  · have hsame : (w.after d).machine.keypad.isDown k = w.machine.keypad.isDown k :=
      congrArg (fun down => down.get k) hdown
    rw [hsame]
    constructor
    · exact fun h => .inr ⟨h, hd.not_moves k false, hd.1⟩
    · rintro (hpress | ⟨h, -⟩)
      · exact absurd hpress (hd.not_moves k true)
      · exact h

/-! ## Histories -/

/-- **Behind a key that is down there is a press that nothing has undone since.** -/
theorem isDown_afterAll (hw : w.Sound) (hup : ∀ k, w.machine.keypad.isDown k = false) (k : Fin 16)
    (deeds : List Deed) (h : (w.afterAll deeds).machine.keypad.isDown k = true) :
    ∃ (i : Nat) (press : Deed), deeds[i]? = some press ∧ press.Moves (w.before deeds i) k true ∧
      ∀ (j : Nat) (d : Deed), i < j → deeds[j]? = some d →
        ¬ d.Moves (w.before deeds j) k false ∧ ¬ d.StartsOver (w.before deeds j) := by
  -- the induction takes the last deed off, since it is the one that decides
  induction deeds using List.reverseRecOn with
  | nil => cases h.symm.trans (hup k)
  | append_singleton deeds d ih =>
    have hlast : (deeds ++ [d])[deeds.length]? = some d := List.getElem?_concat_length
    have hbefore : w.before (deeds ++ [d]) deeds.length = w.afterAll deeds :=
      before_length w deeds [d]
    rw [afterAll_append] at h
    rcases (isDown_after_iff (hw.afterAll deeds) d k).1 h with hpress | ⟨hdown, hkept⟩
    · refine ⟨deeds.length, d, hlast, by rwa [hbefore], ?_⟩
      intro j e hj he
      rcases getElem?_concat_cases he with ⟨hold, -⟩ | ⟨rfl, -⟩ <;> omega
    · obtain ⟨i, press, hi, hpress, hrest⟩ := ih hdown
      have hlt : i < deeds.length := (List.getElem?_eq_some_iff.1 hi).1
      refine ⟨i, press, ?_, by rwa [before_append w (Nat.le_of_lt hlt)], ?_⟩
      · rwa [List.getElem?_append_left hlt]
      · intro j e hj he
        rcases getElem?_concat_cases he with ⟨hold, hthen⟩ | ⟨rfl, rfl⟩
        · rw [before_append w (Nat.le_of_lt hold)]
          exact hrest j e hj hthen
        · rw [hbefore]
          exact hkept

end Window

/-! ## Presses and releases -/

/-- Every key of the host that goes down goes up again later. -/
def AllReleased (deeds : List Deed) : Prop :=
  ∀ (i : Nat) (name : String), deeds[i]? = some (.key name true false) →
    ∃ j, i < j ∧ deeds[j]? = some (.key name false false)

/-- A key of the host goes down and, for the first time since, goes up. -/
structure PressAndRelease (deeds : List Deed) (name : String) (i j : Nat) : Prop where
  lt : i < j
  press : deeds[i]? = some (.key name true false)
  release : deeds[j]? = some (.key name false false)
  between : ∀ m, i < m → m < j → deeds[m]? ≠ some (.key name false false)

/-- After each press there is a first release. -/
theorem AllReleased.first {deeds : List Deed} (h : AllReleased deeds) {i : Nat} {name : String}
    (hi : deeds[i]? = some (.key name true false)) : ∃ j, PressAndRelease deeds name i j := by
  classical
  have hex := h i name hi
  refine ⟨Nat.find hex, (Nat.find_spec hex).1, hi, (Nat.find_spec hex).2, ?_⟩
  intro m him hmj hm
  exact Nat.find_min hex hmj ⟨him, hm⟩

namespace Window

variable {τ : Type} [TimeScale τ] {w : Window τ}

/-! ### Keys that are found again -/

/-- Every release finds the key that its press found, unless the machine was started over between
the two. -/
def FindsSame (w : Window τ) (deeds : List Deed) : Prop :=
  ∀ name i j k, PressAndRelease deeds name i j → (w.before deeds i).keyFor name = some k →
    (w.before deeds j).keyFor name = some k ∨
      ∃ (m : Nat) (d : Deed), i < m ∧ m < j ∧ deeds[m]? = some d ∧
        d.StartsOver (w.before deeds m)

theorem config_after (hw : w.Sound) {d : Deed} (hd : ∀ config, d ≠ .applyConfig config) :
    (w.after d).config = w.config := by
  rcases (hw.turn d).2 with ⟨-, hshown, -⟩ | ⟨-, -, hconfig, -⟩ | ⟨-, -, hconfig, -⟩
  · exact hshown.config
  · exact hconfig
  · exact hconfig.resolve_left fun ⟨config, h⟩ => hd config h

theorem config_afterAll (deeds : List Deed) : ∀ {w : Window τ}, w.Sound →
    (∀ d ∈ deeds, ∀ config, d ≠ .applyConfig config) → (w.afterAll deeds).config = w.config := by
  induction deeds with
  | nil => exact fun _ _ => rfl
  | cons d deeds ih =>
    intro w hw hd
    obtain ⟨hfirst, hrest⟩ := List.forall_mem_cons.1 hd
    exact (ih (hw.after d) hrest).trans (config_after hw hfirst)

/-- Under one configuration, every release finds the key that its press found. -/
theorem findsSame_of_config (hw : w.Sound) {deeds : List Deed}
    (hd : ∀ d ∈ deeds, ∀ config, d ≠ .applyConfig config) : w.FindsSame deeds := by
  have hkeymap : ∀ i, (w.before deeds i).config = w.config := fun i =>
    config_afterAll _ hw fun d hmem => hd d (List.mem_of_mem_take hmem)
  intro name i j k _ hk
  rw [keyFor, hkeymap] at hk ⊢
  exact .inl hk

/-! ### No key stays down -/

/-- **No key stays down.**  When every key of the host that went down in a new window has gone up
again, then all sixteen keys are up, whatever else was done, if every release finds the key that its
press found. -/
theorem keys_released {config : Config} {fonts : FontSet} {host : Host τ} {w : Window τ}
    (hw : create config fonts host = .ok w) {deeds : List Deed} (hfinds : w.FindsSame deeds)
    (hreleased : AllReleased deeds) (k : Fin 16) :
    (w.afterAll deeds).machine.keypad.isDown k = false := by
  obtain ⟨hsound, -, hkeys, -⟩ := create_shows hw
  have hup : ∀ k, w.machine.keypad.isDown k = false := by
    intro k
    rw [hkeys, Keypad.isDown_initial]
  refine Bool.eq_false_iff.2 fun hdown => ?_
  obtain ⟨i, press, hi, ⟨name, rfl, hkey⟩, hrest⟩ := isDown_afterAll hsound hup k deeds hdown
  obtain ⟨j, hj⟩ := hreleased.first hi
  rcases hfinds name i j k hj hkey with hsame | ⟨m, d, him, -, hm, hover⟩
  · exact (hrest j _ hj.lt hj.release).1 ⟨name, rfl, hsame⟩
  · exact (hrest m d him hm).2 hover

/-- Two keys that go down and up across each other. -/
def crossing : List Deed :=
  [.key "Q" true false, .key "W" true false, .key "Q" false false, .key "W" false false]

/-- They leave all keys up. -/
theorem keys_released_crossing :
    ∃ w : Window Rat, create .default ⟨[], "Monospace"⟩ (Host.still 0 fun _ => 0) = .ok w ∧
      w.FindsSame crossing ∧ AllReleased crossing ∧
      ∀ k, (w.afterAll crossing).machine.keypad.isDown k = false := by
  obtain ⟨w, s, hw, hsound, -⟩ | ⟨hpaints, -⟩ :=
    create_cases .default ⟨[], "Monospace"⟩ (Host.still (0 : Rat) fun _ => 0)
  · have hfinds : w.FindsSame crossing := by
      refine findsSame_of_config hsound fun d hd config => ?_
      simp only [crossing, List.mem_cons, List.not_mem_nil, or_false] at hd
      rcases hd with rfl | rfl | rfl | rfl <;> (intro h; cases h)
    have hreleased : AllReleased crossing := by
      intro i name hi
      rcases i with _ | _ | _ | _ | i
      · cases hi
        exact ⟨2, by decide, rfl⟩
      · cases hi
        exact ⟨3, by decide, rfl⟩
      all_goals cases hi
    exact ⟨w, hw, hfinds, hreleased, keys_released hw hfinds hreleased⟩
  · exact absurd ⟨by decide, by decide⟩ hpaints

/-! ### A key that stays down -/

/-- A configuration under which a key of the host stands for another key than by default. -/
def otherKeymap : Config := { Config.default with keymap := [("Q", 5)] }

/-- A key goes down and up, and meanwhile the keymap is changed. -/
def remapped : List Deed :=
  [.key "Q" true false, .applyConfig otherKeymap, .key "Q" false false]

/-- After a configuration that the screen takes, it is in force. -/
theorem config_applyConfig (hw : w.Sound) {config : Config} (hpaints : config.Paints) :
    (w.after (.applyConfig config)).config = config := by
  rcases hw.applyConfig_cases config with ⟨s, -, hends⟩ | ⟨f, t, -, hrefused, -⟩
  · exact hends.stateOf.2.2.1
  · exact absurd hpaints hrefused

/-- The key that it moved stays down. -/
theorem key_sticks :
    ∃ w : Window Rat, create .default ⟨[], "Monospace"⟩ (Host.still 0 fun _ => 0) = .ok w ∧
      AllReleased remapped ∧ (w.afterAll remapped).machine.keypad.isDown 4 = true := by
  obtain ⟨w, s, hw, hsound, -, hconfig, -⟩ | ⟨hpaints, -⟩ :=
    create_cases .default ⟨[], "Monospace"⟩ (Host.still (0 : Rat) fun _ => 0)
  · refine ⟨w, hw, ?_, ?_⟩
    · intro i name hi
      rcases i with _ | _ | _ | i
      · cases hi
        exact ⟨2, by decide, rfl⟩
      all_goals cases hi
    · have hpressed : (w.after (.key "Q" true false)).machine.keypad.isDown 4 = true := by
        refine (isDown_after_iff hsound _ 4).2 (.inl ⟨"Q", rfl, ?_⟩)
        rw [keyFor, hconfig]
        decide +kernel
      have hsound₁ := hsound.after (.key "Q" true false)
      have hleaves : (Deed.applyConfig otherKeymap).LeavesKeys (w.after (.key "Q" true false)) :=
        ⟨id, trivial⟩
      have hkept := (isDown_after_iff hsound₁ (.applyConfig otherKeymap) 4).2
        (.inr ⟨hpressed, hleaves.not_moves 4 false, id⟩)
      have hsound₂ := hsound₁.after (.applyConfig otherKeymap)
      refine (isDown_after_iff hsound₂ (.key "Q" false false) 4).2 (.inr ⟨hkept, ?_, id⟩)
      rintro ⟨_, ⟨⟩, hkey⟩
      rw [keyFor, config_applyConfig hsound₁ ⟨by decide, by decide⟩] at hkey
      revert hkey
      decide +kernel
  · exact absurd ⟨by decide, by decide⟩ hpaints

end Window

end Chip8
