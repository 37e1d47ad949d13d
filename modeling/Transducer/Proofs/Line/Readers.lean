import Transducer.Line.Parser

/-!
The readers of the parts of a line. Labels and tokens are maximal runs of characters of their class,
so a reader takes a part exactly if the line is that part and a rest that does not go on with it.
-/

namespace Transducer

namespace Word

variable {p : Char → Bool} {v w : Word}

/-- The word does not begin with a character of the class. -/
def Stops (p : Char → Bool) (w : Word) : Prop := ∀ c ∈ w.head?, p c = false

@[simp] theorem stops_nil (p : Char → Bool) : Stops p [] := nofun

@[simp] theorem stops_cons {c : Char} : Stops p (c :: w) ↔ p c = false := by
  simp [Stops]

theorem stops_dropWhile (p : Char → Bool) (w : Word) : Stops p (w.dropWhile p) := by
  intro c hc
  have h := List.head?_dropWhile_not p w
  rw [Option.mem_def.mp hc] at h
  exact h

theorem takeWhile_append_of_stops (hv : v.all p = true) (hw : Stops p w) :
    (v ++ w).takeWhile p = v := by
  rw [List.takeWhile_append_of_pos (List.all_eq_true.mp hv)]
  cases w with
  | nil => simp
  | cons c w => simp [stops_cons.mp hw]

theorem dropWhile_append_of_stops (hv : v.all p = true) (hw : Stops p w) :
    (v ++ w).dropWhile p = w := by
  rw [List.dropWhile_append_of_pos (List.all_eq_true.mp hv)]
  cases w with
  | nil => rfl
  | cons c w => simp [stops_cons.mp hw]

/-- A word is cut after its maximal run of characters of a class in one way only. -/
theorem run_iff {s : Word} :
    s.takeWhile p = v ∧ s.dropWhile p = w ↔ s = v ++ w ∧ v.all p = true ∧ Stops p w := by
  constructor
  · intro h
    obtain ⟨rfl, rfl⟩ := h
    exact ⟨List.takeWhile_append_dropWhile.symm, List.all_takeWhile, stops_dropWhile p s⟩
  · intro h
    obtain ⟨rfl, hv, hw⟩ := h
    exact ⟨takeWhile_append_of_stops hv hw, dropWhile_append_of_stops hv hw⟩

theorem trimStart_append (hv : v.isBlank = true) (w : Word) : trimStart (v ++ w) = trimStart w :=
  List.dropWhile_append_of_pos (List.all_eq_true.mp hv)

@[simp] theorem trimStart_space (w : Word) : trimStart (' ' :: w) = trimStart w :=
  trimStart_append (v := [' ']) (by decide) w

theorem trimStart_of_stops (h : Stops Transducer.isBlank w) : trimStart w = w := by
  cases w with
  | nil => rfl
  | cons c w => simp [trimStart, stops_cons.mp h]

theorem exists_trimStart (w : Word) :
    ∃ u, u.isBlank = true ∧ w = u ++ w.trimStart ∧ Stops Transducer.isBlank w.trimStart :=
  ⟨w.takeWhile Transducer.isBlank, List.all_takeWhile, List.takeWhile_append_dropWhile.symm,
    stops_dropWhile _ w⟩

theorem trimStart_blanks (hv : v.isBlank = true) (hw : Stops Transducer.isBlank w) :
    trimStart (v ++ w) = w := by
  rw [trimStart_append hv, trimStart_of_stops hw]

theorem stops_label_append {l : Word} (h : l.isLabel = true) (w : Word) :
    Stops Transducer.isBlank (l ++ w) := by
  cases l with
  | nil => simp [isLabel] at h
  | cons c l =>
    simp only [isLabel, List.all_cons, Bool.and_eq_true] at h
    exact stops_cons.mpr (isBlank_of_isLabelChar h.2.1)

theorem stops_token_append {t : Word} (h : t.isToken = true) (w : Word) :
    Stops Transducer.isBlank (t ++ w) := by
  cases t with
  | nil => simp [isToken] at h
  | cons c t =>
    simp only [isToken, List.all_cons, Bool.and_eq_true] at h
    have hc := h.2.1
    simp [isTokenChar, isSeparator] at hc
    exact stops_cons.mpr hc.1.1

end Word

namespace Line

open Word

variable {s l t r : Word}

theorem run_eq_ok_iff {p : Char → Bool} {w : Word} :
    run p s = .ok (w, r) ↔ s = w ++ r ∧ (!w.isEmpty && w.all p) = true ∧ Stops p r := by
  have hrun : run p s = .ok (w, r) ↔ w ≠ [] ∧ s.takeWhile p = w ∧ s.dropWhile p = r := by
    unfold run
    split
    · rename_i h
      rw [h]
      exact ⟨nofun, fun hw => absurd hw.2.1.symm hw.1⟩
    · rename_i h
      rw [Except.ok.injEq, Prod.mk.injEq]
      exact ⟨fun hw => ⟨hw.1 ▸ h, hw⟩, fun hw => hw.2⟩
  rw [hrun, run_iff]
  simp only [Bool.and_eq_true, Bool.not_eq_true', List.isEmpty_eq_false_iff]
  constructor
  · intro h
    obtain ⟨hne, hs, hall, hstop⟩ := h
    exact ⟨hs, ⟨hne, hall⟩, hstop⟩
  · intro h
    obtain ⟨hs, ⟨hne, hall⟩, hstop⟩ := h
    exact ⟨hne, hs, hall, hstop⟩

theorem label_eq_ok_iff :
    label s = .ok (l, r) ↔ s = l ++ r ∧ l.isLabel = true ∧ Stops isLabelChar r := run_eq_ok_iff

theorem token_eq_ok_iff :
    token s = .ok (t, r) ↔ s = t ++ r ∧ t.isToken = true ∧ Stops isTokenChar r := run_eq_ok_iff

end Line

end Transducer
