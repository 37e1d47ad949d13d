import Transducer.Proofs.Line.Padding

/-!
The words of a text and the blanks around them. A text that neither begins nor ends with a blank
comes back from any blanks it is put between, and blanks in front of a text or behind it are not part
of its words.
-/

namespace Transducer.Word

variable {u v w r : Word}

theorem exists_trimEnd (w : Word) : ∃ u, isBlank u = true ∧ w = trimEnd w ++ u := by
  refine ⟨(w.reverse.takeWhile Transducer.isBlank).reverse, ?_, ?_⟩
  · rw [isBlank, List.all_reverse]
    exact List.all_takeWhile
  · rw [trimEnd, ← List.reverse_append, List.takeWhile_append_dropWhile, List.reverse_reverse]

theorem trimEnd_append (v : Word) (hu : isBlank u = true) : trimEnd (v ++ u) = trimEnd v := by
  have hu' : ∀ c ∈ u.reverse, Transducer.isBlank c = true := by
    simpa [isBlank] using hu
  rw [trimEnd, trimEnd, List.reverse_append, List.dropWhile_append_of_pos hu']

theorem isBlank_trimEnd (w : Word) : isBlank (trimEnd w) = isBlank w := by
  obtain ⟨u, hu, hw⟩ := exists_trimEnd w
  calc isBlank (trimEnd w)
      = (isBlank (trimEnd w) && isBlank u) := by rw [hu, Bool.and_true]
    _ = isBlank (trimEnd w ++ u) := List.all_append.symm
    _ = isBlank w := by rw [← hw]

/-- The text neither begins nor ends with a blank. -/
structure Trimmed (w : Word) : Prop where
  front : Stops Transducer.isBlank w
  back : Stops Transducer.isBlank w.reverse

theorem trimEnd_of_stops (h : Stops Transducer.isBlank w.reverse) : trimEnd w = w := by
  change (trimStart w.reverse).reverse = w
  rw [trimStart_of_stops h, List.reverse_reverse]

theorem Stops.of_append {p : Char → Bool} (h : Stops p (v ++ w)) : Stops p v := by
  cases v with
  | nil => exact stops_nil p
  | cons c v => exact h

theorem trimmed_trim (w : Word) : w.trim.Trimmed where
  front := by
    obtain ⟨u, -, hw⟩ := exists_trimEnd w.trimStart
    have hfront : Stops Transducer.isBlank (w.trim ++ u) := by
      rw [trim, ← hw]
      exact stops_dropWhile _ w
    exact hfront.of_append
  back := by
    rw [trim, trimEnd, List.reverse_reverse]
    exact stops_dropWhile _ _

/-- Of a trimmed text between blanks, the blanks are what trimming takes off. -/
theorem Trimmed.trim_between (h : w.Trimmed) (hu : u.isBlank = true) (hv : v.isBlank = true) :
    trim (u ++ (w ++ v)) = w := by
  rw [trim, trimStart_append hu]
  cases w with
  | nil =>
    rw [List.nil_append, trimStart_of_isBlank hv]
    rfl
  | cons c w =>
    rw [trimStart_of_stops (w := c :: w ++ v) h.front, trimEnd_append _ hv,
      trimEnd_of_stops h.back]

theorem exists_trim (w : Word) :
    ∃ u v, u.isBlank = true ∧ v.isBlank = true ∧ w = u ++ (w.trim ++ v) := by
  obtain ⟨u, hu, hw, -⟩ := exists_trimStart w
  obtain ⟨v, hv, hrest⟩ := exists_trimEnd w.trimStart
  refine ⟨u, v, hu, hv, ?_⟩
  rw [trim, ← hrest, ← hw]

/-- A trimmed text between blanks leaves a blank in front, unless there is nothing to see of it. -/
theorem Trimmed.stops_between_iff (h : w.Trimmed) (hu : u.isBlank = true)
    (hv : v.isBlank = true) :
    Stops (!Transducer.isBlank ·) (u ++ (w ++ v)) ↔ u ≠ [] ∨ w = [] := by
  cases u with
  | cons c u =>
    have hc := List.all_eq_true.mp hu c List.mem_cons_self
    simp [hc]
  | nil =>
    cases w with
    | cons c w => simp [stops_cons.mp h.front]
    | nil => simpa using stops_of_isBlank (by simp) hv

theorem words_append_of_isBlank (hu : u.isBlank = true) (w : Word) :
    words (u ++ w) = words w := by
  induction u with
  | nil => rfl
  | cons c u ih =>
    simp only [isBlank, List.all_cons, Bool.and_eq_true] at hu
    rw [List.cons_append, words, if_pos hu.1, ih hu.2]

theorem words_of_isBlank (hu : u.isBlank = true) : words u = [] := by
  rw [← List.append_nil u, words_append_of_isBlank hu, words]

theorem words_append_blanks (w : Word) (hu : u.isBlank = true) : words (w ++ u) = words w := by
  have hstops : Stops (!Transducer.isBlank ·) u := stops_of_isBlank (by simp) hu
  fun_induction words w with
  | case1 => exact words_of_isBlank hu
  | case2 c w hc ih => rw [List.cons_append, words, if_pos hc, ih]
  | case3 c w hc ih =>
    rw [List.cons_append, words, if_neg hc, takeWhile_padded w hstops, dropWhile_padded w hstops, ih]

/-- A text without blanks that is not empty, as words are. -/
structure Solid (w : Word) : Prop where
  ne_nil : w ≠ []
  all : w.all (!Transducer.isBlank ·) = true

theorem Solid.stops_append (hw : w.Solid) (r : Word) : Stops Transducer.isBlank (w ++ r) := by
  obtain ⟨c, w, rfl⟩ := List.exists_cons_of_ne_nil hw.ne_nil
  obtain ⟨hc, -⟩ := Bool.and_eq_true_iff.mp hw.all
  exact stops_cons.mpr (by simpa using hc)

/-- What does not begin with a blank begins with a word. -/
theorem exists_solid (hw : Stops Transducer.isBlank w) (hne : w ≠ []) :
    ∃ v r, w = v ++ r ∧ v.Solid ∧ Stops (!Transducer.isBlank ·) r := by
  refine ⟨w.takeWhile (!Transducer.isBlank ·), w.dropWhile (!Transducer.isBlank ·),
    List.takeWhile_append_dropWhile.symm, ⟨?_, List.all_takeWhile⟩, stops_dropWhile _ w⟩
  obtain ⟨c, w, rfl⟩ := List.exists_cons_of_ne_nil hne
  simp [stops_cons.mp hw]

/-- A word that a blank or nothing follows is the first of the words. -/
theorem Solid.words_append (hw : w.Solid) (hr : Stops (!Transducer.isBlank ·) r) :
    words (w ++ r) = w :: words r := by
  obtain ⟨c, w, rfl⟩ := List.exists_cons_of_ne_nil hw.ne_nil
  obtain ⟨hc, hall⟩ := Bool.and_eq_true_iff.mp hw.all
  have hc : ¬ Transducer.isBlank c = true := by simpa using hc
  rw [List.cons_append, words, if_neg hc, takeWhile_append_of_stops hall hr,
    dropWhile_append_of_stops hall hr]

end Transducer.Word
