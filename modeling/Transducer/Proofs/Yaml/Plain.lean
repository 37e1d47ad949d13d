import Transducer.Alphabet
import Transducer.Yaml.Scalar.Printer
import Transducer.Yaml.Token.Reader

/-!
Plain scalars in a file. A text that is written as it is stays one scalar when it is read: none of
its characters is taken for a sign of something else, whatever comes behind it. Names made of
letters, digits and the like are written as they are.
-/

namespace Transducer.Yaml

variable {c : Char} {g r v w : Word} {b : Bool} {p : Place} {d : Draft} {s : Scan}

/-- A colon in a scalar is no sign, unless it is the last character. -/
theorem endsPlain_append (h : endsPlain false c w = false) (r : Word) :
    endsPlain false c (w ++ r) = false := by
  cases w with
  | nil =>
    have hc : c ≠ ':' := by simpa [endsPlain, isClear] using h
    simp [endsPlain, hc]
  | cons d w => exact h

theorem beginsPlain_append (h : beginsPlain false w = true) (r : Word) :
    beginsPlain false (w ++ r) = true := by
  cases w with
  | nil => cases h
  | cons c w =>
    cases w with
    | nil =>
      cases hc : isHalfIndicator c with
      | true => simp [beginsPlain, hc, isClear] at h
      | false => simpa [beginsPlain, hc] using h
    | cons d w => exact h

theorem staysPlain_cons : staysPlain b (c :: w) = true ↔ isOrdinary c = true ∧
    (b && c == '#') = false ∧ endsPlain false c w = false ∧ staysPlain (isSpace c) w = true := by
  simp only [staysPlain, Bool.and_eq_true, Bool.not_eq_true', and_assoc]

theorem isOrdinary_of_staysPlain (h : staysPlain b w = true) : ∀ c ∈ w, isOrdinary c = true := by
  induction w generalizing b with
  | nil => nofun
  | cons d w ih =>
    obtain ⟨hd, -, -, hw⟩ := staysPlain_cons.mp h
    exact List.forall_mem_cons.mpr ⟨hd, ih hw⟩

theorem isLineEnd_of_isOrdinary (h : isOrdinary c = true) : isLineEnd c = false := by
  simp only [isOrdinary, Bool.and_eq_true, Bool.not_eq_true'] at h
  exact h.1.1.2

/-- A text is written as it is if it begins as a scalar, goes on as one and does not end in a blank.
-/
theorem isPlain_iff : isPlain w = true ↔
    beginsPlain false w = true ∧ staysPlain false w = true ∧ w.getLast?.any isSpace = false := by
  simp [isPlain, and_assoc]

theorem length_le_length_flatMap_quoteChar (w : Word) :
    w.length ≤ (w.flatMap quoteChar).length := by
  induction w with
  | nil => exact Nat.le_refl 0
  | cons c w ih =>
    have hchar : 1 ≤ (quoteChar c).length := by
      unfold quoteChar
      split
      · simp
      · split <;> simp [codeEscape]
    rw [List.flatMap_cons, List.length_append, List.length_cons]
    omega

/-- What is written as it is has no quotes around it, since these would make it longer. -/
theorem isPlain_of_write_eq (h : write w = w) : isPlain w = true := by
  cases hplain : isPlain w with
  | true => rfl
  | false =>
    have hlength := length_le_length_flatMap_quoteChar w
    have hwritten := congrArg List.length h
    rw [write, hplain] at hwritten
    simp only [Bool.false_eq_true, if_false, List.cons_append, List.length_cons, List.length_append,
      List.length_nil] at hwritten
    omega

section Names

/-- None of the characters with a meaning of their own is part of a name. -/
theorem isIndicator_of_isLabelChar (h : isLabelChar c = true) : isIndicator c = false := by
  have hsigns : ([',', '[', ']', '{', '}'] ++ ['#', '&', '*', '!', '|', '>', '\'', '"', '%', '@',
      '\x60']).all (!isLabelChar ·) = true := rfl
  cases hc : isIndicator c with
  | false => rfl
  | true =>
    rw [isIndicator, isBracketing, Bool.or_eq_true, List.contains_iff_mem, List.contains_iff_mem,
      ← List.mem_append] at hc
    have hsign := List.all_eq_true.mp hsigns c hc
    rw [h] at hsign
    cases hsign

theorem ne_of_isLabelChar {d : Char} (h : isLabelChar c = true) (hd : isLabelChar d = false) :
    c ≠ d := by
  rintro rfl
  rw [h] at hd
  cases hd

theorem isHalfIndicator_of_isLabelChar (h : isLabelChar c = true) : isHalfIndicator c = false := by
  simp [isHalfIndicator, ne_of_isLabelChar h (d := '-') (by decide),
    ne_of_isLabelChar h (d := '?') (by decide), ne_of_isLabelChar h (d := ':') (by decide)]

theorem isSpace_of_isLabelChar (h : isLabelChar c = true) : isSpace c = false := by
  simp [isSpace, ne_of_isLabelChar h (d := ' ') (by decide),
    ne_of_isLabelChar h (d := '\t') (by decide)]

theorem isOrdinary_of_isLabelChar (h : isLabelChar c = true) : isOrdinary c = true := by
  have hn := toNat_of_isLabelChar h
  have hallowed : isAllowed c = true := by
    simp only [isAllowed, Bool.or_eq_true, Bool.and_eq_true, decide_eq_true_eq]
    omega
  simp [isOrdinary, hallowed, isLineEnd, ne_of_isLabelChar h (d := '\n') (by decide),
    ne_of_isLabelChar h (d := '\r') (by decide), ne_of_isLabelChar h (d := '\x85') (by decide),
    ne_of_isLabelChar h (d := '\u2028') (by decide),
    ne_of_isLabelChar h (d := '\u2029') (by decide)]

theorem staysPlain_of_all (h : w.all isLabelChar = true) (b : Bool) : staysPlain b w = true := by
  induction w generalizing b with
  | nil => rfl
  | cons c w ih =>
    rw [List.all_cons, Bool.and_eq_true] at h
    have hends : endsPlain false c w = false := by
      simp [endsPlain, ne_of_isLabelChar h.1 (d := ':') (by decide)]
    refine staysPlain_cons.mpr ⟨isOrdinary_of_isLabelChar h.1, ?_, hends, ih h.2 _⟩
    simp [ne_of_isLabelChar h.1 (d := '#') (by decide)]

/-- A name is written as it is. -/
theorem isPlain_of_isLabel (h : w.isLabel = true) : isPlain w = true := by
  simp only [Word.isLabel, Bool.and_eq_true, Bool.not_eq_true', List.isEmpty_eq_false_iff] at h
  obtain ⟨hne, hall⟩ := h
  have hchar : ∀ c ∈ w, isLabelChar c = true := List.all_eq_true.mp hall
  refine isPlain_iff.mpr ⟨?_, staysPlain_of_all hall _, ?_⟩
  · obtain ⟨c, w, rfl⟩ := List.exists_cons_of_ne_nil hne
    have hc := hchar c List.mem_cons_self
    simp [beginsPlain, isHalfIndicator_of_isLabelChar hc, isSpace_of_isLabelChar hc,
      isIndicator_of_isLabelChar hc, isLineEnd_of_isOrdinary (isOrdinary_of_isLabelChar hc)]
  · cases hlast : w.getLast? with
    | none => rfl
    | some c => exact isSpace_of_isLabelChar (hchar c (List.mem_of_getLast? hlast))

end Names

namespace Draft

/-- The draft behind more text of its line. -/
def reads (d : Draft) (w : Word) : Draft :=
  w.foldl (fun d c => if isSpace c then d.space c else d.push c) d

theorem joined_reads (hd : d.gap = .spaces g) (w : Word) :
    (d.reads w).joined = w.reverse ++ d.joined := by
  induction w generalizing d g with
  | nil => rfl
  | cons c w ih =>
    rw [reads, List.foldl_cons, List.reverse_cons, List.append_assoc]
    split
    · have hgap : (d.space c).gap = .spaces (c :: g) := by rw [space, hd]; rfl
      have hjoined : (d.space c).joined = c :: d.joined := by
        rw [joined, hgap, joined, hd]
        rfl
      rw [← reads, ih hgap, hjoined]
      rfl
    · rw [← reads, ih (g := []) rfl]
      rfl

/-- A plain scalar that was read from its beginning is all in the draft, with no gap behind it. -/
theorem reads_of_isPlain (h : isPlain w = true) : empty.reads w = ⟨w.reverse, Gap.none⟩ := by
  obtain ⟨hbegin, -, hlast⟩ := isPlain_iff.mp h
  cases hw : w.getLast? with
  | none =>
    rw [List.getLast?_eq_none_iff] at hw
    rw [hw] at hbegin
    cases hbegin
  | some c =>
    obtain ⟨v, rfl⟩ := List.getLast?_eq_some_iff.mp hw
    rw [hw] at hlast
    have hc : isSpace c = false := hlast
    rw [reads, List.foldl_append, List.foldl_cons, List.foldl_nil, if_neg (by simp [hc]), ← reads,
      push, joined_reads (d := empty) (g := []) rfl, List.reverse_append]
    simp [empty, joined, Gap.folded, Gap.none]

end Draft

namespace Place

/-- The place behind a text that is all in one line. -/
def behind (p : Place) (w : Word) : Place := ⟨p.line, p.column + w.length, p.bytes + w.bytes⟩

theorem behind_append (p : Place) (v w : Word) : p.behind (v ++ w) = (p.behind v).behind w := by
  simp [behind, Nat.add_assoc]

theorem behind_cons (p : Place) (c : Char) (w : Word) :
    p.behind (c :: w) = (p.behind [c]).behind w := p.behind_append [c] w

theorem after_of_not_isLineEnd (h : isLineEnd c = false) (p : Place) :
    p.after c = p.behind [c] := by
  simp [after, h, behind]

end Place

namespace Scan

theorem read?_cons {t : Scan} (h : s.step? c w = some t) :
    s.read? (c :: w) = { t with place := s.place.after c }.read? w := by
  rw [read?, h]
  rfl

/-- Outside of brackets and within a line, a plain scalar takes in what can stay in it. -/
theorem step?_plain (hmode : s.mode = .plain d) (hgap : d.gap = .spaces g)
    (hflow : s.inFlow = false) (hcolumn : s.place.column ≠ 0) (hc : isOrdinary c = true)
    (hsharp : (!g.isEmpty && c == '#') = false) (hends : endsPlain false c w = false) :
    s.step? c w =
      some { s with mode := .plain (if isSpace c then d.space c else d.push c) } := by
  have hcomment : d.gap.isNone = false → c ≠ '#' := by
    rw [hgap]
    cases g with
    | nil => nofun
    | cons => simpa [Gap.isNone] using hsharp
  have hbroken : d.gap.isBroken = false := by rw [hgap]; rfl
  have hline := isLineEnd_of_isOrdinary hc
  cases hspace : isSpace c with
  | true => simp [step?, hmode, plain?, hspace, hbroken]
  | false =>
    simp only [step?, hmode, plain?, hspace, hline, hbroken, hflow, hcolumn, isMisplacedColon,
      hends]
    simpa using fun hgap hc => absurd hc (hcomment hgap)

/-- It is read to its end whatever follows it. -/
theorem read?_plain (r : Word) (hmode : s.mode = .plain d) (hgap : d.gap = .spaces g)
    (hflow : s.inFlow = false) (hcolumn : s.place.column ≠ 0)
    (hw : staysPlain (!g.isEmpty) w = true) :
    s.read? (w ++ r) =
      { s with mode := .plain (d.reads w), place := s.place.behind w }.read? r := by
  induction w generalizing s d g with
  | nil =>
    have hs : { s with mode := .plain d } = s := by rw [← hmode]
    exact (congrArg (fun t : Scan => t.read? r) hs).symm
  | cons c w ih =>
    obtain ⟨hc, hsharp, hends, hrest⟩ := staysPlain_cons.mp hw
    have hafter := Place.after_of_not_isLineEnd (isLineEnd_of_isOrdinary hc) s.place
    rw [List.cons_append,
      read?_cons (step?_plain hmode hgap hflow hcolumn hc hsharp (endsPlain_append hends r)),
      hafter, s.place.behind_cons c w]
    cases hspace : isSpace c with
    | true =>
      have hgap' : (d.space c).gap = .spaces (c :: g) := by rw [Draft.space, hgap]; rfl
      rw [hspace] at hrest
      refine (ih (s := { s with mode := .plain (d.space c), place := s.place.behind [c] }) rfl hgap'
        hflow (Nat.succ_ne_zero _) hrest).trans ?_
      simp [Draft.reads, hspace]
    | false =>
      rw [hspace] at hrest
      refine (ih (s := { s with mode := .plain (d.push c), place := s.place.behind [c] }) rfl
        (g := []) rfl hflow (Nat.succ_ne_zero _) hrest).trans ?_
      simp [Draft.reads, hspace]

end Scan

end Transducer.Yaml
