import Transducer.Document
import Transducer.Proofs.Line.Writable

/-!
How a document is cut into lines, told by its line feeds. Cutting undoes joining as long as no line
is cut itself: the line of a state that can be written holds no blank but the space, and is not
blank as a whole.
-/

namespace Transducer

namespace Word

variable {v w : Word}

/-- Every blank in the word is a space. Such a word is never cut into lines. -/
def Inline (w : Word) : Prop := ∀ c ∈ w, Transducer.isBlank c = true → c = ' '

@[simp] theorem inline_nil : Inline [] := nofun

@[simp] theorem inline_cons {c : Char} :
    Inline (c :: w) ↔ (Transducer.isBlank c = true → c = ' ') ∧ Inline w := by
  simp [Inline]

@[simp] theorem inline_append : Inline (v ++ w) ↔ Inline v ∧ Inline w := by
  simp only [Inline, List.mem_append]
  constructor
  · intro h
    exact ⟨fun c hc => h c (.inl hc), fun c hc => h c (.inr hc)⟩
  · intro h c hc
    exact hc.elim (h.1 c) (h.2 c)

theorem inline_of_all (h : w.all (fun c => !Transducer.isBlank c || c == ' ') = true) :
    Inline w := by
  intro c hc hblank
  have hall := List.all_eq_true.mp h c hc
  simpa [hblank] using hall

theorem inline_of_no_blank (h : ∀ c ∈ w, Transducer.isBlank c = false) : Inline w := by
  intro c hc hblank
  rw [h c hc] at hblank
  cases hblank

theorem inline_of_isLabel (h : w.isLabel = true) : Inline w := by
  simp only [isLabel, Bool.and_eq_true, List.all_eq_true] at h
  exact inline_of_no_blank fun c hc => isBlank_of_isLabelChar (h.2 c hc)

theorem inline_of_isEmit (h : w.isEmit = true) : Inline w := by
  simp only [isEmit, List.all_eq_true] at h
  apply inline_of_no_blank
  intro c hc
  have hemit := h c hc
  simp only [isEmitChar, isSeparator, Bool.not_eq_true', Bool.or_eq_false_iff] at hemit
  exact hemit.1

theorem isEmit_of_isToken (h : w.isToken = true) : w.isEmit = true := by
  simp only [isToken, Bool.and_eq_true, List.all_eq_true] at h
  exact List.all_eq_true.mpr fun c hc => isEmitChar_of_isTokenChar (h.2 c hc)

theorem inline_join {separator : Word} (hs : Inline separator) {ws : List Word}
    (h : ∀ w ∈ ws, Inline w) : Inline (join separator ws) := by
  induction ws with
  | nil => exact inline_nil
  | cons w ws ih =>
    have hw := h w List.mem_cons_self
    have ih := ih fun v hv => h v (List.mem_cons_of_mem w hv)
    cases ws with
    | nil => exact hw
    | cons v ws =>
      rw [join, inline_append, inline_append]
      exact ⟨⟨hw, hs⟩, ih⟩

/-- The word without a carriage return at its end. -/
def chomp (w : Word) : Word := if w.getLast? = some '\r' then w.dropLast else w

theorem chomp_cons (c : Char) (h : w ≠ []) : chomp (c :: w) = c :: chomp w := by
  obtain ⟨d, w, rfl⟩ := List.exists_cons_of_ne_nil h
  unfold chomp
  rw [List.getLast?_cons_cons]
  split
  · rw [List.dropLast_cons_cons]
  · rfl

theorem chomp_of_not_mem (h : '\r' ∉ w) : chomp w = w := by
  unfold chomp
  split
  · rename_i hlast
    exact absurd (List.mem_of_getLast? hlast) h
  · rfl

theorem chomp_concat (v : Word) : chomp (v ++ ['\r']) = v := by
  simp [chomp]

theorem lines_cons {c : Char} (hn : '\n' ≠ c) (hr : c = '\r' → w.head? ≠ some '\n') :
    lines (c :: w) = match lines w with
      | [] => [[c]]
      | l :: ls => (c :: l) :: ls := by
  rw [lines.eq_def (c :: w)]
  split
  · contradiction
  · rename_i h
    obtain ⟨hc, rfl⟩ := List.cons.inj h
    exact absurd rfl (hr hc)
  · rename_i h
    exact absurd (List.cons.inj h).1.symm hn
  · rename_i h
    obtain ⟨rfl, rfl⟩ := List.cons.inj h
    rfl

/-- What stands in front of the first line feed is the first line, less one carriage return. -/
theorem lines_append_feed (h : '\n' ∉ v) (w : Word) :
    lines (v ++ '\n' :: w) = chomp v :: lines w := by
  induction v with
  | nil =>
    rw [List.nil_append, lines]
    rfl
  | cons c v ih =>
    have hc := List.ne_of_not_mem_cons h
    have hv := List.not_mem_of_not_mem_cons h
    cases v with
    | nil =>
      -- a carriage return is dropped here, as the line feed comes next
      by_cases hr : c = '\r'
      · subst hr
        rw [List.cons_append, List.nil_append, lines]
        rfl
      · have hchomp : chomp [c] = [c] := chomp_of_not_mem (by simpa using Ne.symm hr)
        rw [List.cons_append, lines_cons hc (absurd · hr), ih hv, hchomp]
        rfl
    | cons d v =>
      have hd : ((d :: v) ++ '\n' :: w).head? ≠ some '\n' := by
        simpa using (List.ne_of_not_mem_cons hv).symm
      rw [List.cons_append, lines_cons hc fun _ => hd, ih hv,
        chomp_cons c (List.cons_ne_nil d v)]

theorem lines_append_return (h : '\n' ∉ v) (w : Word) :
    lines (v ++ '\r' :: '\n' :: w) = v :: lines w := by
  have hv : '\n' ∉ v ++ ['\r'] := by simpa using h
  have hlines := lines_append_feed hv w
  rwa [chomp_concat, List.append_assoc] at hlines

theorem lines_append_feed_of_ne (h : '\n' ∉ v) (w : Word) (hr : v.getLast? ≠ some '\r') :
    lines (v ++ '\n' :: w) = v :: lines w := by
  rw [lines_append_feed h, chomp, if_neg hr]

/-- A last line without a line feed behind it is kept as it stands. -/
theorem lines_of_not_mem (h : '\n' ∉ w) (hne : w ≠ []) : lines w = [w] := by
  induction w with
  | nil => exact absurd rfl hne
  | cons c w ih =>
    have hc := List.ne_of_not_mem_cons h
    have hw := List.not_mem_of_not_mem_cons h
    cases w with
    | nil => exact lines_cons hc nofun
    | cons d w =>
      have hd : (d :: w).head? ≠ some '\n' := by
        simpa using (List.ne_of_not_mem_cons hw).symm
      rw [lines_cons hc fun _ => hd, ih hw (List.cons_ne_nil d w)]

theorem Inline.no_feed (h : Inline w) : '\n' ∉ w :=
  fun hmem => absurd (h _ hmem (by decide)) (by decide)

theorem Inline.chomp (h : Inline w) : w.chomp = w :=
  chomp_of_not_mem fun hmem => absurd (h _ hmem (by decide)) (by decide)

theorem lines_join {ls : List Word} (h : ∀ l ∈ ls, Inline l ∧ l ≠ []) :
    lines (join ['\n'] ls) = ls := by
  induction ls with
  | nil => rfl
  | cons l ls ih =>
    obtain ⟨hl, hne⟩ := h l List.mem_cons_self
    have ih := ih fun k hk => h k (List.mem_cons_of_mem l hk)
    cases ls with
    | nil => exact lines_of_not_mem hl.no_feed hne
    | cons k ls =>
      rw [join, List.append_assoc, List.singleton_append, lines_append_feed hl.no_feed, ih,
        hl.chomp]

/-- A line feed at the end of the last line begins no further line. -/
theorem lines_join_feed {ls : List Word} (h : ∀ l ∈ ls, Inline l) (hne : ls ≠ []) :
    lines (join ['\n'] ls ++ ['\n']) = ls := by
  induction ls with
  | nil => exact absurd rfl hne
  | cons l ls ih =>
    have hl := h l List.mem_cons_self
    cases ls with
    | nil => rw [join, lines_append_feed hl.no_feed, hl.chomp, lines]
    | cons k ls =>
      have ih := ih (fun k hk => h k (List.mem_cons_of_mem l hk)) (List.cons_ne_nil k ls)
      rw [join, List.append_assoc, List.append_assoc, List.singleton_append,
        lines_append_feed hl.no_feed, ih, hl.chomp]

end Word

open Word

theorem Clause.Writable.inline {c : Clause} (h : c.Writable) : Inline c.line := by
  have hemission : Inline c.emission := by
    unfold Clause.emission
    split
    · exact inline_nil
    · rename_i e he
      exact inline_cons.mpr ⟨fun hbar => absurd hbar (by decide), inline_of_isEmit (h.emit e he)⟩
  have htarget := inline_of_isLabel h.target
  have htoken := inline_of_isEmit (isEmit_of_isToken h.token)
  simp [Clause.line, htarget, htoken, hemission]
  decide

namespace State

theorem inline_heading (s : State) : Inline s.heading := by
  unfold heading
  cases s.role with
  | ordinary => exact inline_nil
  | start | accept => exact inline_of_all (by rfl)

/-- The line of a state that can be written stays one line. -/
theorem Writable.inline {s : State} (h : s.Writable) : Inline s.line := by
  obtain ⟨emitting, hlined, -⟩ := h.lined
  have hclauses : ∀ w ∈ s.clauses.map Clause.line, Inline w := by
    intro w hw
    obtain ⟨c, hc, rfl⟩ := List.mem_map.mp hw
    exact (hlined c hc).1.inline
  have hcolons : Inline [' ', ':', ':'] := inline_of_all (by decide)
  have hcomma : Inline [',', ' '] := inline_of_all (by decide)
  have hstart : Inline (s.heading ++ s.label ++ [' ', ':', ':']) :=
    inline_append.mpr ⟨inline_append.mpr ⟨s.inline_heading, inline_of_isLabel h.label⟩, hcolons⟩
  unfold line
  split
  · exact hstart
  · exact inline_append.mpr ⟨hstart, inline_cons.mpr ⟨fun _ => rfl, inline_join hcomma hclauses⟩⟩

theorem colon_mem_line (s : State) : ':' ∈ s.line := by
  unfold line
  split <;> simp

theorem not_blank_line (s : State) : s.line.isBlank = false := by
  cases h : s.line.isBlank with
  | false => rfl
  | true => exact absurd (List.all_eq_true.mp h ':' s.colon_mem_line) (by decide)

end State

namespace Document

/-- The entries of a document are its lines but for the blank ones. -/
theorem map_snd_numbered (first : Nat) (ls : List Word) :
    (numbered first ls).map Prod.snd = ls.filter (!·.isBlank) := by
  induction ls generalizing first with
  | nil => rfl
  | cons l ls ih => cases hl : l.isBlank <;> simp [numbered, hl, ih]

/-- A text whose lines are those of states has an entry for each state. -/
theorem map_snd_entries {t : Word} {ss : List State} (h : t.lines = ss.map State.line) :
    (entries t).map Prod.snd = ss.map State.line := by
  rw [entries, h, map_snd_numbered, List.filter_eq_self]
  intro l hl
  obtain ⟨s, -, rfl⟩ := List.mem_map.mp hl
  rw [s.not_blank_line]
  rfl

end Document

namespace Machine

variable {m : Machine}

theorem Writable.inline (h : m.Writable) :
    ∀ l ∈ m.states.map State.line, Inline l ∧ l ≠ [] := by
  intro l hl
  obtain ⟨s, hs, rfl⟩ := List.mem_map.mp hl
  exact ⟨(h s hs).inline, List.ne_nil_of_mem s.colon_mem_line⟩

/-- The document of a machine that can be written has an entry for each state. -/
theorem Writable.map_snd_entries (h : m.Writable) :
    (Document.entries m.toText).map Prod.snd = m.states.map State.line :=
  Document.map_snd_entries (lines_join h.inline)

/-- The line feed at the end of a printed document makes no entry of its own. -/
theorem Writable.map_snd_entries_feed (h : m.Writable) :
    (Document.entries (m.toText ++ ['\n'])).map Prod.snd = m.states.map State.line := by
  by_cases hempty : m.states.map State.line = []
  · unfold toText
    rw [hempty]
    rfl
  · exact Document.map_snd_entries (lines_join_feed (fun l hl => (h.inline l hl).1) hempty)

end Machine

end Transducer
