import Transducer.Proofs.Columns.RoundTrip
import Transducer.Proofs.Yaml.Lines

/-!
Outlines: mappings of sections, each of them a mapping of texts, with a line for every name. Where
the names are short and the texts can be written as they are, reading an outline finds all of them.
-/

namespace Transducer.Yaml

/-- A name with a text. -/
abbrev Field := Word × Word

/-- Sections by name, each with its fields. -/
abbrev Outline := List (Word × List Field)

namespace Outline

def fieldsText (fs : List Field) : Word := fs.flatMap fun f => Settings.valueLine f.1 f.2

def text (o : Outline) : Word := o.flatMap fun s => Settings.sectionLine s.1 ++ fieldsText s.2

theorem fieldsText_cons (f : Field) (fs : List Field) :
    fieldsText (f :: fs) = Settings.valueLine f.1 f.2 ++ fieldsText fs := rfl

theorem text_cons (s : Word × List Field) (o : Outline) :
    text (s :: o) = Settings.sectionLine s.1 ++ fieldsText s.2 ++ text o := rfl

def fieldTokens (f : Field) : List Token :=
  [.key, .scalar ⟨.plain, f.1⟩, .value, .scalar ⟨.plain, f.2⟩]

/-- The tokens of a section up to its end. -/
def sectionTokens (s : Word × List Field) : List Token :=
  [.key, .scalar ⟨.plain, s.1⟩, .value, .openBlockMap] ++ s.2.flatMap fieldTokens

def tokens (o : Outline) : List Token :=
  [.openBlockMap] ++ o.flatMap (fun s => sectionTokens s ++ [.closeBlock]) ++ [.closeBlock]

/-- The name is a key, and the text can be written as it is. -/
def FitField (f : Field) : Prop := IsKey f.1 ∧ isPlain f.2 = true

/-- The section is not empty, and its name and its fields can be read. -/
structure FitSection (s : Word × List Field) : Prop where
  isKey : IsKey s.1
  nonempty : s.2 ≠ []
  fields : ∀ f ∈ s.2, FitField f

variable {f : Field} {fs : List Field} {s : Word × List Field} {o : Outline} {n : Nat} {r w : Word}

section Lines

open Scan

theorem dedents_name (h : IsKey w) (hn : n ≤ 2) (r : Word) :
    Dedents (List.replicate n ' ' ++ (w ++ r)) := by
  have hlabel := h.1
  cases w with
  | nil => cases hlabel
  | cons c w =>
    simp [Word.isLabel] at hlabel
    exact .inr ⟨n, hn, c, w ++ r, hlabel.1, rfl⟩

theorem dedents_fieldsText (hfs : ∀ f ∈ fs, FitField f) (hr : Dedents r) :
    Dedents (fieldsText fs ++ r) := by
  cases fs with
  | nil => exact hr
  | cons f fs =>
    have hkey := (hfs f List.mem_cons_self).1
    have hline := dedents_name hkey (Nat.le_refl 2)
      (':' :: ' ' :: f.2 ++ '\n' :: (fieldsText fs ++ r))
    simpa [fieldsText_cons, Settings.valueLine] using hline

theorem dedents_text (ho : ∀ s ∈ o, FitSection s) : Dedents (text o) := by
  cases o with
  | nil => exact .inl rfl
  | cons s o =>
    have hkey := (ho s List.mem_cons_self).isKey
    have hline := dedents_name hkey (Nat.zero_le 2) (':' :: '\n' :: (fieldsText s.2 ++ text o))
    simpa [text_cons, Settings.sectionLine] using hline

/-- Where a section is open, its fields are read one after the other. -/
theorem goOn?_fieldsText (hfs : ∀ f ∈ fs, FitField f) (hr : Dedents r) (line : Nat)
    (ts : List Token) : (atLine line ⟨[2, 0], ts⟩).goOn? (fieldsText fs ++ r) =
      (atLine (line + fs.length) ⟨[2, 0], (fs.flatMap fieldTokens).reverse ++ ts⟩).goOn? r := by
  induction fs generalizing line ts with
  | nil => rfl
  | cons f fs ih =>
    obtain ⟨⟨hkey, hplain⟩, hfs⟩ := List.forall_mem_cons.mp hfs
    rw [fieldsText_cons, List.append_assoc, goOn?_valueLine hkey hplain (dedents_fieldsText hfs hr),
      Nesting.keyAt_head]
    refine (ih hfs _ _).trans ?_
    simp [fieldTokens, Nat.add_comm, Nat.add_left_comm]

/-- A section is read as a mapping within the one that holds the sections. Both stay open. -/
theorem goOn?_section (hs : FitSection s) (hr : Dedents r) (line : Nat) {x : Nesting}
    {ts : List Token} (hx : x.keyAt 0 = ⟨[0], ts⟩) : ∃ line',
    (atLine line x).goOn? (Settings.sectionLine s.1 ++ fieldsText s.2 ++ r) =
      (atLine line' ⟨[2, 0], (sectionTokens s).reverse ++ ts⟩).goOn? r := by
  obtain ⟨hname, hne, hfs⟩ := hs
  obtain ⟨name, _ | ⟨f, fs⟩⟩ := s
  · exact absurd rfl hne
  · obtain ⟨⟨hkey, hplain⟩, hfs⟩ := List.forall_mem_cons.mp hfs
    refine ⟨line + 1 + 1 + fs.length, ?_⟩
    rw [List.append_assoc, goOn?_sectionLine hname, hx, fieldsText_cons, List.append_assoc,
      goOn?_valueLine hkey hplain (dedents_fieldsText hfs hr)]
    refine (goOn?_fieldsText hfs hr _ _).trans ?_
    simp [sectionTokens, fieldTokens, Nesting.add, Nesting.keyAt, Nesting.closeTo, Nesting.openMap]

/-- Where one section has been read, the others are read one after the other. -/
theorem goOn?_text (ho : ∀ s ∈ o, FitSection s) (line : Nat) (ts : List Token) :
    (atLine line ⟨[2, 0], ts⟩).goOn? (text o) = some (ts.reverse ++
      .closeBlock :: o.flatMap (fun s => sectionTokens s ++ [.closeBlock]) ++ [.closeBlock]) := by
  induction o generalizing line ts with
  | nil => simp [text, goOn?_end]
  | cons s o ih =>
    obtain ⟨hs, ho⟩ := List.forall_mem_cons.mp ho
    obtain ⟨line', hsection⟩ := goOn?_section (x := ⟨[2, 0], ts⟩) hs (dedents_text ho) line rfl
    rw [text_cons, hsection, ih ho]
    simp

/-- All tokens of an outline that has a section are read. -/
theorem goOn?_outline (hs : FitSection s) (ho : ∀ s ∈ o, FitSection s) :
    start.goOn? (text (s :: o)) = some (tokens (s :: o)) := by
  have hstart : (⟨[], []⟩ : Nesting).keyAt 0 = ⟨[0], [.openBlockMap]⟩ := rfl
  obtain ⟨line, hsection⟩ := goOn?_section hs (dedents_text ho) 0 hstart
  rw [text_cons]
  refine hsection.trans ?_
  rw [goOn?_text ho]
  simp [tokens]

end Lines

section Characters

/-- A character of an outline. -/
def Stays (c : Char) : Prop := isOrdinary c = true ∨ c = '\n'

theorem isAllowed_of_stays {c : Char} (h : Stays c) : isAllowed c = true := by
  rcases h with h | rfl
  · simp [isOrdinary] at h
    exact h.1.1.1
  · decide

theorem uniform_cons (h : Stays c) (w : Word) : uniform (c :: w) = c :: uniform w := by
  have hc : c ≠ '\r' ∧ c ≠ '\x85' := by
    rcases h with h | rfl
    · simp [isOrdinary] at h
      exact ⟨h.1.2, h.2⟩
    · decide
  rw [uniform]
  · rintro w rfl
    exact absurd rfl hc.1
  · exact hc.1
  · exact hc.2

theorem source?_of_stays (h : ∀ c ∈ w, Stays c) : source? w = some w := by
  have huniform : uniform w = w := by
    induction w with
    | nil => rfl
    | cons c w ih =>
      obtain ⟨hc, hw⟩ := List.forall_mem_cons.mp h
      rw [uniform_cons hc, ih hw]
  have hallowed : w.all isAllowed = true :=
    List.all_eq_true.mpr fun c hc => isAllowed_of_stays (h c hc)
  rw [source?, if_pos hallowed, huniform]

theorem stays_name (h : IsKey w) : ∀ c ∈ w, Stays c := by
  have hlabel := h.1
  simp [Word.isLabel] at hlabel
  exact fun c hc => .inl (isOrdinary_of_isLabelChar (hlabel.2 c hc))

theorem stays_sectionLine (h : IsKey w) : ∀ c ∈ Settings.sectionLine w, Stays c := by
  have hcolon : Stays ':' := .inl (by decide)
  have hend : Stays '\n' := .inr rfl
  simpa [Settings.sectionLine, or_imp, forall_and, hcolon, hend] using stays_name h

theorem stays_valueLine (h : FitField f) : ∀ c ∈ Settings.valueLine f.1 f.2, Stays c := by
  have hcolon : Stays ':' := .inl (by decide)
  have hspace : Stays ' ' := .inl (by decide)
  have hend : Stays '\n' := .inr rfl
  have hvalue : ∀ c ∈ f.2, Stays c :=
    fun c hc => .inl (isOrdinary_of_staysPlain (isPlain_iff.mp h.2).2.1 c hc)
  simpa [Settings.valueLine, or_imp, forall_and, hcolon, hspace, hend] using
    ⟨stays_name h.1, hvalue⟩

theorem stays_text (ho : ∀ s ∈ o, FitSection s) : ∀ c ∈ text o, Stays c := by
  intro c hc
  obtain ⟨s, hs, hc⟩ := List.mem_flatMap.mp hc
  obtain ⟨hkey, -, hfs⟩ := ho s hs
  rcases List.mem_append.mp hc with hc | hc
  · exact stays_sectionLine hkey c hc
  · obtain ⟨f, hf, hc⟩ := List.mem_flatMap.mp hc
    exact stays_valueLine (hfs f hf) c hc

end Characters

section Nodes

/-- An entry of a mapping, under a name that is written as it is. -/
def entry (f : Word × Node) : Node × Node := (.scalar ⟨.plain, f.1⟩, f.2)

def fieldNode (f : Field) : Node × Node := entry (f.1, .scalar ⟨.plain, f.2⟩)

def sectionNode (s : Word × List Field) : Node × Node := entry (s.1, .map (s.2.map fieldNode))

theorem foldlM_fieldTokens (fs : List Field) (es : List (Node × Node)) (stack : List Frame) :
    (fs.flatMap fieldTokens).foldlM Frame.step? (.entries .block es :: stack) =
      some (.entries .block ((fs.map fieldNode).reverse ++ es) :: stack) := by
  induction fs generalizing es with
  | nil => rfl
  | cons f fs ih =>
    rw [List.flatMap_cons, List.foldlM_append]
    refine (ih (fieldNode f :: es)).trans ?_
    simp

theorem foldlM_sectionTokens (s : Word × List Field) (es : List (Node × Node))
    (stack : List Frame) :
    (sectionTokens s ++ [Token.closeBlock]).foldlM Frame.step? (.entries .block es :: stack) =
      some (.entries .block (sectionNode s :: es) :: stack) := by
  have hopen : [Token.key, .scalar ⟨.plain, s.1⟩, .value, .openBlockMap].foldlM Frame.step?
      (.entries .block es :: stack) = some
        (.entries .block [] :: .value .block es (.scalar ⟨.plain, s.1⟩) :: stack) := rfl
  rw [sectionTokens, List.append_assoc, List.foldlM_append, hopen]
  refine (List.foldlM_append ..).trans ?_
  rw [foldlM_fieldTokens, List.append_nil]
  change some (Frame.entries .block
    ((.scalar ⟨.plain, s.1⟩, .map (s.2.map fieldNode).reverse.reverse) :: es) :: stack) = _
  rw [List.reverse_reverse]
  rfl

theorem foldlM_sections (o : Outline) (es : List (Node × Node)) (stack : List Frame) :
    (o.flatMap fun s => sectionTokens s ++ [Token.closeBlock]).foldlM Frame.step?
        (.entries .block es :: stack) =
      some (.entries .block ((o.map sectionNode).reverse ++ es) :: stack) := by
  induction o generalizing es with
  | nil => rfl
  | cons s o ih =>
    rw [List.flatMap_cons, List.foldlM_append, foldlM_sectionTokens]
    refine (ih (sectionNode s :: es)).trans ?_
    simp

theorem ofTokens?_tokens (o : Outline) :
    Node.ofTokens? o.tokens = some (.map (o.map sectionNode)) := by
  have hopen : [Token.openBlockMap].foldlM Frame.step? [.root] =
      some [.entries .block [], .root] := rfl
  have hclose : [Token.closeBlock].foldlM Frame.step?
      [.entries .block (o.map sectionNode).reverse, .root] =
        some [.whole (.map (o.map sectionNode).reverse.reverse)] := rfl
  have hfold : o.tokens.foldlM Frame.step? [.root] = some [.whole (.map (o.map sectionNode))] := by
    rw [tokens, List.append_assoc, List.foldlM_append, hopen]
    refine (List.foldlM_append ..).trans ?_
    rw [foldlM_sections, List.append_nil]
    exact hclose.trans (by rw [List.reverse_reverse])
  rw [Node.ofTokens?, hfold]
  rfl

theorem trimEnds_tokens (o : Outline) : Node.trimEnds o.tokens = o.tokens := by
  simp [Node.trimEnds, tokens]

/-- An outline that has a section is read as the mapping it writes. -/
theorem ofText?_text (hne : o ≠ []) (ho : ∀ s ∈ o, FitSection s) :
    Node.ofText? (text o) = some (.map (o.map sectionNode)) := by
  obtain ⟨s, o, rfl⟩ := List.exists_cons_of_ne_nil hne
  obtain ⟨hs, hrest⟩ := List.forall_mem_cons.mp ho
  have htokens : tokens? (text (s :: o)) = some (tokens (s :: o)) := by
    rw [tokens?, source?_of_stays (stays_text ho)]
    exact goOn?_outline hs hrest
  have hdocument : Node.ofDocument? (tokens (s :: o)) =
      Node.ofTokens? (Node.trimEnds (tokens (s :: o))) := rfl
  rw [Node.ofText?, htokens, Option.bind_some, hdocument, trimEnds_tokens, ofTokens?_tokens]

theorem fields?_entries (r : Record Node) : (Node.map (r.map entry)).fields? = some r :=
  Json.mapM_map_eq_some fun _ _ => rfl

theorem fields?_sections (o : Outline) : (Node.map (o.map sectionNode)).fields? =
    some (o.map fun s => (s.1, Node.map (s.2.map fieldNode))) := by
  rw [← fields?_entries, List.map_map]
  rfl

theorem fields?_fields (fs : List Field) : (Node.map (fs.map fieldNode)).fields? =
    some (fs.map fun f => (f.1, Node.scalar ⟨.plain, f.2⟩)) := by
  rw [← fields?_entries, List.map_map]
  rfl

end Nodes

end Outline

end Transducer.Yaml
