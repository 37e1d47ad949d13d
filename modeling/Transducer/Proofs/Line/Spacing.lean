import Transducer.Proofs.Line.Acceptance

/-!
The parts of the line of a state, with any blanks between them. Such a line is read as the state
unless blanks stand between a bar and an emit token: these are not skipped. The clause then has an
empty emit token, and as no comma follows, everything behind the bar is lost without a failure.
-/

namespace Transducer

open Word

/-- The word is made of the parts in order, with any blanks before, between and behind them. -/
inductive Spaced : List Word → Word → Prop
  | nil {u : Word} (hu : u.isBlank = true) : Spaced [] u
  | cons {u p w : Word} {ps : List Word} (hu : u.isBlank = true) (h : Spaced ps w) :
    Spaced (p :: ps) (u ++ (p ++ w))

namespace Clause

/-- The parts of a clause, among which the bar and the emit token are two. -/
def parts (c : Clause) : List Word :=
  [c.target, [':'], c.token] ++
    match c.emit? with
    | none => []
    | some e => [['|'], e]

/-- The parts of a clause, among which the emit token and the bar in front of it are one. -/
def joinedParts (c : Clause) : List Word :=
  [c.target, [':'], c.token] ++
    match c.emit? with
    | none => []
    | some e => ['|' :: e]

/-- The parts of clauses, with commas between them. -/
def partsOf (f : Clause → List Word) : List Clause → List Word
  | [] => []
  | [c] => f c
  | c :: d :: cs => f c ++ [','] :: partsOf f (d :: cs)

/-- The clause without its emit token. The bar stays. -/
def emptied (c : Clause) : Clause := { c with emit? := some [] }

end Clause

namespace State

/-- The parts of a role block. -/
def roleParts (s : State) : List Word :=
  match s.role.keyword with
  | none => []
  | some k => [['['], k, [']']]

/-- The parts in front of the clauses. -/
def startParts (s : State) : List Word := s.roleParts ++ [s.label, [':', ':']]

/-- The parts of the line of a state. -/
def parts (s : State) : List Word := s.startParts ++ Clause.partsOf Clause.parts s.clauses

/-- The parts of the line of a state, with each emit token in one part with its bar. -/
def joinedParts (s : State) : List Word :=
  s.startParts ++ Clause.partsOf Clause.joinedParts s.clauses

end State

theorem Word.isBlank_append {u v : Word} (hu : u.isBlank = true) (hv : v.isBlank = true) :
    (u ++ v).isBlank = true := by
  unfold Word.isBlank at *
  rw [List.all_append, hu, hv]
  rfl

namespace Spaced

variable {ps qs : List Word} {u v w : Word}

theorem exists_cons {p : Word} (h : Spaced (p :: ps) w) :
    ∃ u v, u.isBlank = true ∧ w = u ++ (p ++ v) ∧ Spaced ps v := by
  cases h with
  | cons hu h => exact ⟨_, _, hu, rfl, h⟩

theorem blanks (hu : u.isBlank = true) (h : Spaced ps w) : Spaced ps (u ++ w) := by
  cases h with
  | nil hv => exact .nil (isBlank_append hu hv)
  | cons hv h =>
    rw [← List.append_assoc]
    exact .cons (isBlank_append hu hv) h

theorem append (hv : Spaced ps v) (hw : Spaced qs w) : Spaced (ps ++ qs) (v ++ w) := by
  induction hv with
  | nil hu => exact hw.blanks hu
  | cons hu _ ih =>
    rw [List.append_assoc, List.append_assoc]
    exact .cons hu ih

theorem exists_append (h : Spaced (ps ++ qs) w) :
    ∃ v r, w = v ++ r ∧ Spaced ps v ∧ Spaced qs r := by
  induction ps generalizing w with
  | nil => exact ⟨[], w, rfl, .nil rfl, h⟩
  | cons p ps ih =>
    cases h with
    | @cons u _ w _ hu h =>
      obtain ⟨v, r, rfl, hv, hr⟩ := ih h
      exact ⟨u ++ (p ++ v), r, by simp, .cons hu hv, hr⟩

/-- The parts stand in the word, as far as passing over blanks in front of each finds them. -/
def check : List Word → Word → Bool
  | [], w => w.isBlank
  | p :: ps, w => p.isPrefixOf w.trimStart && check ps (w.trimStart.drop p.length)

theorem of_check (h : check ps w = true) : Spaced ps w := by
  induction ps generalizing w with
  | nil => exact .nil h
  | cons p ps ih =>
    obtain ⟨hp, hrest⟩ := Bool.and_eq_true_iff.mp h
    obtain ⟨u, hu, hw, -⟩ := exists_trimStart w
    obtain ⟨v, hv⟩ := List.isPrefixOf_iff_prefix.mp hp
    rw [← hv, List.drop_left] at hrest
    rw [hw, ← hv]
    exact .cons hu (ih hrest)

end Spaced

namespace Line

variable {emitting : Bool} {c : Clause} {cs : List Clause} {v w : Word}

/-- Up to its token, a clause is the same in both ways of counting its parts. -/
theorem exists_token {ps : List Word} (h : Spaced ([c.target, [':'], c.token] ++ ps) w) :
    ∃ u₀ u₁ u₂ v : Word, u₀.isBlank = true ∧ u₁.isBlank = true ∧ u₂.isBlank = true ∧
      w = u₀ ++ (c.target ++ u₁ ++ ':' :: u₂ ++ c.token ++ v) ∧ Spaced ps v := by
  obtain ⟨u₀, v₀, hu₀, rfl, h₀⟩ := h.exists_cons
  obtain ⟨u₁, v₁, hu₁, rfl, h₁⟩ := h₀.exists_cons
  obtain ⟨u₂, v₂, hu₂, rfl, h₂⟩ := h₁.exists_cons
  exact ⟨u₀, u₁, u₂, v₂, hu₀, hu₁, hu₂, by simp, h₂⟩

theorem stops_isTokenChar (h : Stops isEmitChar w) : Stops isTokenChar w := by
  intro d hd
  cases ht : isTokenChar d with
  | false => rfl
  | true =>
    have he := h d hd
    rw [isEmitChar_of_isTokenChar ht] at he
    cases he

/-- A clause in any spacing is a clause of the grammar, if its emit token stands behind its bar. -/
theorem exists_clauseIn (hc : c.Writable) (h : Spaced c.joinedParts w) :
    ∃ u s, u.isBlank = true ∧ w = u ++ s ∧
      ∀ x r, x.isBlank = true → Stops isEmitChar (x ++ r) → ClauseIn c (s ++ (x ++ r)) r := by
  obtain ⟨u₀, u₁, u₂, v, hu₀, hu₁, hu₂, rfl, htail⟩ := exists_token h
  refine ⟨u₀, _, hu₀, rfl, ?_⟩
  intro x r hx hstop
  obtain ⟨target, token, emit?⟩ := c
  cases emit? with
  | none =>
    cases htail with
    | nil hv =>
      have hnext : Stops isTokenChar (v ++ x ++ r) := by
        rw [List.append_assoc]
        exact stops_blanks (fun _ => isTokenChar_of_isBlank) hv (stops_isTokenChar hstop)
      have hin := ClauseIn.intro hc.target hu₁ hu₂ hc.token hnext (isBlank_append hv hx)
        (.nothing r)
      simpa using hin
  | some e =>
    obtain ⟨u₃, v, hu₃, rfl, hend⟩ := htail.exists_cons
    cases hend with
    | nil hv =>
      have hbar : Stops isTokenChar (u₃ ++ ('|' :: e ++ (v ++ x) ++ r)) :=
        stops_blanks (fun _ => isTokenChar_of_isBlank) hu₃ (stops_cons.mpr (by decide))
      have hnext : Stops isEmitChar (v ++ x ++ r) := by
        rw [List.append_assoc]
        exact stops_blanks (fun _ => isEmitChar_of_isBlank) hv hstop
      have hin := ClauseIn.intro hc.target hu₁ hu₂ hc.token hbar hu₃
        (.token (hc.emit e rfl) hnext (isBlank_append hv hx))
      simpa using hin

/-- The emit token of the clause is not empty, and blanks stand between it and its bar. -/
def Detached (c : Clause) (w : Word) : Prop :=
  ∃ e v x r : Word, c.emit? = some e ∧ e ≠ [] ∧ x.isBlank = true ∧ x ≠ [] ∧
    w = v ++ (x ++ (e ++ r)) ∧ Spaced c.emptied.joinedParts v

theorem joined_or_detached (h : Spaced c.parts w) : Spaced c.joinedParts w ∨ Detached c w := by
  obtain ⟨target, token, emit?⟩ := c
  cases emit? with
  | none => exact .inl h
  | some e =>
    have h : Spaced ([target, [':'], token] ++ [['|'], e]) w := h
    obtain ⟨v, r, rfl, hv, hr⟩ := h.exists_append
    obtain ⟨u, r, hu, rfl, hbar⟩ := hr.exists_cons
    obtain ⟨x, r, hx, rfl, hemit⟩ := hbar.exists_cons
    cases hemit with
    | nil hblank =>
      by_cases hx0 : x = []
      · subst hx0
        exact .inl (hv.append (.cons (p := '|' :: e) hu (.nil hblank)))
      by_cases he0 : e = []
      · subst he0
        exact .inl (hv.append (.cons (p := ['|']) hu (.nil (isBlank_append hx hblank))))
      have hfront : Spaced (Clause.joinedParts ⟨target, token, some []⟩) (v ++ (u ++ ['|'])) :=
        hv.append (.cons (p := ['|']) (w := []) hu (.nil rfl))
      exact .inr ⟨e, _, x, r, rfl, he0, hx, hx0, by simp, hfront⟩

/-- A clause in any spacing goes in front of clauses of the grammar. -/
theorem exists_more {ds : List Clause} {x y t : Word} (hc : c.Writable)
    (hemit : c.emit?.isSome = emitting) (hv : Spaced c.joinedParts v) (hx : x.isBlank = true)
    (hy : y.isBlank = true) (ht : Clauses emitting ds t) :
    ∃ u s, u.isBlank = true ∧ v ++ (x ++ ([','] ++ (y ++ t))) = u ++ s ∧
      Clauses emitting (c :: ds) s := by
  obtain ⟨u, s, hu, rfl, hin⟩ := exists_clauseIn hc hv
  have hcomma : Stops isEmitChar (x ++ (',' :: y ++ t)) :=
    stops_blanks (fun _ => isEmitChar_of_isBlank) hx (stops_cons.mpr (by decide))
  exact ⟨u, _, hu, by simp, .more (hin x _ hx hcomma) hemit hy ht⟩

/-- Clauses in any spacing are clauses of the grammar, if each emit token stands behind its bar. -/
theorem exists_clauses (hcs : Clause.Lined emitting cs) (hne : cs ≠ [])
    (h : Spaced (Clause.partsOf Clause.joinedParts cs) w) :
    ∃ u s, u.isBlank = true ∧ w = u ++ s ∧ Clauses emitting cs s := by
  induction cs generalizing w with
  | nil => exact absurd rfl hne
  | cons c cs ih =>
    obtain ⟨hc, hemit⟩ := hcs c List.mem_cons_self
    cases cs with
    | nil =>
      obtain ⟨u, s, hu, rfl, hin⟩ := exists_clauseIn hc h
      have hlast := hin [] [] rfl (stops_nil _)
      simp only [List.append_nil] at hlast
      exact ⟨u, s, hu, rfl, .last hlast hemit .nothing⟩
    | cons d cs =>
      obtain ⟨v, r, rfl, hv, hr⟩ := Spaced.exists_append h
      obtain ⟨x, r, hx, rfl, hrest⟩ := hr.exists_cons
      obtain ⟨y, t, hy, rfl, ht⟩ :=
        ih (fun d hd => hcs d (List.mem_cons_of_mem c hd)) (List.cons_ne_nil d cs) hrest
      exact exists_more hc hemit hv hx hy ht

/-- Of a clause whose emit token is detached the rest is read, and whatever stands behind it is
ignored. -/
theorem exists_emptied (hc : c.Writable) (hemit : c.emit?.isSome = emitting) (h : Detached c v)
    (r : Word) :
    ∃ u s, u.isBlank = true ∧ v ++ r = u ++ s ∧ Clauses emitting [c.emptied] s := by
  obtain ⟨e, v, x, q, he, hne, hx, hx0, rfl, hv⟩ := h
  have hc' : c.emptied.Writable := by
    refine ⟨hc.target, hc.token, ?_⟩
    intro e he
    cases he
    rfl
  obtain ⟨u, s, hu, rfl, hin⟩ := exists_clauseIn hc' hv
  obtain ⟨b, x, rfl⟩ := List.exists_cons_of_ne_nil hx0
  obtain ⟨d, e, rfl⟩ := List.exists_cons_of_ne_nil hne
  have hb : isBlank b = true := List.all_eq_true.mp hx b List.mem_cons_self
  have hd : isEmitChar d = true := List.all_eq_true.mp (hc.emit _ he) d List.mem_cons_self
  have hin := hin (b :: x) (d :: e ++ (q ++ r)) hx (stops_cons.mpr (isEmitChar_of_isBlank hb))
  obtain rfl : true = emitting := by rw [← hemit, he]; rfl
  have hend : Ending true (d :: e ++ (q ++ r)) := by
    simp only [isEmitChar, isSeparator, Bool.not_eq_true', Bool.or_eq_false_iff] at hd
    exact .text (by simpa using hd.2) hd.1 (fun hb => absurd hb (by decide))
  exact ⟨u, _, hu, by simp, .last hin rfl hend⟩

/-- The clauses up to one with an emit token, which is left out. -/
def CutAt (cs ds : List Clause) : Prop :=
  ∃ front c back e, cs = front ++ c :: back ∧ c.emit? = some e ∧ e ≠ [] ∧
    ds = front ++ [c.emptied]

theorem CutAt.cons {ds : List Clause} (h : CutAt cs ds) (c : Clause) :
    CutAt (c :: cs) (c :: ds) := by
  obtain ⟨front, d, back, e, rfl, he, hne, rfl⟩ := h
  exact ⟨c :: front, d, back, e, rfl, he, hne, rfl⟩

theorem Detached.cutAt (h : Detached c v) (cs : List Clause) : CutAt (c :: cs) [c.emptied] := by
  obtain ⟨e, _, _, _, he, hne, -⟩ := h
  exact ⟨[], c, cs, e, rfl, he, hne, rfl⟩

/-- Clauses in any spacing are clauses of the grammar, though perhaps not all of them: the first
emit token that is detached ends them. The induction is on the clauses; those in front of the cut
are read as they are. -/
theorem joined_or_cut (hcs : Clause.Lined emitting cs)
    (h : Spaced (Clause.partsOf Clause.parts cs) w) :
    Spaced (Clause.partsOf Clause.joinedParts cs) w ∨
      ∃ ds, CutAt cs ds ∧ ∃ u s, u.isBlank = true ∧ w = u ++ s ∧ Clauses emitting ds s := by
  induction cs generalizing w with
  | nil => exact .inl h
  | cons c cs ih =>
    obtain ⟨hc, hemit⟩ := hcs c List.mem_cons_self
    cases cs with
    | nil =>
      rcases joined_or_detached h with hjoined | hdetached
      · exact .inl hjoined
      · have hread := exists_emptied hc hemit hdetached []
        rw [List.append_nil] at hread
        exact .inr ⟨_, hdetached.cutAt [], hread⟩
    | cons d cs =>
      obtain ⟨v, r, rfl, hv, hr⟩ := Spaced.exists_append h
      rcases joined_or_detached hv with hjoined | hdetached
      · obtain ⟨x, r, hx, rfl, hrest⟩ := hr.exists_cons
        rcases ih (fun d hd => hcs d (List.mem_cons_of_mem c hd)) hrest with
          hrest | ⟨ds, hcut, y, t, hy, rfl, ht⟩
        · exact .inl (hjoined.append (.cons hx hrest))
        · exact .inr ⟨c :: ds, hcut.cons c, exists_more hc hemit hjoined hx hy ht⟩
      · exact .inr ⟨_, hdetached.cutAt (d :: cs), exists_emptied hc hemit hdetached r⟩

theorem exists_block {s : State} (h : Spaced s.roleParts w) :
    ∃ u b v, u.isBlank = true ∧ Block s.role b ∧ v.isBlank = true ∧ w = u ++ (b ++ v) := by
  unfold State.roleParts at h
  split at h
  · rename_i hk
    have hrole : s.role = .ordinary := by
      cases hr : s.role with
      | ordinary => rfl
      | start | accept => rw [hr] at hk; cases hk
    cases h with
    | nil hu => exact ⟨w, [], [], hu, hrole ▸ .absent, rfl, by simp⟩
  · rename_i k hk
    obtain ⟨u₀, v, hu₀, rfl, h₀⟩ := h.exists_cons
    obtain ⟨u₁, v, hu₁, rfl, h₁⟩ := h₀.exists_cons
    obtain ⟨u₂, v, hu₂, rfl, h₂⟩ := h₁.exists_cons
    cases h₂ with
    | nil hv => exact ⟨u₀, _, v, hu₀, .keyword hu₁ ⟨k, hk, rfl⟩ hu₂, hv, by simp⟩

/-- What stands in front of the clauses may be spaced in any way. -/
theorem form_of_startParts {s : State} {u r : Word} {table : Table} (hl : s.label.isLabel = true)
    (h : Spaced s.startParts v) (hu : u.isBlank = true) (hr : Body table r) :
    Form ⟨s.label, s.role, table⟩ (v ++ (u ++ r)) := by
  obtain ⟨p, q, rfl, hp, hq⟩ := h.exists_append
  obtain ⟨y, q, hy, rfl, hcolons⟩ := hq.exists_cons
  obtain ⟨z, q, hz, rfl, hend⟩ := hcolons.exists_cons
  obtain ⟨u₀, b, v₀, hu₀, hb, hv₀, rfl⟩ := exists_block hp
  cases hend with
  | nil hx =>
    have hform := Form.intro hu₀ hb (isBlank_append hv₀ hy) hl hz (isBlank_append hx hu) hr
    simpa using hform

theorem body_ofClauses (h : Clauses emitting cs w) : Body (.ofClauses cs) w := by
  rw [h.ofClauses]
  cases emitting with
  | false => exact .plain h
  | true => exact .emitting h

end Line

namespace Clause

theorem spaced_line (c : Clause) : Spaced c.parts c.line := by
  obtain ⟨target, token, emit?⟩ := c
  have hstart : Spaced [target, [':'], token] (target ++ ':' :: ' ' :: token) := by
    have h := Spaced.cons (u := []) (p := target) rfl (.cons (u := []) (p := [':']) rfl
      (.cons (u := [' ']) (p := token) (w := []) (by decide) (.nil rfl)))
    simpa using h
  cases emit? with
  | none => simpa [line, emission, parts] using hstart
  | some e =>
    have hend : Spaced [['|'], e] ('|' :: e) := by
      have h := Spaced.cons (u := []) (p := ['|']) rfl
        (.cons (u := []) (p := e) (w := []) rfl (.nil rfl))
      simpa using h
    exact hstart.append hend

theorem spaced_join {cs : List Clause} (h : cs ≠ []) :
    Spaced (partsOf parts cs) (join [',', ' '] (cs.map line)) := by
  induction cs with
  | nil => exact absurd rfl h
  | cons c cs ih =>
    cases cs with
    | nil => exact c.spaced_line
    | cons d cs =>
      have hrest := (ih (List.cons_ne_nil d cs)).blanks (u := [' ']) (by decide)
      have hjoin := c.spaced_line.append (.cons (u := []) (p := [',']) rfl hrest)
      simpa [join, partsOf] using hjoin

end Clause

theorem Table.ofClauses_emitting {cs : List Clause} (hne : cs ≠ [])
    (h : ∀ c ∈ cs, c.emit?.isSome = true) :
    ofClauses cs = .emitting (cs.map Clause.transition) (cs.filterMap Clause.emit?) := by
  cases cs with
  | nil => exact absurd rfl hne
  | cons c cs => exact if_pos (h c List.mem_cons_self)

namespace State

open Line

variable {s : State} {line : Word}

theorem spaced_heading (s : State) : Spaced s.roleParts s.heading := by
  unfold roleParts heading
  cases s.role.keyword with
  | none => exact .nil rfl
  | some k =>
    have h := Spaced.cons (u := []) (p := ['[']) rfl (.cons (u := []) (p := k) rfl
      (.cons (u := []) (p := [']']) (w := [' ']) rfl (.nil (by decide))))
    simpa using h

/-- The line of a state has its parts in order. -/
theorem spaced_line (s : State) : Spaced s.parts s.line := by
  have hstart : Spaced s.startParts (s.heading ++ s.label ++ [' ', ':', ':']) := by
    have hlabel := Spaced.cons (u := []) (p := s.label) rfl
      (.cons (u := [' ']) (p := [':', ':']) (w := []) (by decide) (.nil rfl))
    simpa [startParts] using s.spaced_heading.append hlabel
  unfold State.line parts
  cases hcs : s.clauses with
  | nil => simpa [Clause.partsOf] using hstart
  | cons c cs =>
    have hclauses := Clause.spaced_join (List.cons_ne_nil c cs)
    exact hstart.append (hclauses.blanks (u := [' ']) (by decide))

theorem parse_of_joined (hs : s.Writable) (h : Spaced s.joinedParts line) :
    State.parse line = .ok s := by
  obtain ⟨emitting, hlined, htable⟩ := hs.lined
  obtain ⟨v, r, rfl, hv, hr⟩ := h.exists_append
  obtain ⟨u, t, hu, rfl, ht⟩ : ∃ u t, Word.isBlank u = true ∧ r = u ++ t ∧ Body s.table t := by
    by_cases hcs : s.clauses = []
    · rw [hcs] at hr htable
      cases hr with
      | nil hu => exact ⟨r, [], hu, by simp, htable ▸ .empty⟩
    · obtain ⟨u, t, hu, ht, hread⟩ := exists_clauses hlined hcs hr
      exact ⟨u, t, hu, ht, htable ▸ body_ofClauses hread⟩
  exact parse_eq_ok_iff.mpr (state_eq_ok_iff.mpr (form_of_startParts hs.label hv hu ht))

/-- The state up to a clause with an emit token, which is left out. -/
def Cut (s q : State) : Prop :=
  ∃ ds, CutAt s.clauses ds ∧ q = ⟨s.label, s.role, .ofClauses ds⟩

/-- A state that is cut is another one. -/
theorem Cut.ne {q : State} (hs : s.Writable) (h : s.Cut q) : q ≠ s := by
  obtain ⟨ds, ⟨front, c, back, e, hcs, he, hne, rfl⟩, rfl⟩ := h
  obtain ⟨emitting, hlined, htable⟩ := hs.lined
  rw [hcs] at hlined htable
  have hemits : ∀ d ∈ front ++ c :: back, d.emit?.isSome = true := by
    have hc := (hlined c (by simp)).2
    rw [he] at hc
    intro d hd
    rw [(hlined d hd).2, ← hc]
    rfl
  have hcut : ∀ d ∈ front ++ [c.emptied], d.emit?.isSome = true := by
    intro d hd
    rcases List.mem_append.mp hd with hd | hd
    · exact hemits d (List.mem_append_left _ hd)
    · rw [List.mem_singleton.mp hd]
      rfl
  intro heq
  have htables : Table.ofClauses (front ++ [c.emptied]) = Table.ofClauses (front ++ c :: back) :=
    (congrArg State.table heq).trans htable.symm
  rw [Table.ofClauses_emitting (by simp) hcut, Table.ofClauses_emitting (by simp) hemits] at htables
  obtain ⟨-, hcolumn⟩ := Table.emitting.inj htables
  simp [Clause.emptied, he] at hcolumn
  exact hne hcolumn.1

/-- A spacing of the line of a state is read as the state exactly if each emit token stands behind
its bar. Otherwise what is read is the state cut at a clause, and never a failure. -/
theorem parse_of_spaced (hs : s.Writable) : Spaced s.parts s.line ∧
    ∀ line, Spaced s.parts line → (State.parse line = .ok s ↔ Spaced s.joinedParts line) ∧
      ∃ q, State.parse line = .ok q ∧ (q = s ∨ s.Cut q) := by
  refine ⟨s.spaced_line, ?_⟩
  intro line h
  obtain ⟨emitting, hlined, htable⟩ := hs.lined
  obtain ⟨v, r, rfl, hv, hr⟩ := h.exists_append
  rcases joined_or_cut hlined hr with hjoined | ⟨ds, hcut, u, t, hu, rfl, ht⟩
  · have hline : Spaced s.joinedParts (v ++ r) := hv.append hjoined
    have hparse := parse_of_joined hs hline
    exact ⟨⟨fun _ => hline, fun _ => hparse⟩, s, hparse, .inl rfl⟩
  · have hcut : s.Cut ⟨s.label, s.role, .ofClauses ds⟩ := ⟨ds, hcut, rfl⟩
    have hparse := parse_eq_ok_iff.mpr
      (state_eq_ok_iff.mpr (form_of_startParts hs.label hv hu (body_ofClauses ht)))
    refine ⟨⟨?_, parse_of_joined hs⟩, _, hparse, .inr hcut⟩
    intro hs'
    exact absurd (Except.ok.inj (hparse.symm.trans hs')) (hcut.ne hs)

/-- A state with two clauses, both of which emit. -/
def echo : State :=
  ⟨['A'], .ordinary, .emitting [⟨['x'], ['A']⟩, ⟨['y'], ['B']⟩] [['e'], ['f']]⟩

/-- Blanks in all other places do not count. -/
theorem parse_echo_with_blanks : echo.Writable ∧
    Spaced echo.parts " A::A :\u3000x |e\t,B :y |f ".toList ∧
    State.parse " A::A :\u3000x |e\t,B :y |f ".toList = .ok echo := by
  have hs : echo.Writable := by decide
  have hparts : Spaced echo.parts " A::A :\u3000x |e\t,B :y |f ".toList :=
    Spaced.of_check (by decide)
  have hjoined : Spaced echo.joinedParts " A::A :\u3000x |e\t,B :y |f ".toList :=
    Spaced.of_check (by decide)
  exact ⟨hs, hparts, ((parse_of_spaced hs).2 _ hparts).1.mpr hjoined⟩

/-- One blank behind a bar, and the line is read as another state. -/
theorem parse_echo_cut : echo.Writable ∧ echo.line = "A :: A: x|e, B: y|f".toList ∧
    Spaced echo.parts "A :: A: x| e, B: y|f".toList ∧
    State.parse "A :: A: x| e, B: y|f".toList =
      .ok ⟨['A'], .ordinary, .emitting [⟨['x'], ['A']⟩] [[]]⟩ ∧
    State.parse "A :: A: x| e, B: y|f".toList ≠ .ok echo := by
  have hcut : State.parse "A :: A: x| e, B: y|f".toList =
      .ok ⟨['A'], .ordinary, .emitting [⟨['x'], ['A']⟩] [[]]⟩ := by decide +kernel
  refine ⟨by decide, by decide, Spaced.of_check (by decide), hcut, ?_⟩
  rw [hcut]
  decide

end State

end Transducer
