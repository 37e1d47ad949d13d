import Transducer.Line.Printer
import Transducer.Proofs.Except
import Transducer.Proofs.Line.Readers
import Transducer.Proofs.Line.Writable

/-!
A line is read back as the state it was written from exactly if the state can be written. One half
follows the printer clause by clause; the other holds of everything that is ever read, so a state
that cannot be written is not read from any line.
-/

namespace Transducer

namespace Line

open Word

/-- Nothing more, or a comma. -/
def Ended (r : Word) : Prop := ∀ c ∈ r.head?, c = ','

theorem Ended.stops {p : Char → Bool} {r : Word} (h : Ended r) (hp : p ',' = false) :
    Stops p r := by
  intro c hc
  rw [h c hc]
  exact hp

/-- What earlier clauses tell of emission, if there were any, holds of this one too. -/
def Agrees (known : Option Bool) (emitting : Bool) : Prop := ∀ b ∈ known, b = emitting

theorem emission_line {known : Option Bool} {c : Clause} {r : Word} (h : c.Writable)
    (hk : Agrees known c.emit?.isSome) (hr : Ended r) :
    emission known (c.emission ++ r) = .ok (c.emit?, r) := by
  obtain ⟨target, token, emit?⟩ := c
  cases emit? with
  | none =>
    have hk : known ≠ some true := fun h => nomatch hk true h
    simp only [Clause.emission, List.nil_append]
    unfold emission
    split
    · have hbar := hr '|' rfl
      cases hbar
    · simp [hk]
  | some e =>
    have hk : known ≠ some false := fun h => nomatch hk false h
    have hstop := hr.stops (p := isEmitChar) (by decide)
    have hblank := trimStart_of_stops (hr.stops (by decide))
    simp [emission, Clause.emission, hk, takeWhile_append_of_stops (h.emit e rfl) hstop,
      dropWhile_append_of_stops (h.emit e rfl) hstop, hblank]

theorem stops_emission {p : Char → Bool} {c : Clause} {r : Word} (hr : Ended r)
    (hcomma : p ',' = false) (hbar : p '|' = false) : Stops p (c.emission ++ r) := by
  unfold Clause.emission
  split
  · exact hr.stops hcomma
  · exact stops_cons.mpr hbar

/-- A clause is read back as it was written, if the line ends after it or goes on with a comma. -/
theorem clause_line {known : Option Bool} {c : Clause} {r : Word} (h : c.Writable)
    (hk : Agrees known c.emit?.isSome) (hr : Ended r) :
    clause known (c.line ++ r) = .ok (c, r) := by
  have hline : c.line ++ r = c.target ++ ':' :: ' ' :: (c.token ++ (c.emission ++ r)) := by
    simp [Clause.line]
  have hlabel := label_eq_ok_iff.mpr ⟨hline, h.target, stops_cons.mpr (by decide)⟩
  have hcolon (w : Word) : trimStart (':' :: w) = ':' :: w :=
    trimStart_of_stops (stops_cons.mpr (by decide))
  have hspace := trimStart_of_stops (stops_token_append h.token (c.emission ++ r))
  have htoken := token_eq_ok_iff.mpr
    ⟨rfl, h.token, stops_emission (c := c) hr (by decide) (by decide)⟩
  have hafter := trimStart_of_stops (stops_emission (c := c) hr (by decide) (by decide))
  simp [clause, bind, Except.bind, hlabel, hcolon, colon, hspace, htoken, hafter,
    emission_line h hk hr, pure, Except.pure]

theorem clauses_nil (known : Option Bool) : clauses known [] = .ok [] := by
  rw [clauses]
  rfl

theorem clauses_eq {known : Option Bool} {s : Word} (hs : s ≠ []) :
    clauses known s = match clause known s with
      | .error stop => .error stop
      | .ok (c, ',' :: r) => (clauses (some c.emit?.isSome) (trimStart r)).map (c :: ·)
      | .ok (c, _) => .ok [c] := by
  rw [clauses]
  split
  · rename_i he
    exact absurd (List.isEmpty_iff.mp he) hs
  · split <;> simp_all

theorem trimStart_join {emitting : Bool} {cs : List Clause} (h : Clause.Lined emitting cs) :
    trimStart (join [',', ' '] (cs.map Clause.line)) = join [',', ' '] (cs.map Clause.line) := by
  cases cs with
  | nil => rfl
  | cons c cs =>
    obtain ⟨w, hw⟩ : ∃ w, join [',', ' '] ((c :: cs).map Clause.line) = c.target ++ w := by
      cases cs <;> simp [join, Clause.line]
    rw [hw]
    exact trimStart_of_stops (stops_label_append (h c List.mem_cons_self).1.target w)

/-- The clauses of a line are read back as they were written. -/
theorem clauses_join (known : Option Bool) {emitting : Bool} {cs : List Clause}
    (h : Clause.Lined emitting cs) (hk : Agrees known emitting) :
    clauses known (join [',', ' '] (cs.map Clause.line)) = .ok cs := by
  induction cs generalizing known with
  | nil => exact clauses_nil known
  | cons c cs ih =>
    obtain ⟨hc, hemit⟩ := h c List.mem_cons_self
    have hcs : Clause.Lined emitting cs := fun d hd => h d (List.mem_cons_of_mem c hd)
    have hk : Agrees known c.emit?.isSome := hemit ▸ hk
    have hne (w : Word) : c.line ++ w ≠ [] := by simp [Clause.line]
    cases cs with
    | nil =>
      have hread := clause_line hc hk (r := []) nofun
      have hne := hne []
      rw [List.append_nil] at hread hne
      change clauses known c.line = _
      rw [clauses_eq hne, hread]
    | cons d cs =>
      have hended (w : Word) : Ended (',' :: w) := by simp [Ended]
      have hread := clause_line hc hk
        (hended (' ' :: join [',', ' '] ((d :: cs).map Clause.line)))
      have hrest := ih (some c.emit?.isSome) hcs
        (fun b hb => (Option.some.inj hb).symm.trans hemit)
      have hjoin : join [',', ' '] ((c :: d :: cs).map Clause.line) =
          c.line ++ ',' :: ' ' :: join [',', ' '] ((d :: cs).map Clause.line) := by
        simp [join]
      rw [hjoin, clauses_eq (hne _), hread]
      simp only [trimStart_space, trimStart_join hcs, hrest]
      rfl

theorem role_label {l : Word} (h : l.isLabel = true) (w : Word) :
    role (l ++ w) = .ok (.ordinary, l ++ w) := by
  cases l with
  | nil => simp [isLabel] at h
  | cons c l =>
    simp only [isLabel, List.all_cons, Bool.and_eq_true] at h
    have hc := (toNat_of_isLabelChar h.2.1).2.2.2.2.1
    unfold role
    split
    · rename_i he
      cases he
      exact absurd rfl hc
    · rfl

/-- The role is read from what stands in front of the label. -/
theorem role_heading {s : State} (h : s.label.isLabel = true) (w : Word) :
    ∃ r, role (trimStart (s.heading ++ (s.label ++ w))) = .ok (s.role, r) ∧
      trimStart r = s.label ++ w := by
  have htrim := trimStart_of_stops (stops_label_append h w)
  cases hrole : s.role with
  | ordinary =>
    refine ⟨s.label ++ w, ?_, htrim⟩
    simp only [State.heading, hrole, Role.keyword, List.nil_append, htrim]
    exact role_label h w
  | start | accept =>
    refine ⟨' ' :: (s.label ++ w), ?_, by rw [trimStart_space, htrim]⟩
    simp only [State.heading, hrole, Role.keyword]
    rfl

theorem state_line {s : State} (h : s.Writable) : state s.line = .ok s := by
  obtain ⟨emitting, hlined, htable⟩ := h.lined
  obtain ⟨body, hline, hbody⟩ : ∃ body,
      s.line = s.heading ++ (s.label ++ ' ' :: ':' :: ':' :: body) ∧
        trimStart body = join [',', ' '] (s.clauses.map Clause.line) := by
    unfold State.line
    split
    · rename_i hcs
      exact ⟨[], by simp, by rw [hcs]; rfl⟩
    · refine ⟨' ' :: join [',', ' '] (s.clauses.map Clause.line), by simp, ?_⟩
      rw [trimStart_space, trimStart_join hlined]
  obtain ⟨r, hrole, hr⟩ := role_heading h.label (' ' :: ':' :: ':' :: body)
  have hlabel : label (s.label ++ ' ' :: ':' :: ':' :: body) =
      .ok (s.label, ' ' :: ':' :: ':' :: body) :=
    label_eq_ok_iff.mpr ⟨rfl, h.label, stops_cons.mpr (by decide)⟩
  have hcolon : trimStart (':' :: ':' :: body) = ':' :: ':' :: body :=
    trimStart_of_stops (stops_cons.mpr (by decide))
  have hclauses := clauses_join none hlined nofun
  rw [hline]
  simp [state, bind, Except.bind, hrole, hr, hlabel, hcolon, doubleColon, hbody, hclauses, htable,
    pure, Except.pure]

theorem emission_sound {known : Option Bool} {s r : Word} {emit? : Option Word}
    (h : emission known s = .ok (emit?, r)) :
    (∀ e ∈ emit?, e.isEmit = true) ∧ Agrees known emit?.isSome := by
  unfold emission at h
  split at h
  · rename_i t
    split at h
    · cases h
    · rename_i hk
      cases h
      refine ⟨?_, ?_⟩
      · intro e he
        cases he
        exact List.all_takeWhile
      · intro b hb
        cases b with
        | false => exact absurd hb hk
        | true => rfl
  · split at h
    · cases h
    · rename_i hk
      cases h
      refine ⟨nofun, ?_⟩
      intro b hb
      cases b with
      | false => rfl
      | true => exact absurd hb hk

/-- Whatever clause is read can be written, and agrees with the clauses before it. -/
theorem clause_sound {known : Option Bool} {s r : Word} {c : Clause}
    (h : clause known s = .ok (c, r)) : c.Writable ∧ Agrees known c.emit?.isSome := by
  unfold clause at h
  obtain ⟨⟨target, s₁⟩, hlabel, h⟩ := Except.bind_eq_ok_iff.mp h
  obtain ⟨⟨u, s₂⟩, hcolon, h⟩ := Except.bind_eq_ok_iff.mp h
  obtain ⟨⟨token, s₃⟩, htoken, h⟩ := Except.bind_eq_ok_iff.mp h
  obtain ⟨⟨emit?, s₄⟩, hemit, h⟩ := Except.bind_eq_ok_iff.mp h
  cases h
  obtain ⟨hword, hagree⟩ := emission_sound hemit
  exact ⟨⟨(label_eq_ok_iff.mp hlabel).2.1, (token_eq_ok_iff.mp htoken).2.1, hword⟩, hagree⟩

/-- Whatever clauses are read can stand in one line. The induction is on the text that is left, and
what the first clause tells of emission is carried through it. -/
theorem clauses_sound {known : Option Bool} {s : Word} {cs : List Clause}
    (h : clauses known s = .ok cs) :
    ∃ emitting, Agrees known emitting ∧ Clause.Lined emitting cs := by
  induction hn : s.length using Nat.strongRecOn generalizing known s cs with
  | ind n ih =>
    by_cases hs : s = []
    · subst hs
      rw [clauses_nil] at h
      cases h
      exact ⟨known.getD false, fun b hb => by rw [Option.mem_def.mp hb]; rfl, nofun⟩
    rw [clauses_eq hs] at h
    split at h
    · cases h
    · rename_i c r hc
      obtain ⟨hw, hk⟩ := clause_sound hc
      obtain ⟨ds, hds, he⟩ : ∃ ds,
          clauses (some c.emit?.isSome) (trimStart r) = .ok ds ∧ c :: ds = cs := by
        cases hds : clauses (some c.emit?.isSome) (trimStart r) with
        | error stop => rw [hds] at h; cases h
        | ok ds => rw [hds] at h; exact ⟨ds, rfl, Except.ok.inj h⟩
      subst he
      obtain ⟨emitting, hagree, hlined⟩ := ih _ (hn ▸ length_after_comma hc) hds rfl
      have hemit := hagree _ rfl
      refine ⟨emitting, hemit ▸ hk, ?_⟩
      intro d hd
      rcases List.mem_cons.mp hd with rfl | hd
      · exact ⟨hw, hemit⟩
      · exact hlined d hd
    · rename_i c r hno hc
      cases h
      obtain ⟨hw, hk⟩ := clause_sound hc
      refine ⟨c.emit?.isSome, hk, ?_⟩
      intro d hd
      rw [List.mem_singleton.mp hd]
      exact ⟨hw, rfl⟩

end Line

namespace State

theorem parse_eq_ok_iff {l : Word} {s : State} : State.parse l = .ok s ↔ Line.state l = .ok s := by
  unfold State.parse
  cases Line.state l with
  | error stop => exact ⟨nofun, nofun⟩
  | ok t =>
    constructor
    · intro h
      cases h
      rfl
    · intro h
      cases h
      rfl

theorem parse_line {s : State} (h : s.Writable) : State.parse s.line = .ok s :=
  parse_eq_ok_iff.mpr (Line.state_line h)

/-- Whatever state is read from a line can be written as one. -/
theorem writable_of_parse {l : Word} {s : State} (h : State.parse l = .ok s) : s.Writable := by
  have h := parse_eq_ok_iff.mp h
  unfold Line.state at h
  obtain ⟨⟨role, s₁⟩, hrole, h⟩ := Except.bind_eq_ok_iff.mp h
  obtain ⟨⟨label, s₂⟩, hlabel, h⟩ := Except.bind_eq_ok_iff.mp h
  obtain ⟨⟨u, s₃⟩, hcolon, h⟩ := Except.bind_eq_ok_iff.mp h
  obtain ⟨cs, hcs, h⟩ := Except.bind_eq_ok_iff.mp h
  cases h
  obtain ⟨emitting, -, hlined⟩ := Line.clauses_sound hcs
  exact writable_ofClauses (Line.label_eq_ok_iff.mp hlabel).2.1 hlined

/-- The line of a state reads back as the state exactly if the state can be written. -/
theorem parse_line_iff {s : State} : State.parse s.line = .ok s ↔ s.Writable :=
  ⟨writable_of_parse, parse_line⟩

end State

end Transducer
