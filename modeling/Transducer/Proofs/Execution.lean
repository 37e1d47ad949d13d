import Transducer.Proofs.Run

/-!
What a machine answers on an input, told from the run of its first start state: the moves made up to
a halt fix every field of the result, and the only failures are a machine without a start state and
a run that is lost.
-/

namespace Transducer

theorem State.message_haltOn (p : State) (rest : Word) :
    (p.haltOn rest).message = if rest.isEmpty then "End Of Input" else
      "No inputs from string \"" ++ rest.text ++ "\" matching [" ++
        ",".intercalate (p.tokens.map fun t => "\"" ++ t.text ++ "\"") ++ "]" := by
  unfold haltOn
  split
  · rfl
  · rfl

/-- The result tells of a run from `q` that made the moves and halted at `p` with the rest of its
input. -/
structure Outcome.Reports (o : Outcome) (recorded : Bool) (q : State) (moves : List Move)
    (p : State) (rest : Word) : Prop where
  history : o.history = if recorded then some (q.label :: moves.map (·.target.label)) else none
  finalState : o.finalState = p.label
  transitions : o.transitions = moves.length
  output : o.output = moves.flatMap Move.emitted
  halt : o.halt = p.haltOn rest
  message : o.message = if rest.isEmpty then "End Of Input" else
    "No inputs from string \"" ++ rest.text ++ "\" matching [" ++
      ",".intercalate (p.tokens.map fun t => "\"" ++ t.text ++ "\"") ++ "]"
  accepted : o.accepted = (rest.isEmpty && p.isAccept)

theorem Outcome.Reports.unique {o o' : Outcome} {recorded : Bool} {q p : State}
    {moves : List Move} {rest : Word} (h : o.Reports recorded q moves p rest)
    (h' : o'.Reports recorded q moves p rest) : o = o' := by
  cases o
  cases o'
  simp only [Outcome.mk.injEq]
  exact ⟨h.accepted.trans h'.accepted.symm, h.finalState.trans h'.finalState.symm,
    h.output.trans h'.output.symm, h.transitions.trans h'.transitions.symm,
    h.halt.trans h'.halt.symm, h.history.trans h'.history.symm⟩

namespace Session

/-- A session that has not taken a step yet. -/
def initial (m : Machine) (q : State) (input : Word) (recorded : Bool) : Session where
  machine := m
  state := q
  consumed := []
  remaining := input
  output := []
  transitions := 0
  history := if recorded then some [q.label] else none
  halt := none

theorem reports_along (m : Machine) (q p : State) (w r : Word) (recorded : Bool)
    (moves : List Move) :
    { (initial m q w recorded).along moves p r with
      halt := some (p.haltOn r) : Session }.outcome.Reports recorded q moves p r where
  history := by cases recorded <;> rfl
  finalState := rfl
  transitions := Nat.zero_add _
  output := List.nil_append _
  halt := rfl
  message := p.message_haltOn r
  accepted := by cases r <;> simp [outcome, accepted, along, State.haltOn]

theorem finish_initial_of_halts {m : Machine} {q p : State} {w r : Word} {moves : List Move}
    (recorded : Bool) (h : m.Run q w moves p r) (he : p.Halts r) :
    ∃ o, (initial m q w recorded).finish = .ok o ∧ o.Reports recorded q moves p r := by
  have hrun := after_run (s := initial m q w recorded) h rfl rfl rfl
  have hend := finish_of_halts (s := (initial m q w recorded).along moves p r) rfl he
  rw [← hrun, finish_after] at hend
  rw [hrun] at hend
  exact ⟨_, hend, reports_along m q p w r recorded moves⟩

theorem finish_initial_of_lost {m : Machine} {q p : State} {w r l : Word} {moves : List Move}
    (recorded : Bool) (h : m.Run q w moves p r) (hl : m.Lost p r l) :
    (initial m q w recorded).finish = .error (.unknownState l) := by
  have hrun := after_run (s := initial m q w recorded) h rfl rfl rfl
  rw [← finish_after _ moves.length, hrun]
  exact finish_of_lost rfl hl

end Session

namespace Machine

theorem session_of_firstStart {m : Machine} {q : State} (h : m.FirstStart q) (w : Word)
    (recorded : Bool) : m.session w recorded = .ok (Session.initial m q w recorded) := by
  simp only [session, firstStart_iff.mp h, Session.initial]

theorem session_of_no_start {m : Machine} (h : ∀ q ∈ m.states, q.role ≠ .start) (w : Word)
    (recorded : Bool) : m.session w recorded = .error .noStartState := by
  simp only [session, start?_eq_none_iff.mpr h]

/-- Every machine either has no start state or a first one, from which its runs begin. -/
theorem firstStart_or (m : Machine) :
    (∀ q ∈ m.states, q.role ≠ .start) ∨ ∃ q, m.FirstStart q := by
  cases h : m.start? with
  | none => exact .inl (start?_eq_none_iff.mp h)
  | some q => exact .inr ⟨q, firstStart_iff.mpr h⟩

/-- A session begins at the first start state, with all of the input before it. -/
theorem initial_of_session {m : Machine} {w : Word} {recorded : Bool} {s : Session}
    (h : m.session w recorded = .ok s) :
    ∃ q, m.FirstStart q ∧ s = Session.initial m q w recorded := by
  rcases m.firstStart_or with hno | ⟨q, hq⟩
  · rw [session_of_no_start hno] at h
    cases h
  · rw [session_of_firstStart hq] at h
    cases h
    exact ⟨q, hq, rfl⟩

theorem execute_of_firstStart {m : Machine} {q : State} (h : m.FirstStart q) (w : Word)
    (recorded : Bool) :
    m.execute w recorded = (Session.initial m q w recorded).finish := by
  rw [execute, session_of_firstStart h]
  rfl

/-- The answers of a machine, one for each way a run can go. -/
inductive Answer (m : Machine) (w : Word) (recorded : Bool) : Except Fault Outcome → Prop
  | noStart (h : ∀ q ∈ m.states, q.role ≠ .start) : Answer m w recorded (.error .noStartState)
  | lost {q p : State} {moves : List Move} {r l : Word} (hq : m.FirstStart q)
    (hrun : m.Run q w moves p r) (hl : m.Lost p r l) :
    Answer m w recorded (.error (.unknownState l))
  | halted {q p : State} {moves : List Move} {r : Word} {o : Outcome} (hq : m.FirstStart q)
    (hrun : m.Run q w moves p r) (he : p.Halts r) (ho : o.Reports recorded q moves p r) :
    Answer m w recorded (.ok o)

/-- Every machine answers every input, and in one of these ways. -/
theorem answer_execute (m : Machine) (w : Word) (recorded : Bool) :
    m.Answer w recorded (m.execute w recorded) := by
  rcases m.firstStart_or with h | ⟨q, hq⟩
  · rw [execute, session_of_no_start h]
    exact .noStart h
  rw [execute_of_firstStart hq]
  obtain ⟨moves, p, r, hrun, he | ⟨l, hl⟩⟩ := m.exists_run q w
  · obtain ⟨o, ho, hr⟩ := Session.finish_initial_of_halts recorded hrun he
    rw [ho]
    exact .halted hq hrun he hr
  · rw [Session.finish_initial_of_lost recorded hrun hl]
    exact .lost hq hrun hl

/-- A machine has one answer to an input: whatever run is found, it is the one the machine makes. -/
theorem Answer.eq_execute {m : Machine} {w : Word} {recorded : Bool} {a : Except Fault Outcome}
    (h : m.Answer w recorded a) : m.execute w recorded = a := by
  cases h with
  | noStart h =>
    rw [execute, session_of_no_start h]
    rfl
  | lost hq hrun hl =>
    rw [execute_of_firstStart hq, Session.finish_initial_of_lost recorded hrun hl]
  | halted hq hrun he ho =>
    obtain ⟨o, hfin, hr⟩ := Session.finish_initial_of_halts recorded hrun he
    rw [execute_of_firstStart hq, hfin, hr.unique ho]

/-- The answer of a machine on an input. It fails for want of a start state exactly if there is
none, and with an unknown state exactly if the run from the first start state is lost there. It
gives a result exactly if the run halts, and the result then tells of that run, whose tokens and
rest are the input. Nothing else can come of it. -/
theorem execute_iff (m : Machine) (w : Word) (recorded : Bool) :
    (m.execute w recorded = .error .noStartState ↔ ∀ q ∈ m.states, q.role ≠ .start) ∧
    (∀ l, m.execute w recorded = .error (.unknownState l) ↔
      ∃ q moves p r, m.FirstStart q ∧ m.Run q w moves p r ∧ m.Lost p r l) ∧
    (∀ o, m.execute w recorded = .ok o ↔
      ∃ q moves p r, m.FirstStart q ∧ m.Run q w moves p r ∧ p.Halts r ∧
        w = moves.flatMap (·.transition.token) ++ r ∧ o.Reports recorded q moves p r) ∧
    (m.execute w recorded = .error .noStartState ∨
      (∃ l, m.execute w recorded = .error (.unknownState l)) ∨
      ∃ o, m.execute w recorded = .ok o) := by
  have hanswer := m.answer_execute w recorded
  refine ⟨⟨?_, ?_⟩, fun l => ⟨?_, ?_⟩, fun o => ⟨?_, ?_⟩, ?_⟩
  · intro h
    rw [h] at hanswer
    cases hanswer with
    | noStart h => exact h
  · intro h
    exact (Answer.noStart h).eq_execute
  · intro h
    rw [h] at hanswer
    cases hanswer with
    | lost hq hrun hl => exact ⟨_, _, _, _, hq, hrun, hl⟩
  · intro h
    obtain ⟨q, moves, p, r, hq, hrun, hl⟩ := h
    exact (Answer.lost hq hrun hl).eq_execute
  · intro h
    rw [h] at hanswer
    cases hanswer with
    | halted hq hrun he ho => exact ⟨_, _, _, _, hq, hrun, he, hrun.input, ho⟩
  · intro h
    obtain ⟨q, moves, p, r, hq, hrun, he, -, ho⟩ := h
    exact (Answer.halted hq hrun he ho).eq_execute
  · generalize m.execute w recorded = a at hanswer
    cases hanswer with
    | noStart => exact .inl rfl
    | lost => exact .inr (.inl ⟨_, rfl⟩)
    | halted => exact .inr (.inr ⟨_, rfl⟩)

end Machine

end Transducer
