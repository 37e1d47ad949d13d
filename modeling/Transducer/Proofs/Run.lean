import Transducer.Proofs.Choice
import Transducer.Proofs.Session.Step

/-!
Runs of a machine, as moves from state to state that use up the input token by token. A run comes to
a halt at the end of the input or where no transition fits, or it is lost at a transition whose
target no state has. What the machine answers on an input is read off that run.
-/

namespace Transducer

/-- One transition taken: out of `source` with number `index`, to the state `target`. -/
structure Move where
  source : State
  index : Nat
  transition : Transition
  target : State

/-- What the move writes: the entry of the emit column at its index, if it reaches that far. -/
def Move.emitted (v : Move) : Word := (v.source.table.emit? v.index).getD []

namespace State

/-- The run is at its end: nothing is left, or nothing fits what is left. -/
def Halts (p : State) (rest : Word) : Prop := rest = [] ∨ ∀ i t, ¬ p.Chooses rest i t

/-- Why a run that halts at the state says it did. -/
def haltOn (p : State) (rest : Word) : Halt :=
  if rest.isEmpty then .endOfInput else .stuck rest p.tokens

end State

namespace Machine

/-- The first of the start states, in the order of the machine. -/
def FirstStart (m : Machine) (q : State) : Prop :=
  ∃ before after, m.states = before ++ q :: after ∧ q.role = .start ∧
    ∀ s ∈ before, s.role ≠ .start

/-- From the state and the input the moves lead to the other state and what is left of the input. -/
inductive Run (m : Machine) : State → Word → List Move → State → Word → Prop
  | stay (q : State) (r : Word) : m.Run q r [] q r
  | move {q s p : State} {i : Nat} {t : Transition} {w r : Word} {moves : List Move}
    (hc : q.Chooses (t.token ++ w) i t) (hs : s ∈ m.states) (hl : s.label = t.target)
    (tail : m.Run s w moves p r) : m.Run q (t.token ++ w) (⟨q, i, t, s⟩ :: moves) p r

/-- The run is lost: the transition chosen leads to a label that no state has. -/
def Lost (m : Machine) (p : State) (rest : Word) (label : Word) : Prop :=
  ∃ i t, p.Chooses rest i t ∧ t.target = label ∧ label ∉ m.labels

theorem firstStart_iff {m : Machine} {q : State} : m.FirstStart q ↔ m.start? = some q := by
  rw [start?, List.find?_eq_some_iff_append]
  constructor
  · intro h
    obtain ⟨before, after, he, hq, hno⟩ := h
    exact ⟨by simp [State.isStart, hq], before, after, he, by simpa [State.isStart] using hno⟩
  · intro h
    obtain ⟨hq, before, after, he, hno⟩ := h
    exact ⟨before, after, he, by simpa [State.isStart] using hq, by simpa [State.isStart] using hno⟩

theorem start?_eq_none_iff {m : Machine} : m.start? = none ↔ ∀ q ∈ m.states, q.role ≠ .start := by
  simp [start?, State.isStart]

/-- The tokens of the moves make up what a run has used of its input. -/
theorem Run.input {m : Machine} {q p : State} {w r : Word} {moves : List Move}
    (h : m.Run q w moves p r) : w = moves.flatMap (·.transition.token) ++ r := by
  induction h with
  | stay => rfl
  | move hc hs hl tail ih => simp [← ih]

/-- Every input leads to a halt or to a missing state. As the tokens chosen are not empty, the
induction is on what is left of the input. -/
theorem exists_run (m : Machine) (q : State) (w : Word) :
    ∃ moves p r, m.Run q w moves p r ∧ (p.Halts r ∨ ∃ l, m.Lost p r l) := by
  induction hn : w.length using Nat.strongRecOn generalizing q w with
  | ind n ih =>
    by_cases hh : q.Halts w
    · exact ⟨[], q, w, .stay q w, .inl hh⟩
    obtain ⟨i, t, hc⟩ : ∃ i t, q.Chooses w i t := by
      simpa [State.Halts, not_or] using hh.imp .inr
    by_cases hl : t.target ∈ m.labels
    · obtain ⟨s, hs, hst⟩ := List.mem_map.mp hl
      obtain ⟨hne, v, rfl⟩ := hc.fits
      have hlt : v.length < n := by
        have := List.length_pos_iff.mpr hne
        rw [← hn, List.length_append]
        omega
      obtain ⟨moves, p, r, hrun, hend⟩ := ih _ hlt s v rfl
      exact ⟨⟨q, i, t, s⟩ :: moves, p, r, .move hc hs hst hrun, hend⟩
    · exact ⟨[], q, w, .stay q w, .inr ⟨t.target, i, t, hc, rfl, hl⟩⟩

end Machine

namespace Session

/-- The session of a run that has made the moves and stands at `p` with the rest of its input. -/
def along (s : Session) (moves : List Move) (p : State) (rest : Word) : Session :=
  { s with
    state := p
    consumed := s.consumed ++ moves.flatMap (·.transition.token)
    remaining := rest
    output := s.output ++ moves.flatMap Move.emitted
    transitions := s.transitions + moves.length
    history := s.history.map (· ++ moves.map (·.target.label)) }

theorem along_nil (s : Session) : s.along [] s.state s.remaining = s := by
  simp [along]

/-- A step of a session takes the first move of its run. -/
theorem step_of_chooses {s : Session} {i : Nat} {t : Transition} {w : Word} {q : State}
    (hd : s.isDone = false) (hw : s.remaining = t.token ++ w)
    (hc : s.state.Chooses (t.token ++ w) i t) (hq : q ∈ s.machine.states)
    (hl : q.label = t.target) : s.step = (.ok true, s.along [⟨s.state, i, t, q⟩] q w) := by
  have hne : (t.token ++ w).isEmpty = false := by simp [hc.fits.1]
  have hn := State.next?_eq_some_iff.mpr ⟨i, t, hc, rfl⟩
  have hg : s.machine.get? t.target = some q := Machine.get?_eq_some_iff.mpr ⟨hq, hl⟩
  simp [step, hd, hw, hne, hn, hg, take, along, State.row, Move.emitted]

/-- As many steps as a run has moves lead to where the run stands. -/
theorem after_run {s : Session} {q p : State} {w r : Word} {moves : List Move}
    (h : s.machine.Run q w moves p r) (hd : s.isDone = false) (hq : s.state = q)
    (hw : s.remaining = w) : s.after moves.length = s.along moves p r := by
  generalize hm : s.machine = m at h
  induction h generalizing s with
  | stay q r =>
    subst hq hw
    exact (along_nil s).symm
  | @move q u p i t w r moves hc hs hl tail ih =>
    subst hq hm
    have hst : s.step.2 = s.along [⟨s.state, i, t, u⟩] u w :=
      congrArg Prod.snd (step_of_chooses hd hw hc hs hl)
    have htail := ih (s := s.along [⟨s.state, i, t, u⟩] u w) hd rfl rfl rfl
    rw [List.length_cons, after_succ, hst, htail]
    simp [along, Nat.add_assoc, Nat.add_comm 1, Function.comp_def]

/-- Where nothing fits any more, a step halts the run. -/
theorem step_of_halts {s : Session} (hd : s.isDone = false) (h : s.state.Halts s.remaining) :
    s.step = (.ok false, { s with halt := some (s.state.haltOn s.remaining) }) := by
  by_cases hr : s.remaining.isEmpty = true
  · simp [step, hd, hr, State.haltOn]
  · have hn : s.state.next? s.remaining = none := by
      rw [State.next?_eq_none_iff]
      exact h.resolve_left (by simpa using hr)
    simp [step, hd, hr, hn, State.haltOn]

theorem finish_of_halts {s : Session} (hd : s.isDone = false) (h : s.state.Halts s.remaining) :
    s.finish = .ok { s with halt := some (s.state.haltOn s.remaining) : Session }.outcome :=
  finish_of_halt (step_of_halts hd h)

theorem finish_of_lost {s : Session} {l : Word} (hd : s.isDone = false)
    (h : s.machine.Lost s.state s.remaining l) : s.finish = .error (.unknownState l) := by
  obtain ⟨i, t, hc, rfl, hl⟩ := h
  have hne : s.remaining ≠ [] := by
    intro he
    have hfit := hc.fits
    rw [he] at hfit
    exact hfit.1 (List.prefix_nil.mp hfit.2)
  have hn := State.next?_eq_some_iff.mpr ⟨i, t, hc, rfl⟩
  have hg : s.machine.get? t.target = none := by
    rw [← Option.not_isSome_iff_eq_none, ← Machine.has_eq_isSome_get?, Machine.has_iff]
    exact hl
  apply finish_of_error (t := s)
  simp [step, hd, hne, hn, hg, State.row]

end Session

end Transducer
