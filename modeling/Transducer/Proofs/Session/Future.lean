import Transducer.Proofs.Session.Progress
import Transducer.Proofs.Session.Safety

/-!
What is still to come of a run. It depends on nothing but the state of the machine and what is left
of the input: neither on how the run came there nor on what was written, counted and recorded on the
way.
-/

namespace Transducer

namespace Session

/-- The sessions stand at one state of one machine, and before both of them is the same rest of
their inputs. What is behind them may differ. -/
structure SameAhead (s t : Session) : Prop where
  machine : s.machine = t.machine
  state : s.state = t.state
  remaining : s.remaining = t.remaining
  halt : s.halt = t.halt

/-- Between the one session and the other, the text was written and as many transitions taken. -/
structure Adds (s : Session) (written : Word) (taken : Nat) (u : Session) : Prop where
  output : u.output = s.output ++ written
  transitions : u.transitions = s.transitions + taken

/-- The sessions have both gone on, with the same ahead of them again and the same added. -/
structure Together (s t s' t' : Session) : Prop where
  ahead : s'.SameAhead t'
  added : ∃ written taken, s.Adds written taken s' ∧ t.Adds written taken t'

variable {s t u v s' t' : Session} {written written' : Word} {taken taken' : Nat}

theorem Adds.idle (ho : t.output = s.output) (ht : t.transitions = s.transitions) :
    s.Adds [] 0 t :=
  ⟨by rw [ho, List.append_nil], ht⟩

theorem Adds.trans (h : s.Adds written taken t) (h' : t.Adds written' taken' u) :
    s.Adds (written ++ written') (taken + taken') u where
  output := by rw [h'.output, h.output, List.append_assoc]
  transitions := by rw [h'.transitions, h.transitions, Nat.add_assoc]

theorem SameAhead.together (h : s.SameAhead t) : Together s t s t :=
  ⟨h, [], 0, .idle rfl rfl, .idle rfl rfl⟩

theorem Together.trans (h : Together s t s' t') (h' : Together s' t' u v) : Together s t u v := by
  obtain ⟨written, taken, hs, ht⟩ := h.added
  obtain ⟨written', taken', hs', ht'⟩ := h'.added
  exact ⟨h'.ahead, _, _, hs.trans hs', ht.trans ht'⟩

/-- A step looks at nothing but what is ahead. -/
theorem SameAhead.step (h : s.SameAhead t) :
    s.step.1 = t.step.1 ∧ Together s t s.step.2 t.step.2 := by
  have hahead := h.together
  obtain ⟨hmachine, hstate, hremaining, hhalt⟩ := h
  have hdone : s.isDone = t.isDone := congrArg Option.isSome hhalt
  generalize hr : s.step = r
  cases stepped_of_eq hr with
  | done hd =>
    rw [step_done (hdone ▸ hd)]
    exact ⟨rfl, hahead⟩
  | atEnd hd hrest =>
    rw [(Stepped.atEnd (hdone ▸ hd) (hremaining ▸ hrest)).eq]
    exact ⟨rfl, ⟨hmachine, hstate, hremaining, rfl⟩, [], 0, .idle rfl rfl, .idle rfl rfl⟩
  | stuck hd hrest hn =>
    have hwhy : Halt.stuck s.remaining s.state.tokens = .stuck t.remaining t.state.tokens := by
      rw [hstate, hremaining]
    rw [hstate, hremaining] at hn
    rw [(Stepped.stuck (hdone ▸ hd) (hremaining ▸ hrest) hn).eq]
    exact ⟨rfl, ⟨hmachine, hstate, hremaining, congrArg some hwhy⟩, [], 0, .idle rfl rfl,
      .idle rfl rfl⟩
  | lost hd hrest c hn hg =>
    rw [hstate, hremaining] at hn
    rw [(Stepped.lost (hdone ▸ hd) (hremaining ▸ hrest) c hn (hmachine ▸ hg)).eq]
    exact ⟨rfl, hahead⟩
  | taken hd hrest c q hn hg =>
    rw [hstate, hremaining] at hn
    rw [(Stepped.taken (hdone ▸ hd) (hremaining ▸ hrest) c q hn (hmachine ▸ hg)).eq]
    refine ⟨rfl, ⟨hmachine, rfl, ?_, hhalt⟩, c.emit?.getD [], 1, ⟨rfl, rfl⟩, ⟨rfl, rfl⟩⟩
    rw [take, take, hremaining]

theorem SameAhead.after (h : s.SameAhead t) (k : Nat) : Together s t (s.after k) (t.after k) := by
  induction k with
  | zero => exact h.together
  | succ k ih => exact ih.trans ih.ahead.step.2

end Session

namespace Machine

open Session

variable {m : Machine} {v w : Word} {recorded recorded' : Bool} {s t : Session} {i j : Nat}

/-- A state of the machine is known by its label. -/
theorem eq_of_label {q p : State} (hq : q ∈ m.states) (hp : p ∈ m.states) (h : q.label = p.label) :
    q = p := by
  have hfound : m.get? p.label = some q := get?_eq_some_iff.mpr ⟨hq, h⟩
  rw [get?_eq_some_iff.mpr ⟨hp, rfl⟩] at hfound
  exact (Option.some.inj hfound).symm

theorem placed_after_of_session (h : m.session w recorded = .ok s) (k : Nat) :
    (s.after k).machine = m ∧ (s.after k).state ∈ m.states := by
  obtain ⟨rfl, hplaced⟩ := placed_of_session h
  have hafter := hplaced.after k
  rw [Placed, machine_after] at hafter
  exact ⟨machine_after s k, hafter⟩

/-- Wherever two runs have come, if they go on from there, are in the same state and have the same
left of their inputs, the same is still to come of them: however many steps are taken, each answers
the same in both, also where each run cuts its own input at a position of its own, and the sessions
are in the same state again, with the same left and halted in the same way, have written the same
since and taken as many transitions. -/
theorem future_is_determined (hs : m.session v recorded = .ok s)
    (ht : m.session w recorded' = .ok t) (hi : (s.after i).isDone = false)
    (hj : (t.after j).isDone = false) (hlabel : (s.after i).state.label = (t.after j).state.label)
    (hremaining : (s.after i).remaining = (t.after j).remaining) (k : Nat) :
    (∀ n < k, ∃ answer, (s.after (i + n)).step.1 = answer ∧ (t.after (j + n)).step.1 = answer ∧
      (s.after (i + n)).cursor.perform (Cursor.advance v) =
        some (answer, (s.after (i + n + 1)).cursor) ∧
      (t.after (j + n)).cursor.perform (Cursor.advance w) =
        some (answer, (t.after (j + n + 1)).cursor)) ∧
    (s.after (i + k)).state = (t.after (j + k)).state ∧
    (s.after (i + k)).remaining = (t.after (j + k)).remaining ∧
    (s.after (i + k)).halt = (t.after (j + k)).halt ∧
    ∃ written taken, (s.after i).Adds written taken (s.after (i + k)) ∧
      (t.after j).Adds written taken (t.after (j + k)) := by
  obtain ⟨hsm, hsq⟩ := placed_after_of_session hs i
  obtain ⟨htm, htq⟩ := placed_after_of_session ht j
  have hahead : (s.after i).SameAhead (t.after j) :=
    ⟨hsm.trans htm.symm, eq_of_label hsq htq hlabel, hremaining,
      (halt_of_isDone hi).trans (halt_of_isDone hj).symm⟩
  have htogether (n : Nat) :
      Together (s.after i) (t.after j) (s.after (i + n)) (t.after (j + n)) := by
    rw [after_add, after_add]
    exact hahead.after n
  obtain ⟨⟨-, hstate, hrest, hhalt⟩, hadded⟩ := htogether k
  refine ⟨fun n _ => ?_, hstate, hrest, hhalt, hadded⟩
  have hanswer := (htogether n).ahead.step.1
  refine ⟨_, rfl, hanswer.symm, perform_advance_of_session hs (i + n), ?_⟩
  rw [hanswer]
  exact perform_advance_of_session ht (j + n)

/-- Two runs through the maze that meet before its last loop, the one behind one loop and the other
behind two. -/
theorem maze_joined : ∃ s t, maze.session ['é', 'é', 'y'] true = .ok s ∧
    maze.session ['é', 'é', 'é', 'y'] false = .ok t ∧ (s.after 1).isDone = false ∧
    (t.after 2).isDone = false ∧ (s.after 1).state.label = (t.after 2).state.label ∧
    (s.after 1).remaining = (t.after 2).remaining ∧
    (s.after 4).halt = some (.stuck ['y'] [[], ['é'], ['x']]) ∧
    (s.after 4).halt = (t.after 5).halt ∧
    ∃ written taken, (s.after 1).Adds written taken (s.after 4) ∧
      (t.after 2).Adds written taken (t.after 5) := by
  obtain ⟨s, hs⟩ : ∃ s, maze.session ['é', 'é', 'y'] true = .ok s := ⟨_, rfl⟩
  obtain ⟨t, ht⟩ : ∃ t, maze.session ['é', 'é', 'é', 'y'] false = .ok t := ⟨_, rfl⟩
  have hmeet : (s.after 1).isDone = false ∧ (t.after 2).isDone = false ∧
      (s.after 1).state.label = (t.after 2).state.label ∧
      (s.after 1).remaining = (t.after 2).remaining ∧
      (s.after 4).halt = some (.stuck ['y'] [[], ['é'], ['x']]) := by
    cases hs
    cases ht
    exact ⟨rfl, rfl, rfl, rfl, rfl⟩
  obtain ⟨hi, hj, hlabel, hremaining, hhalt⟩ := hmeet
  obtain ⟨-, -, -, hsame, hadded⟩ := future_is_determined hs ht hi hj hlabel hremaining 3
  exact ⟨s, t, hs, ht, hi, hj, hlabel, hremaining, hhalt, hsame, hadded⟩

end Machine

end Transducer
