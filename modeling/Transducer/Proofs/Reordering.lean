import Transducer.Proofs.Defect
import Transducer.Proofs.Run
import Transducer.Proofs.Session.Safety

/-!
Machines that are the same up to the order of their states. They pass their checks together, and if
they have one start state at most, nothing that is seen of a run tells which of them makes it.
-/

namespace Transducer

namespace Session

/-- The session of another machine that stands where this one does. -/
def on (s : Session) (n : Machine) : Session := { s with machine := n }

variable {s : Session} {n : Machine}

/-- A step looks at the machine only to find the state of a label. -/
theorem step_on (h : ∀ l, s.machine.get? l = n.get? l) :
    (s.on n).step = (s.step.1, s.step.2.on n) := by
  generalize hr : s.step = r
  cases stepped_of_eq hr with
  | done hd => exact step_done hd
  | atEnd hd hrest => exact (Stepped.atEnd (s := s.on n) hd hrest).eq
  | stuck hd hrest hn => exact (Stepped.stuck (s := s.on n) hd hrest hn).eq
  | lost hd hrest c hn hg =>
    exact (Stepped.lost (s := s.on n) hd hrest c hn ((h c.target).symm.trans hg)).eq
  | taken hd hrest c q hn hg =>
    exact (Stepped.taken (s := s.on n) hd hrest c q hn ((h c.target).symm.trans hg)).eq

theorem after_on (h : ∀ l, s.machine.get? l = n.get? l) (k : Nat) :
    (s.on n).after k = (s.after k).on n := by
  induction k with
  | zero => rfl
  | succ k ih =>
    have hk : ∀ l, (s.after k).machine.get? l = n.get? l := by
      rw [machine_after]
      exact h
    rw [after, after, ih, step_on hk]

theorem finish_on (h : ∀ l, s.machine.get? l = n.get? l) : (s.on n).finish = s.finish := by
  -- each step but the last takes something off the input
  induction hn : s.remaining.length using Nat.strongRecOn generalizing s with
  | ind k ih =>
    have hon := step_on h
    rcases hst : s.step with ⟨r, t⟩
    rw [hst] at hon
    match r with
    | .error e => rw [finish_of_error hon, finish_of_error hst]
    | .ok false =>
      rw [finish_of_halt hon, finish_of_halt hst]
      rfl
    | .ok true =>
      have ht : t.machine = s.machine := by
        rw [← machine_step s, hst]
      rw [finish_of_taken hon, finish_of_taken hst]
      exact ih _ (hn ▸ length_remaining_step hst) (ht ▸ h) rfl

/-- Both sessions fail to start in the same way, or both start and show the same after any number of
steps, and answer the next step alike. -/
inductive Alike : Except Fault Session → Except Fault Session → Prop
  | failed (f : Fault) : Alike (.error f) (.error f)
  | started {s t : Session} (snapshot : ∀ k, (s.after k).snapshot = (t.after k).snapshot)
    (step : ∀ k, (s.after k).step.1 = (t.after k).step.1) : Alike (.ok s) (.ok t)

end Session

namespace Machine

variable {m n : Machine}

/-- The machines give the same answers to every input, in one go and step by step. -/
structure SameRuns (m n : Machine) : Prop where
  execute : ∀ w recorded, m.execute w recorded = n.execute w recorded
  session : ∀ w recorded, Session.Alike (m.session w recorded) (n.session w recorded)

theorem get?_of_same (h : m.same n = true) (l : Word) : m.get? l = n.get? l := by
  ext s
  rw [get?_eq_some_iff, get?_eq_some_iff, mem_of_same h]

theorem mem_labels_of_same (h : m.same n = true) {l : Word} : l ∈ m.labels ↔ l ∈ n.labels := by
  rw [← has_iff, ← has_iff, has_eq_isSome_get?, has_eq_isSome_get?, get?_of_same h]

theorem singleStart_of_same (h : m.same n = true) : m.SingleStart ↔ n.SingleStart := by
  simp only [SingleStart, mem_of_same h]

theorem SingleStart.start?_eq_some_iff (hm : m.SingleStart) {q : State} :
    m.start? = some q ↔ q ∈ m.states ∧ q.role = .start := by
  constructor
  · intro h
    exact ⟨List.mem_of_find?_eq_some h, State.isStart_iff.mp (List.find?_some h)⟩
  · intro h
    obtain ⟨hq, hstart⟩ := h
    cases hp : m.start? with
    | none => exact absurd hstart (start?_eq_none_iff.mp hp q hq)
    | some p =>
      have hps := State.isStart_iff.mp (List.find?_some hp)
      rw [hm p (List.mem_of_find?_eq_some hp) q hq hps hstart]

theorem start?_of_same (h : m.same n = true) (hm : m.SingleStart) : m.start? = n.start? := by
  ext q
  rw [hm.start?_eq_some_iff, ((singleStart_of_same h).mp hm).start?_eq_some_iff, mem_of_same h]

theorem session_of_start? (h : m.start? = n.start?) (w : Word) (recorded : Bool) :
    n.session w recorded = (m.session w recorded).map (·.on n) := by
  unfold session
  rw [← h]
  cases m.start? <;> rfl

/-- Machines that are the same cannot be told apart by their runs, unless they differ in the start
state that comes first. -/
theorem SingleStart.sameRuns (hm : m.SingleStart) (h : m.same n = true) : m.SameRuns n := by
  have hsession := session_of_start? (start?_of_same h hm)
  have hget (w : Word) (recorded : Bool) (s : Session) (hs : m.session w recorded = .ok s)
      (l : Word) : s.machine.get? l = n.get? l := by
    rw [(placed_of_session hs).1]
    exact get?_of_same h l
  constructor
  · intro w recorded
    cases hs : m.session w recorded with
    | error f => simp [execute, hsession, hs, Except.bind, Except.map]
    | ok s =>
      have hn := hsession w recorded
      rw [hs] at hn
      rw [execute_of_session hs, execute_of_session hn]
      exact (Session.finish_on (hget w recorded s hs)).symm
  · intro w recorded
    rw [hsession]
    cases hs : m.session w recorded with
    | error f => exact .failed f
    | ok s =>
      have hl := hget w recorded s hs
      refine .started ?_ ?_
      · intro k
        rw [Session.after_on hl]
        rfl
      · intro k
        rw [Session.after_on hl, Session.step_on]
        rwa [Session.machine_after]

theorem same_symm (h : m.same n = true) : n.same m = true :=
  same_iff_perm.mpr (same_iff_perm.mp h).symm

theorem diagnose_ok_of_same (h : m.same n = true) (hm : m.diagnose = .ok) : n.diagnose = .ok := by
  rw [diagnose_eq_ok_iff_no_defect, no_defect_iff] at hm ⊢
  obtain ⟨hstart, haccept, hsingle, hdefect⟩ := hm
  simp only [mem_of_same h] at hstart haccept
  refine ⟨hstart, haccept, (singleStart_of_same h).mp hsingle, ?_⟩
  intro s hs k hk
  refine hdefect s ((mem_of_same h).mpr hs) k ?_
  exact (State.hasDefect_congr fun l => mem_labels_of_same h).mpr hk

/-- A state that was removed can be added back, and comes to stand last. -/
theorem add_of_remove {rest : Machine} {l : Word} {s : State} (h : m.remove l = some (s, rest)) :
    ∃ n, rest.add s = .ok n ∧ m.same n = true := by
  obtain ⟨before, after, hm, rfl, hrest⟩ := remove_eq_some_iff.mp h
  have hd := m.distinct
  rw [hm, List.map_append, List.map_cons, List.nodup_middle, List.nodup_cons,
    ← List.map_append] at hd
  have hfree : s.label ∉ rest.labels := by
    rw [labels, hrest]
    exact hd.1
  obtain ⟨n, hn⟩ := exists_add hfree
  refine ⟨n, hn, same_iff_perm.mpr ?_⟩
  rw [states_add hn, hm, hrest]
  exact List.perm_middle.trans (List.perm_append_singleton s _).symm

/-- The order of the states does not matter. Machines that are the same up to that order pass their
checks together, whatever else the checks find. With one start state at most they also give the same
answers to every input, in one go and step by step. So it is when a state is removed and added back,
which puts it last. -/
theorem order_does_not_matter :
    (∀ m n : Machine, m.same n = true →
      (m.diagnose = .ok ↔ n.diagnose = .ok) ∧ (m.SingleStart → m.SameRuns n)) ∧
    ∀ (m rest : Machine) (l : Word) (s : State), m.remove l = some (s, rest) →
      ∃ n, rest.add s = .ok n ∧ m.same n = true ∧ (m.SingleStart → m.SameRuns n) := by
  constructor
  · intro m n h
    exact ⟨⟨diagnose_ok_of_same h, diagnose_ok_of_same (same_symm h)⟩, fun hm => hm.sameRuns h⟩
  · intro m rest l s h
    obtain ⟨n, hn, hsame⟩ := add_of_remove h
    exact ⟨n, hn, hsame, fun hm => hm.sameRuns hsame⟩

/-- A start state and an accepting state that lead to each other. -/
def seesaw : Machine where
  states := [⟨['A'], .start, .plain [⟨['x'], ['B']⟩]⟩, ⟨['B'], .accept, .plain [⟨['y'], ['A']⟩]⟩]
  distinct := by decide

theorem seesaw_turned : ∃ rest n s, seesaw.remove ['A'] = some (s, rest) ∧
    rest.add s = .ok n ∧ n.labels = [['B'], ['A']] ∧ seesaw.SingleStart ∧ seesaw.SameRuns n ∧
    n.diagnose = .ok := by
  obtain ⟨hsame, hremove⟩ := order_does_not_matter
  have hsingle : seesaw.SingleStart := by
    unfold SingleStart
    decide
  have hr : seesaw.remove ['A'] = some (⟨['A'], .start, .plain [⟨['x'], ['B']⟩]⟩,
      seesaw.erase ['A']) := rfl
  obtain ⟨n, hn, hs, hruns⟩ := hremove _ _ _ _ hr
  have hlabels : n.labels = [['B'], ['A']] := by
    rw [labels, states_add hn]
    rfl
  exact ⟨_, n, _, hr, hn, hlabels, hsingle, hruns hsingle,
    (hsame seesaw n hs).1.mp (by decide)⟩

end Machine

end Transducer
