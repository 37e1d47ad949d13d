import Transducer.Session

/-!
What a step of a session can do, and what follows for a run to its end. A step leaves the session as
it is, halts it, or takes the first transition that applies. The end of a run is the same from every
session on the way to it.
-/

namespace Transducer.Session

/-- Everything a step can do: the answer it gives and the session it leaves. -/
inductive Stepped (s : Session) : Except Fault Bool × Session → Prop
  | done (h : s.isDone = true) : Stepped s (.ok false, s)
  | atEnd (h : s.isDone = false) (hr : s.remaining = []) :
    Stepped s (.ok false, { s with halt := some .endOfInput })
  | stuck (h : s.isDone = false) (hr : s.remaining ≠ [])
    (hn : s.state.next? s.remaining = none) :
    Stepped s (.ok false, { s with halt := some (.stuck s.remaining s.state.tokens) })
  | lost (h : s.isDone = false) (hr : s.remaining ≠ []) (c : Clause)
    (hn : s.state.next? s.remaining = some c) (hg : s.machine.get? c.target = none) :
    Stepped s (.error (.unknownState c.target), s)
  | taken (h : s.isDone = false) (hr : s.remaining ≠ []) (c : Clause) (q : State)
    (hn : s.state.next? s.remaining = some c) (hg : s.machine.get? c.target = some q) :
    Stepped s (.ok true, s.take c q)

theorem stepped (s : Session) : s.Stepped s.step := by
  unfold step
  split
  · rename_i h
    exact .done h
  rename_i h
  simp only [Bool.not_eq_true] at h
  split
  · rename_i hr
    exact .atEnd h (List.isEmpty_iff.mp hr)
  rename_i hr
  have hr : s.remaining ≠ [] := fun he => hr (List.isEmpty_iff.mpr he)
  split
  · rename_i hn
    exact .stuck h hr hn
  · rename_i c hn
    split
    · rename_i hg
      exact .lost h hr c hn hg
    · rename_i q hg
      exact .taken h hr c q hn hg

theorem stepped_of_eq {s : Session} {r : Except Fault Bool × Session} (h : s.step = r) :
    s.Stepped r :=
  h ▸ s.stepped

theorem step_done {s : Session} (h : s.isDone = true) : s.step = (.ok false, s) := by
  simp [step, h]

/-- Nothing else can come of a step: what it does is decided by the session. -/
theorem Stepped.eq {s : Session} {r : Except Fault Bool × Session} (h : s.Stepped r) :
    s.step = r := by
  cases h with
  | done h => exact step_done h
  | atEnd h hr => simp [step, h, hr]
  | stuck h hr hn => simp [step, h, hr, hn]
  | lost h hr c hn hg => simp [step, h, hr, hn, hg]
  | taken h hr c q hn hg => simp [step, h, hr, hn, hg]

@[simp] theorem machine_step (s : Session) : s.step.2.machine = s.machine := by
  generalize hr : s.step = r
  cases stepped_of_eq hr <;> rfl

theorem finish_of_error {s t : Session} {f : Fault} (h : s.step = (.error f, t)) :
    s.finish = .error f := by
  rw [finish]
  split <;> simp_all

theorem finish_of_halt {s t : Session} (h : s.step = (.ok false, t)) :
    s.finish = .ok t.outcome := by
  rw [finish]
  split <;> simp_all

theorem finish_of_taken {s t : Session} (h : s.step = (.ok true, t)) : s.finish = t.finish := by
  rw [finish]
  split <;> simp_all

theorem finish_done {s : Session} (h : s.isDone = true) : s.finish = .ok s.outcome :=
  finish_of_halt (step_done h)

theorem isDone_of_halt {s t : Session} (h : s.step = (.ok false, t)) : t.isDone = true := by
  cases stepped_of_eq h with
  | done hd => exact hd
  | atEnd => rfl
  | stuck => rfl

theorem halt_of_isDone {s : Session} (h : s.isDone = false) : s.halt = none := by
  simpa [isDone] using h

/-- A step that fails leaves the session as it was. -/
theorem eq_of_error {s t : Session} {f : Fault} (h : s.step = (.error f, t)) : t = s := by
  cases stepped_of_eq h
  rfl

theorem error_of_step {s t : Session} {f : Fault} (h : s.step = (.error f, t)) :
    ∃ l, f = .unknownState l := by
  cases stepped_of_eq h with
  | lost _ _ c => exact ⟨c.target, rfl⟩

/-- The answers a step can give. -/
theorem answers (s : Session) : s.step.1 = .ok true ∨ s.step.1 = .ok false ∨
    ∃ l, s.step.1 = .error (.unknownState l) := by
  generalize hr : s.step = r
  cases stepped_of_eq hr with
  | done | atEnd | stuck => exact .inr (.inl rfl)
  | lost _ _ c => exact .inr (.inr ⟨c.target, rfl⟩)
  | taken => exact .inl rfl

theorem transitions_of_halt {s t : Session} (h : s.step = (.ok false, t)) :
    t.transitions = s.transitions := by
  cases stepped_of_eq h <;> rfl

theorem transitions_of_taken {s t : Session} (h : s.step = (.ok true, t)) :
    t.transitions = s.transitions + 1 := by
  cases stepped_of_eq h
  rfl

/-- A step does not change where a run ends, whether it takes a transition, halts or fails. -/
theorem finish_step (s : Session) : s.step.2.finish = s.finish := by
  rcases hst : s.step with ⟨r, t⟩
  match r with
  | .error f => rw [eq_of_error hst]
  | .ok false => rw [finish_of_halt hst, finish_done (isDone_of_halt hst)]
  | .ok true => exact (finish_of_taken hst).symm

/-- The session after a number of further steps, whatever they answer. -/
def after (s : Session) : Nat → Session
  | 0 => s
  | n + 1 => (s.after n).step.2

theorem after_succ (s : Session) (n : Nat) : s.after (n + 1) = s.step.2.after n := by
  induction n with
  | zero => rfl
  | succ n ih => exact congrArg (fun t => t.step.2) ih

theorem after_add (s : Session) (k n : Nat) : s.after (k + n) = (s.after k).after n := by
  induction n with
  | zero => rfl
  | succ n ih => exact congrArg (fun t => t.step.2) ih

theorem input_after (s : Session) (k : Nat) : (s.after k).input = s.input := by
  induction k with
  | zero => rfl
  | succ k ih => exact (input_step _).trans ih

theorem isDone_after {s : Session} {n : Nat} (htook : ∀ i < n, (s.after i).step.1 = .ok true)
    (hs : s.isDone = false) : (s.after n).isDone = false := by
  cases n with
  | zero => exact hs
  | succ n =>
    have htaken := htook n (by omega)
    generalize hr : (s.after n).step = r at htaken
    rw [after, hr]
    cases stepped_of_eq hr with
    | done | atEnd | stuck | lost => cases htaken
    | taken hd => exact hd

theorem finish_after (s : Session) (n : Nat) : (s.after n).finish = s.finish := by
  induction n with
  | zero => rfl
  | succ n ih => exact (finish_step _).trans ih

theorem error_of_finish {s : Session} {f : Fault} (h : s.finish = .error f) :
    ∃ l, f = .unknownState l := by
  induction hn : s.remaining.length using Nat.strongRecOn generalizing s with
  | ind n ih =>
    rcases hst : s.step with ⟨r, t⟩
    match r with
    | .error e =>
      rw [finish_of_error hst] at h
      cases h
      exact error_of_step hst
    | .ok false =>
      rw [finish_of_halt hst] at h
      cases h
    | .ok true =>
      rw [finish_of_taken hst] at h
      exact ih _ (hn ▸ length_remaining_step hst) h rfl

/-- A run that ends well is a row of steps that take a transition, as many as its result counts, and
then one that does not. -/
theorem steps_of_finish {s : Session} {o : Outcome} (h : s.finish = .ok o) :
    ∃ n, o.transitions = s.transitions + n ∧ (∀ i < n, (s.after i).step.1 = .ok true) ∧
      (s.after n).step.1 = .ok false ∧ (s.after (n + 1)).isDone = true ∧
      (s.after (n + 1)).outcome = o := by
  induction hn : s.remaining.length using Nat.strongRecOn generalizing s with
  | ind k ih =>
    rcases hst : s.step with ⟨r, t⟩
    match r with
    | .error e =>
      rw [finish_of_error hst] at h
      cases h
    | .ok false =>
      rw [finish_of_halt hst] at h
      cases h
      have ht : s.after 1 = t := congrArg Prod.snd hst
      refine ⟨0, transitions_of_halt hst, nofun, congrArg Prod.fst hst, ?_, ?_⟩
      · rw [ht]
        exact isDone_of_halt hst
      · rw [ht]
    | .ok true =>
      rw [finish_of_taken hst] at h
      obtain ⟨n, htrans, hpre, hlast, hdone, hout⟩ := ih _ (hn ▸ length_remaining_step hst) h rfl
      have ht (i : Nat) : s.after (i + 1) = t.after i := by rw [after_succ, hst]
      refine ⟨n + 1, ?_, ?_, ht n ▸ hlast, ht (n + 1) ▸ hdone, ht (n + 1) ▸ hout⟩
      · rw [htrans, transitions_of_taken hst]
        omega
      · intro i hi
        cases i with
        | zero => exact congrArg Prod.fst hst
        | succ i =>
          rw [ht]
          exact hpre i (by omega)

end Transducer.Session
