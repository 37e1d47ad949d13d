import Transducer.Proofs.Defect
import Transducer.Proofs.Session.Safety
import Transducer.Proofs.Shadow

/-!
Taking the reported transitions out of a machine. A transition in a shadow is never the first that
fits, so the rows that are left answer every input as the whole table does, although their numbers
have changed. The pruned machine has no reports, passes its check if the machine did, and makes the
same runs; only the tokens that a stuck run says it attempted become fewer.
-/

namespace Transducer

namespace State

variable {α β : Type} {s : State}

/-- The entries of a column that belong to transitions which are not reported. -/
def kept (s : State) (column : List α) : List α :=
  (column.zipIdx.filter (!s.isShadowed ·.2)).map Prod.fst

/-- The state without the transitions that are reported and what they emit. -/
def pruned (s : State) : State :=
  { s with table := match s.table with
      | .plain ts => .plain (s.kept ts)
      | .emitting ts es => .emitting (s.kept ts) (s.kept es) }

@[simp] theorem label_pruned (s : State) : s.pruned.label = s.label := rfl

@[simp] theorem role_pruned (s : State) : s.pruned.role = s.role := rfl

theorem kept_sublist (s : State) (column : List α) : (s.kept column).Sublist column := by
  have h := (List.filter_sublist (l := column.zipIdx) (p := (!s.isShadowed ·.2))).map Prod.fst
  rwa [List.zipIdx_map_fst] at h

theorem map_kept (s : State) (f : α → β) (column : List α) :
    (s.kept column).map f = s.kept (column.map f) := by
  simp only [kept, List.zipIdx_map, List.filter_map, List.map_map]
  rfl

theorem transitions_pruned (s : State) : s.pruned.transitions = s.kept s.transitions := by
  unfold pruned transitions
  cases s.table <;> rfl

theorem tokens_pruned (s : State) : s.pruned.tokens = s.kept s.tokens := by
  rw [tokens, transitions_pruned, map_kept, tokens]

theorem emits?_pruned (s : State) : s.pruned.table.emits? = s.table.emits?.map s.kept := by
  unfold pruned
  cases s.table <;> rfl

/-- Columns of one length keep one length. -/
theorem length_kept (s : State) {xs : List α} {ys : List β} (h : xs.length = ys.length) :
    (s.kept xs).length = (s.kept ys).length := by
  have hlen {γ : Type} (column : List γ) : (s.kept column).length =
      ((List.range' 0 column.length).filter (!s.isShadowed ·)).length := by
    rw [← List.zipIdx_map_snd, List.filter_map, List.length_map, kept, List.length_map]
    rfl
  rw [hlen, hlen, h]

theorem isBalanced_pruned (h : s.table.isBalanced = true) :
    s.pruned.table.isBalanced = true := by
  unfold pruned
  cases htable : s.table with
  | plain ts => rfl
  | emitting ts es =>
    rw [htable] at h
    simp only [Table.isBalanced, beq_iff_eq] at h ⊢
    exact s.length_kept h

/-- The first transition lies in no shadow. -/
theorem kept_ne_nil {column : List α} (h : column ≠ []) : s.kept column ≠ [] := by
  obtain ⟨x, xs, rfl⟩ := List.exists_cons_of_ne_nil h
  have hfirst : s.isShadowed 0 = false := by
    rw [← Bool.not_eq_true, isShadowed_iff]
    rintro ⟨-, -, j, hj, -⟩
    omega
  simp [kept, hfirst]

/-- Rows are made of what is kept of each column, if the columns line up. -/
theorem clauses_pruned (h : s.table.isBalanced = true) : s.pruned.clauses = s.kept s.clauses := by
  have hpair (ts : List Transition) (es : List Word) (k : Nat)
      (hlen : es = [] ∨ ts.length = es.length) :
      Clause.pair (((ts.zipIdx k).filter (!s.isShadowed ·.2)).map Prod.fst)
        (((es.zipIdx k).filter (!s.isShadowed ·.2)).map Prod.fst) =
      (((Clause.pair ts es).zipIdx k).filter (!s.isShadowed ·.2)).map Prod.fst := by
    induction ts generalizing es k with
    | nil => rfl
    | cons t ts ih =>
      cases es with
      | nil =>
        have hrest := ih [] (k + 1) (.inl rfl)
        by_cases hk : s.isShadowed k = true <;> simpa [Clause.pair, hk] using hrest
      | cons e es =>
        have hrest := ih es (k + 1) (.inr (by simpa using hlen))
        by_cases hk : s.isShadowed k = true <;> simpa [Clause.pair, hk] using hrest
  unfold clauses pruned
  cases htable : s.table with
  | plain ts => exact hpair ts [] 0 (.inl rfl)
  | emitting ts es =>
    rw [htable] at h
    exact hpair ts es 0 (.inr (by simpa [Table.isBalanced] using h))

/-- What is taken first is never in a shadow: what hides it would fit as well, and earlier. -/
theorem isShadowed_of_first {r : Word} {i : Nat} (hi : i < s.clauses.length)
    (happ : s.clauses[i].applies r = true)
    (hfirst : ∀ j (hj : j < i), ¬ s.clauses[j].applies r = true) : s.isShadowed i = false := by
  have htokens : s.tokens = s.clauses.map Clause.token := by
    rw [tokens, transitions, ← Table.map_transition_clauses, List.map_map]
    rfl
  rw [← Bool.not_eq_true, isShadowed_iff]
  rintro ⟨t, ht, j, hj, u, hu, hu_ne, -, hprefix⟩
  rw [htokens, List.getElem?_map, List.getElem?_eq_getElem (by omega)] at ht hu
  simp only [Option.map_some, Option.some.injEq] at ht hu
  subst ht hu
  simp only [Clause.applies, Bool.and_eq_true, Bool.not_eq_true', List.isEmpty_eq_false_iff,
    List.isPrefixOf_iff_prefix] at happ hfirst
  exact hfirst j hj ⟨hu_ne, hprefix.trans happ.2⟩

/-- A pruned state takes what the state takes. -/
theorem next?_pruned (h : s.table.isBalanced = true) (r : Word) : s.pruned.next? r = s.next? r := by
  have hplaces (column : List Clause) : column.find? (Clause.applies r) =
      (column.zipIdx.find? (·.1.applies r)).map Prod.fst := by
    conv_lhs => rw [← List.zipIdx_map_fst 0 column, List.find?_map]
    rfl
  rw [next?, next?, clauses_pruned h, kept, List.find?_map, List.find?_filter, hplaces]
  congr 1
  cases hfound : s.clauses.zipIdx.find? (·.1.applies r) with
  | none =>
    rw [List.find?_eq_none] at hfound ⊢
    intro a ha
    simp [hfound a ha]
  | some a =>
    obtain ⟨happ, i, hi, rfl, hfirst⟩ := List.find?_eq_some_iff_getElem.mp hfound
    simp only [List.getElem_zipIdx, Bool.not_eq_true'] at happ hfirst
    have hlit : s.isShadowed i = false := by
      rw [List.length_zipIdx] at hi
      exact isShadowed_of_first hi happ fun j hj => by simp [hfirst j hj]
    refine List.find?_eq_some_iff_getElem.mpr ⟨by simp [hlit, happ], i, hi, rfl, ?_⟩
    intro j hj
    simp [hfirst j hj]

/-- No token that is kept hides another. -/
theorem shadows_pruned (s : State) : s.pruned.shadows = [] := by
  rw [shadows_eq_nil_iff, tokens_pruned, kept, List.pairwise_map, List.pairwise_filter,
    List.pairwise_iff_getElem]
  intro i j hi hj hij _ hlit hhides
  simp only [List.length_zipIdx] at hi hj
  simp only [List.getElem_zipIdx] at hlit hhides
  have hshadowed : s.isShadowed j = true := isShadowed_iff.mpr
    ⟨_, List.getElem?_eq_getElem hj, i, hij, _, List.getElem?_eq_getElem hi, hhides⟩
  simp [hshadowed] at hlit

/-- A sound state stays sound. -/
theorem Sound.pruned {labels : List Word} {started : Bool} (h : s.Sound labels started) :
    s.pruned.Sound labels started where
  label := h.label
  single := h.single
  balanced := isBalanced_pruned h.balanced
  moves := by
    rw [transitions_pruned]
    exact kept_ne_nil h.moves
  tokens := by
    rw [tokens_pruned]
    exact fun t ht => h.tokens t ((s.kept_sublist _).subset ht)
  emits := by
    rw [emits?_pruned]
    intro e he
    cases hes : s.table.emits? with
    | none => simp [hes] at he
    | some es =>
      rw [hes] at he
      exact h.emits e (by simpa [hes] using (s.kept_sublist es).subset he)
  targets := by
    rw [transitions_pruned]
    exact fun t ht => h.targets t ((s.kept_sublist _).subset ht)

end State

namespace Machine

variable {m : Machine}

/-- The machine without its reported transitions and what they emit. -/
def pruned (m : Machine) : Machine :=
  ⟨m.states.map State.pruned, by simpa [Function.comp_def] using m.distinct⟩

/-- Every emit column of the machine lines up with its transitions. -/
def Balanced (m : Machine) : Prop := ∀ s ∈ m.states, s.table.isBalanced = true

theorem shadows_pruned (m : Machine) : m.pruned.shadows = [] := by
  simp [shadows, pruned, State.shadows_pruned]

theorem labels_pruned (m : Machine) : m.pruned.labels = m.labels := by
  simp [labels, pruned, Function.comp_def]

theorem get?_pruned (m : Machine) (l : Word) : m.pruned.get? l = (m.get? l).map State.pruned := by
  simp only [get?, pruned, List.find?_map]
  rfl

theorem start?_pruned (m : Machine) : m.pruned.start? = m.start?.map State.pruned := by
  simp only [start?, pruned, List.find?_map]
  rfl

theorem firstFault?_pruned {labels : List Word} {started : Bool} {ss : List State}
    (h : firstFault? labels started ss = none) :
    firstFault? labels started (ss.map State.pruned) = none := by
  induction ss generalizing started with
  | nil => rfl
  | cons s ss ih =>
    rw [firstFault?_cons, Option.or_eq_none_iff] at h
    rw [List.map_cons, firstFault?_cons, Option.or_eq_none_iff]
    exact ⟨State.fault?_eq_none_iff.mpr (State.fault?_eq_none_iff.mp h.1).pruned, ih h.2⟩

theorem diagnose_pruned (h : m.diagnose = .ok) : m.pruned.diagnose = .ok := by
  have hany (p : State → Bool) (hp : ∀ s, p s.pruned = p s) :
      m.pruned.states.any p = m.states.any p := by
    simp [pruned, Function.comp_def, hp]
  have hstart := hany State.isStart fun _ => rfl
  have haccept := hany State.isAccept fun _ => rfl
  have hnone := firstFault?_of_diagnose_ok h
  have hpruned : firstFault? m.pruned.labels false m.pruned.states = none := by
    rw [labels_pruned]
    exact firstFault?_pruned hnone
  unfold diagnose at h ⊢
  rw [hnone] at h
  rw [hpruned, hstart, haccept]
  exact h

end Machine

/-- What was left of the input where a run got stuck. -/
def Halt.remaining? : Halt → Option Word
  | .endOfInput => none
  | .stuck r _ => some r

namespace Outcome

/-- Both results tell of one run. If it got stuck they may name different tokens as attempted, and
so have different messages, but the same rest of the input. -/
structure SameRun (o p : Outcome) : Prop where
  accepted : o.accepted = p.accepted
  finalState : o.finalState = p.finalState
  output : o.output = p.output
  transitions : o.transitions = p.transitions
  history : o.history = p.history
  halt : o.halt.remaining? = p.halt.remaining?

/-- Both runs fail in the same way, or both give a result of one run. -/
inductive Agree : Except Fault Outcome → Except Fault Outcome → Prop
  | failed (f : Fault) : Agree (.error f) (.error f)
  | finished {o p : Outcome} (h : o.SameRun p) : Agree (.ok o) (.ok p)

end Outcome

namespace Session

/-- The session of the pruned machine that stands where this one does. -/
def pruned (s : Session) : Session :=
  { s with machine := s.machine.pruned, state := s.state.pruned }

/-- The pruned machine finishes a run as the machine does. Both take the same step; the induction is
on what is left of the input. -/
theorem finish_pruned {s : Session} (hp : s.Placed) (hm : s.machine.Balanced)
    (hd : s.isDone = false) : Outcome.Agree s.finish s.pruned.finish := by
  induction hn : s.remaining.length using Nat.strongRecOn generalizing s with
  | ind k ih =>
    have hnext := State.next?_pruned (hm s.state hp) s.remaining
    have hget (l : Word) : s.pruned.machine.get? l = (s.machine.get? l).map State.pruned :=
      s.machine.get?_pruned l
    rcases hst : s.step with ⟨r, t⟩
    cases stepped_of_eq hst with
    | done h => rw [h] at hd; cases hd
    | atEnd _ hr =>
      have hst' := (Stepped.atEnd (s := s.pruned) hd hr).eq
      rw [finish_of_halt hst, finish_of_halt hst']
      exact .finished ⟨rfl, rfl, rfl, rfl, rfl, rfl⟩
    | stuck _ hr hno =>
      have hst' := (Stepped.stuck (s := s.pruned) hd hr (hnext.trans hno)).eq
      rw [finish_of_halt hst, finish_of_halt hst']
      exact .finished ⟨rfl, rfl, rfl, rfl, rfl, rfl⟩
    | lost _ hr c hc hg =>
      have hg' : s.pruned.machine.get? c.target = none := by rw [hget, hg, Option.map_none]
      have hst' := (Stepped.lost (s := s.pruned) hd hr c (hnext.trans hc) hg').eq
      rw [finish_of_error hst, finish_of_error hst']
      exact .failed _
    | taken _ hr c q hc hg =>
      have hg' : s.pruned.machine.get? c.target = some q.pruned := by
        rw [hget, hg, Option.map_some]
      have hst' := (Stepped.taken (s := s.pruned) hd hr c q.pruned (hnext.trans hc) hg').eq
      have hq : (s.take c q).Placed := (Machine.get?_eq_some_iff.mp hg).1
      rw [finish_of_taken hst, finish_of_taken hst']
      exact ih _ (hn ▸ length_remaining_step hst) hq hm hd rfl

end Session

namespace Machine

variable {m : Machine}

theorem session_pruned (m : Machine) (w : Word) (recorded : Bool) :
    m.pruned.session w recorded = (m.session w recorded).map Session.pruned := by
  simp only [session, start?_pruned]
  cases m.start? <;> rfl

theorem execute_pruned (h : m.Balanced) (w : Word) (recorded : Bool) :
    Outcome.Agree (m.execute w recorded) (m.pruned.execute w recorded) := by
  have hsession := m.session_pruned w recorded
  cases hs : m.session w recorded with
  | error f =>
    rw [hs] at hsession
    simp only [execute, hs, hsession]
    exact .failed f
  | ok s =>
    rw [hs] at hsession
    obtain ⟨hmachine, hplaced⟩ := placed_of_session hs
    rw [execute_of_session hs, execute_of_session hsession]
    exact Session.finish_pruned hplaced (hmachine ▸ h) (isDone_of_session hs)

/-- It is safe to act on the reports. What is taken out of each state are the transitions whose
tokens are reported: those not empty that begin with an earlier one that is not empty. If the emit
columns line up with the transitions, what is left of the machine has no reports, still passes its
check if the machine did, and answers every input as the machine does. -/
theorem pruning_is_safe {m : Machine} (h : ∀ s ∈ m.states, s.table.isBalanced = true) :
    (∀ s ∈ m.states,
      s.shadows.map Shadow.token = (s.tokens.zipIdx.filter (s.isShadowed ·.2)).map Prod.fst ∧
      ∀ i, s.isShadowed i = true ↔ ∃ t, s.tokens[i]? = some t ∧ t ≠ [] ∧
        ∃ j < i, ∃ u, s.tokens[j]? = some u ∧ u ≠ [] ∧ u <+: t) ∧
    m.pruned.shadows = [] ∧
    (m.diagnose = .ok → m.pruned.diagnose = .ok) ∧
    ∀ w recorded, Outcome.Agree (m.execute w recorded) (m.pruned.execute w recorded) := by
  refine ⟨?_, m.shadows_pruned, diagnose_pruned, execute_pruned h⟩
  intro s _
  refine ⟨s.map_token_shadows, ?_⟩
  intro i
  rw [State.isShadowed_iff]
  constructor
  · intro hi
    obtain ⟨t, ht, j, hj, u, hu, hu_ne, ht_ne, hprefix⟩ := hi
    exact ⟨t, ht, ht_ne, j, hj, u, hu, hu_ne, hprefix⟩
  · intro hi
    obtain ⟨t, ht, ht_ne, j, hj, u, hu, hu_ne, hprefix⟩ := hi
    exact ⟨t, ht, j, hj, u, hu, hu_ne, ht_ne, hprefix⟩

/-- A start state with a chain of shadows between transitions that can be taken, and an accepting
state with one token twice. -/
def thicket : Machine where
  states := [
    ⟨['A'], .start, .emitting
      [⟨['a'], ['B']⟩, ⟨['a', 'b'], ['A']⟩, ⟨['b'], ['B']⟩, ⟨['a', 'b', 'c'], ['A']⟩]
      [['x'], ['y'], ['z'], ['u']]⟩,
    ⟨['B'], .accept, .plain [⟨['c'], ['A']⟩, ⟨['c'], ['B']⟩]⟩]
  distinct := by decide

theorem thicket_thinned : (∀ s ∈ thicket.states, s.table.isBalanced = true) ∧
    thicket.shadows.map Shadow.token = [['a', 'b'], ['a', 'b', 'c'], ['c']] ∧
    thicket.pruned.states = [
      ⟨['A'], .start, .emitting [⟨['a'], ['B']⟩, ⟨['b'], ['B']⟩] [['x'], ['z']]⟩,
      ⟨['B'], .accept, .plain [⟨['c'], ['A']⟩]⟩] ∧
    thicket.pruned.shadows = [] ∧ thicket.pruned.diagnose = .ok ∧
    Outcome.Agree (thicket.execute ['a', 'c', 'b'] true)
      (thicket.pruned.execute ['a', 'c', 'b'] true) := by
  have hbalanced : ∀ s ∈ thicket.states, s.table.isBalanced = true := by decide
  obtain ⟨-, hshadows, hcheck, hruns⟩ := pruning_is_safe hbalanced
  exact ⟨hbalanced, by decide, by decide, hshadows, hcheck (by decide), hruns _ _⟩

end Machine

end Transducer
