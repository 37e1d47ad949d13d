import Transducer.Clause
import Transducer.Machine
import Transducer.Alphabet

/-!
States that a line can hold. Their labels, targets and tokens are words of the format, and an emit
column lines up with at least one transition. Such a table is the same as the list of its rows, all
of which emit or none.
-/

namespace Transducer

/-- Each part of the clause can be written. -/
structure Clause.Writable (c : Clause) : Prop where
  target : c.target.isLabel = true
  token : c.token.isToken = true
  emit : ∀ e ∈ c.emit?, e.isEmit = true

/-- The state can be written as a line. -/
structure State.Writable (s : State) : Prop where
  label : s.label.isLabel = true
  targets : ∀ t ∈ s.transitions, t.target.isLabel = true
  tokens : ∀ t ∈ s.transitions, t.token.isToken = true
  column : ∀ es ∈ s.table.emits?,
    s.transitions ≠ [] ∧ es.length = s.transitions.length ∧ ∀ e ∈ es, e.isEmit = true

/-- Every state of the machine can be written as a line. -/
def Machine.Writable (m : Machine) : Prop := ∀ s ∈ m.states, s.Writable

/-- The clauses can stand in one line: each can be written, and all of them emit or none does. -/
def Clause.Lined (emitting : Bool) (cs : List Clause) : Prop :=
  ∀ c ∈ cs, c.Writable ∧ c.emit?.isSome = emitting

namespace Clause

theorem transition_mem_of_mem_pair {ts : List Transition} {es : List Word} {c : Clause}
    (h : c ∈ pair ts es) : c.transition ∈ ts := by
  rw [← map_transition_pair ts es]
  exact List.mem_map_of_mem h

theorem emit?_of_mem_pair_nil {ts : List Transition} {c : Clause} (h : c ∈ pair ts []) :
    c.emit? = none := by
  induction ts with
  | nil => cases h
  | cons t ts ih =>
    rcases List.mem_cons.mp h with rfl | h
    · rfl
    · exact ih h

theorem emit?_of_mem_pair {ts : List Transition} {es : List Word} {c : Clause}
    (hlen : es.length = ts.length) (h : c ∈ pair ts es) : ∃ e ∈ es, c.emit? = some e := by
  induction ts generalizing es with
  | nil => cases h
  | cons t ts ih =>
    cases es with
    | nil => cases hlen
    | cons e es =>
      rcases List.mem_cons.mp h with rfl | h
      · exact ⟨e, List.mem_cons_self, rfl⟩
      · obtain ⟨x, hx, he⟩ := ih (Nat.succ.inj hlen) h
        exact ⟨x, List.mem_cons_of_mem e hx, he⟩

theorem filterMap_emit?_pair {ts : List Transition} {es : List Word}
    (hlen : es.length = ts.length) : (pair ts es).filterMap emit? = es := by
  induction ts generalizing es with
  | nil => simpa [pair] using (List.length_eq_zero_iff.mp hlen).symm
  | cons t ts ih =>
    cases es with
    | nil => cases hlen
    | cons e es => simp [pair, ih (Nat.succ.inj hlen)]

theorem length_filterMap_emit? {cs : List Clause} (h : Lined true cs) :
    (cs.filterMap emit?).length = cs.length := by
  induction cs with
  | nil => rfl
  | cons c cs ih =>
    obtain ⟨e, he⟩ := Option.isSome_iff_exists.mp (h c List.mem_cons_self).2
    simp [he, ih fun d hd => h d (List.mem_cons_of_mem c hd)]

theorem writable_of_mem_pair {ts : List Transition} {es : List Word} {c : Clause}
    (htargets : ∀ t ∈ ts, t.target.isLabel = true) (htokens : ∀ t ∈ ts, t.token.isToken = true)
    (hemit : ∀ e ∈ c.emit?, e.isEmit = true) (h : c ∈ pair ts es) : c.Writable :=
  have ht := transition_mem_of_mem_pair h
  ⟨htargets _ ht, htokens _ ht, hemit⟩

end Clause

namespace State

theorem writable_iff {s : State} : s.Writable ↔ s.label.isLabel = true ∧
    (∀ t ∈ s.transitions, t.target.isLabel = true) ∧
    (∀ t ∈ s.transitions, t.token.isToken = true) ∧
    ∀ es ∈ s.table.emits?, s.transitions ≠ [] ∧ es.length = s.transitions.length ∧
      ∀ e ∈ es, e.isEmit = true :=
  ⟨fun h => ⟨h.label, h.targets, h.tokens, h.column⟩, fun h => ⟨h.1, h.2.1, h.2.2.1, h.2.2.2⟩⟩

instance (s : State) : Decidable s.Writable := decidable_of_iff _ writable_iff.symm

/-- The rows of a state that can be written stand in one line, and the table is made of them. -/
theorem Writable.lined {s : State} (h : s.Writable) :
    ∃ emitting, Clause.Lined emitting s.clauses ∧ Table.ofClauses s.clauses = s.table := by
  obtain ⟨label, role, table⟩ := s
  cases table with
  | plain ts =>
    have hnone (c : Clause) (hc : c ∈ Clause.pair ts []) := Clause.emit?_of_mem_pair_nil hc
    refine ⟨false, ?_, ?_⟩
    · intro c hc
      refine ⟨Clause.writable_of_mem_pair h.targets h.tokens ?_ hc, by rw [hnone c hc]; rfl⟩
      rw [hnone c hc]
      nofun
    · have hhead : (Clause.pair ts []).head?.any (·.emit?.isSome) = false := by
        cases ts <;> rfl
      simp [clauses, Table.clauses, Table.ofClauses, hhead]
  | emitting ts es =>
    obtain ⟨hne, hlen, hes⟩ := h.column es rfl
    refine ⟨true, ?_, ?_⟩
    · intro c hc
      obtain ⟨e, he, hce⟩ := Clause.emit?_of_mem_pair hlen hc
      refine ⟨Clause.writable_of_mem_pair h.targets h.tokens ?_ hc, by rw [hce]; rfl⟩
      intro x hx
      rw [hce] at hx
      exact Option.some.inj hx ▸ hes e he
    · obtain ⟨t, ts, rfl⟩ := List.exists_cons_of_ne_nil hne
      obtain ⟨e, es, rfl⟩ := List.exists_cons_of_length_eq_add_one hlen
      have hfilter : (Clause.pair (t :: ts) (e :: es)).filterMap Clause.emit? = e :: es :=
        Clause.filterMap_emit?_pair hlen
      have hhead : (Clause.pair (t :: ts) (e :: es)).head?.any (·.emit?.isSome) = true := rfl
      simp [clauses, Table.clauses, Table.ofClauses, hhead, hfilter]

/-- Clauses that stand in one line make an emit column as long as they are many, or none. -/
theorem column_ofClauses {cs : List Clause} {emitting : Bool} {es : List Word}
    (h : Clause.Lined emitting cs) (hes : (Table.ofClauses cs).emits? = some es) :
    cs ≠ [] ∧ es.length = cs.length ∧ ∀ e ∈ es, e.isEmit = true := by
  cases cs with
  | nil => cases hes
  | cons c cs =>
    have hc := (h c List.mem_cons_self).2
    cases emitting with
    | false => simp [Table.ofClauses, Table.emits?, hc] at hes
    | true =>
      simp only [Table.ofClauses, List.head?_cons, Option.any_some, hc, ↓reduceIte,
        Table.emits?, Option.some.injEq] at hes
      subst hes
      refine ⟨List.cons_ne_nil c cs, Clause.length_filterMap_emit? h, ?_⟩
      intro e he
      obtain ⟨d, hd, hde⟩ := List.mem_filterMap.mp he
      exact (h d hd).1.emit e hde

/-- What is made of clauses that stand in one line can be written. -/
theorem writable_ofClauses {l : Word} {role : Role} {cs : List Clause} {emitting : Bool}
    (hl : l.isLabel = true) (h : Clause.Lined emitting cs) :
    (⟨l, role, Table.ofClauses cs⟩ : State).Writable := by
  have hclause (t : Transition) (ht : t ∈ (Table.ofClauses cs).transitions) :
      ∃ c ∈ cs, c.transition = t := by
    rw [Table.transitions_ofClauses] at ht
    exact List.mem_map.mp ht
  refine ⟨hl, ?_, ?_, ?_⟩
  · intro t ht
    obtain ⟨c, hc, rfl⟩ := hclause t ht
    exact (h c hc).1.target
  · intro t ht
    obtain ⟨c, hc, rfl⟩ := hclause t ht
    exact (h c hc).1.token
  · intro es hes
    have hcol := column_ofClauses h hes
    simpa [transitions] using hcol

end State

instance (m : Machine) : Decidable m.Writable :=
  inferInstanceAs (Decidable (∀ s ∈ m.states, s.Writable))

end Transducer
