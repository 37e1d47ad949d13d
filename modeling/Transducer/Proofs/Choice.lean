import Transducer.Clause

/-!
Which transition is taken. On a given input a state chooses the first of its transitions that fits,
and with it the entry of the emit column at the same index.
-/

namespace Transducer

/-- The token is not empty and begins the input. -/
def Transition.Fits (t : Transition) (input : Word) : Prop := t.token ≠ [] ∧ t.token <+: input

namespace State

/-- On the input, the transition `t` at `index` is the first that fits. -/
structure Chooses (q : State) (input : Word) (index : Nat) (t : Transition) : Prop where
  here : q.transitions[index]? = some t
  fits : t.Fits input
  first : ∀ j u, j < index → q.transitions[j]? = some u → ¬ u.Fits input

/-- The row of a transition: what is emitted is found at the same index of the emit column. -/
def row (q : State) (index : Nat) (t : Transition) : Clause :=
  ⟨t.target, t.token, q.table.emit? index⟩

theorem getElem?_clauses (q : State) (i : Nat) :
    q.clauses[i]? = q.transitions[i]?.map (q.row i) := by
  have ht : q.transitions[i]? = q.clauses[i]?.map Clause.transition := by
    rw [← List.getElem?_map]
    exact congrArg (·[i]?) (Table.map_transition_clauses q.table).symm
  cases hc : q.clauses[i]? with
  | none => simp [ht, hc]
  | some c =>
    have hi : i < q.table.transitions.length := by
      rw [← Table.length_clauses]
      exact (List.getElem?_eq_some_iff.mp hc).1
    have he : c.emit? = q.table.emit? i := by
      rw [← Table.emit?_clauses q.table hi]
      change c.emit? = q.clauses[i]?.bind Clause.emit?
      rw [hc]
      rfl
    rw [ht, hc]
    simp [row, Clause.transition, ← he]

theorem applies_row {q : State} {i : Nat} {t : Transition} {r : Word} :
    (q.row i t).applies r = true ↔ t.Fits r := by
  simp [Clause.applies, row, Transition.Fits]

/-- The clause that is looked for first is the row of the transition chosen. -/
theorem next?_eq_some_iff {q : State} {r : Word} {c : Clause} :
    q.next? r = some c ↔ ∃ i t, q.Chooses r i t ∧ c = q.row i t := by
  have hrow (j : Nat) (h : j < q.clauses.length) :
      ∃ u, q.transitions[j]? = some u ∧ q.clauses[j] = q.row j u := by
    have hj := getElem?_clauses q j
    rw [List.getElem?_eq_getElem h] at hj
    obtain ⟨u, hu, hr⟩ := Option.map_eq_some_iff.mp hj.symm
    exact ⟨u, hu, hr.symm⟩
  rw [next?, List.find?_eq_some_iff_getElem]
  constructor
  · intro h
    obtain ⟨happ, i, hi, rfl, hfirst⟩ := h
    obtain ⟨t, ht, hc⟩ := hrow i hi
    refine ⟨i, t, ⟨ht, applies_row.mp (hc ▸ happ), ?_⟩, hc⟩
    intro j u hj hu hfit
    obtain ⟨v, hv, hcv⟩ := hrow j (by omega)
    have huv : u = v := Option.some.inj (hu.symm.trans hv)
    have hno := hfirst j hj
    rw [hcv, ← huv, applies_row.mpr hfit] at hno
    cases hno
  · intro h
    obtain ⟨i, t, hch, rfl⟩ := h
    have hi : i < q.clauses.length := by
      rw [clauses, Table.length_clauses]
      exact (List.getElem?_eq_some_iff.mp hch.here).1
    refine ⟨applies_row.mpr hch.fits, i, hi, ?_, ?_⟩
    · obtain ⟨u, hu, hc⟩ := hrow i hi
      rw [hc, Option.some.inj (hu.symm.trans hch.here)]
    · intro j hj
      obtain ⟨u, hu, hc⟩ := hrow j (by omega)
      have hno := hch.first j u hj hu
      rw [hc]
      simpa using fun happ => hno (applies_row.mp happ)

theorem next?_eq_none_iff {q : State} {r : Word} :
    q.next? r = none ↔ ∀ i t, ¬ q.Chooses r i t := by
  rw [Option.eq_none_iff_forall_ne_some]
  constructor
  · intro h i t hch
    exact h _ (next?_eq_some_iff.mpr ⟨i, t, hch, rfl⟩)
  · intro h c hc
    obtain ⟨i, t, hch, -⟩ := next?_eq_some_iff.mp hc
    exact h i t hch

/-- The number of the transition chosen is looked for among the transitions, whatever they emit. -/
theorem choice?_eq (q : State) (r : Word) :
    q.choice? r = q.transitions.findIdx? fun t => !t.token.isEmpty && t.token.isPrefixOf r := by
  rw [transitions, ← Table.map_transition_clauses, List.findIdx?_map]
  rfl

theorem choice?_eq_some_iff {q : State} {r : Word} {i : Nat} :
    q.choice? r = some i ↔ ∃ t, q.Chooses r i t := by
  have hfits (t : Transition) : (!t.token.isEmpty && t.token.isPrefixOf r) = true ↔ t.Fits r := by
    simp [Transition.Fits]
  rw [choice?_eq, List.findIdx?_eq_some_iff_getElem]
  simp only [hfits]
  constructor
  · intro h
    obtain ⟨hi, hfit, hfirst⟩ := h
    refine ⟨_, List.getElem?_eq_getElem hi, hfit, ?_⟩
    intro j u hj hu
    rw [List.getElem?_eq_getElem (by omega), Option.some.injEq] at hu
    exact hu ▸ hfirst j hj
  · intro h
    obtain ⟨t, hch⟩ := h
    obtain ⟨hi, ht⟩ := List.getElem?_eq_some_iff.mp hch.here
    exact ⟨hi, ht ▸ hch.fits, fun j hj => hch.first j _ hj (List.getElem?_eq_getElem (by omega))⟩

theorem choice?_eq_none_iff {q : State} {r : Word} :
    q.choice? r = none ↔ ∀ i t, ¬ q.Chooses r i t := by
  simp only [Option.eq_none_iff_forall_ne_some, Ne, choice?_eq_some_iff, not_exists]

end State

end Transducer
