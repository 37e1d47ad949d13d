/-!
The first member of a list that has a property.
-/

namespace Transducer

variable {α β : Type}

/-- The member has the property and none in front of it does. -/
def First (p : α → Prop) (l : List α) (a : α) : Prop :=
  ∃ before after, l = before ++ a :: after ∧ p a ∧ ∀ b ∈ before, ¬ p b

theorem find?_eq_some_iff_first {p : α → Bool} {q : α → Prop} (h : ∀ a, p a = true ↔ q a)
    {l : List α} {a : α} : l.find? p = some a ↔ First q l a := by
  rw [List.find?_eq_some_iff_append]
  constructor
  · intro hf
    obtain ⟨ha, before, after, hl, hb⟩ := hf
    refine ⟨before, after, hl, (h a).mp ha, ?_⟩
    intro b hb' hq
    have hno := hb b hb'
    rw [(h b).mpr hq] at hno
    cases hno
  · intro hf
    obtain ⟨before, after, hl, ha, hb⟩ := hf
    refine ⟨(h a).mpr ha, before, after, hl, ?_⟩
    intro b hb'
    rw [Bool.not_eq_true', Bool.eq_false_iff]
    exact fun hp => hb b hb' ((h b).mp hp)

/-- Where a function answers exactly on the members with the property, the first answer is that of
the first of them. -/
theorem findSome?_eq_some_iff_first {f : α → Option β} {q : α → Prop}
    (h : ∀ a, f a = none ↔ ¬ q a) {l : List α} {b : β} :
    l.findSome? f = some b ↔ ∃ a, First q l a ∧ f a = some b := by
  rw [List.findSome?_eq_some_iff]
  constructor
  · intro hf
    obtain ⟨before, a, after, hl, ha, hb⟩ := hf
    have hq : q a := by
      rw [← Classical.not_not (a := q a), ← h a, ha]
      exact Option.some_ne_none b
    exact ⟨a, ⟨before, after, hl, hq, fun c hc => (h c).mp (hb c hc)⟩, ha⟩
  · intro hf
    obtain ⟨a, ⟨before, after, hl, -, hb⟩, ha⟩ := hf
    exact ⟨before, a, after, hl, ha, fun c hc => (h c).mpr (hb c hc)⟩

theorem First.prop {p : α → Prop} {l : List α} {a : α} (h : First p l a) : p a := by
  obtain ⟨-, -, -, ha, -⟩ := h
  exact ha

end Transducer
