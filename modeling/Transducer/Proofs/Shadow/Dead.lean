import Mathlib.Data.List.Forall2
import Transducer.Proofs.Choice
import Transducer.Proofs.First
import Transducer.Proofs.Shadow

/-!
Transitions that are never taken. A transition with a token is reported exactly if no input makes
the state choose it. If it is not reported, its own token does; if it is, any input that begins with
its token begins with an earlier one.
-/

namespace Transducer

/-- The report tells of the transition at the index: its token, and the first of the earlier tokens
that begins it. -/
structure Shadow.Tells (x : Shadow) (s : State) (index : Nat) : Prop where
  state : x.state = s.label
  token : s.tokens[index]? = some x.token
  shadowedBy : First (fun u => u ≠ [] ∧ u <+: x.token) (s.tokens.take index) x.shadowedBy

namespace State

/-- The transition at the index has a token, but there is no input on which it is chosen. -/
def Dead (s : State) (index : Nat) : Prop :=
  ∃ t, s.transitions[index]? = some t ∧ t.token ≠ [] ∧ ∀ input, s.choice? input ≠ some index

variable {α β : Type} {s : State} {i : Nat} {t : Transition} {r e u : Word} {earlier : List Word}

theorem getElem?_tokens (s : State) (i : Nat) :
    s.tokens[i]? = s.transitions[i]?.map Transition.token := List.getElem?_map

theorem shadowOf?_eq_some_iff : shadowOf? earlier u = some e ↔
    u ≠ [] ∧ First (fun v => v ≠ [] ∧ v <+: u) earlier e := by
  have hbegins (v : Word) : (!v.isEmpty && v.isPrefixOf u) = true ↔ v ≠ [] ∧ v <+: u := by simp
  unfold shadowOf?
  split
  · rename_i hu
    simp [List.isEmpty_iff.mp hu]
  · rename_i hu
    rw [find?_eq_some_iff_first hbegins]
    simp [List.isEmpty_iff.not.mp hu]

/-- What is chosen lies in no shadow: what hides it would fit as well, and comes first. -/
theorem isShadowed_of_chooses (h : s.Chooses r i t) : s.isShadowed i = false := by
  rw [← Bool.not_eq_true, isShadowed_iff]
  intro hshadow
  obtain ⟨v, hv, j, hj, u, hu, hne, -, hbegins⟩ := hshadow
  rw [getElem?_tokens, h.here, Option.map_some, Option.some.injEq] at hv
  rw [getElem?_tokens] at hu
  obtain ⟨t', ht', rfl⟩ := Option.map_eq_some_iff.mp hu
  subst hv
  exact h.first j t' hj ht' ⟨hne, hbegins.trans h.fits.2⟩

/-- Outside all shadows, a transition is chosen on its own token. -/
theorem chooses_token (ht : s.transitions[i]? = some t) (hne : t.token ≠ [])
    (h : s.isShadowed i = false) : s.Chooses t.token i t := by
  refine ⟨ht, ⟨hne, List.prefix_refl _⟩, ?_⟩
  intro j v hj hv hfits
  have hhere : s.tokens[i]? = some t.token := by rw [getElem?_tokens, ht, Option.map_some]
  have hearlier : s.tokens[j]? = some v.token := by rw [getElem?_tokens, hv, Option.map_some]
  have hshadow := isShadowed_iff.mpr ⟨_, hhere, j, hj, _, hearlier, hfits.1, hne, hfits.2⟩
  rw [h] at hshadow
  cases hshadow

theorem dead_iff : s.Dead i ↔ s.isShadowed i = true := by
  constructor
  · intro hdead
    obtain ⟨t, ht, hne, hnever⟩ := hdead
    rw [← Bool.not_eq_false]
    intro hlit
    exact hnever t.token (choice?_eq_some_iff.mpr ⟨t, chooses_token ht hne hlit⟩)
  · intro hshadow
    obtain ⟨v, hv, -, -, -, -, -, hne, -⟩ := isShadowed_iff.mp hshadow
    rw [getElem?_tokens] at hv
    obtain ⟨t, ht, rfl⟩ := Option.map_eq_some_iff.mp hv
    refine ⟨t, ht, hne, ?_⟩
    intro input hchosen
    obtain ⟨t', hch⟩ := choice?_eq_some_iff.mp hchosen
    rw [isShadowed_of_chooses hch] at hshadow
    cases hshadow

/-- The members on which a function answers stand beside its answers. -/
theorem forall₂_filterMap {R : α → β → Prop} {f : α → Option β} {l : List α}
    (h : ∀ a ∈ l, ∀ b, f a = some b → R a b) :
    List.Forall₂ R (l.filter (f · |>.isSome)) (l.filterMap f) := by
  induction l with
  | nil => exact .nil
  | cons a l ih =>
    obtain ⟨ha, hl⟩ := List.forall_mem_cons.mp h
    cases hf : f a with
    | none => simpa [hf] using ih hl
    | some b => simpa [hf] using ⟨ha b hf, ih hl⟩

/-- The numbers of the transitions that lie in a shadow, in order. -/
def shadowed (s : State) : List Nat := (List.range s.tokens.length).filter s.isShadowed

theorem mem_shadowed_iff : i ∈ s.shadowed ↔ s.Dead i := by
  rw [shadowed, List.mem_filter, List.mem_range, dead_iff, and_iff_right_iff_imp]
  intro hshadow
  obtain ⟨u, hu, -⟩ := isShadowed_iff.mp hshadow
  exact (List.getElem?_eq_some_iff.mp hu).1

theorem pairwise_shadowed (s : State) : s.shadowed.Pairwise (· < ·) :=
  List.pairwise_lt_range.filter _

/-- The reports of a state, one beside each of the transitions that lie in a shadow. -/
theorem tells_shadows (s : State) :
    List.Forall₂ (fun i x => x.Tells s i) s.shadowed s.shadows := by
  have hplaces : s.shadowed = (s.tokens.zipIdx.filter fun p =>
      ((shadowOf? (s.tokens.take p.2) p.1).map fun e => Shadow.mk s.label p.1 e).isSome).map
        Prod.snd := by
    rw [shadowed, List.range_eq_range', ← List.zipIdx_map_snd, List.filter_map]
    congr 1
    apply List.filter_congr
    intro p hp
    have hi : s.tokens[p.2]? = some p.1 := List.mk_mem_zipIdx_iff_getElem?.mp hp
    simp [isShadowed, hi]
  rw [hplaces, shadows_eq, List.forall₂_map_left_iff]
  apply forall₂_filterMap
  intro p hp x hx
  obtain ⟨e, he, rfl⟩ := Option.map_eq_some_iff.mp hx
  exact ⟨rfl, List.mk_mem_zipIdx_iff_getElem?.mp hp, (shadowOf?_eq_some_iff.mp he).2⟩

end State

namespace Machine

variable {m : Machine} {s : State}

/-- As no two states have one label, the reports that name a state are its own. -/
theorem filter_shadows (hs : s ∈ m.states) :
    m.shadows.filter (·.state == s.label) = s.shadows := by
  have hnamed (t : State) : ∀ x ∈ t.shadows, x.state = t.label := by
    intro x hx
    obtain ⟨p, -, rfl⟩ := List.mem_map.mp hx
    rfl
  have hown : s.shadows.filter (·.state == s.label) = s.shadows :=
    List.filter_eq_self.mpr fun x hx => by simp [hnamed s x hx]
  have hothers {ts : List State} (hne : ∀ t ∈ ts, t.label ≠ s.label) :
      (ts.flatMap State.shadows).filter (·.state == s.label) = [] := by
    rw [List.filter_eq_nil_iff]
    intro x hx
    obtain ⟨t, ht, hxt⟩ := List.mem_flatMap.mp hx
    simpa [hnamed t x hxt] using hne t ht
  obtain ⟨before, after, hm⟩ := List.append_of_mem hs
  have hd := m.distinct
  rw [hm] at hd
  have hne : ∀ t ∈ before ++ after, t.label ≠ s.label := by
    intro t ht
    rw [← filter_label_of_distinct hd] at ht
    simpa using (List.mem_filter.mp ht).2
  obtain ⟨hbefore, hafter⟩ := List.forall_mem_append.mp hne
  rw [shadows, hm, List.flatMap_append, List.flatMap_cons, List.filter_append, List.filter_append,
    hothers hbefore, hothers hafter, hown, List.nil_append, List.append_nil]

/-- What is reported is exact. The reports that name a state of the machine stand, in the order of
its transitions, for those with a token which the state chooses on no input, one for each and none
for any other. Each tells the token of its transition and the first of the earlier tokens, not
empty, that begins it. Any other transition with a token is chosen on that token. -/
theorem reports_are_exact (hs : s ∈ m.states) : ∃ indices : List Nat,
    indices.Pairwise (· < ·) ∧
    (∀ i, i ∈ indices ↔ s.Dead i) ∧
    List.Forall₂ (fun i x => x.Tells s i) indices (m.shadows.filter (·.state == s.label)) ∧
    ∀ i t, s.transitions[i]? = some t → t.token ≠ [] → i ∉ indices →
      s.choice? t.token = some i := by
  refine ⟨s.shadowed, s.pairwise_shadowed, fun i => State.mem_shadowed_iff, ?_, ?_⟩
  · rw [filter_shadows hs]
    exact s.tells_shadows
  · intro i t ht hne hi
    rw [State.mem_shadowed_iff, State.dead_iff, Bool.not_eq_true] at hi
    exact State.choice?_eq_some_iff.mpr ⟨t, State.chooses_token ht hne hi⟩

/-- The first state has an empty token, a token twice, and one that begins with two others. -/
def briar : Machine where
  states := [
    ⟨['A'], .start, .plain [⟨[], ['A']⟩, ⟨['b'], ['B']⟩, ⟨['a', 'b'], ['A']⟩, ⟨['b'], ['A']⟩,
      ⟨['a'], ['B']⟩, ⟨['a', 'b', 'c'], ['A']⟩]⟩,
    ⟨['B'], .accept, .plain [⟨['a'], ['A']⟩, ⟨['a', 'c'], ['B']⟩]⟩]
  distinct := by decide

theorem briar_reported : ∃ s ∈ briar.states, ∃ indices : List Nat,
    (∀ i, i ∈ indices ↔ s.Dead i) ∧ List.Forall₂ (fun i (x : Shadow) => x.Tells s i) indices
      [⟨['A'], ['b'], ['b']⟩, ⟨['A'], ['a', 'b', 'c'], ['a', 'b']⟩] := by
  have hs : briar.states[0] ∈ briar.states := List.getElem_mem _
  obtain ⟨indices, -, hdead, htells, -⟩ := reports_are_exact hs
  have hreports : briar.shadows.filter (·.state == briar.states[0].label) =
      [⟨['A'], ['b'], ['b']⟩, ⟨['A'], ['a', 'b', 'c'], ['a', 'b']⟩] := by decide
  rw [hreports] at htells
  exact ⟨_, hs, indices, hdead, htells⟩

end Machine

end Transducer
