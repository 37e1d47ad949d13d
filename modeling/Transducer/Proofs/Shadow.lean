import Mathlib.Data.List.Basic
import Transducer.Shadow

/-!
Which transitions are reported as shadowed, told by their place in the table. A transition is
reported exactly if its token is not empty and begins with an earlier token that is not empty
either, so a table without reports is one whose tokens never begin with an earlier one.
-/

namespace Transducer

/-- The earlier token hides the later one, as whatever begins with the later begins with it. -/
def Hides (earlier token : Word) : Prop := earlier ≠ [] ∧ token ≠ [] ∧ earlier <+: token

namespace State

variable {s : State} {earlier tokens : List Word} {t : Word} {i : Nat}

theorem shadowOf?_isSome_iff :
    (shadowOf? earlier t).isSome = true ↔ ∃ u ∈ earlier, Hides u t := by
  unfold shadowOf? Hides
  split
  · rename_i ht
    simp [List.isEmpty_iff.mp ht]
  · rename_i ht
    have hne : t ≠ [] := fun he => ht (List.isEmpty_iff.mpr he)
    simp [hne]

/-- The transition at the index is reported: its token lies in the shadow of an earlier one. -/
def isShadowed (s : State) (i : Nat) : Bool :=
  s.tokens[i]?.any fun t => (shadowOf? (s.tokens.take i) t).isSome

theorem isShadowed_iff : s.isShadowed i = true ↔
    ∃ t, s.tokens[i]? = some t ∧ ∃ j < i, ∃ u, s.tokens[j]? = some u ∧ Hides u t := by
  have hearlier (t : Word) : (∃ u ∈ s.tokens.take i, Hides u t) ↔
      ∃ j < i, ∃ u, s.tokens[j]? = some u ∧ Hides u t := by
    constructor
    · intro h
      obtain ⟨u, hu, hhides⟩ := h
      obtain ⟨j, hj⟩ := List.getElem?_of_mem hu
      rw [List.getElem?_take] at hj
      split at hj
      · exact ⟨j, ‹j < i›, u, hj, hhides⟩
      · cases hj
    · intro h
      obtain ⟨j, hj, u, hu, hhides⟩ := h
      exact ⟨u, List.mem_of_getElem? ((List.getElem?_take_of_lt hj).trans hu), hhides⟩
  rw [isShadowed, Option.any_eq_true]
  simp only [shadowOf?_isSome_iff, hearlier]

/-- What is found to lie in a shadow is looked up, in order, in front of each place. -/
theorem shadowsAfter_eq (earlier tokens : List Word) :
    shadowsAfter earlier tokens = (tokens.zipIdx earlier.length).filterMap fun (t, i) =>
      (shadowOf? ((earlier ++ tokens).take i) t).map (t, ·) := by
  induction tokens generalizing earlier with
  | nil => rfl
  | cons t ts ih =>
    have hrest := ih (earlier ++ [t])
    rw [List.length_append, List.append_assoc] at hrest
    rw [shadowsAfter, hrest, List.zipIdx_cons, List.filterMap_cons]
    simp only [List.take_left]
    cases shadowOf? earlier t <;> rfl

/-- The reports of a state, one for each transition that lies in a shadow. -/
theorem shadows_eq (s : State) : s.shadows = s.tokens.zipIdx.filterMap fun (t, i) =>
    (shadowOf? (s.tokens.take i) t).map fun e => ⟨s.label, t, e⟩ := by
  rw [shadows, shadowsAfter_eq, List.map_filterMap]
  congr 1
  funext ⟨t, i⟩
  simp [Function.comp_def]

/-- The tokens reported are those of the transitions that lie in a shadow. -/
theorem map_token_shadows (s : State) :
    s.shadows.map Shadow.token = (s.tokens.zipIdx.filter (s.isShadowed ·.2)).map Prod.fst := by
  rw [shadows_eq, List.map_filterMap, ← List.filterMap_eq_map, List.filterMap_filter]
  apply List.filterMap_congr
  intro ⟨t, i⟩ ht
  have hi : s.tokens[i]? = some t := List.mk_mem_zipIdx_iff_getElem?.mp ht
  cases hshadow : shadowOf? (s.tokens.take i) t <;> simp [isShadowed, hi, hshadow]

/-- A state has no reports exactly if none of its tokens hides a later one. -/
theorem shadows_eq_nil_iff : s.shadows = [] ↔ s.tokens.Pairwise (¬ Hides · ·) := by
  have hreports : s.shadows = [] ↔ ∀ i, ¬ s.isShadowed i = true := by
    rw [← List.map_eq_nil_iff (f := Shadow.token), map_token_shadows, List.map_eq_nil_iff,
      List.filter_eq_nil_iff]
    constructor
    · intro h i hi
      obtain ⟨t, ht, -⟩ := isShadowed_iff.mp hi
      exact h _ (List.mk_mem_zipIdx_iff_getElem?.mpr ht) hi
    · intro h a _
      exact h a.2
  rw [hreports, List.pairwise_iff_getElem]
  constructor
  · intro h i j hi hj hij hhides
    exact h j (isShadowed_iff.mpr ⟨_, List.getElem?_eq_getElem hj, i, hij, _,
      List.getElem?_eq_getElem hi, hhides⟩)
  · intro h i hi
    obtain ⟨t, ht, j, hji, u, hu, hhides⟩ := isShadowed_iff.mp hi
    obtain ⟨hil, rfl⟩ := List.getElem?_eq_some_iff.mp ht
    obtain ⟨hjl, rfl⟩ := List.getElem?_eq_some_iff.mp hu
    exact h j i hjl hil hji hhides

end State

end Transducer
