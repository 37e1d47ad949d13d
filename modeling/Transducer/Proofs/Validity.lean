import Transducer.Validity
import Transducer.Proofs.Line.Writable

/-!
What the check of a machine tells of its states. A machine none of whose states has a fault can be
written, since its targets are labels of its own; one whose first fault is an unwritable word, or an
emit column out of line, can not.
-/

namespace Transducer

/-- The fault is one of the line format: a word that cannot be written, or an emit column that does
not line up. -/
def Diagnosis.isOfLine : Diagnosis → Bool
  | .unbalanced _ => true
  | d => d.isUnwritable

theorem Diagnosis.isOfLine_of_isUnwritable {d : Diagnosis} (h : d.isUnwritable = true) :
    d.isOfLine = true := by
  cases d with
  | unbalanced => rfl
  | _ => exact h

namespace State

/-- The state has no fault in a machine with the given labels, where `started` tells whether a
start state came before it. -/
structure Sound (labels : List Word) (started : Bool) (s : State) : Prop where
  label : s.label.isLabel = true
  single : ¬ (s.isStart = true ∧ started = true)
  balanced : s.table.isBalanced = true
  moves : s.transitions ≠ []
  tokens : ∀ t ∈ s.tokens, t.isToken = true
  emits : ∀ e ∈ s.table.emits?.getD [], e.isEmit = true
  targets : ∀ t ∈ s.transitions, t.target ∈ labels

/-- What can be the fault of a state. -/
inductive Found (labels : List Word) (started : Bool) (s : State) : Diagnosis → Prop where
  | label (h : s.label.isLabel = false) : Found labels started s (.invalidLabel s.label)
  | start (h : s.isStart = true) (hs : started = true) :
      Found labels started s (.multipleStart s.label)
  | column (h : s.table.isBalanced = false) : Found labels started s (.unbalanced s.label)
  | moves (h : s.transitions = []) : Found labels started s (.noTransitions s.label)
  | token {t : Word} (h : s.badToken? = some t) : Found labels started s (.invalidToken s.label t)
  | target {t : Word} (h : s.badTarget? labels = some t) :
      Found labels started s (.unknownTarget s.label t)

theorem badToken?_eq_none_iff {s : State} : s.badToken? = none ↔
    (∀ t ∈ s.tokens, t.isToken = true) ∧ ∀ e ∈ s.table.emits?.getD [], e.isEmit = true := by
  simp [badToken?, Option.or_eq_none_iff, List.find?_eq_none]

theorem badTarget?_eq_none_iff {s : State} {labels : List Word} :
    s.badTarget? labels = none ↔ ∀ t ∈ s.transitions, t.target ∈ labels := by
  simp [badTarget?, List.find?_eq_none]

theorem fault?_eq_none_iff {s : State} {labels : List Word} {started : Bool} :
    s.fault? labels started = none ↔ s.Sound labels started := by
  unfold fault?
  constructor
  · intro h
    split at h
    · cases h
    split at h
    · cases h
    split at h
    · cases h
    split at h
    · cases h
    split at h
    · cases h
    rename_i hlabel hsingle hbalanced hmoves _ hbad
    obtain ⟨htokens, hemits⟩ := badToken?_eq_none_iff.mp hbad
    have htargets := badTarget?_eq_none_iff.mp (Option.map_eq_none_iff.mp h)
    exact ⟨by simpa using hlabel, by simpa using hsingle, by simpa using hbalanced,
      by simpa using hmoves, htokens, hemits, htargets⟩
  · intro h
    have hbad := badToken?_eq_none_iff.mpr ⟨h.tokens, h.emits⟩
    have htarget := badTarget?_eq_none_iff.mpr h.targets
    have hsingle := h.single
    have hmoves := h.moves
    rw [← Bool.and_eq_true] at hsingle
    simp [h.label, hsingle, h.balanced, hmoves, hbad, htarget]

theorem found_of_fault? {s : State} {labels : List Word} {started : Bool} {d : Diagnosis}
    (h : s.fault? labels started = some d) : s.Found labels started d := by
  unfold fault? at h
  split at h
  · rename_i hlabel
    cases h
    exact .label (by simpa using hlabel)
  split at h
  · rename_i hstart
    cases h
    rw [Bool.and_eq_true] at hstart
    exact .start hstart.1 hstart.2
  split at h
  · rename_i hbalanced
    cases h
    exact .column (by simpa using hbalanced)
  split at h
  · rename_i hmoves
    cases h
    exact .moves (List.isEmpty_iff.mp hmoves)
  split at h
  · rename_i t ht
    cases h
    exact .token ht
  · obtain ⟨t, ht, rfl⟩ := Option.map_eq_some_iff.mp h
    exact .target ht

/-- An emit column out of line with the transitions cannot be written. -/
theorem Writable.isBalanced {s : State} (h : s.Writable) : s.table.isBalanced = true := by
  cases htable : s.table with
  | plain ts => rfl
  | emitting ts es =>
    have hlen := (h.column es (by rw [htable]; rfl)).2.1
    simp only [transitions, htable, Table.transitions] at hlen
    simp [Table.isBalanced, hlen]

theorem Writable.badToken? {s : State} (h : s.Writable) : s.badToken? = none := by
  apply badToken?_eq_none_iff.mpr
  constructor
  · intro t ht
    obtain ⟨tr, htr, rfl⟩ := List.mem_map.mp ht
    exact h.tokens tr htr
  · cases hes : s.table.emits? with
    | none => nofun
    | some es => exact (h.column es hes).2.2

/-- A state that can be written has no fault of the line format. -/
theorem Found.not_writable {s : State} {labels : List Word} {started : Bool} {d : Diagnosis}
    (h : s.Found labels started d) (hd : d.isOfLine = true) : ¬ s.Writable := by
  intro hw
  cases h with
  | label hlabel =>
    rw [hw.label] at hlabel
    cases hlabel
  | column hcolumn =>
    rw [hw.isBalanced] at hcolumn
    cases hcolumn
  | token ht =>
    rw [hw.badToken?] at ht
    cases ht
  | start | moves | target => cases hd

/-- A sound state can be written, if the labels of its machine can. -/
theorem Sound.writable {s : State} {labels : List Word} {started : Bool}
    (h : s.Sound labels started) (hlabels : ∀ l ∈ labels, l.isLabel = true) : s.Writable where
  label := h.label
  targets t ht := hlabels _ (h.targets t ht)
  tokens t ht := h.tokens _ (List.mem_map_of_mem ht)
  column := by
    intro es hes
    have hemits := h.emits
    rw [hes] at hemits
    refine ⟨h.moves, ?_, hemits⟩
    have hbalanced := h.balanced
    cases htable : s.table with
    | plain ts =>
      rw [htable] at hes
      cases hes
    | emitting ts es' =>
      rw [htable] at hes hbalanced
      cases hes
      simp only [Table.isBalanced, beq_iff_eq] at hbalanced
      simp [transitions, htable, Table.transitions, hbalanced]

end State

namespace Machine

theorem firstFault?_cons (labels : List Word) (started : Bool) (s : State) (ss : List State) :
    firstFault? labels started (s :: ss) =
      (s.fault? labels started).or (firstFault? labels (started || s.isStart) ss) := by
  rw [firstFault?]
  cases s.fault? labels started <;> rfl

/-- The first fault of a list of states is the fault of one of them. -/
theorem found_of_firstFault? {labels : List Word} {started : Bool} {ss : List State}
    {d : Diagnosis} (h : firstFault? labels started ss = some d) :
    ∃ s ∈ ss, ∃ b, s.Found labels b d := by
  induction ss generalizing started with
  | nil => cases h
  | cons s ss ih =>
    rw [firstFault?_cons] at h
    rcases Option.or_eq_some_iff.mp h with h | ⟨-, h⟩
    · exact ⟨s, List.mem_cons_self, started, State.found_of_fault? h⟩
    · obtain ⟨t, ht, hfound⟩ := ih h
      exact ⟨t, List.mem_cons_of_mem s ht, hfound⟩

theorem sound_of_firstFault? {labels : List Word} {started : Bool} {ss : List State}
    (h : firstFault? labels started ss = none) : ∀ s ∈ ss, ∃ b, s.Sound labels b := by
  induction ss generalizing started with
  | nil => nofun
  | cons s ss ih =>
    rw [firstFault?_cons] at h
    obtain ⟨hs, hss⟩ := Option.or_eq_none_iff.mp h
    intro t ht
    rcases List.mem_cons.mp ht with rfl | ht
    · exact ⟨started, State.fault?_eq_none_iff.mp hs⟩
    · exact ih hss t ht

/-- A machine none of whose states has a fault can be written: every target is one of its labels. -/
theorem writable_of_firstFault? {m : Machine} (h : firstFault? m.labels false m.states = none) :
    m.Writable := by
  have hsound := sound_of_firstFault? h
  have hlabels : ∀ l ∈ m.labels, l.isLabel = true := by
    intro l hl
    obtain ⟨s, hs, rfl⟩ := List.mem_map.mp hl
    obtain ⟨b, hb⟩ := hsound s hs
    exact hb.label
  intro s hs
  obtain ⟨b, hb⟩ := hsound s hs
  exact hb.writable hlabels

/-- A check finds the fault of some state, or else no state has a fault. -/
theorem diagnose_cases (m : Machine) :
    (∃ s ∈ m.states, ∃ b, s.Found m.labels b m.diagnose) ∨
      firstFault? m.labels false m.states = none ∧
        (m.diagnose = .noStart ∨ m.diagnose = .noAccept ∨ m.diagnose = .ok) := by
  unfold diagnose
  split
  · rename_i d hd
    exact .inl (found_of_firstFault? hd)
  · rename_i hnone
    refine .inr ⟨hnone, ?_⟩
    split
    · exact .inl rfl
    split
    · exact .inr (.inl rfl)
    · exact .inr (.inr rfl)

/-- No state of a machine that passes its check has a fault. -/
theorem firstFault?_of_diagnose_ok {m : Machine} (h : m.diagnose = .ok) :
    firstFault? m.labels false m.states = none := by
  rcases m.diagnose_cases with ⟨s, -, b, hfound⟩ | ⟨hnone, -⟩
  · rw [h] at hfound
    cases hfound
  · exact hnone

theorem writable_of_diagnose_ok {m : Machine} (h : m.diagnose = .ok) : m.Writable :=
  writable_of_firstFault? (firstFault?_of_diagnose_ok h)

/-- The check of a machine that can be written finds no fault of the line format. -/
theorem Writable.isOfLine {m : Machine} (h : m.Writable) : m.diagnose.isOfLine = false := by
  rcases m.diagnose_cases with ⟨s, hs, b, hfound⟩ | ⟨-, hd⟩
  · rw [← Bool.not_eq_true]
    exact fun hline => hfound.not_writable hline (h s hs)
  · rcases hd with hd | hd | hd <;> rw [hd] <;> rfl

/-- A machine whose first fault is a word that cannot be written cannot be written. -/
theorem not_writable_of_isUnwritable {m : Machine} (h : m.diagnose.isUnwritable = true) :
    ¬ m.Writable := by
  intro hw
  have hline := hw.isOfLine
  rw [Diagnosis.isOfLine_of_isUnwritable h] at hline
  cases hline

end Machine

end Transducer
