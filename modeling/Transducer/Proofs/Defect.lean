import Transducer.Proofs.First
import Transducer.Proofs.Sameness
import Transducer.Proofs.Validity

/-!
Which fault a check reports. A state can have several defects, in an order of their own, and a
machine several states with defects. What is reported is the first defect of the first such state;
only a machine without any is asked for a start and an accepting state.
-/

namespace Transducer

/-- The ways in which a state can be at fault. -/
inductive Defect where
  | label
  | start
  | column
  | moves
  | word
  | target
  deriving DecidableEq, Repr

/-- Of the defects of a state the first in this order is reported. -/
def Defect.inOrder : List Defect := [.label, .start, .column, .moves, .word, .target]

namespace State

variable {labels : List Word} {before : List State} {s : State} {k : Defect} {d : Diagnosis}

/-- The state has the defect in a machine with the given labels, where other states come before. -/
def HasDefect (labels : List Word) (before : List State) (s : State) : Defect → Prop
  | .label => s.label.isLabel = false
  | .start => s.role = .start ∧ ∃ t ∈ before, t.role = .start
  | .column => ∃ ts es, s.table = .emitting ts es ∧ ts.length ≠ es.length
  | .moves => s.transitions = []
  | .word => (∃ t ∈ s.tokens, t.isToken = false) ∨ ∃ e ∈ s.table.emits?.getD [], e.isEmit = false
  | .target => ∃ t ∈ s.transitions, t.target ∉ labels

/-- How a defect of the state is reported: with the label of the state, and with the first token or
target that is to blame. An emit token is blamed only if all match tokens are good. -/
inductive Reported (labels : List Word) (s : State) : Defect → Diagnosis → Prop
  | label : Reported labels s .label (.invalidLabel s.label)
  | start : Reported labels s .start (.multipleStart s.label)
  | column : Reported labels s .column (.unbalanced s.label)
  | moves : Reported labels s .moves (.noTransitions s.label)
  | token {t : Word} (h : First (·.isToken = false) s.tokens t) :
    Reported labels s .word (.invalidToken s.label t)
  | emit {e : Word} (ht : ∀ t ∈ s.tokens, t.isToken = true)
    (h : First (·.isEmit = false) (s.table.emits?.getD []) e) :
    Reported labels s .word (.invalidToken s.label e)
  | target {t : Word} (h : First (· ∉ labels) (s.transitions.map Transition.target) t) :
    Reported labels s .target (.unknownTarget s.label t)

/-- Only a second start state is made a defect by the states before it. -/
theorem hasDefect_nil_iff :
    s.HasDefect labels [] k ↔ k ≠ .start ∧ s.HasDefect labels before k := by
  cases k <;> simp [HasDefect]

theorem hasDefect_congr {labels' : List Word} (h : ∀ l, l ∈ labels ↔ l ∈ labels') :
    s.HasDefect labels before k ↔ s.HasDefect labels' before k := by
  cases k <;> simp [HasDefect, h]

/-- What a check that looks for one defect alone says of the state. -/
def report? (labels : List Word) (started : Bool) (s : State) : Defect → Option Diagnosis
  | .label => if s.label.isLabel then none else some (.invalidLabel s.label)
  | .start => if s.isStart && started then some (.multipleStart s.label) else none
  | .column => if s.table.isBalanced then none else some (.unbalanced s.label)
  | .moves => if s.transitions.isEmpty then some (.noTransitions s.label) else none
  | .word => s.badToken?.map (.invalidToken s.label)
  | .target => (s.badTarget? labels).map (.unknownTarget s.label)

theorem fault?_eq_findSome? (labels : List Word) (started : Bool) (s : State) :
    s.fault? labels started = Defect.inOrder.findSome? (s.report? labels started) := by
  simp only [fault?, Defect.inOrder, List.findSome?, report?]
  cases s.label.isLabel with
  | false => rfl
  | true =>
  cases s.isStart && started with
  | true => rfl
  | false =>
  cases s.table.isBalanced with
  | false => rfl
  | true =>
  cases s.transitions.isEmpty with
  | true => rfl
  | false => cases s.badToken? <;> cases s.badTarget? labels <;> rfl

theorem isBalanced_eq_false_iff {t : Table} :
    t.isBalanced = false ↔ ∃ ts es, t = .emitting ts es ∧ ts.length ≠ es.length := by
  cases t with
  | plain ts => simp [Table.isBalanced]
  | emitting ts es =>
    simp only [Table.isBalanced, beq_eq_false_iff_ne, Table.emitting.injEq]
    constructor
    · intro h
      exact ⟨ts, es, ⟨rfl, rfl⟩, h⟩
    · intro h
      obtain ⟨_, _, ⟨rfl, rfl⟩, h⟩ := h
      exact h

theorem isStart_iff : s.isStart = true ↔ s.role = .start := by
  simp [isStart]

theorem any_isStart_iff : before.any isStart = true ↔ ∃ t ∈ before, t.role = .start := by
  simp [isStart]

/-- The first match token that cannot be written, or else the first such emit token. -/
theorem badToken?_eq_some_iff {w : Word} : s.badToken? = some w ↔
    First (·.isToken = false) s.tokens w ∨
      (∀ t ∈ s.tokens, t.isToken = true) ∧
        First (·.isEmit = false) (s.table.emits?.getD []) w := by
  unfold badToken?
  rw [Option.orElse_eq_orElse, Option.orElse_eq_or, Option.or_eq_some_iff,
    find?_eq_some_iff_first (q := (·.isToken = false)) (by simp),
    find?_eq_some_iff_first (q := (·.isEmit = false)) (by simp)]
  simp [List.find?_eq_none]

theorem badTarget?_eq_some_iff {w : Word} :
    s.badTarget? labels = some w ↔ First (· ∉ labels) (s.transitions.map Transition.target) w :=
  find?_eq_some_iff_first (by simp)

theorem report?_eq_none_iff :
    s.report? labels (before.any isStart) k = none ↔ ¬ s.HasDefect labels before k := by
  cases k with
  | label => simp [report?, HasDefect]
  | start => simp [report?, HasDefect, isStart]
  | column => simp [report?, HasDefect, ← isBalanced_eq_false_iff]
  | moves => simp [report?, HasDefect]
  | word => simp [report?, HasDefect, badToken?_eq_none_iff]
  | target => simp [report?, HasDefect, badTarget?_eq_none_iff]

theorem reported_of_report? {started : Bool} (h : s.report? labels started k = some d) :
    s.Reported labels k d := by
  cases k with
  | label =>
    simp only [report?, Option.ite_none_left_eq_some, Option.some.injEq] at h
    exact h.2 ▸ .label
  | start =>
    simp only [report?, Option.ite_none_right_eq_some, Option.some.injEq] at h
    exact h.2 ▸ .start
  | column =>
    simp only [report?, Option.ite_none_left_eq_some, Option.some.injEq] at h
    exact h.2 ▸ .column
  | moves =>
    simp only [report?, Option.ite_none_right_eq_some, Option.some.injEq] at h
    exact h.2 ▸ .moves
  | word =>
    obtain ⟨w, hw, rfl⟩ := Option.map_eq_some_iff.mp h
    rcases badToken?_eq_some_iff.mp hw with hw | ⟨ht, hw⟩
    · exact .token hw
    · exact .emit ht hw
  | target =>
    obtain ⟨w, hw, rfl⟩ := Option.map_eq_some_iff.mp h
    exact .target (badTarget?_eq_some_iff.mp hw)

theorem report?_of_reported (hk : s.HasDefect labels before k) (h : s.Reported labels k d) :
    s.report? labels (before.any isStart) k = some d := by
  cases h with
  | label =>
    have hlabel : s.label.isLabel = false := hk
    simp [report?, hlabel]
  | start =>
    obtain ⟨hs, hbefore⟩ := hk
    simp [report?, isStart_iff.mpr hs, any_isStart_iff.mpr hbefore]
  | column => simp [report?, isBalanced_eq_false_iff.mpr hk]
  | moves =>
    have hmoves : s.transitions = [] := hk
    simp [report?, hmoves]
  | token h => exact Option.map_eq_some_iff.mpr ⟨_, badToken?_eq_some_iff.mpr (.inl h), rfl⟩
  | emit ht h =>
    exact Option.map_eq_some_iff.mpr ⟨_, badToken?_eq_some_iff.mpr (.inr ⟨ht, h⟩), rfl⟩
  | target h => exact Option.map_eq_some_iff.mpr ⟨_, badTarget?_eq_some_iff.mpr h, rfl⟩

/-- The fault of a state is its first defect, as it is reported. -/
theorem fault?_eq_some_iff : s.fault? labels (before.any isStart) = some d ↔
    ∃ k, First (s.HasDefect labels before) Defect.inOrder k ∧ s.Reported labels k d := by
  rw [fault?_eq_findSome?, findSome?_eq_some_iff_first fun k => report?_eq_none_iff]
  constructor
  · intro h
    obtain ⟨k, hk, hd⟩ := h
    exact ⟨k, hk, reported_of_report? hd⟩
  · intro h
    obtain ⟨k, hk, hd⟩ := h
    exact ⟨k, hk, report?_of_reported hk.prop hd⟩

theorem fault?_eq_none_iff_no_defect :
    s.fault? labels (before.any isStart) = none ↔ ∀ k, ¬ s.HasDefect labels before k := by
  rw [fault?_eq_findSome?, List.findSome?_eq_none_iff]
  constructor
  · intro h k
    exact report?_eq_none_iff.mp (h k (by cases k <;> decide))
  · intro h k _
    exact report?_eq_none_iff.mpr (h k)

end State

namespace Machine

variable {m : Machine} {d : Diagnosis}

/-- The fault of the state at an index, where other states come before them all. -/
def faultAt? (labels : List Word) (earlier ss : List State) (i : Nat) : Option Diagnosis :=
  ss[i]?.bind (State.fault? labels ((earlier ++ ss.take i).any State.isStart))

theorem faultAt?_zero (labels : List Word) (earlier : List State) (s : State) (ss : List State) :
    faultAt? labels earlier (s :: ss) 0 = s.fault? labels (earlier.any State.isStart) := by
  simp [faultAt?]

theorem faultAt?_succ (labels : List Word) (earlier : List State) (s : State) (ss : List State)
    (i : Nat) : faultAt? labels earlier (s :: ss) (i + 1) =
      faultAt? labels (earlier ++ [s]) ss i := by
  simp [faultAt?]

theorem firstFault?_step (labels : List Word) (earlier : List State) (s : State)
    (ss : List State) : firstFault? labels (earlier.any State.isStart) (s :: ss) =
      (s.fault? labels (earlier.any State.isStart)).or
        (firstFault? labels ((earlier ++ [s]).any State.isStart) ss) := by
  rw [firstFault?_cons, List.any_append]
  simp

theorem firstFault?_eq_none_iff (labels : List Word) (earlier ss : List State) :
    firstFault? labels (earlier.any State.isStart) ss = none ↔
      ∀ i, faultAt? labels earlier ss i = none := by
  induction ss generalizing earlier with
  | nil => simp [firstFault?, faultAt?]
  | cons s ss ih =>
    rw [firstFault?_step, Option.or_eq_none_iff, ih]
    constructor
    · intro h i
      cases i with
      | zero => exact (faultAt?_zero ..).trans h.1
      | succ i => exact (faultAt?_succ ..).trans (h.2 i)
    · intro h
      refine ⟨(faultAt?_zero ..).symm.trans (h 0), ?_⟩
      intro i
      exact (faultAt?_succ ..).symm.trans (h (i + 1))

/-- The first fault is that of a state, and no state in front of it has one. -/
theorem firstFault?_eq_some_iff (labels : List Word) (earlier ss : List State) :
    firstFault? labels (earlier.any State.isStart) ss = some d ↔
      ∃ i, faultAt? labels earlier ss i = some d ∧
        ∀ j < i, faultAt? labels earlier ss j = none := by
  induction ss generalizing earlier with
  | nil => simp [firstFault?, faultAt?]
  | cons s ss ih =>
    rw [firstFault?_step, Option.or_eq_some_iff, ih]
    constructor
    · intro h
      rcases h with h | ⟨hs, i, hi, hbefore⟩
      · exact ⟨0, (faultAt?_zero ..).trans h, fun j hj => absurd hj j.not_lt_zero⟩
      · refine ⟨i + 1, (faultAt?_succ ..).trans hi, ?_⟩
        intro j hj
        cases j with
        | zero => exact (faultAt?_zero ..).trans hs
        | succ j => exact (faultAt?_succ ..).trans (hbefore j (by omega))
    · intro h
      obtain ⟨i, hi, hbefore⟩ := h
      cases i with
      | zero => exact .inl ((faultAt?_zero ..).symm.trans hi)
      | succ i =>
        have hs := hbefore 0 (by omega)
        refine .inr ⟨(faultAt?_zero ..).symm.trans hs, i, (faultAt?_succ ..).symm.trans hi, ?_⟩
        intro j hj
        exact (faultAt?_succ ..).symm.trans (hbefore (j + 1) (by omega))

/-- The state at the index has the defect. -/
def Defective (m : Machine) (i : Nat) (k : Defect) : Prop :=
  ∃ s, m.states[i]? = some s ∧ s.HasDefect m.labels (m.states.take i) k

theorem faultAt?_states_eq_none_iff {i : Nat} :
    faultAt? m.labels [] m.states i = none ↔ ∀ k, ¬ m.Defective i k := by
  unfold faultAt? Defective
  cases hs : m.states[i]? with
  | none => simp
  | some s => simp [State.fault?_eq_none_iff_no_defect]

/-- What a check has to say of a machine. -/
inductive Verdict (m : Machine) : Diagnosis → Prop
  | defect {i : Nat} {s : State} {k : Defect} {d : Diagnosis} (hs : m.states[i]? = some s)
    (hbefore : ∀ j < i, ∀ k, ¬ m.Defective j k)
    (hk : First (s.HasDefect m.labels (m.states.take i)) Defect.inOrder k)
    (hd : s.Reported m.labels k d) : Verdict m d
  | noStart (hm : ∀ i k, ¬ m.Defective i k) (hstart : ∀ q ∈ m.states, q.role ≠ .start) :
    Verdict m .noStart
  | noAccept (hm : ∀ i k, ¬ m.Defective i k) (hstart : ∃ q ∈ m.states, q.role = .start)
    (haccept : ∀ q ∈ m.states, q.role ≠ .accept) : Verdict m .noAccept
  | ok (hm : ∀ i k, ¬ m.Defective i k) (hstart : ∃ q ∈ m.states, q.role = .start)
    (haccept : ∃ q ∈ m.states, q.role = .accept) : Verdict m .ok

theorem firstFault?_states_eq_none_iff :
    firstFault? m.labels false m.states = none ↔ ∀ i k, ¬ m.Defective i k := by
  have h := firstFault?_eq_none_iff m.labels [] m.states
  simp only [faultAt?_states_eq_none_iff] at h
  exact h

theorem firstFault?_states_eq_some_iff : firstFault? m.labels false m.states = some d ↔
    ∃ i, faultAt? m.labels [] m.states i = some d ∧ ∀ j < i, ∀ k, ¬ m.Defective j k := by
  have h := firstFault?_eq_some_iff (d := d) m.labels [] m.states
  simp only [faultAt?_states_eq_none_iff] at h
  exact h

/-- A check says what it has to say. -/
theorem verdict_diagnose (m : Machine) : m.Verdict m.diagnose := by
  unfold diagnose
  split
  · rename_i d hd
    obtain ⟨i, hi, hbefore⟩ := firstFault?_states_eq_some_iff.mp hd
    obtain ⟨s, hs, hfault⟩ := Option.bind_eq_some_iff.mp hi
    obtain ⟨k, hk, hd⟩ := State.fault?_eq_some_iff.mp hfault
    exact .defect hs hbefore hk hd
  rename_i hnone
  have hm := firstFault?_states_eq_none_iff.mp hnone
  split
  · rename_i hstart
    exact .noStart hm (by simpa [State.isStart] using hstart)
  rename_i hstart
  simp only [Bool.not_eq_true', Bool.not_eq_false, State.any_isStart_iff] at hstart
  split
  · rename_i haccept
    exact .noAccept hm hstart (by simpa [State.isAccept] using haccept)
  · rename_i haccept
    exact .ok hm hstart (by simpa [State.isAccept] using haccept)

/-- There is nothing else that it could say. -/
theorem Verdict.eq_diagnose (h : m.Verdict d) : m.diagnose = d := by
  unfold diagnose
  cases h with
  | defect hs hbefore hk hd =>
    have hfault := State.fault?_eq_some_iff.mpr ⟨_, hk, hd⟩
    have hfirst : firstFault? m.labels false m.states = some d :=
      firstFault?_states_eq_some_iff.mpr ⟨_, Option.bind_eq_some_iff.mpr ⟨_, hs, hfault⟩, hbefore⟩
    rw [hfirst]
  | noStart hm hstart =>
    have hany : m.states.any State.isStart = false := by simpa [State.isStart] using hstart
    simp [firstFault?_states_eq_none_iff.mpr hm, hany]
  | noAccept hm hstart haccept =>
    have hany : m.states.any State.isAccept = false := by simpa [State.isAccept] using haccept
    simp [firstFault?_states_eq_none_iff.mpr hm, State.any_isStart_iff.mpr hstart, hany]
  | ok hm hstart haccept =>
    have hany : m.states.any State.isAccept = true := by simpa [State.isAccept] using haccept
    simp [firstFault?_states_eq_none_iff.mpr hm, State.any_isStart_iff.mpr hstart, hany]

/-- At most one state of the machine is a start state. -/
def SingleStart (m : Machine) : Prop :=
  ∀ p ∈ m.states, ∀ q ∈ m.states, p.role = .start → q.role = .start → p = q

theorem singleStart_of_no_defect (h : ∀ i k, ¬ m.Defective i k) : m.SingleStart := by
  -- the later of two start states would have a defect
  have hlater (i j : Nat) (p q : State) (hp : m.states[i]? = some p) (hq : m.states[j]? = some q)
      (hps : p.role = .start) (hqs : q.role = .start) : ¬ i < j := by
    intro hij
    refine h j .start ⟨q, hq, hqs, p, ?_, hps⟩
    exact List.mem_of_getElem? ((List.getElem?_take_of_lt hij).trans hp)
  intro p hp q hq hps hqs
  obtain ⟨i, hi⟩ := List.getElem?_of_mem hp
  obtain ⟨j, hj⟩ := List.getElem?_of_mem hq
  have hij : i = j := by
    have := hlater i j p q hi hj hps hqs
    have := hlater j i q p hj hi hqs hps
    omega
  rw [hij, hj] at hi
  exact (Option.some.inj hi).symm

/-- Whether a machine has a defect does not depend on the order of its states. -/
theorem no_defect_iff : (∀ i k, ¬ m.Defective i k) ↔
    m.SingleStart ∧ ∀ s ∈ m.states, ∀ k, ¬ s.HasDefect m.labels [] k := by
  constructor
  · intro h
    refine ⟨singleStart_of_no_defect h, ?_⟩
    intro s hs k hk
    obtain ⟨i, hi⟩ := List.getElem?_of_mem hs
    exact h i k ⟨s, hi, (State.hasDefect_nil_iff.mp hk).2⟩
  · intro h i k hdefect
    obtain ⟨hsingle, hm⟩ := h
    obtain ⟨s, hi, hk⟩ := hdefect
    have hs := List.mem_of_getElem? hi
    by_cases hne : k = .start
    · subst hne
      obtain ⟨hstart, t, ht, htstart⟩ := hk
      obtain rfl := hsingle t (List.mem_of_mem_take ht) s hs htstart hstart
      obtain ⟨j, hj⟩ := List.getElem?_of_mem ht
      obtain ⟨hlt, -⟩ := List.getElem?_eq_some_iff.mp hj
      rw [List.length_take] at hlt
      rw [List.getElem?_take_of_lt (by omega)] at hj
      have hij := (List.getElem?_inj (by omega) m.nodup_states).mp (hj.trans hi.symm)
      omega
    · exact hm s hs k (State.hasDefect_nil_iff.mpr ⟨hne, hk⟩)

theorem diagnose_eq_ok_iff_no_defect : m.diagnose = .ok ↔
    (∃! q, q ∈ m.states ∧ q.role = .start) ∧ (∃ q ∈ m.states, q.role = .accept) ∧
      ∀ i k, ¬ m.Defective i k := by
  constructor
  · intro h
    have hverdict := m.verdict_diagnose
    rw [h] at hverdict
    cases hverdict with
    | defect hs hbefore hk hd => cases hd
    | ok hm hstart haccept =>
      obtain ⟨q, hq, hqs⟩ := hstart
      refine ⟨⟨q, ⟨hq, hqs⟩, ?_⟩, haccept, hm⟩
      intro p hp
      exact singleStart_of_no_defect hm p hp.1 q hq hp.2 hqs
  · intro h
    obtain ⟨⟨q, hq, -⟩, haccept, hm⟩ := h
    exact (Verdict.ok hm ⟨q, hq⟩ haccept).eq_diagnose

/-- A check reports the first defect of the first state that has one. A machine without defects is
asked for a start state first and then for an accepting state, and passes if it has both; there is
then just one start state. -/
theorem reports_first_defect (m : Machine) :
    (∀ d, m.diagnose = d ↔ m.Verdict d) ∧
    (m.diagnose = .ok ↔ (∃! q, q ∈ m.states ∧ q.role = .start) ∧
      (∃ q ∈ m.states, q.role = .accept) ∧ ∀ i k, ¬ m.Defective i k) := by
  refine ⟨fun d => ⟨?_, Verdict.eq_diagnose⟩, diagnose_eq_ok_iff_no_defect⟩
  intro h
  exact h ▸ m.verdict_diagnose

end Machine

end Transducer
