import Transducer.Columns
import Transducer.Proofs.Document.Reading
import Transducer.Proofs.Run

/-!
Machines under edits. A machine is made by adding and removing states, some of which may be refused.
Whatever the edits were, each label finds one state, and the states stand in the order in which they
were last added.
-/

namespace Transducer

/-- A change that is asked of a machine. -/
inductive Edit where
  | add (s : State)
  | addLine (line : Word)
  | remove (label : Word)
  deriving DecidableEq, Repr

namespace Edit

/-- What comes of an edit. -/
inductive Answer where
  | added
  | refused (f : Fault)
  | removed (s : State)
  /-- There is no state to remove. -/
  | absent
  deriving DecidableEq, Repr

/-- The state that an edit would add. -/
def state? : Edit → Option State
  | add s => some s
  | addLine l => (State.parse l).toOption
  | remove _ => none

end Edit

namespace Machine

def answerAdd (m : Machine) : Except Fault Machine → Edit.Answer × Machine
  | .error f => (.refused f, m)
  | .ok n => (.added, n)

/-- Carries out an edit: what comes of it and the machine after it. -/
def edit (m : Machine) : Edit → Edit.Answer × Machine
  | .add s => m.answerAdd (m.add s)
  | .addLine l => m.answerAdd (m.addLine l)
  | .remove l =>
    match m.remove l with
    | none => (.absent, m)
    | some (s, n) => (.removed s, n)

/-- The machine after edits, one after another. -/
def edited (m : Machine) (es : List Edit) : Machine := es.foldl (fun m e => (m.edit e).2) m

/-- What an edit adds: its state, unless that is refused. -/
def inserted (m : Machine) (e : Edit) : List State :=
  if (m.edit e).1 = .added then e.state?.toList else []

/-- The states that edits add, in the order of time, whether they stay or not. -/
def insertions (m : Machine) : List Edit → List State
  | [] => []
  | e :: es => m.inserted e ++ (m.edit e).2.insertions es

/-- Of the states of each label only the last, in the order of these. -/
def latest : List State → List State
  | [] => []
  | s :: ss => if s.label ∈ ss.map State.label then latest ss else s :: latest ss

/-- Everything an edit can do. A refused or idle edit leaves the machine as it was. -/
inductive Edited (m : Machine) (e : Edit) : Edit.Answer × Machine → Prop
  | added {s : State} {n : Machine} (hs : e.state? = some s) (hfree : s.label ∉ m.labels)
    (hn : n.states = m.states ++ [s]) : Edited m e (.added, n)
  | taken {s : State} (hs : e.state? = some s) (htaken : s.label ∈ m.labels) :
    Edited m e (.refused (.duplicateState s.label), m)
  | unread {l : Word} {offset : Nat} (he : e = .addLine l) (hl : State.parse l = .error offset) :
    Edited m e (.refused (.parse 1 offset), m)
  | removed {s : State} {n : Machine} {before after : List State} (he : e = .remove s.label)
    (hm : m.states = before ++ s :: after) (hn : n.states = before ++ after) :
    Edited m e (.removed s, n)
  | absent {l : Word} (he : e = .remove l) (hl : l ∉ m.labels) : Edited m e (.absent, m)

variable {m n : Machine} {e : Edit} {s : State}

theorem edited_of_state? (hs : e.state? = some s) : m.Edited e (m.answerAdd (m.add s)) := by
  by_cases h : s.label ∈ m.labels
  · rw [add_eq_error_iff.mpr ⟨has_iff.mpr h, rfl⟩]
    exact .taken hs h
  · obtain ⟨n, hn⟩ := exists_add h
    rw [hn]
    exact .added hs h (states_add hn)

theorem edited_edit (m : Machine) (e : Edit) : m.Edited e (m.edit e) := by
  cases e with
  | add s => exact edited_of_state? rfl
  | addLine l =>
    simp only [edit, addLine]
    cases hl : State.parse l with
    | error offset => exact .unread rfl hl
    | ok s => exact edited_of_state? (Except.toOption_eq_some_iff.mpr hl)
  | remove l =>
    simp only [edit]
    cases hr : m.remove l with
    | none => exact .absent rfl (remove_eq_none_iff.mp hr)
    | some r =>
      obtain ⟨before, after, hm, rfl, hn⟩ := remove_eq_some_iff.mp hr
      exact .removed rfl hm hn

theorem latest_append (ss : List State) (s : State) :
    latest (ss ++ [s]) = (latest ss).filter (·.label != s.label) ++ [s] := by
  induction ss with
  | nil => simp [latest]
  | cons t ts ih =>
    rw [List.cons_append, latest, latest, ih]
    by_cases hs : t.label = s.label
    · have hmem : t.label ∈ (ts ++ [s]).map State.label := by simp [hs]
      rw [if_pos hmem]
      split <;> simp [hs]
    · by_cases ht : t.label ∈ ts.map State.label
      · have hmem : t.label ∈ (ts ++ [s]).map State.label := by
          rw [List.map_append]
          exact List.mem_append_left _ ht
        rw [if_pos hmem, if_pos ht]
      · have hmem : t.label ∉ (ts ++ [s]).map State.label := by
          rw [List.map_append, List.mem_append, not_or]
          exact ⟨ht, by simpa using hs⟩
        rw [if_neg hmem, if_neg ht]
        simp [hs]

theorem has_of_added (hn : n.states = m.states ++ [s]) (l : Word) :
    n.has l = (m.has l || l == s.label) := by
  rw [Bool.eq_iff_iff, has_iff, Bool.or_eq_true, has_iff, labels, hn]
  simp [labels]

theorem has_of_removed {before after : List State} (hm : m.states = before ++ s :: after)
    (hn : n.states = before ++ after) (l : Word) : n.has l = (m.has l && l != s.label) := by
  have hd := m.distinct
  rw [hm] at hd
  rw [Bool.eq_iff_iff, has_iff, Bool.and_eq_true, has_iff, labels, hn,
    ← filter_label_of_distinct hd, ← hm]
  simp only [labels, List.mem_map, List.mem_filter, bne_iff_ne]
  constructor
  · intro h
    obtain ⟨t, ⟨ht, hne⟩, rfl⟩ := h
    exact ⟨⟨t, ht, rfl⟩, hne⟩
  · intro h
    obtain ⟨⟨t, ht, rfl⟩, hne⟩ := h
    exact ⟨t, ⟨ht, hne⟩, rfl⟩

/-- The states stand in the order in which each was last added, and all of them are there that were
not removed since. -/
def InOrderOf (log : List State) (m : Machine) : Prop :=
  m.states = (latest log).filter (m.has ·.label)

variable {log : List State}

theorem InOrderOf.added (h : m.InOrderOf log) (hfree : s.label ∉ m.labels)
    (hn : n.states = m.states ++ [s]) : n.InOrderOf (log ++ [s]) := by
  have hhas := has_of_added hn
  -- what the new state replaces in the order is not there, as its label is free
  have hold : ((latest log).filter (·.label != s.label)).filter (n.has ·.label) = m.states := by
    rw [h, List.filter_filter]
    apply List.filter_congr
    intro t _
    rw [hhas]
    by_cases ht : t.label = s.label
    · have hno : m.has t.label = false := by
        rw [Bool.eq_false_iff, Ne, has_iff, ht]
        exact hfree
      rw [hno, ht]
      simp
    · have hne : (t.label == s.label) = false := beq_false_of_ne ht
      simp [bne, hne]
  have hnew : [s].filter (n.has ·.label) = [s] := by simp [hhas]
  rw [InOrderOf, latest_append, List.filter_append, hold, hnew, hn]

theorem InOrderOf.removed {before after : List State} (h : m.InOrderOf log)
    (hm : m.states = before ++ s :: after) (hn : n.states = before ++ after) :
    n.InOrderOf log := by
  have hd := m.distinct
  rw [hm] at hd
  have hstates : n.states = m.states.filter (·.label != s.label) := by
    rw [hm, filter_label_of_distinct hd, hn]
  rw [InOrderOf, hstates, h, List.filter_filter]
  apply List.filter_congr
  intro t _
  rw [has_of_removed hm hn, Bool.and_comm]

/-- An edit keeps the states in the order in which they were added. -/
theorem InOrderOf.edit (h : m.InOrderOf log) (e : Edit) :
    (m.edit e).2.InOrderOf (log ++ m.inserted e) := by
  unfold inserted
  generalize hr : m.edit e = r
  have hedited : m.Edited e r := hr ▸ m.edited_edit e
  cases hedited with
  | added hs hfree hn => simpa [hs] using h.added hfree hn
  | removed he hm hn => simpa using h.removed hm hn
  | taken | unread | absent => simpa using h

theorem InOrderOf.edited (h : m.InOrderOf log) (es : List Edit) :
    (m.edited es).InOrderOf (log ++ m.insertions es) := by
  induction es generalizing m log with
  | nil => simpa [Machine.edited, insertions] using h
  | cons e es ih =>
    rw [insertions, ← List.append_assoc]
    exact ih (h.edit e)

theorem edited_append (m : Machine) (es es' : List Edit) :
    m.edited (es ++ es') = (m.edited es).edited es' := List.foldl_append

/-- The ways to come by a machine before it is edited, each with the edits that would have made it
out of nothing. -/
inductive Origin : List Edit → Machine → Prop
  | empty : Origin [] empty
  | document (t : Word) : Origin ((Document.entries t).map fun e => .addLine e.2) (ofText t)
  | strict {t : Word} {m : Machine} (h : ofTextStrict t = .ok m) :
    Origin ((Document.entries t).map fun e => .addLine e.2) m
  | columns {cs : List Columns} {m : Machine} (h : ofColumns cs = .ok m) :
    Origin (cs.filterMap fun c => c.state.toOption.map .add) m

theorem addIfPossible_eq_edit (m : Machine) (l : Word) :
    m.addIfPossible l = (m.edit (.addLine l)).2 := by
  simp only [addIfPossible, Machine.edit, addLine]
  cases State.parse l with
  | error offset => rfl
  | ok s => cases hadd : m.add s <;> simp [hadd, answerAdd]

theorem ofText_eq_edited (t : Word) :
    ofText t = empty.edited ((Document.entries t).map fun e => .addLine e.2) := by
  rw [ofText, Machine.edited, List.foldl_map]
  simp only [addIfPossible_eq_edit]

theorem addTo_eq_edited {cs : List Columns} (h : Columns.addTo m cs = .ok n) :
    n = m.edited (cs.filterMap fun c => c.state.toOption.map .add) := by
  induction cs generalizing m with
  | nil =>
    cases h
    rfl
  | cons c cs ih =>
    obtain ⟨s, hs, h⟩ := Except.bind_eq_ok_iff.mp h
    obtain ⟨k, hk, h⟩ := Except.bind_eq_ok_iff.mp h
    have hedit : k = (m.edit (.add s)).2 := by simp [Machine.edit, hk, answerAdd]
    have hc : (c.state.toOption.map Edit.add) = some (.add s) := by
      rw [Except.toOption_eq_some_iff.mpr hs]
      rfl
    rw [List.filterMap_cons, hc, ih h, hedit]
    rfl

theorem Origin.eq_edited {begun : List Edit} (h : Origin begun m) :
    m = Machine.empty.edited begun := by
  cases h with
  | empty => rfl
  | document t => exact ofText_eq_edited t
  | strict h => rw [← ofText_eq_edited, ofText_of_ofTextStrict h]
  | columns h => exact addTo_eq_edited h

/-- How the states of a machine are kept, after those of the log were added in this order. -/
structure Kept (m : Machine) (log : List State) : Prop where
  distinct : m.labels.Nodup
  has : ∀ l, m.has l = true ↔ l ∈ m.labels
  get : ∀ l, (∃ s, m.get? l = some s) ↔ l ∈ m.labels
  own : ∀ l s, m.get? l = some s → s ∈ m.states ∧ s.label = l
  order : m.InOrderOf log
  start : ∀ q, m.start? = some q ↔ m.FirstStart q
  found : ∀ q, m.start? = some q → m.get? q.label = some q

theorem InOrderOf.kept (h : m.InOrderOf log) : m.Kept log where
  distinct := m.distinct
  has l := has_iff
  get l := by
    rw [← Option.isSome_iff_exists, ← has_eq_isSome_get?]
    exact has_iff
  own l s hs := get?_eq_some_iff.mp hs
  order := h
  start q := firstStart_iff.symm
  found q hq := get?_eq_some_iff.mpr ⟨List.mem_of_find?_eq_some hq, rfl⟩

/-- However a machine was come by and edited, it is what the edits make of nothing, one after
another; each label has one state, which it finds; and the states stand in the order in which they
were last added. A further edit adds its state at the end, is refused, or removes a state from its
place, and leaves all the rest as it is. -/
theorem kept_under_edits {begun : List Edit} {m₀ : Machine} (h : Origin begun m₀)
    (es : List Edit) :
    m₀.edited es = empty.edited (begun ++ es) ∧
    (m₀.edited es).Kept (empty.insertions (begun ++ es)) ∧
    ∀ e, (m₀.edited es).Edited e ((m₀.edited es).edit e) := by
  have hm : m₀.edited es = empty.edited (begun ++ es) := by rw [edited_append, ← h.eq_edited]
  refine ⟨hm, ?_, edited_edit _⟩
  have hempty : empty.InOrderOf [] := rfl
  rw [hm]
  exact (hempty.edited (begun ++ es)).kept

def turnstile : Word := "[START] Shut :: Open: coin\nOpen :: Shut: push".toList

/-- The first state is replaced, and what no line can say and what is there already is refused. -/
def refit : List Edit :=
  [.remove "Shut".toList, .addLine "Shut: coin".toList, .addLine "Shut :: Open: card".toList,
    .addLine "Open :: Open: push".toList]

/-- A state that is put back is the last. -/
theorem turnstile_refitted :
    ((ofText turnstile).edited refit).labels = ["Open".toList, "Shut".toList] ∧
    ((ofText turnstile).edited refit).start? = none ∧
    ((ofText turnstile).edited refit).Kept (empty.insertions
      ((Document.entries turnstile).map (fun e => .addLine e.2) ++ refit)) ∧
    ((ofText turnstile).edited refit).Edited (.addLine "Shut".toList)
      (((ofText turnstile).edited refit).edit (.addLine "Shut".toList)) := by
  have h := kept_under_edits (.document turnstile) refit
  exact ⟨by decide +kernel, by decide +kernel, h.2.1, h.2.2 _⟩

end Machine

end Transducer
