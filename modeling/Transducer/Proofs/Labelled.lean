import Transducer.Proofs.Access
import Transducer.Proofs.Columns.RoundTrip
import Transducer.Proofs.Document.Image
import Transducer.Proofs.Editing
import Transducer.Store

/-!
Where machines come from whose labels can be written: from lines, documents, columns and files.
-/

namespace Transducer

/-- What the edit would add has a label that can be written. -/
def Edit.Labelled (e : Edit) : Prop := ∀ s, e.state? = some s → s.label.isLabel = true

namespace Edit

theorem labelled_addLine (l : Word) : (addLine l).Labelled := by
  intro s hs
  have hl : State.parse l = .ok s := Except.toOption_eq_some_iff.mp hs
  exact (State.exists_parse_iff.mp ⟨l, hl⟩).label

theorem labelled_remove (l : Word) : (remove l).Labelled := nofun

theorem labelled_add_of_columns {c : Columns} {s : State} (h : c.state = .ok s) :
    (add s).Labelled := by
  intro t ht
  obtain rfl : s = t := by simpa [state?] using ht
  unfold Columns.state at h
  split at h
  · cases h
  · rename_i hlabel
    split at h
    · cases h
    · cases h
      simpa using hlabel

end Edit

namespace Machine

variable {m n : Machine} {e : Edit} {a : Edit.Answer}

theorem labelled_empty : empty.Labelled := nofun

theorem Labelled.edited (h : m.Labelled) (he : e.Labelled) (hn : m.Edited e (a, n)) :
    n.Labelled := by
  cases hn with
  | added hs hfree hn =>
    intro l hl
    rw [labels, hn, List.map_append, List.mem_append] at hl
    rcases hl with hl | hl
    · exact h l hl
    · rw [List.mem_singleton.mp hl]
      exact he _ hs
  | @removed s _ before after hremove hm hn =>
    have hsub : n.states.Sublist m.states := by
      rw [hm, hn]
      exact (List.sublist_cons_self s after).append_left before
    exact fun l hl => h l ((hsub.map State.label).mem hl)
  | taken | unread | absent => exact h

/-- Edits one after another, each of which only adds what can be written. -/
theorem Labelled.edited_all (h : m.Labelled) {es : List Edit} (hes : ∀ e ∈ es, e.Labelled) :
    (m.edited es).Labelled := by
  induction es generalizing m with
  | nil => exact h
  | cons e es ih =>
    have hedit : (m.edit e).2.Labelled := h.edited (hes e List.mem_cons_self) (m.edited_edit e)
    exact ih hedit fun e' he' => hes e' (List.mem_cons_of_mem e he')

theorem Origin.labelled_edits {begun : List Edit} (h : Origin begun m) :
    ∀ e ∈ begun, e.Labelled := by
  have hlines (t : Word) : ∀ e ∈ (Document.entries t).map (fun e => Edit.addLine e.2),
      e.Labelled := by
    intro e he
    obtain ⟨entry, -, rfl⟩ := List.mem_map.mp he
    exact Edit.labelled_addLine _
  cases h with
  | empty => exact nofun
  | document t => exact hlines t
  | strict _ => exact hlines _
  | columns _ =>
    intro e he
    obtain ⟨c, -, hc⟩ := List.mem_filterMap.mp he
    obtain ⟨s, hs, rfl⟩ := Option.map_eq_some_iff.mp hc
    exact Edit.labelled_add_of_columns (Except.toOption_eq_some_iff.mp hs)

theorem Origin.labelled {begun : List Edit} (h : Origin begun m) : m.Labelled := by
  rw [h.eq_edited]
  exact labelled_empty.edited_all h.labelled_edits

/-- A file that holds a machine holds a document or columns. -/
theorem exists_origin_of_ofFileText {path text : Word} {lenient : Bool}
    (h : ofFileText path lenient text = .ok m) : ∃ begun, Origin begun m := by
  unfold ofFileText at h
  split at h
  · unfold ofJson at h
    split at h
    · cases h
    · exact ⟨_, .columns h⟩
  · split at h
    · cases h
      exact ⟨_, .document text⟩
    · exact ⟨_, .strict h⟩

theorem exists_origin_of_load {path : Word} {lenient : Bool}
    (h : (load path lenient).Gives (.ok m)) : ∃ begun, Origin begun m := by
  obtain ⟨r, -, h⟩ := Access.gives_bind.mp h
  cases r with
  | error o => cases Access.gives_pure.mp h
  | ok text =>
    exact exists_origin_of_ofFileText (Except.mapError_eq_ok_iff.mp (Access.gives_pure.mp h).symm)

/-- Whatever files hold, a machine that is loaded has labels that can be written. -/
theorem labelled_of_load {path : Word} {lenient : Bool}
    (h : (load path lenient).Gives (.ok m)) : m.Labelled := by
  obtain ⟨begun, h⟩ := exists_origin_of_load h
  exact h.labelled

end Machine

end Transducer
