import Transducer.Folder
import Transducer.Proofs.Except

/-!
Reading a file that has been written. Writing changes what the folder holds in one place, which is
no folder, so that every path still leads where it led before.
-/

namespace Transducer.Folder

variable {f g : Folder} {parts qs : List Word} {e : Entry} {p q : Place} {w : Word}

/-- Replacing what a path holds leaves the paths as they are. -/
theorem find?_replaced (entries : List (List Word × Entry)) (parts qs : List Word) (e : Entry) :
    (entries.map fun old => if old.1 == parts then (parts, e) else old).find? (·.1 == qs) =
      (entries.find? (·.1 == qs)).map fun old => if old.1 == parts then (parts, e) else old := by
  have hkey : ((·.1 == qs) ∘ fun old : List Word × Entry =>
      if old.1 == parts then (parts, e) else old) = (·.1 == qs) := by
    funext old
    by_cases hold : old.1 = parts <;> simp [hold]
  rw [List.find?_map, hkey]

theorem get?_of_ne_nil (h : parts ≠ []) (f : Folder) :
    f.get? parts = (f.entries.find? (·.1 == parts)).map Prod.snd := by
  simp [get?, h]

/-- What has been set is there. -/
theorem get?_set_self (h : parts ≠ []) (f : Folder) (e : Entry) :
    (f.set parts e).get? parts = some e := by
  cases hget : f.entries.find? (·.1 == parts) with
  | none =>
    have hnone : (f.get? parts).isSome = false := by simp [get?_of_ne_nil h, hget]
    rw [set, hnone, if_neg Bool.false_ne_true, get?_of_ne_nil h, List.find?_append, hget]
    simp
  | some old =>
    have hsome : (f.get? parts).isSome = true := by simp [get?_of_ne_nil h, hget]
    have hold : old.1 = parts := by simpa using List.find?_some hget
    rw [set, if_pos hsome, get?_of_ne_nil h, find?_replaced, hget]
    simp [hold]

/-- What is elsewhere stays as it is. -/
theorem get?_set_of_ne (h : qs ≠ parts) (f : Folder) (e : Entry) :
    (f.set parts e).get? qs = f.get? qs := by
  cases qs with
  | nil => rfl
  | cons q qs =>
    rw [get?_of_ne_nil (List.cons_ne_nil q qs), get?_of_ne_nil (List.cons_ne_nil q qs), set]
    split
    · rw [find?_replaced]
      cases hget : f.entries.find? (·.1 == q :: qs) with
      | none => rfl
      | some old =>
        have hold : old.1 = q :: qs := by simpa using List.find?_some hget
        have hne : old.1 ≠ parts := by rwa [hold]
        simp [hne]
    · rw [List.find?_append]
      simp [Ne.symm h]

/-- A place from which a path goes on is a folder, unless it lies outside. -/
theorem folder_of_enter (h : f.enter (.inside parts) w = .ok q) : f.get? parts = some .folder := by
  simp only [enter] at h
  split at h
  · cases h
  · cases h
  · assumption

/-- Where folders stay folders, every path leads where it led. -/
theorem enter_mono (hg : ∀ qs, f.get? qs = some .folder → g.get? qs = some .folder)
    (h : f.enter p w = .ok q) : g.enter p w = .ok q := by
  cases p with
  | outside => exact h
  | inside parts =>
    have hf := folder_of_enter h
    simp only [enter, hf] at h
    simp only [enter, hg parts hf, h]

theorem walk_mono (hg : ∀ qs, f.get? qs = some .folder → g.get? qs = some .folder)
    (h : f.walk p parts = .ok q) : g.walk p parts = .ok q := by
  induction parts generalizing p with
  | nil => exact h
  | cons w parts ih =>
    obtain ⟨p', hp, hq⟩ := Except.bind_eq_ok_iff.mp h
    exact Except.bind_eq_ok_iff.mpr ⟨p', enter_mono hg hp, ih hq⟩

theorem walk_append (f : Folder) (p : Place) (ws vs : List Word) :
    f.walk p (ws ++ vs) = (f.walk p ws).bind (f.walk · vs) := by
  induction ws generalizing p with
  | nil => rfl
  | cons w ws ih =>
    rw [List.cons_append, walk, walk]
    cases f.enter p w with
    | error o => rfl
    | ok p => exact ih p

theorem enter_here (h : f.enter p Path.here = .ok q) : q = p := by
  cases p with
  | outside =>
    simp only [enter] at h
    exact (Except.ok.inj h).symm
  | inside parts =>
    simp only [enter, folder_of_enter h] at h
    exact (Except.ok.inj h).symm

/-- Where a file is written: in a folder that the other parts of the path lead to, and not over
another folder. -/
structure Written (f : Folder) (path content : Word) (g : Folder) (parts : List Word)
    (name : Word) : Prop where
  possible : Path.flaw? path = none
  last : (Path.parts path).getLast? = some name
  leads : f.walk (beginning path) (Path.parts path).dropLast = .ok (.inside parts)
  within : f.get? parts = some .folder
  namesFile : Path.namesFolder path = false ∧ name ≠ Path.here ∧ name ≠ Path.above
  fits : name.bytes ≤ Path.longestPart
  free : f.get? (parts ++ [name]) ≠ some .folder
  holds : g = f.set (parts ++ [name]) (.file (.text content))

theorem exists_written {path content : Word} (h : f.write path content = .ok g) :
    ∃ parts name, f.Written path content g parts name := by
  unfold write at h
  split at h
  · cases h
  · cases h
  · next name hflaw hname =>
    obtain ⟨place, hwalk, hwrite⟩ := Except.bind_eq_ok_iff.mp h
    rw [walk_append] at hwalk
    obtain ⟨p, hleads, hstay⟩ := Except.bind_eq_ok_iff.mp hwalk
    obtain ⟨q, henter, hq⟩ := Except.bind_eq_ok_iff.mp hstay
    cases hq
    split at hwrite
    · cases hwrite
    · next hfile =>
      unfold writeAt at hwrite
      split at hwrite
      · cases hwrite
      · next hfits =>
        split at hwrite
        · cases hwrite
        · next parts =>
          have hp := enter_here henter
          subst hp
          split at hwrite
          · cases hwrite
          · next hfree =>
            simp only [not_or, Bool.not_eq_true] at hfile
            exact ⟨parts, name, hflaw, hname, hleads, folder_of_enter henter, hfile,
              Nat.le_of_not_lt hfits, hfree, (Except.ok.inj hwrite).symm⟩

/-- A file that has been written is read as it was written. -/
theorem read_of_write {path content : Word} (h : f.write path content = .ok g) :
    g.read path = .ok content := by
  obtain ⟨parts, name, hw⟩ := exists_written h
  obtain ⟨hfolder, hhere, habove⟩ := hw.namesFile
  have hfolders : ∀ qs, f.get? qs = some .folder → g.get? qs = some .folder := by
    intro qs hqs
    have hne : qs ≠ parts ++ [name] := by
      rintro rfl
      exact hw.free hqs
    rw [hw.holds, get?_set_of_ne hne, hqs]
  have henter : g.enter (.inside parts) name = .ok (.inside (parts ++ [name])) := by
    simp [enter, hfolders parts hw.within, hhere, habove, Nat.not_lt.mpr hw.fits]
  have hwalk : g.walk (beginning path) (Path.parts path) = .ok (.inside (parts ++ [name])) := by
    obtain ⟨above, habove⟩ := List.getLast?_eq_some_iff.mp hw.last
    have hleads := walk_mono hfolders hw.leads
    rw [habove, List.dropLast_concat] at hleads
    rw [habove, walk_append, hleads]
    simp [Except.bind, walk, henter]
  have hheld : g.get? (parts ++ [name]) = some (.file (.text content)) := by
    rw [hw.holds, get?_set_self (by simp)]
  have hpath : path.isEmpty = false := by
    cases path with
    | nil => cases hw.last
    | cons => rfl
  simp [read, hw.possible, hpath, hfolder, hwalk, Except.bind, hheld]

end Transducer.Folder
