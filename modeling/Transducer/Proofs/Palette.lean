import Mathlib.Data.List.Infix
import Transducer.Report

/-!
Painted texts. Painting loses nothing of a text, whatever codes stand in it, and an error can be
told from a success by how it begins.
-/

namespace Transducer

namespace Palette

/-- The code that turns styles off. -/
def reset : Word := ['\x1b', '[', '0', 'm']

variable {start : Word}

theorem resume_reset (w : Word) : resume start (reset ++ w) = reset ++ start ++ resume start w :=
  rfl

theorem resume_cons {c : Char} {w : Word} (h : ¬ reset <+: c :: w) :
    resume start (c :: w) = c :: resume start w := by
  rw [resume]
  rintro w' rfl rfl
  exact h (List.prefix_append reset w')

/-- What a painted text begins with stood there before, if no code begins in it. -/
theorem prefix_of_prefix_resume {v w : Word} (hv : '\x1b' ∉ v) (h : v <+: resume start w) :
    v <+: w := by
  induction v generalizing w with
  | nil => exact List.nil_prefix
  | cons d v ih =>
    rw [List.mem_cons, not_or] at hv
    by_cases hw : reset <+: w
    · obtain ⟨w', rfl⟩ := hw
      exact absurd (List.cons_prefix_cons.mp h).1 (Ne.symm hv.1)
    · cases w with
      | nil => exact absurd h (by simp [resume])
      | cons c w =>
        rw [resume_cons hw, List.cons_prefix_cons] at h
        exact List.cons_prefix_cons.mpr ⟨h.1, ih hv.2 h.2⟩

theorem reset_prefix_resume_iff {w : Word} : reset <+: resume start w ↔ reset <+: w := by
  constructor
  · intro h
    by_contra hw
    cases w with
    | nil => exact absurd h (by simp [resume, reset])
    | cons c w =>
      rw [resume_cons hw, reset, List.cons_prefix_cons] at h
      have hrest := prefix_of_prefix_resume (by simp) h.2
      exact hw (List.cons_prefix_cons.mpr ⟨h.1, hrest⟩)
  · rintro ⟨w, rfl⟩
    rw [resume_reset, List.append_assoc]
    exact List.prefix_append _ _

/-- A code that turns styles off stands in both texts or in neither, since painting puts none in
where there was none. -/
theorem resume_injective (start : Word) : Function.Injective (resume start) := by
  intro v
  induction v using resume.induct with
  | case1 =>
    intro w h
    cases w with
    | nil => rfl
    | cons c w =>
      unfold resume at h
      split at h <;> simp_all
  | case2 v ih =>
    intro w h
    change resume start (reset ++ v) = resume start w at h
    have hv : reset <+: resume start w :=
      h ▸ reset_prefix_resume_iff.mpr (List.prefix_append reset v)
    obtain ⟨w, rfl⟩ := reset_prefix_resume_iff.mp hv
    rw [resume_reset, resume_reset] at h
    exact congrArg (reset ++ ·) (ih (List.append_cancel_left h))
  | case3 c v hv ih =>
    intro w h
    have hc : ¬ reset <+: c :: v := by
      rintro ⟨v', he⟩
      exact hv v' (List.cons.inj he).1.symm (List.cons.inj he).2.symm
    have hw : ¬ reset <+: w := fun hw =>
      hc (reset_prefix_resume_iff.mp (h ▸ reset_prefix_resume_iff.mpr hw))
    rw [resume_cons hc] at h
    cases w with
    | nil => simp [resume] at h
    | cons d w =>
      rw [resume_cons hw] at h
      obtain ⟨rfl, htail⟩ := List.cons.inj h
      rw [ih htail]

/-- A painted text tells what was painted. -/
theorem paint_injective (p : Palette) (style : Style) : Function.Injective (p.paint style) := by
  intro s t h
  cases p with
  | monochrome => exact h
  | colored =>
    simp only [paint, ← String.toList_inj, String.toList_append, List.append_cancel_left_eq,
      List.append_cancel_right_eq, String.toList_ofList] at h
    exact String.toList_inj.mp (resume_injective _ h)

end Palette

namespace Report

variable (p : Palette) (message : String)

theorem error_ne_success {word : String} (hw : word ∈ ["Loaded", "Added", "Removed"])
    (rest after : String) : p.paint .green word ++ rest ≠ error p message ++ after := by
  intro h
  simp only [List.mem_cons, List.not_mem_nil, or_false] at hw
  cases p with
  | monochrome =>
    have hfirst := congrArg (·.toList.head?) h
    rcases hw with rfl | rfl | rfl <;> simp [Palette.paint, error] at hfirst
  | colored =>
    -- the two codes part in their fourth character
    have hcolor := congrArg (·.toList[3]?) h
    simp [Palette.paint, error, Style.code, toString] at hcolor

theorem error_ne_history (rest after : String) : "History" ++ rest ≠ error p message ++ after := by
  intro h
  have hfirst := congrArg (·.toList.head?) h
  cases p <;> simp [Palette.paint, error, toString] at hfirst

end Report

end Transducer
