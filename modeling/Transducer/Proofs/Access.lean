import Transducer.Access

/-!
What computations that look at files can come to, whatever the files hold and whether they can be
read and written.
-/

namespace Transducer

namespace Access

variable {α β : Type}

/-- The computation has this answer if the files answer in some way. -/
inductive Gives : Access α → α → Prop
  | done (a : α) : Gives (.done a) a
  | read {path : Word} {next : Except Obstacle Word → Access α} {a : α}
    (r : Except Obstacle Word) (h : Gives (next r) a) : Gives (.read path next) a
  | write {path content : Word} {next : Except Obstacle Unit → Access α} {a : α}
    (r : Except Obstacle Unit) (h : Gives (next r) a) : Gives (.write path content next) a

@[simp] theorem gives_done {a b : α} : (done a).Gives b ↔ b = a := by
  constructor
  · intro h
    cases h
    rfl
  · rintro rfl
    exact .done b

@[simp] theorem gives_pure {a b : α} : (pure a : Access α).Gives b ↔ b = a := gives_done

@[simp] theorem gives_read {path : Word} {next : Except Obstacle Word → Access α} {a : α} :
    (read path next).Gives a ↔ ∃ r, (next r).Gives a := by
  constructor
  · intro h
    cases h with
    | read r h => exact ⟨r, h⟩
  · rintro ⟨r, h⟩
    exact .read r h

@[simp] theorem gives_write {path content : Word} {next : Except Obstacle Unit → Access α}
    {a : α} : (write path content next).Gives a ↔ ∃ r, (next r).Gives a := by
  constructor
  · intro h
    cases h with
    | write r h => exact ⟨r, h⟩
  · rintro ⟨r, h⟩
    exact .write r h

@[simp] theorem gives_bind {x : Access α} {k : α → Access β} {b : β} :
    (x >>= k).Gives b ↔ ∃ a, x.Gives a ∧ (k a).Gives b := by
  induction x with
  | done a =>
    change (k a).Gives b ↔ _
    simp
  | read path next ih =>
    change (read path fun r => next r >>= k).Gives b ↔ _
    simp only [gives_read, ih]
    constructor
    · rintro ⟨r, a, ha, hb⟩
      exact ⟨a, ⟨r, ha⟩, hb⟩
    · rintro ⟨a, ⟨r, ha⟩, hb⟩
      exact ⟨r, a, ha, hb⟩
  | write path content next ih =>
    change (write path content fun r => next r >>= k).Gives b ↔ _
    simp only [gives_write, ih]
    constructor
    · rintro ⟨r, a, ha, hb⟩
      exact ⟨a, ⟨r, ha⟩, hb⟩
    · rintro ⟨a, ⟨r, ha⟩, hb⟩
      exact ⟨r, a, ha, hb⟩

/-- What a computation comes to on a folder is something it can come to. -/
theorem gives_runOn (x : Access α) (f : Folder) : x.Gives (x.runOn f).1 := by
  induction x generalizing f with
  | done a => exact .done a
  | read path next ih => exact .read _ (ih _ _)
  | write path content next ih => exact .write _ (ih _ _)

end Access

end Transducer
