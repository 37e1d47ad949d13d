import Transducer.Shell

/-!
A shell through several lines. What is said to the lines is what is said to the first of them and
then, by the shell and with the files that this leaves, to the others.
-/

namespace Transducer.Shell

/-- What is said to lines, the shell after them unless the user leaves, and the files after them. -/
def replies (sh : Shell) (f : Folder) : List Word → Reply × Folder
  | [] => (⟨"", some sh⟩, f)
  | l :: ls =>
    match (sh.answerTyped l).runOn f with
    | (⟨text, none⟩, g) => (⟨text, none⟩, g)
    | (⟨text, some next⟩, g) =>
      let rest := next.replies g ls
      (⟨text ++ rest.1.text, rest.1.shell⟩, rest.2)

variable {sh next : Shell} {f g : Folder} {l : Word} {pre post : List Word} {text : String}

theorem replies_cons_of_left (h : (sh.answerTyped l).runOn f = (⟨text, none⟩, g)) :
    sh.replies f (l :: post) = (⟨text, none⟩, g) := by
  rw [replies, h]

theorem replies_cons_of_next (h : (sh.answerTyped l).runOn f = (⟨text, some next⟩, g)) :
    sh.replies f (l :: post) =
      (⟨text ++ (next.replies g post).1.text, (next.replies g post).1.shell⟩,
        (next.replies g post).2) := by
  rw [replies, h]

/-- If the user does not leave, the first line was answered by a shell and the others by the next. -/
theorem exists_of_replies_cons (h : sh.replies f (l :: post) = (⟨text, some next⟩, g)) :
    ∃ said rest mid f', (sh.answerTyped l).runOn f = (⟨said, some mid⟩, f') ∧
      mid.replies f' post = (⟨rest, some next⟩, g) ∧ text = said ++ rest := by
  rcases hl : (sh.answerTyped l).runOn f with ⟨⟨said, shell⟩, f'⟩
  cases shell with
  | none => cases (replies_cons_of_left hl).symm.trans h
  | some mid =>
    rw [replies_cons_of_next hl, Prod.mk.injEq, Reply.mk.injEq] at h
    obtain ⟨⟨rfl, hshell⟩, hfolder⟩ := h
    exact ⟨said, _, mid, f', rfl, by rw [← hshell, ← hfolder], rfl⟩

/-- The lines behind others are answered by the shell that those leave. -/
theorem replies_append (h : sh.replies f pre = (⟨text, some next⟩, g)) :
    sh.replies f (pre ++ post) =
      (⟨text ++ (next.replies g post).1.text, (next.replies g post).1.shell⟩,
        (next.replies g post).2) := by
  induction pre generalizing sh f text with
  | nil =>
    cases h
    simp
  | cons l pre ih =>
    obtain ⟨said, rest, mid, f', hl, hrest, rfl⟩ := exists_of_replies_cons h
    rw [List.cons_append, replies_cons_of_next hl, ih hrest, String.append_assoc]

/-- At the end of the lines the shell takes its leave, unless the user has left before. -/
theorem runOn_converse (sh : Shell) (f : Folder) (ls : List Word) :
    (sh.converse ls).runOn f =
      ((sh.replies f ls).1.text ++ (sh.replies f ls).1.shell.elim "" farewell,
        (sh.replies f ls).2) := by
  induction ls generalizing sh f with
  | nil => simp [converse, replies]
  | cons l ls ih =>
    rcases hl : (sh.answerTyped l).runOn f with ⟨⟨said, shell⟩, g⟩
    cases shell with
    | none => simp [converse, hl, replies_cons_of_left hl]
    | some next => simp [converse, hl, replies_cons_of_next hl, ih, String.append_assoc]

end Transducer.Shell
