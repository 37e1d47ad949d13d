import Transducer.Proofs.Access
import Transducer.Proofs.Line.Padding
import Transducer.Program

/-!
What a line can do to a shell. Only four kinds of tasks change anything but the run that is stepped
through, and only when they succeed.
-/

namespace Transducer

/-- The task can change nothing, but may say something or write a file. -/
def Task.isIdle : Task → Bool
  | .load _ | .add _ | .remove _ | .history (some _) => false
  | _ => true

/-- A blank line names no command. -/
theorem Command.ofLine_of_isBlank {line : Word} (h : line.isBlank = true) :
    Command.ofLine line = .task (.unknown []) := by
  rw [Command.ofLine, Command.cut, Word.trimStart_of_isBlank h]
  rfl

namespace Shell

/-- Everything a task can give, with the shell as it is after it. -/
inductive Performed (sh : Shell) : Task → Except Failure (String × Shell) → Prop
  | loaded {path : Word} {m : Machine} (text : String)
    (h : (Machine.load path sh.settings.run.lenient).Gives (.ok m)) :
    Performed sh (.load path) (.ok (text, { sh with machine := m }))
  | added {line : Word} {m : Machine} (text : String) (h : sh.machine.addLine line = .ok m) :
    Performed sh (.add line) (.ok (text, { sh with machine := m }))
  | removed {label : Word} {s : State} {m : Machine} (text : String)
    (h : sh.machine.remove label = some (s, m)) :
    Performed sh (.remove label) (.ok (text, { sh with machine := m }))
  | recording (b : Bool) (text : String) :
    Performed sh (.history (some b))
      (.ok (text, { sh with settings.run.history := b }))
  | absent {label : Word} (text : String) (h : sh.machine.remove label = none) :
    Performed sh (.remove label) (.ok (text, sh))
  | said {t : Task} (text : String) (h : t.isIdle = true) : Performed sh t (.ok (text, sh))
  | failed (t : Task) (f : Failure) : Performed sh t (.error f)

variable {sh next : Shell} {t : Task} {r : Except Failure (String × Shell)}

/-- Outside of a run, a line that names a command is answered by obeying it. A blank one names the
empty word, which is no command. -/
theorem answer_eq_obey {line : Word} {c : Command} (hsession : sh.session = none)
    (hline : Command.ofLine line = c) (hc : c ≠ .task (.unknown [])) :
    sh.answer line = sh.obey c := by
  have hblank : ¬ line.isBlank = true := fun hblank =>
    hc (hline.symm.trans (Command.ofLine_of_isBlank hblank))
  rw [answer, hsession, if_neg hblank, hline]

theorem answerTyped_eq_obey {line : Word} {c : Command} (hsession : sh.session = none)
    (hline : Command.ofLine line.typed = c) (hc : c ≠ .task (.unknown [])) :
    sh.answerTyped line = sh.obey c :=
  answer_eq_obey hsession hline hc

theorem performed_of_say {text : String} (ht : t.isIdle = true) (h : (sh.say text).Gives r) :
    sh.Performed t r := by
  rw [Access.gives_pure.mp h]
  exact .said text ht

theorem performed_of_fail {f : Failure} (h : (fail f).Gives r) : sh.Performed t r := by
  rw [Access.gives_pure.mp h]
  exact .failed t f

theorem performed_load {path : Word} (h : (sh.load path).Gives r) :
    sh.Performed (.load path) r := by
  obtain ⟨a, ha, h⟩ := Access.gives_bind.mp h
  cases a with
  | error f => exact performed_of_fail h
  | ok m =>
    rw [Access.gives_pure.mp h]
    exact .loaded _ ha

theorem performed_save {path : Word} (h : (sh.save path).Gives r) :
    sh.Performed (.save path) r := by
  unfold save at h
  split at h
  · exact performed_of_say rfl h
  · obtain ⟨a, -, h⟩ := Access.gives_bind.mp h
    cases a with
    | error o => exact performed_of_fail h
    | ok u => exact performed_of_say rfl h

theorem performed_add {line : Word} (h : (sh.add line).Gives r) : sh.Performed (.add line) r := by
  unfold add at h
  split at h
  · exact performed_of_fail h
  · rename_i m hm
    rw [Access.gives_pure.mp h]
    exact .added _ hm

theorem performed_remove {label : Word} (h : (sh.remove label).Gives r) :
    sh.Performed (.remove label) r := by
  unfold remove at h
  split at h
  · rename_i hnone
    rw [Access.gives_pure.mp h]
    exact .absent _ hnone
  · rename_i s m hm
    rw [Access.gives_pure.mp h]
    exact .removed _ hm

theorem performed_run {input : Word} (h : (sh.run input).Gives r) :
    sh.Performed (.run input) r := by
  unfold run at h
  split at h
  · split at h
    · exact performed_of_fail h
    · exact performed_of_say rfl h
  · exact performed_of_say rfl h

theorem performed_history {on : Option Bool} (h : (sh.history on).Gives r) :
    sh.Performed (.history on) r := by
  cases on with
  | none => exact performed_of_say rfl h
  | some b =>
    rw [Access.gives_pure.mp h]
    exact .recording b _

theorem performed_saveSettings {path : Word} (h : (sh.saveSettings path).Gives r) :
    sh.Performed (.saveSettings path) r := by
  obtain ⟨a, -, h⟩ := Access.gives_bind.mp h
  cases a with
  | error f => exact performed_of_fail h
  | ok u => exact performed_of_say rfl h

theorem performed_perform (h : (sh.perform t).Gives r) : sh.Performed t r := by
  cases t with
  | load path => exact performed_load h
  | save path => exact performed_save h
  | add line => exact performed_add h
  | remove label => exact performed_remove h
  | run input => exact performed_run h
  | history on => exact performed_history h
  | saveSettings path => exact performed_saveSettings h
  | help | «show» | check | settings | usage | unknown => exact performed_of_say rfl h

theorem shell_of_beginStepping {input : Word} (h : (sh.beginStepping input).shell = some next) :
    ∃ s, next = { sh with session := s } := by
  unfold beginStepping at h
  split at h
  · split at h
    · obtain rfl := Option.some.inj h
      exact ⟨sh.session, rfl⟩
    · rename_i s _
      obtain rfl := Option.some.inj h
      exact ⟨some s, rfl⟩
  · obtain rfl := Option.some.inj h
    exact ⟨sh.session, rfl⟩

theorem shell_of_stepOnce {s : Session} (h : (sh.stepOnce s).shell = some next) :
    ∃ t, next = { sh with session := t } := by
  unfold stepOnce at h
  generalize s.step = r at h
  obtain ⟨taken, t⟩ := r
  cases taken with
  | error f =>
    obtain rfl := Option.some.inj h
    exact ⟨none, rfl⟩
  | ok b =>
    cases hdone : t.isDone with
    | true =>
      simp only [hdone, if_true] at h
      obtain rfl := Option.some.inj h
      exact ⟨none, rfl⟩
    | false =>
      simp only [hdone, Bool.false_eq_true, if_false] at h
      obtain rfl := Option.some.inj h
      exact ⟨some t, rfl⟩

/-- A step command changes nothing but the run that is stepped through. -/
theorem shell_of_stepping {s : Session} {c : StepCommand}
    (h : (sh.stepping s c).shell = some next) : ∃ t, next = { sh with session := t } := by
  cases c with
  | next => exact shell_of_stepOnce h
  | finish =>
    unfold stepping at h
    generalize s.finish = r at h
    cases r
    all_goals
      obtain rfl := Option.some.inj h
      exact ⟨none, rfl⟩
  | stop =>
    obtain rfl := Option.some.inj h
    exact ⟨none, rfl⟩
  | unknown name =>
    obtain rfl := Option.some.inj h
    exact ⟨sh.session, rfl⟩

/-- Everything a line can leave of the shell. -/
inductive Left (sh : Shell) : Shell → Prop
  | task {t : Task} {text : String} {next : Shell} (h : sh.Performed t (.ok (text, next))) :
    Left sh next
  | stepping (s : Option Session) : Left sh { sh with session := s }

theorem left_self : sh.Left sh := .stepping sh.session

theorem left_obey {c : Command} {reply : Reply} (h : (sh.obey c).Gives reply)
    (hr : reply.shell = some next) : sh.Left next := by
  cases c with
  | quit =>
    obtain rfl := Access.gives_pure.mp h
    cases hr
  | step input =>
    obtain rfl := Access.gives_pure.mp h
    obtain ⟨s, rfl⟩ := shell_of_beginStepping hr
    exact .stepping s
  | task t =>
    obtain ⟨a, ha, h⟩ := Access.gives_bind.mp h
    have hperformed := performed_perform ha
    cases a with
    | error f =>
      obtain rfl := Access.gives_pure.mp h
      obtain rfl := Option.some.inj hr
      exact left_self
    | ok a =>
      obtain rfl := Access.gives_pure.mp h
      obtain rfl := Option.some.inj hr
      exact .task hperformed

theorem left_answer {line : Word} {reply : Reply} (h : (sh.answer line).Gives reply)
    (hr : reply.shell = some next) : sh.Left next := by
  unfold answer at h
  split at h
  · obtain rfl := Access.gives_pure.mp h
    obtain ⟨s, rfl⟩ := shell_of_stepping hr
    exact .stepping s
  · split at h
    · obtain rfl := Access.gives_pure.mp h
      obtain rfl := Option.some.inj hr
      exact left_self
    · exact left_obey h hr

/-- A shell that the program can come to, from its opening on, by lines that are typed. -/
inductive Reachable : Shell → Prop
  | opened {p : Palette} {s : Settings} {machine : Option Word} {text : String} {sh : Shell}
    (h : (Program.opening p s machine).Gives ⟨text, .ok sh⟩) : Reachable sh
  | answered {sh next : Shell} {line : Word} {reply : Reply} (hsh : Reachable sh)
    (h : (sh.answerTyped line).Gives reply) (hr : reply.shell = some next) : Reachable next

theorem reachable_start (s : Settings) (p : Palette) : (start s p).Reachable := by
  have h : (Program.opening p s none).Gives ⟨_, .ok (start s p)⟩ := .done _
  exact .opened h

/-- A shell opens with no machine in it or with one that is loaded. -/
theorem opened_cases {p : Palette} {s : Settings} {machine : Option Word} {text : String}
    (h : (Program.opening p s machine).Gives ⟨text, .ok sh⟩) :
    sh = start s p ∨ ∃ path m, (Machine.load path s.run.lenient).Gives (.ok m) ∧
      sh = { start s p with machine := m } := by
  unfold Program.opening at h
  cases machine with
  | none =>
    cases Access.gives_pure.mp h
    exact .inl rfl
  | some path =>
    obtain ⟨a, ha, h⟩ := Access.gives_bind.mp h
    cases a with
    | error f => cases Access.gives_pure.mp h
    | ok m =>
      cases Access.gives_pure.mp h
      exact .inr ⟨path, m, ha, rfl⟩

end Shell

end Transducer
