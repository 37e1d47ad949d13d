import Transducer.Proofs.Palette
import Transducer.Proofs.Request
import Transducer.Proofs.Shell.Conversation
import Transducer.Proofs.Shell.Layout
import Transducer.Proofs.Shell.Lines

/-!
What lines change in a shell. A line makes one change at most, and only if its command succeeds;
what the shell holds after any lines is what these changes make of what it held before.
-/

namespace Transducer

/-- A change of the machine or of the settings. -/
inductive Change where
  | loaded (path : Word) (m : Machine)
  | added (s : State)
  | removed (label : Word)
  | recording (on : Bool)

namespace Change

/-- The states after a change: those of the new machine, one more, or one less. -/
def states : List State → Change → List State
  | _, loaded _ m => m.states
  | ss, added s => ss ++ [s]
  | ss, removed l => ss.eraseP (·.label == l)
  | ss, recording _ => ss

def recorded : Bool → Change → Bool
  | _, recording on => on
  | old, _ => old

/-- What is said of a change. -/
def report (p : Palette) : Change → String
  | loaded path m => p.paint .green "Loaded" ++ s!" {m.size} states from {path.text}"
  | added s => p.paint .green "Added" ++ " " ++ p.paint .cyan s.label.text
  | removed l => p.paint .green "Removed" ++ " " ++ p.paint .cyan l.text
  | recording on => if on then "History on" else "History off"

theorem report_ne_error (c : Change) (p : Palette) (message rest after : String) :
    c.report p ++ rest ≠ Report.error p message ++ after := by
  cases c with
  | loaded path m =>
    rw [report, String.append_assoc]
    exact Report.error_ne_success p message (by simp) _ _
  | added s =>
    rw [report, String.append_assoc, String.append_assoc]
    exact Report.error_ne_success p message (by simp) _ _
  | removed l =>
    rw [report, String.append_assoc, String.append_assoc]
    exact Report.error_ne_success p message (by simp) _ _
  | recording on =>
    have hreport : (recording on).report p = "History" ++ if on then " on" else " off" := by
      cases on <;> rfl
    rw [hreport, String.append_assoc]
    exact Report.error_ne_history p message _ _

end Change

namespace Shell

/-- What a task changes if it succeeds: a file is there that holds a machine, a line is a state with
a label that is free, or a label has a state. -/
def taskChange? (sh : Shell) (f : Folder) : Task → Option Change
  | .load path =>
    ((Machine.load path sh.settings.run.lenient).runOn f).1.toOption.map (.loaded path)
  | .add line => ((State.parse line).toOption.filter (!sh.machine.has ·.label)).map .added
  | .remove label => if sh.machine.has label then some (.removed label) else none
  | .history on => on.map .recording
  | _ => none

/-- What a line changes. While a run is stepped through it changes nothing. -/
def change? (sh : Shell) (f : Folder) (line : Word) : Option Change :=
  match sh.session, Command.ofLine line.typed with
  | none, .task t => sh.taskChange? f t
  | _, _ => none

/-- What lines change, in order, up to the one with which the user leaves. -/
def changes (sh : Shell) (f : Folder) : List Word → List Change
  | [] => []
  | l :: ls =>
    (sh.change? f l).toList ++
      match (sh.answerTyped l).runOn f with
      | (⟨_, none⟩, _) => []
      | (⟨_, some next⟩, g) => next.changes g ls

/-- The second shell holds what the changes make of what the first one holds. Of the settings, they
only reach whether runs are recorded. -/
structure Changed (sh : Shell) (cs : List Change) (next : Shell) : Prop where
  states : next.machine.states = cs.foldl Change.states sh.machine.states
  settings : next.settings =
    { sh.settings with run.history := cs.foldl Change.recorded sh.settings.run.history }
  palette : next.palette = sh.palette

variable {sh next : Shell} {f g : Folder} {t : Task} {line : Word} {text : String}

theorem Changed.self (s : Option Session) : sh.Changed [] { sh with session := s } :=
  ⟨rfl, rfl, rfl⟩

theorem Changed.eq (h : sh.Changed [] next) :
    next.machine = sh.machine ∧ next.settings = sh.settings :=
  ⟨Machine.eq_of_states h.states, h.settings⟩

theorem Changed.append {last : Shell} {cs ds : List Change} (h : sh.Changed cs next)
    (h' : next.Changed ds last) : sh.Changed (cs ++ ds) last where
  states := by rw [h'.states, h.states, List.foldl_append]
  settings := by rw [h'.settings, h.settings, List.foldl_append]
  palette := h'.palette.trans h.palette

/-- What a task gives is told by what it changes: with a change, success and a report of it;
without one, a shell that is as it was. -/
inductive Made (sh : Shell) : Option Change → Except Failure (String × Shell) → Prop
  | changed {c : Change} {next : Shell} (h : sh.Changed [c] next) :
    Made sh (some c) (.ok (c.report sh.palette, next))
  | said (text : String) : Made sh none (.ok (text, sh))
  | failed (e : Failure) : Made sh none (.error e)

theorem made_load (sh : Shell) (f : Folder) (path : Word) :
    sh.Made (sh.taskChange? f (.load path)) ((sh.load path).runOn f).1 := by
  cases hload : ((Machine.load path sh.settings.run.lenient).runOn f).1 with
  | error e =>
    simp only [taskChange?, load, Access.runOn_bind, hload]
    exact .failed e
  | ok m =>
    simp only [taskChange?, load, Access.runOn_bind, hload]
    exact .changed ⟨rfl, rfl, rfl⟩

theorem made_add (sh : Shell) (f : Folder) (line : Word) :
    sh.Made (sh.taskChange? f (.add line)) ((sh.add line).runOn f).1 := by
  cases hline : State.parse line with
  | error offset =>
    simp only [taskChange?, add, Machine.addLine, hline]
    exact .failed _
  | ok s =>
    by_cases hs : sh.machine.has s.label = true
    · have hadd : sh.machine.addLine line = .error (.duplicateState s.label) := by
        rw [Machine.addLine, hline]
        exact Machine.add_eq_error_iff.mpr ⟨hs, rfl⟩
      simp only [taskChange?, add, hadd, hline, Except.toOption, Option.filter, hs]
      exact .failed _
    · obtain ⟨m, hm⟩ := Machine.exists_add (mt Machine.has_iff.mpr hs)
      have hadd : sh.machine.addLine line = .ok m := by rw [Machine.addLine, hline, ← hm]
      have hstates := Machine.states_add hm
      have hlast : m.labels.getLast?.getD [] = s.label := by simp [Machine.labels, hstates]
      simp only [taskChange?, add, hadd, hline, Except.toOption, Option.filter, hs, hlast]
      exact .changed ⟨hstates, rfl, rfl⟩

theorem eraseP_label {before after : List State} {s : State}
    (hd : ((before ++ s :: after).map State.label).Nodup) :
    (before ++ s :: after).eraseP (·.label == s.label) = before ++ after := by
  rw [List.map_append, List.map_cons, List.nodup_append] at hd
  have hbefore : ∀ t ∈ before, ¬ (t.label == s.label) = true := by
    intro t ht
    simpa using hd.2.2 _ (List.mem_map_of_mem ht) _ List.mem_cons_self
  rw [List.eraseP_append_right _ hbefore, List.eraseP_cons_of_pos (by simp)]

theorem made_remove (sh : Shell) (f : Folder) (label : Word) :
    sh.Made (sh.taskChange? f (.remove label)) ((sh.remove label).runOn f).1 := by
  cases hremove : sh.machine.remove label with
  | none =>
    have hlabel := mt Machine.has_iff.mp (Machine.remove_eq_none_iff.mp hremove)
    simp only [taskChange?, remove, hremove, if_neg hlabel]
    exact .said _
  | some r =>
    obtain ⟨s, m⟩ := r
    obtain ⟨before, after, hstates, rfl, hm⟩ := Machine.remove_eq_some_iff.mp hremove
    have hmem : s ∈ sh.machine.states := hstates ▸ List.mem_append_right _ List.mem_cons_self
    have hlabel : sh.machine.has s.label = true := Machine.has_iff.mpr (List.mem_map_of_mem hmem)
    have herased : m.states = sh.machine.states.eraseP (·.label == s.label) := by
      have hdistinct := sh.machine.distinct
      rw [hstates] at hdistinct
      rw [hm, hstates, eraseP_label hdistinct]
    simp only [taskChange?, remove, hremove, if_pos hlabel]
    exact .changed ⟨herased, rfl, rfl⟩

theorem made_of_isIdle (f : Folder) (h : t.isIdle = true) :
    sh.Made none ((sh.perform t).runOn f).1 := by
  have hperformed := performed_perform (Access.gives_runOn (sh.perform t) f)
  generalize ((sh.perform t).runOn f).1 = r at hperformed
  cases hperformed with
  | said text => exact .said text
  | failed _ e => exact .failed e
  | absent text => exact .said text
  | loaded | added | removed | recording => cases h

theorem made_perform (sh : Shell) (f : Folder) (t : Task) :
    sh.Made (sh.taskChange? f t) ((sh.perform t).runOn f).1 := by
  cases t with
  | load path => exact made_load sh f path
  | add line => exact made_add sh f line
  | remove label => exact made_remove sh f label
  | history on =>
    cases on with
    | none => exact made_of_isIdle f rfl
    | some on => exact .changed ⟨rfl, rfl, rfl⟩
  | save | run | saveSettings | help | «show» | check | settings | usage | unknown =>
    exact made_of_isIdle f rfl

/-- What a line comes to is told by what it changes. -/
inductive Answered (sh : Shell) : Option Change → Reply → Prop
  | changed {c : Change} {next : Shell} (h : sh.Changed [c] next) :
    Answered sh (some c) ⟨block (c.report sh.palette), some next⟩
  | said (text : String) {next : Shell} (h : sh.Changed [] next) :
    Answered sh none ⟨text, some next⟩
  | left (text : String) : Answered sh none ⟨text, none⟩

theorem answered_of_session {reply : Reply}
    (h : ∀ next, reply.shell = some next → ∃ s, next = { sh with session := s }) :
    sh.Answered none reply := by
  obtain ⟨text, shell⟩ := reply
  cases shell with
  | none => exact .left text
  | some next =>
    obtain ⟨s, rfl⟩ := h next rfl
    exact .said text (.self s)

theorem answered_task (sh : Shell) (f : Folder) (t : Task) :
    sh.Answered (sh.taskChange? f t) ((sh.obey (.task t)).runOn f).1 := by
  have hmade := made_perform sh f t
  rw [obey, Access.runOn_bind]
  generalize sh.taskChange? f t = c, ((sh.perform t).runOn f).1 = r at hmade
  cases hmade with
  | changed h => exact .changed h
  | said text => exact .said _ (.self sh.session)
  | failed e => exact .said _ (.self sh.session)

theorem answered (sh : Shell) (f : Folder) (line : Word) :
    sh.Answered (sh.change? f line) ((sh.answerTyped line).runOn f).1 := by
  rw [answerTyped, answer, change?]
  cases hsession : sh.session with
  | some s => exact answered_of_session fun next hnext => shell_of_stepping hnext
  | none =>
    by_cases hblank : line.typed.isBlank = true
    · rw [Command.ofLine_of_isBlank hblank, if_pos hblank]
      exact .said "" (.self sh.session)
    · rw [if_neg hblank]
      cases Command.ofLine line.typed with
      | quit => exact .left ""
      | step input => exact answered_of_session fun next hnext => shell_of_beginStepping hnext
      | task t => exact answered_task sh f t

theorem changed_replies {lines : List Word}
    (h : sh.replies f lines = (⟨text, some next⟩, g)) : sh.Changed (sh.changes f lines) next := by
  induction lines generalizing sh f text with
  | nil =>
    cases h
    exact .self _
  | cons l ls ih =>
    obtain ⟨said, rest, mid, f', hl, hrest, -⟩ := exists_of_replies_cons h
    have hanswered := sh.answered f l
    rw [hl] at hanswered
    rw [changes, hl]
    generalize sh.change? f l = c at hanswered
    cases hanswered with
    | changed hmid => exact hmid.append (ih hrest)
    | said _ hmid => exact hmid.append (ih hrest)

/-- A task fails on the files: one cannot be read or holds no machine, a line is no state or its
label is taken, or a file cannot be written. -/
inductive Fails (sh : Shell) (f : Folder) : Task → Failure → Prop
  | unreadable {path : Word} {o : Obstacle} (h : f.read path = .error o) :
    Fails sh f (.load path) (.unreadable path o)
  | faulty {path w : Word} {e : Fault} (hread : f.read path = .ok w)
    (h : Machine.ofFileText path sh.settings.run.lenient w = .error e) :
    Fails sh f (.load path) (.faulty path e)
  | noState {line : Word} {offset : Nat} (h : State.parse line = .error offset) :
    Fails sh f (.add line) (.fault (.parse 1 offset))
  | taken {line : Word} {s : State} (hline : State.parse line = .ok s)
    (h : sh.machine.has s.label = true) :
    Fails sh f (.add line) (.fault (.duplicateState s.label))
  | unsaved {path w : Word} {o : Obstacle} (hw : sh.machine.toFileText path = .ok w)
    (h : f.write path w = .error o) : Fails sh f (.save path) (.unwritten o)
  | settingsUnsaved {path : Word} {o : Obstacle}
    (h : f.write path sh.settings.toText = .error o) :
    Fails sh f (.saveSettings path) (.settings (.inaccessible path o))

theorem runOn_perform_of_fails {e : Failure} (h : sh.Fails f t e) :
    (sh.perform t).runOn f = (.error e, f) := by
  cases h with
  | unreadable h => simp [perform, load, Machine.load, Access.readFile, Access.runOn, h]
  | faulty hread h =>
    simp [perform, load, Machine.load, Access.readFile, Access.runOn, hread, h]
  | noState h => simp [perform, add, fail, Machine.addLine, h]
  | taken hline h =>
    have hadd := Machine.add_eq_error_iff.mpr ⟨h, rfl⟩
    simp [perform, add, fail, Machine.addLine, hline, hadd]
  | unsaved hw h =>
    simp [perform, save, hw, Access.writeFile, Access.runOn, Folder.attempt, h]
  | settingsUnsaved h =>
    rw [Settings.toText] at h
    simp [perform, saveSettings, Settings.save, Settings.saveIn, Access.writeFile, Access.runOn,
      Folder.attempt, h]

theorem runOn_answerTyped_of_fails {e : Failure} (hsession : sh.session = none)
    (hline : Command.ofLine line.typed = .task t) (h : sh.Fails f t e) :
    (sh.answerTyped line).runOn f =
      (⟨block (Report.error sh.palette e.message), some sh⟩, f) := by
  have hnamed : Command.task t ≠ .task (.unknown []) := by
    rintro ⟨rfl⟩
    cases h
  simp [answerTyped_eq_obey hsession hline hnamed, obey, runOn_perform_of_fails h]

theorem reported_of_change? {c : Change} (hc : sh.change? f line = some c)
    (h : (sh.answerTyped line).runOn f = (⟨text, some next⟩, g)) :
    text = block (c.report sh.palette) ∧ sh.Changed [c] next := by
  have hanswered := sh.answered f line
  rw [h, hc] at hanswered
  cases hanswered with
  | changed hnext => exact ⟨rfl, hnext⟩

/-- A line that is answered without the user leaving changes nothing, or is a task that makes a
change and reports it. -/
theorem answered_cases (h : (sh.answerTyped line).runOn f = (⟨text, some next⟩, g)) :
    sh.Changed [] next ∨ ∃ t c, Command.ofLine line.typed = .task t ∧
      sh.taskChange? f t = some c ∧ text = block (c.report sh.palette) ∧ sh.Changed [c] next := by
  cases hc : sh.change? f line with
  | none =>
    have hanswered := sh.answered f line
    rw [h, hc] at hanswered
    cases hanswered with
    | said _ hnext => exact .inl hnext
  | some c =>
    obtain ⟨htext, hnext⟩ := reported_of_change? hc h
    unfold change? at hc
    split at hc
    · rename_i t _ hline
      exact .inr ⟨t, c, hline, hc, htext, hnext⟩
    · cases hc

/-- A change is one of the machine, by one of three tasks, or turns recording on or off. -/
theorem edit_or_recording {c : Change} (h : sh.taskChange? f t = some c) :
    ((∃ w, t ∈ [Task.load w, .add w, .remove w]) ∧ ∀ old, Change.recorded old c = old) ∨
      ∃ on, t = .history (some on) ∧ c = .recording on := by
  cases t with
  | load path =>
    obtain ⟨m, -, rfl⟩ := Option.map_eq_some_iff.mp h
    exact .inl ⟨⟨path, by simp⟩, fun old => rfl⟩
  | add w =>
    obtain ⟨s, -, rfl⟩ := Option.map_eq_some_iff.mp h
    exact .inl ⟨⟨w, by simp⟩, fun old => rfl⟩
  | remove l =>
    obtain ⟨-, he⟩ := Option.ite_none_right_eq_some.mp h
    obtain rfl := Option.some.inj he
    exact .inl ⟨⟨l, by simp⟩, fun old => rfl⟩
  | history on =>
    obtain ⟨on, rfl, rfl⟩ := Option.map_eq_some_iff.mp h
    exact .inr ⟨on, rfl, rfl⟩
  | save | run | saveSettings | help | «show» | check | settings | usage | unknown => cases h

theorem eq_of_error {message : String} (h : (sh.answerTyped line).runOn f =
      (⟨block (Report.error sh.palette message), some next⟩, g)) :
    next.machine = sh.machine ∧ next.settings = sh.settings := by
  rcases answered_cases h with hnext | ⟨t, c, -, -, htext, -⟩
  · exact hnext.eq
  · exact absurd htext.symm (c.report_ne_error _ _ _ _)

theorem machine_eq_of_not_edit (h : (sh.answerTyped line).runOn f = (⟨text, some next⟩, g))
    (hline : ∀ w, Command.ofLine line.typed ∉
      [.task (.load w), .task (.add w), .task (.remove w)]) : next.machine = sh.machine := by
  rcases answered_cases h with hnext | ⟨t, c, ht, hc, -, hnext⟩
  · exact hnext.eq.1
  rcases edit_or_recording hc with ⟨⟨w, hw⟩, -⟩ | ⟨on, -, rfl⟩
  · exact absurd (ht ▸ List.mem_map_of_mem hw) (hline w)
  · exact Machine.eq_of_states hnext.states

theorem settings_eq_of_not_recording
    (h : (sh.answerTyped line).runOn f = (⟨text, some next⟩, g))
    (hline : ∀ on, Command.ofLine line.typed ≠ .task (.history (some on))) :
    next.settings = sh.settings := by
  rcases answered_cases h with hnext | ⟨t, c, ht, hc, -, hnext⟩
  · exact hnext.eq.2
  rcases edit_or_recording hc with ⟨-, hsame⟩ | ⟨on, rfl, -⟩
  · exact hnext.settings.trans (by simp [hsame])
  · exact absurd ht (hline on)

theorem eq_of_isBlank (h : (sh.answerTyped line).runOn f = (⟨text, some next⟩, g))
    (hblank : line.typed.isBlank = true) :
    next.machine = sh.machine ∧ next.settings = sh.settings := by
  have hline := Command.ofLine_of_isBlank hblank
  have hedit : ∀ w, Command.ofLine line.typed ∉
      [.task (.load w), .task (.add w), .task (.remove w)] := by simp [hline]
  have hrecording : ∀ on, Command.ofLine line.typed ≠ .task (.history (some on)) := by simp [hline]
  exact ⟨machine_eq_of_not_edit h hedit, settings_eq_of_not_recording h hrecording⟩

/-- Only under six names is the machine changed. -/
theorem machine_eq_of_name {name argument : Word}
    (h : (sh.answerTyped line).runOn f = (⟨text, some next⟩, g))
    (hlayout : Command.Layout line.typed name argument)
    (hname : name.lowercase ∉ ["load", "l", "add", "a", "remove", "rm"].map String.toList) :
    next.machine = sh.machine := by
  have hreserved := hlayout.reserved
  refine machine_eq_of_not_edit h fun w hw => hname ?_
  simp only [List.mem_cons, List.not_mem_nil, or_false] at hw
  rcases hw with hw | hw | hw
  · have hload := ((hreserved.load w).mp hw).1
    exact List.mem_append_left ["add".toList, "a".toList, "remove".toList, "rm".toList] hload
  · have hadd := ((hreserved.add w).mp hw).1
    exact List.mem_append_right ["load".toList, "l".toList]
      (List.mem_append_left ["remove".toList, "rm".toList] hadd)
  · have hremove := ((hreserved.remove w).mp hw).1
    exact List.mem_append_right ["load".toList, "l".toList, "add".toList, "a".toList] hremove

/-- Only under two names are the settings changed, and only by an argument that begins with one of
two words. -/
theorem settings_eq_of_name {name argument : Word}
    (h : (sh.answerTyped line).runOn f = (⟨text, some next⟩, g))
    (hlayout : Command.Layout line.typed name argument)
    (hname : name.lowercase ∈ ["history".toList, "h".toList] →
      ∀ w rest, Command.Layout argument w rest → w.lowercase ∉ ["on".toList, "off".toList]) :
    next.settings = sh.settings := by
  refine settings_eq_of_not_recording h fun on hon => ?_
  obtain ⟨hhistory, w, rest, hw, hlower⟩ := (hlayout.reserved.history on).mp hon
  refine hname hhistory w rest hw ?_
  rw [hlower]
  cases on <;> simp

/-- The label that is said to be added is that of a new state, the last one. -/
theorem exists_last_of_added {w l : Word} (hsession : sh.session = none)
    (hline : Command.ofLine line.typed = .task (.add w))
    (h : (sh.answerTyped line).runOn f = (⟨block (sh.palette.paint .green "Added" ++ " " ++
      sh.palette.paint .cyan l.text), some next⟩, g)) :
    ∃ s, State.parse w = .ok s ∧ s.label = l ∧
      next.machine.states = sh.machine.states ++ [s] := by
  have hno (e : Failure) : ¬ sh.Fails f (.add w) e := by
    intro hfails
    have hreply := h.symm.trans (runOn_answerTyped_of_fails hsession hline hfails)
    have htext : block _ = block _ := congrArg (·.1.text) hreply
    rw [block, block, String.append_assoc, String.append_assoc] at htext
    exact Report.error_ne_success sh.palette e.message (by simp) _ _ htext
  cases hw : State.parse w with
  | error offset => exact absurd (.noState hw) (hno _)
  | ok s =>
    by_cases hs : sh.machine.has s.label = true
    · exact absurd (.taken hw hs) (hno _)
    · have hchange : sh.change? f line = some (.added s) := by
        simp [change?, hsession, hline, taskChange?, hw, hs, Except.toOption, Option.filter]
      obtain ⟨htext, hnext⟩ := reported_of_change? hchange h
      have hpainted : sh.palette.paint .cyan l.text = sh.palette.paint .cyan s.label.text := by
        simpa [block, Change.report] using htext
      have hlabel := String.ofList_injective (Palette.paint_injective _ _ hpainted)
      exact ⟨s, rfl, hlabel.symm, hnext.states⟩

/-- What a shell holds after lines is what their changes make of what it held before, each line
being answered on the files that those before it left. Of a single line, an error is no change, and
the failures that the tasks can meet are errors; a change is one of the machine only if the line
loads, adds or removes, and one of the settings only if it turns recording on or off; and the label
that is said to be added is that of the last state, which is new. Which lines these are is told by
their first word, in any case, and by what follows it. -/
theorem changed_only_by_edits (sh : Shell) (f : Folder) :
    (∀ lines text next g, sh.replies f lines = (⟨text, some next⟩, g) →
      (sh.converse lines).runOn f = (text ++ next.farewell, g) ∧
      sh.Changed (sh.changes f lines) next) ∧
    (∀ line : Word, backspace ∉ line → line.typed = line) ∧
    (∀ w : Word, (∀ c ∈ w, c.toNat < 128) → w.lowercase = w.map Char.toLower) ∧
    (∀ line : Word, line.isBlank = false → ∃ name argument, Command.Layout line name argument) ∧
    (∀ line name argument, Command.Layout line name argument →
      Command.Reserved name.lowercase argument (Command.ofLine line)) ∧
    ∀ line text next g, (sh.answerTyped line).runOn f = (⟨text, some next⟩, g) →
      (∀ c, sh.change? f line = some c → text = block (c.report sh.palette)) ∧
      (∀ message, text = block (Report.error sh.palette message) →
        next.machine = sh.machine ∧ next.settings = sh.settings) ∧
      (∀ t e, sh.session = none → Command.ofLine line.typed = .task t → sh.Fails f t e →
        text = block (Report.error sh.palette e.message) ∧ next = sh ∧ g = f) ∧
      ((∀ w, Command.ofLine line.typed ∉ [.task (.load w), .task (.add w), .task (.remove w)]) →
        next.machine = sh.machine) ∧
      ((∀ on, Command.ofLine line.typed ≠ .task (.history (some on))) →
        next.settings = sh.settings) ∧
      (∀ w l, sh.session = none → Command.ofLine line.typed = .task (.add w) →
        text = block (sh.palette.paint .green "Added" ++ " " ++
          sh.palette.paint .cyan l.text) →
        ∃ s, State.parse w = .ok s ∧ s.label = l ∧
          next.machine.states = sh.machine.states ++ [s]) ∧
      (line.typed.isBlank = true → next.machine = sh.machine ∧ next.settings = sh.settings) ∧
      ∀ name argument, Command.Layout line.typed name argument →
        (name.lowercase ∉ ["load", "l", "add", "a", "remove", "rm"].map String.toList →
          next.machine = sh.machine) ∧
        ((name.lowercase ∈ ["history".toList, "h".toList] → ∀ w rest,
            Command.Layout argument w rest → w.lowercase ∉ ["on".toList, "off".toList]) →
          next.settings = sh.settings) := by
  refine ⟨fun lines text next g h => ⟨?_, changed_replies h⟩, fun line => Typing.typed_of_not_mem,
    fun w => Word.lowercase_of_ascii, fun line => Command.exists_layout,
    fun line name argument h => h.reserved, fun line text next g h => ?_⟩
  · rw [runOn_converse, h]
    rfl
  refine ⟨?_, ?_, ?_, machine_eq_of_not_edit h, settings_eq_of_not_recording h, ?_,
    eq_of_isBlank h, fun name argument hlayout =>
      ⟨machine_eq_of_name h hlayout, settings_eq_of_name h hlayout⟩⟩
  · intro c hc
    exact (reported_of_change? hc h).1
  · rintro message rfl
    exact eq_of_error h
  · intro t e hsession hline hfails
    cases h.symm.trans (runOn_answerTyped_of_fails hsession hline hfails)
    exact ⟨rfl, rfl, rfl⟩
  · rintro w l hsession hline rfl
    exact exists_last_of_added hsession hline h

end Shell

end Transducer
