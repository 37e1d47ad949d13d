import Transducer.Proofs.Words
import Transducer.Shell.Command

/-!
How a line of the shell is laid out, and what that makes of it. A line that is not blank is a word
for a command and an argument, with blanks between them and around them. Only four commands, each
under two names, can change anything, and only if their argument is of the right kind.
-/

namespace Transducer

open Word

namespace Command

variable {line name argument : Word}

/-- The line is a word for a command and an argument, with blanks between them and around them. -/
structure Layout (line name argument : Word) : Prop where
  solid : name.Solid
  trimmed : argument.Trimmed
  spaced : ∃ u v t : Word, u.isBlank = true ∧ v.isBlank = true ∧ t.isBlank = true ∧
    (v ≠ [] ∨ argument = []) ∧ line = u ++ (name ++ (v ++ (argument ++ t)))

/-- A line that is not blank is laid out in some way. -/
theorem exists_layout (h : line.isBlank = false) : ∃ name argument, Layout line name argument := by
  obtain ⟨u, hu, hline, hstops⟩ := exists_trimStart line
  have hne : line.trimStart ≠ [] := by
    intro hnil
    rw [hline, hnil, List.append_nil, hu] at h
    cases h
  obtain ⟨name, r, hr, hname, hbehind⟩ := exists_solid hstops hne
  obtain ⟨v, t, hv, ht, hargument⟩ := exists_trim r
  rw [hargument, (trimmed_trim r).stops_between_iff hv ht] at hbehind
  refine ⟨name, r.trim, hname, trimmed_trim r, u, v, t, hu, hv, ht, hbehind, ?_⟩
  rw [← hargument, ← hr]
  exact hline

namespace Layout

/-- What stands behind the first word begins with a blank, if with anything. -/
theorem exists_behind (h : Layout line name argument) :
    ∃ r, line.trimStart = name ++ r ∧ Stops (!Transducer.isBlank ·) r ∧ Word.trim r = argument ∧
      words r = words argument := by
  obtain ⟨u, v, t, hu, hv, ht, hgap, rfl⟩ := h.spaced
  refine ⟨v ++ (argument ++ t), trimStart_blanks hu (h.solid.stops_append _),
    (h.trimmed.stops_between_iff hv ht).mpr hgap, h.trimmed.trim_between hv ht, ?_⟩
  rw [words_append_of_isBlank hv, words_append_blanks _ ht]

theorem words_eq (h : Layout line name argument) : line.words = name :: argument.words := by
  obtain ⟨u, hu, hline, -⟩ := exists_trimStart line
  obtain ⟨r, hr, hstops, -, hwords⟩ := h.exists_behind
  rw [hline, words_append_of_isBlank hu, hr, h.solid.words_append hstops, hwords]

theorem cut_eq (h : Layout line name argument) : cut line = (name, argument) := by
  obtain ⟨r, hr, hstops, hargument, -⟩ := h.exists_behind
  rw [cut, hr, takeWhile_append_of_stops h.solid.all hstops,
    dropWhile_append_of_stops h.solid.all hstops, hargument]

theorem ofLine_eq (h : Layout line name argument) :
    ofLine line = .ofName name.lowercase argument := by
  rw [ofLine, h.cut_eq]

end Layout

theorem layout_of_words {w : Word} {ws : List Word} (h : line.words = w :: ws) :
    ∃ argument, Layout line w argument ∧ argument.words = ws := by
  have hblank : line.isBlank = false := by
    rw [Bool.eq_false_iff]
    intro hblank
    rw [words_of_isBlank hblank] at h
    cases h
  obtain ⟨name, argument, hlayout⟩ := exists_layout hblank
  obtain ⟨rfl, hwords⟩ := List.cons.inj (hlayout.words_eq.symm.trans h)
  exact ⟨argument, hlayout, hwords⟩

theorem head?_words_eq_some_iff {w : Word} :
    line.words.head? = some w ↔ ∃ argument, Layout line w argument := by
  constructor
  · intro h
    obtain ⟨ws, hws⟩ := List.head?_eq_some_iff.mp h
    obtain ⟨argument, hlayout, -⟩ := layout_of_words hws
    exact ⟨argument, hlayout⟩
  · intro h
    obtain ⟨argument, hlayout⟩ := h
    rw [hlayout.words_eq, List.head?_cons]

end Command

theorem Word.text_eq_iff {w : Word} {s : String} : w.text = s ↔ w = s.toList := by
  constructor
  · rintro rfl
    exact String.toList_ofList.symm
  · rintro rfl
    exact String.ofList_toList

namespace Task

variable {argument w : Word} {text : String} {of : Word → Task}

theorem needing_eq_iff {t : Task} (h : t ≠ usage text) :
    needing argument text of = t ↔ argument ≠ [] ∧ of argument = t := by
  cases argument with
  | nil => simp [needing, h.symm]
  | cons c w => simp [needing]

theorem ofRemove_eq_remove_iff :
    ofRemove argument = remove w ↔ ∃ rest, Command.Layout argument w rest := by
  rw [← Command.head?_words_eq_some_iff, ofRemove]
  cases argument.words <;> simp

theorem ofHistory_eq_history_iff {on : Bool} :
    ofHistory argument = history (some on) ↔ ∃ w rest, Command.Layout argument w rest ∧
      w.lowercase = (if on then "on" else "off").toList := by
  have hhead : ofHistory argument = history (some on) ↔
      argument.words.head?.map Word.lowercase = some (if on then "on" else "off").toList := by
    unfold ofHistory
    split
    · next h => simp [h]
    · next w h =>
      rw [h, Option.some.injEq]
      split
      · next hw => cases on <;> simp [hw]
      · next hw =>
        split
        · next hw' => cases on <;> simp [hw']
        · next hw' =>
          cases on with
          | true => exact iff_of_false nofun hw
          | false => exact iff_of_false nofun hw'
  simp only [hhead, Option.map_eq_some_iff, Command.head?_words_eq_some_iff]
  constructor
  · rintro ⟨w, ⟨rest, hlayout⟩, hw⟩
    exact ⟨w, rest, hlayout, hw⟩
  · rintro ⟨w, rest, hlayout, hw⟩
    exact ⟨w, ⟨rest, hlayout⟩, hw⟩

end Task

/-- The commands that may change something. -/
inductive Mutator where
  | load
  | add
  | remove
  | history

namespace Mutator

variable {name argument : Word} {t : Task} {k l : Mutator}

/-- The names of the command, in small letters. -/
def names : Mutator → List Word
  | load => ["load".toList, "l".toList]
  | add => ["add".toList, "a".toList]
  | remove => ["remove".toList, "rm".toList]
  | history => ["history".toList, "h".toList]

/-- What the command asks for. -/
def task (argument : Word) : Mutator → Task
  | load => .needing argument "Usage: load <file>" .load
  | add => .needing argument "Usage: add <state line>" .add
  | remove => .ofRemove argument
  | history => .ofHistory argument

/-- The command with which a task can be asked for, if the task may change something. -/
def ofTask? : Task → Option Mutator
  | .load _ => some load
  | .add _ => some add
  | .remove _ => some remove
  | .history (some _) => some history
  | _ => none

theorem ofTask?_ofSettings (argument : Word) : ofTask? (.ofSettings argument) = none := by
  unfold Task.ofSettings
  split
  · rfl
  · split
    · rfl
    · split <;> rfl

theorem eq_of_ofTask?_task (h : ofTask? (k.task argument) = some l) : k = l := by
  cases k with
  | load | add =>
    cases argument with
    | nil => cases h
    | cons c w => exact Option.some.inj h
  | remove =>
    change ofTask? (.ofRemove argument) = some l at h
    unfold Task.ofRemove at h
    split at h
    · cases h
    · exact Option.some.inj h
  | history =>
    change ofTask? (.ofHistory argument) = some l at h
    unfold Task.ofHistory at h
    split at h
    · cases h
    · split at h
      · exact Option.some.inj h
      · split at h
        · exact Option.some.inj h
        · cases h

theorem ofName_of_mem (h : name ∈ k.names) :
    Command.ofName name argument = .task (k.task argument) := by
  cases k with
  | load | add | remove | history =>
    simp only [names, List.mem_cons, List.not_mem_nil, or_false] at h
    rcases h with rfl | rfl <;> rfl

/-- Under any other name nothing is asked for that may change something. -/
theorem ofTask?_of_ofName (h : ∀ k, name ∉ names k)
    (ht : Command.ofName name argument = .task t) : ofTask? t = none := by
  have hname (k : Mutator) {s : String} (hs : s.toList ∈ k.names) : name.text ≠ s :=
    fun htext => h k (Word.text_eq_iff.mp htext ▸ hs)
  unfold Command.ofName at ht
  split at ht
  case h_5 =>
    cases ht
    unfold Task.ofName
    split
    case h_3 e | h_4 e => exact absurd e (hname .load (by decide))
    case h_6 e | h_7 e => exact absurd e (hname .add (by decide))
    case h_8 e | h_9 e => exact absurd e (hname .remove (by decide))
    case h_16 e | h_17 e => exact absurd e (hname .history (by decide))
    case h_5 => cases argument <;> rfl
    case h_18 => exact ofTask?_ofSettings argument
    all_goals rfl
  all_goals cases ht

/-- A task that may change something is asked for under the names of one command only. -/
theorem ofName_eq_iff (ht : ofTask? t = some k) :
    Command.ofName name argument = .task t ↔ name ∈ k.names ∧ k.task argument = t := by
  constructor
  · intro h
    by_cases hname : ∃ l, name ∈ names l
    · obtain ⟨l, hl⟩ := hname
      have htask := Command.task.inj ((ofName_of_mem hl).symm.trans h)
      obtain rfl := eq_of_ofTask?_task ((congrArg ofTask? htask).trans ht)
      exact ⟨hl, htask⟩
    · have hother := ofTask?_of_ofName (not_exists.mp hname) h
      rw [ht] at hother
      cases hother
  · intro h
    obtain ⟨hname, rfl⟩ := h
    exact ofName_of_mem hname

end Mutator

/-- Which names and arguments ask for a change of the machine, or of the settings. -/
structure Command.Reserved (name argument : Word) (c : Command) : Prop where
  load : ∀ path, c = .task (.load path) ↔
    name ∈ ["load".toList, "l".toList] ∧ argument ≠ [] ∧ argument = path
  add : ∀ line, c = .task (.add line) ↔
    name ∈ ["add".toList, "a".toList] ∧ argument ≠ [] ∧ argument = line
  remove : ∀ label, c = .task (.remove label) ↔
    name ∈ ["remove".toList, "rm".toList] ∧ ∃ rest, Layout argument label rest
  history : ∀ on, c = .task (.history (some on)) ↔
    name ∈ ["history".toList, "h".toList] ∧ ∃ w rest, Layout argument w rest ∧
      w.lowercase = (if on then "on" else "off").toList

theorem Command.Layout.reserved {line name argument : Word} (h : Layout line name argument) :
    Reserved name.lowercase argument (ofLine line) := by
  rw [h.ofLine_eq]
  constructor
  · intro path
    rw [Mutator.ofName_eq_iff (k := .load) rfl, Mutator.task,
      Task.needing_eq_iff (t := .load path) nofun, Task.load.injEq]
    rfl
  · intro line
    rw [Mutator.ofName_eq_iff (k := .add) rfl, Mutator.task,
      Task.needing_eq_iff (t := .add line) nofun, Task.add.injEq]
    rfl
  · intro label
    rw [Mutator.ofName_eq_iff (k := .remove) rfl, Mutator.task, Task.ofRemove_eq_remove_iff]
    rfl
  · intro on
    rw [Mutator.ofName_eq_iff (k := .history) rfl, Mutator.task, Task.ofHistory_eq_history_iff]
    rfl

end Transducer
