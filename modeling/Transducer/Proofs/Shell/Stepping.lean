import Transducer.Proofs.Report
import Transducer.Proofs.Request
import Transducer.Proofs.Session.Safety
import Transducer.Proofs.Shell.Conversation
import Transducer.Proofs.Shell.Layout
import Transducer.Proofs.Shell.Lines
import Transducer.Proofs.Watching

/-!
Stepping through a run in the shell. However the lines mix steps with others, what is shown is the
run that is made in one go, and the first line that ends the stepping is the last one that belongs
to it.
-/

namespace Transducer

namespace StepCommand

variable {line said : Word} {c : StepCommand}

/-- The line is a word with blanks around it, and this is the word in small letters. The word may
have blanks inside it, or be empty. -/
def Says (line said : Word) : Prop :=
  ∃ u w v : Word, u.isBlank = true ∧ v.isBlank = true ∧ w.Trimmed ∧ line = u ++ (w ++ v) ∧
    said = w.lowercase

/-- What is understood when a word is said. -/
structure Understood (said : Word) (c : StepCommand) : Prop where
  next : c = .next ↔ said ∈ ["", "next", "n"].map String.toList
  finish : c = .finish ↔ said ∈ ["finish", "f"].map String.toList
  stop : c = .stop ↔ said ∈ ["stop", "s"].map String.toList
  unknown : ∀ name, c = .unknown name ↔ name = said ∧
    said ∉ ["", "next", "n", "finish", "f", "stop", "s"].map String.toList

theorem exists_says (line : Word) : ∃ said, Says line said := by
  obtain ⟨u, v, hu, hv, hline⟩ := Word.exists_trim line
  exact ⟨_, u, line.trim, v, hu, hv, Word.trimmed_trim line, hline, rfl⟩

theorem Says.lowercase_trim (h : Says line said) : line.trim.lowercase = said := by
  obtain ⟨u, w, v, hu, hv, hw, rfl, rfl⟩ := h
  rw [hw.trim_between hu hv]

theorem Says.understood (h : Says line said) : Understood said (ofLine line) := by
  rw [ofLine, h.lowercase_trim]
  split
  case h_8 h₁ h₂ h₃ h₄ h₅ h₆ h₇ =>
    rw [imp_false, Word.text_eq_iff] at h₁ h₂ h₃ h₄ h₅ h₆ h₇
    constructor <;> simp_all [eq_comm]
  all_goals
    rename_i hsaid
    rw [Word.text_eq_iff] at hsaid
    subst hsaid
    constructor <;> simp

end StepCommand

namespace Shell

/-- What a line says to a shell that steps through a run. -/
def stepCommand (line : Word) : StepCommand := .ofLine line.typed

/-- The number of lines that ask for a step. -/
def steps (lines : List Word) : Nat := lines.countP (stepCommand · = .next)

/-- The lines do not end the stepping through a run of `n` transitions: none of them leaves it, and
they do not ask for a step too many. -/
structure Ongoing (n : Nat) (lines : List Word) : Prop where
  stays : ∀ l ∈ lines, stepCommand l ≠ .finish ∧ stepCommand l ≠ .stop
  steps_le : steps lines ≤ n

/-- What is said of a run when it has been stepped to its end. -/
def lastWord (sh : Shell) (o : Outcome) : String :=
  let label := sh.palette.paint .yellow o.finalState.text
  if o.accepted then sh.palette.paint .green "Accepted" ++ s!" in {label}"
  else sh.palette.paint .red "Rejected" ++ s!" in {label}: {o.message}"

/-- After `k` steps the command ends the stepping, with this text. A step does so if all transitions
of the run are behind it; what is seen then is `last`. -/
inductive Closes (sh : Shell) (o : Outcome) (last : Snapshot) (k : Nat) :
    StepCommand → String → Prop
  | halt (h : k = o.transitions) :
    Closes sh o last k .next (last.shown sh.palette ++ "\n" ++ (sh.lastWord o ++ "\n\n"))
  | finish : Closes sh o last k .finish ("\n".intercalate (o.lines sh.palette) ++ "\n\n")
  | stop : Closes sh o last k .stop (sh.palette.paint .dimmed "Stopped" ++ "\n\n")

/-- The shell while it steps through a run. -/
def during (sh : Shell) (s : Session) : Shell := { sh with session := some s }

/-- What is said to lines that do not end the stepping, after `k` steps: a step shows the run as it
is after it, and any other line is not understood. -/
def told (p : Palette) (s : Session) (k : Nat) : List Word → String
  | [] => ""
  | l :: ls =>
    match stepCommand l with
    | .next => (s.after (k + 1)).snapshot.shown p ++ "\n" ++ told p s (k + 1) ls
    | .unknown name => s!"Unknown step command: {name.text}\n" ++ told p s k ls
    | .finish | .stop => ""

variable {sh : Shell} {s t : Session} {f : Folder} {l : Word} {lines : List Word} {k n : Nat}
  {o : Outcome}

theorem steps_cons_of_next (h : stepCommand l = .next) : steps (l :: lines) = steps lines + 1 := by
  rw [steps, List.countP_cons_of_pos (by simpa using h)]
  rfl

theorem steps_cons_of_ne (h : stepCommand l ≠ .next) : steps (l :: lines) = steps lines := by
  rw [steps, List.countP_cons_of_neg (by simpa using h)]
  rfl

theorem ongoing_nil (n : Nat) : Ongoing n [] := ⟨nofun, Nat.zero_le n⟩

theorem Ongoing.next (hl : stepCommand l = .next) (h : Ongoing n lines) :
    Ongoing (n + 1) (l :: lines) := by
  refine ⟨List.forall_mem_cons.mpr ⟨by simp [hl], h.stays⟩, ?_⟩
  rw [steps_cons_of_next hl]
  exact Nat.succ_le_succ h.steps_le

theorem Ongoing.unknown {name : Word} (hl : stepCommand l = .unknown name) (h : Ongoing n lines) :
    Ongoing n (l :: lines) := by
  refine ⟨List.forall_mem_cons.mpr ⟨by simp [hl], h.stays⟩, ?_⟩
  rw [steps_cons_of_ne (by simp [hl])]
  exact h.steps_le

/-- Lines go on with the stepping to their end, or there is a first one that ends it. -/
theorem ongoing_or_ended (n : Nat) (lines : List Word) :
    Ongoing n lines ∨ ∃ pre l post, lines = pre ++ l :: post ∧ Ongoing n pre ∧
      (stepCommand l = .next ∧ steps pre = n ∨ stepCommand l = .finish ∨
        stepCommand l = .stop) := by
  induction lines generalizing n with
  | nil => exact .inl (ongoing_nil n)
  | cons l lines ih =>
    cases hl : stepCommand l with
    | next =>
      -- a step takes one of the transitions that are left, and ends the stepping if there is none
      cases n with
      | zero => exact .inr ⟨[], l, lines, rfl, ongoing_nil 0, .inl ⟨hl, rfl⟩⟩
      | succ n =>
        rcases ih n with h | ⟨pre, e, post, rfl, hpre, hend⟩
        · exact .inl (h.next hl)
        · refine .inr ⟨l :: pre, e, post, rfl, hpre.next hl, hend.imp_left fun he => ?_⟩
          exact ⟨he.1, by rw [steps_cons_of_next hl, he.2]⟩
    | unknown name =>
      rcases ih n with h | ⟨pre, e, post, rfl, hpre, hend⟩
      · exact .inl (h.unknown hl)
      · refine .inr ⟨l :: pre, e, post, rfl, hpre.unknown hl, hend.imp_left fun he => ?_⟩
        exact ⟨he.1, by rw [steps_cons_of_ne (by simp [hl]), he.2]⟩
    | finish => exact .inr ⟨[], l, lines, rfl, ongoing_nil n, .inr (.inl hl)⟩
    | stop => exact .inr ⟨[], l, lines, rfl, ongoing_nil n, .inr (.inr hl)⟩

theorem runOn_during {c : StepCommand} (hl : stepCommand l = c) :
    ((sh.during s).answerTyped l).runOn f = ((sh.during s).stepping s c, f) := by
  subst hl
  rfl

theorem stepping_next_of_taken (h : s.step = (.ok true, t)) (ht : t.isDone = false) :
    (sh.during s).stepping s .next =
      ⟨t.snapshot.shown sh.palette ++ "\n", some (sh.during t)⟩ := by
  rw [← Report.snapshot_eq_shown]
  change (sh.during s).stepOnce s = _
  unfold stepOnce
  rw [h]
  change (if t.isDone = true then _ else _) = _
  rw [if_neg (by simp [ht])]
  rfl

theorem replies_during (htook : ∀ i < n, (s.after i).step.1 = .ok true) (hs : s.isDone = false)
    (h : ∀ l ∈ lines, stepCommand l ≠ .finish ∧ stepCommand l ≠ .stop)
    (hle : k + steps lines ≤ n) :
    (sh.during (s.after k)).replies f lines =
      (⟨told sh.palette s k lines, some (sh.during (s.after (k + steps lines)))⟩, f) := by
  -- line by line, from wherever the run stands
  induction lines generalizing k with
  | nil => rfl
  | cons l lines ih =>
    obtain ⟨hstay, hrest⟩ := List.forall_mem_cons.mp h
    cases hl : stepCommand l with
    | next =>
      have hcount : k + steps (l :: lines) = k + 1 + steps lines := by
        rw [steps_cons_of_next hl]
        omega
      have hstep : (s.after k).step = (.ok true, s.after (k + 1)) :=
        Prod.ext (htook k (by omega)) rfl
      have hgoes : (s.after (k + 1)).isDone = false :=
        Session.isDone_after (fun i hi => htook i (by omega)) hs
      have hanswer : ((sh.during (s.after k)).answerTyped l).runOn f = _ :=
        (runOn_during hl).trans (congrArg (·, f) (stepping_next_of_taken hstep hgoes))
      rw [replies_cons_of_next hanswer, ih hrest (hcount ▸ hle), hcount]
      simp only [told, hl]
    | unknown name =>
      rw [steps_cons_of_ne (by simp [hl])] at hle ⊢
      rw [replies_cons_of_next (runOn_during hl), ih hrest hle]
      simp only [told, hl]
    | finish => exact absurd hl hstay.1
    | stop => exact absurd hl hstay.2

theorem stepping_next_of_halt (h : s.step = (.ok false, t)) :
    (sh.during s).stepping s .next =
      ⟨t.snapshot.shown sh.palette ++ "\n" ++ block (sh.verdict t),
        some { sh with session := none }⟩ := by
  rw [← Report.snapshot_eq_shown]
  change (sh.during s).stepOnce s = _
  unfold stepOnce
  rw [h]
  change (if t.isDone = true then _ else _) = _
  rw [if_pos (Session.isDone_of_halt h)]
  rfl

theorem verdict_of_shows (h : s.Shows o) : sh.verdict s = sh.lastWord o := by
  have hstate : s.state.label = o.finalState := h.state
  simp only [verdict, lastWord, h.accepted, h.message, hstate]

theorem answer_of_closes {w : Word} {recorded : Bool} {text : String}
    (hs : sh.machine.session w recorded = .ok s) (ho : sh.machine.execute w recorded = .ok o)
    (h : sh.Closes o (s.after (o.transitions + 1)).snapshot k (stepCommand l) text) :
    ((sh.during (s.after k)).answerTyped l).runOn f =
      (⟨text, some { sh with session := none }⟩, f) := by
  obtain ⟨-, hhalt, hdone, hout⟩ := Machine.steps_of_execute hs ho
  generalize hl : stepCommand l = c at h
  rw [runOn_during hl]
  cases h with
  | halt hk =>
    subst hk
    have hstep : (s.after o.transitions).step = (.ok false, s.after (o.transitions + 1)) :=
      Prod.ext hhalt rfl
    have hshows := Session.shows_outcome hdone
    rw [hout] at hshows
    rw [stepping_next_of_halt hstep, verdict_of_shows hshows, block]
  | finish =>
    have hfinish : (s.after k).finish = .ok o := by
      rw [Session.finish_after, ← ho, Machine.execute_of_session hs]
    unfold stepping
    rw [hfinish, ← Report.outcome_eq_lines]
    rfl
  | stop => rfl

def opening (sh : Shell) (s : Session) : String :=
  sh.palette.paint .dimmed "Stepping: <enter>/next, finish, stop" ++ "\n" ++
    s.snapshot.shown sh.palette ++ "\n"

theorem beginStepping_of_session {w : Word} (hd : sh.machine.diagnose = .ok)
    (hs : sh.machine.session w sh.settings.run.history = .ok s) :
    sh.beginStepping w = ⟨sh.opening s, some (sh.during s)⟩ := by
  rw [beginStepping, hd, hs, opening, ← Report.snapshot_eq_shown]
  rfl

/-- Stepping through a run on a machine that passes its check. The snapshots shown are those of the
run that is made in one go. Lines that do not end it are answered in turn, by the run as it is after
so many steps, and if there are no more lines the run is left. The first line that ends it gives the
result of the whole run, or only where the run ended, or neither if it is left; and the lines behind
that one are for the shell, which is as it was. Which lines these are is told by the one word that a
line says, without the blanks around it and in any case. -/
theorem stepping_agrees_with_run {sh : Shell} (input : Word) (hsession : sh.session = none)
    (hd : sh.machine.diagnose = .ok) :
    (∀ style text, Palette.monochrome.paint style text = text) ∧
    (∀ line : Word, backspace ∉ line → line.typed = line) ∧
    (∀ w : Word, (∀ c ∈ w, c.toNat < 128) → w.lowercase = w.map Char.toLower) ∧
    (∀ line, ∃ said, StepCommand.Says line said) ∧
    (∀ line said, StepCommand.Says line.typed said →
      StepCommand.Understood said (stepCommand line)) ∧
    ∃ o snaps s, sh.machine.execute input sh.settings.run.history = .ok o ∧
      sh.machine.Watched input sh.settings.run.history o snaps ∧
      (∀ i ≤ o.transitions + 1, snaps[i]? = some (s.after i).snapshot) ∧
      (∀ line f, Command.ofLine line.typed = .step input →
        (sh.answerTyped line).runOn f = (⟨sh.opening s, some (sh.during s)⟩, f)) ∧
      sh.beginStepping input = ⟨sh.opening s, some (sh.during s)⟩ ∧
      (∀ lines, Ongoing o.transitions lines ∨ ∃ pre l post text, lines = pre ++ l :: post ∧
        Ongoing o.transitions pre ∧
        sh.Closes o (s.after (o.transitions + 1)).snapshot (steps pre) (stepCommand l) text) ∧
      ∀ f pre, Ongoing o.transitions pre →
        (sh.during s).replies f pre =
          (⟨told sh.palette s 0 pre, some (sh.during (s.after (steps pre)))⟩, f) ∧
        ((sh.during s).converse pre).runOn f =
          (told sh.palette s 0 pre ++ (sh.palette.paint .dimmed "Stopped" ++ "\n\n" ++ "^D\n"),
            f) ∧
        ∀ l text post,
          sh.Closes o (s.after (o.transitions + 1)).snapshot (steps pre) (stepCommand l) text →
          (sh.during s).replies f (pre ++ l :: post) =
            (⟨told sh.palette s 0 pre ++ (text ++ (sh.replies f post).1.text),
              (sh.replies f post).1.shell⟩, (sh.replies f post).2) := by
  obtain ⟨o, ho⟩ := Machine.execute_of_diagnose_ok hd input sh.settings.run.history
  obtain ⟨snaps, hsnaps⟩ := Machine.exists_watched ho
  obtain ⟨s, hs, -⟩ := Machine.session_of_diagnose_ok hd input sh.settings.run.history
  obtain ⟨htook, -, -, -⟩ := Machine.steps_of_execute hs ho
  have hbegin := beginStepping_of_session hd hs
  refine ⟨Palette.paint_monochrome, fun line => Typing.typed_of_not_mem,
    fun w => Word.lowercase_of_ascii, StepCommand.exists_says,
    fun line said h => h.understood, ?_⟩
  refine ⟨o, snaps, s, ho, hsnaps, ?_, ?_, hbegin, ?_, ?_⟩
  · intro i hi
    have hi : i < o.transitions + 2 := by omega
    rw [Session.watched_eq hs hsnaps, List.getElem?_map, List.getElem?_range hi]
    rfl
  · intro line f hline
    rw [answerTyped_eq_obey hsession hline nofun, obey, hbegin]
    rfl
  · intro lines
    rcases ongoing_or_ended o.transitions lines with h | ⟨pre, l, post, he, hpre, hend⟩
    · exact .inl h
    · refine .inr ⟨pre, l, post, ?_⟩
      rcases hend with ⟨hl, hsteps⟩ | hl | hl <;> rw [hl]
      · exact ⟨_, he, hpre, .halt hsteps⟩
      · exact ⟨_, he, hpre, .finish⟩
      · exact ⟨_, he, hpre, .stop⟩
  · intro f pre hpre
    have hreplies : (sh.during s).replies f pre = _ :=
      replies_during (k := 0) htook (Machine.isDone_of_session hs) hpre.stays
        (by simpa using hpre.steps_le)
    rw [Nat.zero_add] at hreplies
    refine ⟨hreplies, ?_, ?_⟩
    · rw [runOn_converse, hreplies]
      rfl
    · intro l text post hcloses
      have hanswer := answer_of_closes (f := f) hs ho hcloses
      rw [← hsession] at hanswer
      rw [replies_append hreplies, replies_cons_of_next hanswer]

/-- The result of the run of the machine that turns, on `ab`. -/
def turned : Outcome := ⟨false, ['S'], "xy".toList, 2, .endOfInput, none⟩

/-- Two transitions, so the third step ends the stepping. -/
theorem turning_stepped : turningShell.session = none ∧
    turningShell.machine.diagnose = .ok ∧ ∃ s said,
      turningShell.beginStepping "ab".toList =
        ⟨turningShell.opening s, some (turningShell.during s)⟩ ∧
      (turningShell.during s).replies .empty (["", "what", " N", "next"].map String.toList) =
        (⟨said ++ "Rejected in S: End Of Input\n\n", some turningShell⟩, .empty) := by
  have hsound : turningShell.machine.diagnose = .ok := by decide +kernel
  obtain ⟨-, -, -, -, -, o, snaps, s, ho, -, -, -, hbegin, -, hlines⟩ :=
    stepping_agrees_with_run "ab".toList rfl hsound
  have hresult : turningShell.machine.execute "ab".toList false = .ok turned := by decide +kernel
  obtain rfl := Except.ok.inj (ho.symm.trans hresult)
  have hpre : Ongoing turned.transitions (["", "what", " N"].map String.toList) :=
    ⟨by decide +kernel, by decide +kernel⟩
  have hnext : stepCommand "next".toList = .next := by decide +kernel
  have hclosed := (hlines .empty _ hpre).2.2 "next".toList
  rw [hnext] at hclosed
  have hlast := hclosed _ [] (.halt (by decide +kernel))
  have hword : turningShell.lastWord turned ++ "\n\n" = "Rejected in S: End Of Input\n\n" := by
    decide +kernel
  rw [hword, replies, String.append_empty, ← String.append_assoc] at hlast
  exact ⟨rfl, hsound, s, _, hbegin, hlast⟩

end Shell

end Transducer
