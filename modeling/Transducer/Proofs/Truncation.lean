import Transducer.Proofs.Report
import Transducer.Proofs.Request
import Transducer.Proofs.Session.Safety
import Transducer.Proofs.Session.Trace
import Transducer.Proofs.Watching

/-!
Stepping through a run on the command line. What is printed are the snapshots of the run that is
made in one go, all of them or as many as the limit on the number of steps allows.
-/

namespace Transducer

namespace RunSettings

variable {r : RunSettings} {n : Nat}

theorem limitReached_eq_false_iff :
    r.limitReached n = false ↔ r.maxSteps = 0 ∨ n < r.maxSteps := by
  simp [limitReached, or_iff_not_imp_left]

theorem limitReached_maxSteps (h : 1 ≤ r.maxSteps) : r.limitReached r.maxSteps = true := by
  simp [limitReached]
  omega

end RunSettings

namespace Session

variable {m : Machine} {w : Word} {recorded : Bool} {s : Session} {o : Outcome}
  {snaps : List Snapshot} {r : RunSettings}

/-- Under a limit that is not reached, the trace shows the whole run and ends at its halt. -/
theorem trace_of_watched (hs : m.session w recorded = .ok s) (ho : m.execute w recorded = .ok o)
    (h : m.Watched w recorded o snaps) (hfree : r.maxSteps = 0 ∨ o.transitions < r.maxSteps) :
    ∃ last, s.trace r.limitReached = .ok ⟨snaps, none, last⟩ ∧ last.accepted = o.accepted := by
  obtain ⟨htook, hhalt, hdone, hout⟩ := Machine.steps_of_execute hs ho
  have hlimit : ∀ i ≤ o.transitions, r.limitReached i = false := by
    intro i hi
    exact RunSettings.limitReached_eq_false_iff.mpr (hfree.imp_right fun hlt => by omega)
  refine ⟨s.after (o.transitions + 1), ?_, congrArg Outcome.accepted hout⟩
  rw [trace_of_halt htook hhalt hlimit, watched_eq hs h]

/-- A limit within the run cuts the trace off behind the snapshots of as many steps. -/
theorem trace_of_watched_cut (hs : m.session w recorded = .ok s)
    (ho : m.execute w recorded = .ok o) (h : m.Watched w recorded o snaps)
    (hpos : 1 ≤ r.maxSteps) (hle : r.maxSteps ≤ o.transitions) :
    ∃ last, s.trace r.limitReached = .ok ⟨snaps.take (r.maxSteps + 1), some r.maxSteps, last⟩ ∧
      last.accepted = false := by
  obtain ⟨htook, -, -, -⟩ := Machine.steps_of_execute hs ho
  have htook : ∀ i < r.maxSteps, (s.after i).step.1 = .ok true := fun i hi => htook i (by omega)
  have hlimit : ∀ i < r.maxSteps, r.limitReached i = false := fun i hi =>
    RunSettings.limitReached_eq_false_iff.mpr (.inr hi)
  have hrange : (List.range (o.transitions + 2)).take (r.maxSteps + 1) =
      List.range (r.maxSteps + 1) := by
    rw [List.take_range, Nat.min_eq_left (by omega)]
  refine ⟨s.after r.maxSteps, ?_, ?_⟩
  · rw [trace_of_cut htook hlimit (RunSettings.limitReached_maxSteps hpos), watched_eq hs h,
      ← List.map_take, hrange]
  · have hdone := isDone_after htook (Machine.isDone_of_session hs)
    simp only [isDone, Option.isSome_eq_false_iff, Option.isNone_iff_eq_none] at hdone
    simp [accepted, hdone]

end Session

namespace Program

variable {p : Palette} {m : Machine} {w : Word} {recorded json : Bool} {r : RunSettings}

theorem step_of_trace {s : Session} {t : Trace} (h : m.diagnose = .ok)
    (hs : m.session w recorded = .ok s) (ht : s.trace r.limitReached = .ok t) :
    step p r m w recorded json = .ok ⟨traceText p json t, t.last.accepted⟩ := by
  rw [step, whenSound_of_ok h, hs]
  simp [bind, Except.bind, ht, pure, Except.pure]

end Program

namespace Machine

open Program

/-- The two commands on the machine of a file. If it does not pass its check, both say so and fail.
Otherwise both tell of one run: the result is printed by the one, and by the other what is seen of
the run, which is one snapshot more than there are moves and one of the halt. A limit on the steps
that the run does not exceed changes nothing; any other leaves the beginning, with one snapshot more
than it allows steps, and a note, and that is no success. Each snapshot is spelled out, for readers
or as data; without colours this is the bare text, and what is escaped as data can be read back. -/
theorem step_truncates_run {m : Machine} {f : Folder} {path : Word} {s : Settings}
    {o : RunOptions} (input : Word)
    (hload : (load path (o.lenient || s.run.lenient)).runOn f = (.ok m, f)) :
    (∀ style text, Palette.monochrome.paint style text = text) ∧
    (∀ v w : Word, Quoted.close? (Quoted.escape v ++ '"' :: w) = some (Quoted.escape v, w) ∧
      Quoted.unescape? (Quoted.escape v) = some v) ∧
    (m.diagnose ≠ .ok →
      Ends f s (.run path input o) (fun p => ⟨"\n".intercalate (m.diagnose.lines p), false⟩) ∧
      Ends f s (.step path input o) fun p => ⟨"\n".intercalate (m.diagnose.lines p), false⟩) ∧
    (m.diagnose = .ok → ∃ result snaps,
      m.execute input (o.history || s.run.history) = .ok result ∧
      m.Watched input (o.history || s.run.history) result snaps ∧
      snaps.length = result.transitions + 2 ∧
      (∀ json, Ends f s (.run path input { o with json := json }) fun p =>
        ⟨outcomeText p json result, result.accepted⟩) ∧
      (s.run.maxSteps = 0 ∨ result.transitions < s.run.maxSteps →
        Ends f s (.step path input o) fun p =>
          ⟨"\n".intercalate (snaps.map (Snapshot.printed p o.json)), result.accepted⟩) ∧
      (1 ≤ s.run.maxSteps → s.run.maxSteps ≤ result.transitions →
        Ends f s (.step path input o) fun p =>
          ⟨"\n".intercalate ((snaps.take (s.run.maxSteps + 1)).map (Snapshot.printed p o.json) ++
            [p.paint .yellow "Stopped" ++ s!" after {s.run.maxSteps} steps (run.max_steps)"]),
            false⟩)) := by
  simp only [← Report.refusal_eq_lines, ← snapshotText_eq]
  refine ⟨Palette.paint_monochrome,
    fun v w => ⟨Quoted.close?_escape v w, Quoted.unescape?_escape v⟩,
    fun hd => ⟨?_, ?_⟩, fun hd => ?_⟩
  · exact ends_of_printout nofun fun p => runOn_withMachine hload (whenSound_of_not_ok hd)
  · exact ends_of_printout nofun fun p => runOn_withMachine hload (whenSound_of_not_ok hd)
  obtain ⟨result, hresult⟩ := execute_of_diagnose_ok hd input (o.history || s.run.history)
  obtain ⟨snaps, hsnaps⟩ := exists_watched hresult
  obtain ⟨session, hsession, -⟩ := session_of_diagnose_ok hd input (o.history || s.run.history)
  refine ⟨result, snaps, hresult, hsnaps, hsnaps.length, ?_, ?_, ?_⟩
  · intro json
    exact ends_of_printout nofun fun p => runOn_withMachine hload (run_of_execute hd hresult)
  · intro hfree
    obtain ⟨last, htrace, haccepted⟩ := Session.trace_of_watched hsession hresult hsnaps hfree
    refine ends_of_printout nofun fun p => runOn_withMachine hload ?_
    rw [step_of_trace hd hsession htrace, haccepted]
    simp [traceText]
  · intro hpos hle
    obtain ⟨last, htrace, haccepted⟩ :=
      Session.trace_of_watched_cut hsession hresult hsnaps hpos hle
    refine ends_of_printout nofun fun p => runOn_withMachine hload ?_
    rw [step_of_trace hd hsession htrace, haccepted]
    rfl

/-- An environment that limits the number of steps to two. -/
def twoSteps : Environment :=
  .ofNames fun n => if n = "MEALY_MAX_STEPS" then some ['2'] else none

/-- Three transitions under a limit of two. -/
theorem turning_cut : (ofText turning).diagnose = .ok ∧ ∃ result snaps,
    (ofText turning).execute "aba".toList true = .ok result ∧
    (ofText turning).Watched "aba".toList true result snaps ∧ result.transitions = 3 ∧
    (Program.execute .monochrome twoSteps
      (["step", "m", "aba", "--history", "--lenient"].map String.toList) []).runOn turningFolder =
      (⟨1, "\n".intercalate ((snaps.take 3).map (Snapshot.shown .monochrome) ++
        ["Stopped after 2 steps (run.max_steps)"]) ++ "\n", "", none⟩, turningFolder) := by
  have hsound : (ofText turning).diagnose = .ok := by decide +kernel
  have hload : (load ['m'] true).runOn turningFolder = (.ok (ofText turning), turningFolder) :=
    load_eq_ok_iff.mpr ⟨rfl, turning, rfl, rfl⟩
  have htruncates := step_truncates_run (s := twoSteps.override twoSteps.defaults)
    (o := ⟨true, false, true⟩) "aba".toList hload
  obtain ⟨result, snaps, hresult, hsnaps, -, -, -, hcut⟩ := htruncates.2.2.2 hsound
  have hcount : ((ofText turning).execute "aba".toList true).map Outcome.transitions = .ok 3 := by
    decide +kernel
  have hcount : result.transitions = 3 := by
    rw [show (ofText turning).execute "aba".toList true = _ from hresult] at hcount
    exact Except.ok.inj hcount
  have hle : 2 ≤ result.transitions := by omega
  refine ⟨hsound, result, snaps, hresult, hsnaps, hcount, ?_⟩
  exact hcut (by decide) hle .monochrome twoSteps _ [] none rfl rfl

end Machine

end Transducer
