import Transducer.Proofs.Except
import Transducer.Program

/-!
Requests carried out on a folder. Loading settings or a machine writes nothing, so a request about
the machine of a file comes to what it is for that machine.
-/

namespace Transducer

/-- A machine is loaded exactly if its file can be read and holds it. Loading writes nothing. -/
theorem Machine.load_eq_ok_iff {m : Machine} {path : Word} {lenient : Bool} {f g : Folder} :
    (load path lenient).runOn f = (.ok m, g) ↔
      f = g ∧ ∃ t, f.read path = .ok t ∧ ofFileText path lenient t = .ok m := by
  cases hread : f.read path with
  | error o => simp [load, Access.readFile, Access.runOn, hread]
  | ok t =>
    have hload : (load path lenient).runOn f =
        ((ofFileText path lenient t).mapError (.faulty path), f) := by
      simp [load, Access.readFile, Access.runOn, hread]
    rw [hload, Prod.mk.injEq, Except.mapError_eq_ok_iff]
    simp [and_comm]

theorem Settings.runOn_ofFile (y : Yaml.Dialect) (e : Environment) (file : Word) (f : Folder) :
    ((Settings.ofFile y e file).runOn f).2 = f := by
  cases hread : f.read file with
  | error o => simp [ofFile, Access.readFile, Access.runOn, hread]
  | ok t =>
    cases htext : ofTextIn? y e.defaults t <;>
      simp [ofFile, Access.readFile, Access.runOn, hread, htext]

/-- Loading settings writes nothing. -/
theorem Settings.runOn_load (e : Environment) (file : Option Word) (f : Folder) :
    ((Settings.load e file).runOn f).2 = f := by
  cases hfile : file <|> e.settingsFile with
  | none => simp [load, loadIn, hfile]
  | some path => simp [load, loadIn, hfile, runOn_ofFile]

namespace Program

variable {f : Folder} {s : Settings} {r : Request}

theorem runOn_withMachine {path : Word} {lenient : Bool} {m : Machine}
    {k : Machine → Except Fault Printout} {o : Printout}
    (hm : (Machine.load path lenient).runOn f = (.ok m, f)) (hk : k m = .ok o) :
    (withMachine path lenient k).runOn f = (.ok o, f) := by
  simp only [withMachine, Access.runOn_bind, hm, hk]
  rfl

/-- Asked for the request, the program prints the text, tells by its exit status whether this is a
success, and leaves the files alone. However it is asked, and whatever the lines of its input are,
all that counts are the settings. -/
def Ends (f : Folder) (s : Settings) (r : Request) (o : Palette → Printout) : Prop :=
  ∀ p e arguments input file, Demand.ofArguments arguments = .serve file r →
    ((Settings.load e file).runOn f).1 = .ok s →
    (execute p e arguments input).runOn f = (⟨if (o (allowed p s)).success then 0 else 1,
      (o (allowed p s)).text ++ "\n", "", none⟩, f)

theorem ends_of_printout {o : Palette → Printout} (hr : ∀ machine, r ≠ .shell machine)
    (ho : ∀ p, (printout p s r).runOn f = (.ok (o p), f)) : Ends f s r o := by
  intro p e arguments input file hd hs
  have hserve : (serve (allowed p s) s r).runOn f =
      (.ended (ending (allowed p s) (.ok (o (allowed p s)))), f) := by
    unfold serve
    split
    · exact absurd rfl (hr _)
    · simp [ho]
  simp [execute, start, hd, hs, Settings.runOn_load, hserve, ending]

section

variable {p : Palette} {m : Machine} {k : Except Fault Printout}

theorem whenSound_of_ok (h : m.diagnose = .ok) : whenSound p m k = k := by
  rw [whenSound, h]
  rfl

theorem whenSound_of_not_ok (h : m.diagnose ≠ .ok) :
    whenSound p m k = .ok ⟨Report.refusal p m.diagnose, false⟩ := by
  simp [whenSound, h]

theorem run_of_execute {w : Word} {recorded json : Bool} {o : Outcome} (h : m.diagnose = .ok)
    (ho : m.execute w recorded = .ok o) :
    run p m w recorded json = .ok ⟨outcomeText p json o, o.accepted⟩ := by
  rw [run, whenSound_of_ok h, ho]
  rfl

end

end Program

/-! A machine for cases that are worked through, in a file and in a shell. -/

/-- A machine that turns from one state to the other and back, like a pendulum. -/
def Machine.turning : Word := "[START] S :: T: a|x\n[ACCEPT] T :: S: b|y".toList

def Machine.turningFolder : Folder := ⟨[([['m']], .file (.text turning))]⟩

def Shell.turningShell : Shell :=
  { start (Environment.ofNames fun _ => none).defaults .monochrome with
    machine := .ofText Machine.turning }

end Transducer
