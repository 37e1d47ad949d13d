import Transducer.Proofs.Folder
import Transducer.Proofs.Settings.RoundTrip
import Transducer.Settings.Load

/-!
Saving settings and loading them again. The variables of the environment have been at work on what
is saved, so they change nothing when it is loaded; nor does their absence, since everything is
saved. This holds however much of YAML is read, and however texts are written that cannot stand as
they are.
-/

namespace Transducer

namespace Environment

/-- Each variable that overrides a setting is as in another environment, or unset. -/
structure PartOf (e' e : Environment) : Prop where
  history : e'.history = none ∨ e'.history = e.history
  lenient : e'.lenient = none ∨ e'.lenient = e.lenient
  maxSteps : e'.maxSteps = none ∨ e'.maxSteps = e.maxSteps
  historyFile : e'.historyFile = none ∨ e'.historyFile = e.historyFile
  color : e'.color = none ∨ e'.color = e.color

variable {e e' : Environment} {v v' : Option Word}

theorem PartOf.self (e : Environment) : e.PartOf e :=
  ⟨.inr rfl, .inr rfl, .inr rfl, .inr rfl, .inr rfl⟩

/-- What overrides twice overrides once, and so does what overrides and then does not. -/
theorem getD_getD {α : Type} {v v' : Option α} (h : v' = none ∨ v' = v) (a : α) :
    v'.getD (v.getD a) = v.getD a := by
  rcases h with rfl | rfl
  · rfl
  · cases v' <;> rfl

theorem flag_flag (h : v' = none ∨ v' = v) (b : Bool) : flag v' (flag v b) = flag v b := by
  refine getD_getD ?_ b
  rcases h with rfl | rfl
  · exact .inl rfl
  · exact .inr rfl

theorem override_override (h : e'.PartOf e) (s : Settings) :
    e'.override (e.override s) = e.override s := by
  have hsteps : e'.maxSteps.bind Numeral.decimal? = none ∨
      e'.maxSteps.bind Numeral.decimal? = e.maxSteps.bind Numeral.decimal? := by
    rcases h.maxSteps with hn | hs
    · exact .inl (by rw [hn, Option.bind_none])
    · exact .inr (by rw [hs])
  simp only [override, overrideRun, overrideShell, flag_flag h.history, flag_flag h.lenient,
    getD_getD hsteps, getD_getD h.historyFile, flag_flag h.color]

end Environment

theorem Record.eq_or_exists_of_read? {α β : Type} {r : Record α} {name : Word} {default : Option β}
    {reader : α → Option β} {b : β} (h : r.read? name default reader = some b) :
    default = some b ∨ ∃ a, reader a = some b := by
  unfold read? at h
  split at h
  · exact .inl h
  · exact .inr ⟨_, h⟩
  · cases h

namespace Settings

open Yaml

variable {y : Dialect} {e e' : Environment} {s d : Settings} {f f' g : Folder}
  {way way' : Option Word} {file t : Word}

theorem fits_defaults (e : Environment) : e.defaults.Fits := by
  simp [Fits, Environment.defaults, Numeral.bound, UInt64.size]

/-- A number that is read from a file fits. -/
theorem lt_bound_of_runOf? {r d : RunSettings} {q : Record Node} (hd : d.maxSteps < Numeral.bound)
    (h : runOf? d q = some r) : r.maxSteps < Numeral.bound := by
  simp only [runOf?, Option.bind_eq_bind, Option.bind_eq_some_iff, Option.pure_def,
    Option.some.injEq] at h
  obtain ⟨a, -, b, -, n, hn, rfl⟩ := h
  rcases Record.eq_or_exists_of_read? hn with hn | ⟨x, hx⟩
  · exact Option.some.inj hn ▸ hd
  · obtain ⟨w, -, hw⟩ := Option.bind_eq_some_iff.mp hx
    exact Numeral.lt_bound_of_literal? hw

theorem fits_of_ofNode? {n : Node} (hd : d.Fits) (h : ofNode? d n = some s) : s.Fits := by
  simp only [ofNode?, Option.bind_eq_bind, Option.bind_eq_some_iff, Option.pure_def,
    Option.some.injEq] at h
  obtain ⟨r, -, q, -, run, hrun, x, -, shell, -, rfl⟩ := h
  exact lt_bound_of_runOf? hd hrun

theorem fits_override (h : s.Fits) (e : Environment) : (e.override s).Fits := by
  cases hn : e.maxSteps.bind Numeral.decimal? with
  | none => simpa [Fits, Environment.override, Environment.overrideRun, hn] using h
  | some n =>
    obtain ⟨w, -, hw⟩ := Option.bind_eq_some_iff.mp hn
    simpa [Fits, Environment.override, Environment.overrideRun, hn] using
      Numeral.lt_bound_of_inBase? hw

/-- Settings are loaded from a file that can be read and holds some, which the environment then
overrides. -/
theorem load_of_read (hway : (way <|> e.settingsFile) = some file) (hread : f.read file = .ok t)
    (ht : ofTextIn? y e.defaults t = some s) :
    (loadIn y e way).runOn f = (.ok (e.override s), f) := by
  simp [loadIn, hway, ofFile, Access.readFile, Access.runOn, hread, ht, Except.map]

/-- Settings that were loaded are those of the environment over others that fit, whatever was read
in the file. -/
theorem eq_override_of_load (h : ((loadIn y e way).runOn f).1 = .ok s) :
    ∃ d : Settings, d.Fits ∧ s = e.override d := by
  cases hway : way <|> e.settingsFile with
  | none =>
    simp [loadIn, hway] at h
    exact ⟨e.defaults, fits_defaults e, h.symm⟩
  | some file =>
    cases hread : f.read file with
    | error o => simp [loadIn, hway, ofFile, Access.readFile, Access.runOn, hread, Except.map] at h
    | ok t =>
      cases ht : ofTextIn? y e.defaults t with
      | none =>
        simp [loadIn, hway, ofFile, Access.readFile, Access.runOn, hread, ht, Except.map] at h
      | some d =>
        rw [load_of_read hway hread ht] at h
        obtain ⟨n, -, hn⟩ := Option.bind_eq_some_iff.mp ht
        exact ⟨d, fits_of_ofNode? (fits_defaults e) hn, (Except.ok.inj h).symm⟩

/-- Saving writes the text of the settings. -/
theorem read_of_save (h : (s.saveIn y file).runOn f = (.ok (), g)) :
    g.read file = .ok (s.toTextIn y) := by
  cases hwrite : f.write file (s.toTextIn y) with
  | error o =>
    simp [saveIn, Access.writeFile, Access.runOn, Folder.attempt, hwrite] at h
  | ok g' =>
    simp [saveIn, Access.writeFile, Access.runOn, Folder.attempt, hwrite] at h
    obtain ⟨-, rfl⟩ := h
    exact Folder.read_of_write hwrite

/-- Settings that were loaded in any way and then saved are loaded from the saved file as they
were, by the same variables of the environment as before or by some of them or none, and wherever
the home folder is. All that this takes of the reader of YAML is that it reads the saved file as the
mapping it shows; what it makes of the file that was loaded first does not matter. -/
theorem saved_settings_load_back (hy : Faithful y) (hload : ((loadIn y e way).runOn f).1 = .ok s)
    (hplain : y.write s.shell.historyFile = s.shell.historyFile)
    (hsave : (s.saveIn y file).runOn f' = (.ok (), g)) (he : e'.PartOf e)
    (hway : (way' <|> e'.settingsFile) = some file) :
    ∃ s', (loadIn y e' way').runOn g = (.ok s', g) ∧ s' = s ∧
      ∀ n, s'.run.limitReached n = s.run.limitReached n := by
  obtain ⟨d, hd, rfl⟩ := eq_override_of_load hload
  have hread := read_of_save hsave
  have htext := ofTextIn?_toTextIn hy (fits_override hd e) hplain e'.defaults
  have hback := load_of_read hway hread htext
  rw [Environment.override_override he] at hback
  exact ⟨_, hback, rfl, fun n => rfl⟩

section Kept

/-- The text without what follows the first anchor in its line. -/
def dropAnchor (w : Word) : Word :=
  w.takeWhile (· ≠ '&') ++ (w.dropWhile (· ≠ '&')).dropWhile (· ≠ '\n')

/-- A dialect in which a section may have an anchor. -/
def anchored : Dialect :=
  ⟨fun t => (Node.ofText? t).or (Node.ofText? (dropAnchor t)), Yaml.write⟩

theorem faithful_anchored : Faithful anchored := by
  intro s hfits hplain
  have hbasic : Node.ofText? (s.toTextIn anchored) = some s.node :=
    faithful_basic s hfits hplain
  change (Node.ofText? (s.toTextIn anchored)).or _ = _
  rw [hbasic, Option.some_or]

def someVariables : Environment where
  settingsFile := some "largest".toList
  history := some "TRUE".toList
  lenient := some "yes".toList
  maxSteps := some "many".toList
  historyFile := some "/tmp/lines typed".toList
  color := none
  home := none

def noVariables : Environment := ⟨none, none, none, none, none, none, some "/home".toList⟩

/-- A file with the largest number of steps, which the variables let stand, and a flag, which they
lower. -/
def largestFolder : Folder :=
  ⟨[(["largest".toList],
    .file (.text "run: &limits\n  lenient: true\n  max_steps: 0xffffffffffffffff\n".toList))]⟩

def largest : Settings := ⟨⟨true, false, 18446744073709551615⟩, ⟨"/tmp/lines typed".toList, true⟩⟩

/-- The folder where they have been saved as well. -/
def savedFolder : Folder := ((largest.saveIn anchored "saved".toList).runOn largestFolder).2

/-- The file cannot be read without anchors, but what is saved of it can. -/
theorem largest_kept :
    ((load someVariables none).runOn largestFolder).1 = .error (.malformed "largest".toList) ∧
    Faithful anchored ∧
    ((loadIn anchored someVariables none).runOn largestFolder).1 = .ok largest ∧
    anchored.write largest.shell.historyFile = largest.shell.historyFile ∧
    (largest.saveIn anchored "saved".toList).runOn largestFolder = (.ok (), savedFolder) ∧
    (∃ s, (loadIn anchored someVariables (some "saved".toList)).runOn savedFolder =
      (.ok s, savedFolder) ∧ s = largest ∧
      ∀ n, s.run.limitReached n = largest.run.limitReached n) ∧
    ∃ s, (loadIn anchored noVariables (some "saved".toList)).runOn savedFolder =
      (.ok s, savedFolder) ∧ s = largest ∧
      ∀ n, s.run.limitReached n = largest.run.limitReached n := by
  have hload : ((loadIn anchored someVariables none).runOn largestFolder).1 = .ok largest := by
    decide +kernel
  have hplain : Yaml.write largest.shell.historyFile = largest.shell.historyFile := by decide
  have hsave : (largest.saveIn anchored "saved".toList).runOn largestFolder =
      (.ok (), savedFolder) := Prod.ext (by decide +kernel) rfl
  have hnone : noVariables.PartOf someVariables :=
    ⟨.inl rfl, .inl rfl, .inl rfl, .inl rfl, .inl rfl⟩
  exact ⟨by decide +kernel, faithful_anchored, hload, hplain, hsave,
    saved_settings_load_back faithful_anchored hload hplain hsave (.self someVariables) rfl,
    saved_settings_load_back faithful_anchored hload hplain hsave hnone rfl⟩

end Kept

end Settings

end Transducer
