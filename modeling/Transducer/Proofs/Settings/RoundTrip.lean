import Transducer.Proofs.Yaml.Outline

/-!
Settings that are written to a text and read from it again. Truth values, numbers that fit and texts
that are written as they are all come back, so the settings do, whatever the defaults. Of how YAML
is read and written this takes no more than that a file with settings is read as the mapping it
shows.
-/

namespace Transducer

namespace Numeral

variable {w : Word} {n : Nat}

theorem value?_of_isDigit {c : Char} (h : c.isDigit = true) :
    Digit.value? c = some (c.toNat - '0'.toNat) ∧ c.toNat - '0'.toNat < 10 := by
  delta Char.isDigit at h
  simp only [Bool.and_eq_true, decide_eq_true_eq, ge_iff_le, UInt32.le_iff_toNat_le] at h
  have h1 : 48 ≤ c.toNat := h.1
  have h2 : c.toNat ≤ 57 := h.2
  have hrange : '0' ≤ c ∧ c ≤ '9' := h
  have hzero : '0'.toNat = 48 := rfl
  rw [Digit.value?, if_pos hrange]
  refine ⟨rfl, ?_⟩
  omega

/-- Decimal digits have a value. -/
theorem valueAfter?_of_digits (h : ∀ c ∈ w, c.isDigit = true) (n : Nat) :
    valueAfter? 10 n w = some (Nat.ofDigitChars 10 w n) := by
  induction w generalizing n with
  | nil => rfl
  | cons c w ih =>
    obtain ⟨hc, hw⟩ := List.forall_mem_cons.mp h
    obtain ⟨hvalue, hlt⟩ := value?_of_isDigit hc
    rw [valueAfter?, hvalue, Option.filter_some, if_pos (decide_eq_true hlt), Option.bind_some,
      ih hw, Nat.ofDigitChars_cons, Nat.mul_comm]

theorem isDigit_of_mem_toWord {c : Char} (h : c ∈ toWord n) : c.isDigit = true :=
  Nat.isDigit_of_mem_toDigits (by decide) (by decide) h

theorem isLabel_toWord (n : Nat) : (toWord n).isLabel = true := by
  have hchar : ∀ c ∈ toWord n, isLabelChar c = true := by
    intro c hc
    simp [isLabelChar, Char.isAlphanum, isDigit_of_mem_toWord hc]
  have hne : toWord n ≠ [] := Nat.toDigits_ne_nil
  simpa [Word.isLabel, hne] using hchar

theorem head?_toWord (hn : 0 < n) : (toWord n).head? ≠ some '0' := by
  induction n using Nat.strongRecOn with
  | ind n ih =>
    rw [toWord, Nat.toDigits_eq_if (by decide)]
    split
    · next hlt =>
      intro hzero
      have hchar : n.digitChar = '0' := Option.some.inj hzero
      have hvalue := Digit.value?_digitChar (Nat.lt_trans hlt (by decide : 10 < 16))
      rw [hchar] at hvalue
      exact Nat.ne_of_lt hn (Option.some.inj hvalue)
    · next hge =>
      -- the first digit is that of a tenth of the number
      have hpos : 0 < n / 10 := Nat.div_pos (Nat.le_of_not_lt hge) (by decide)
      obtain ⟨c, w, hw⟩ := List.exists_cons_of_ne_nil (Nat.toDigits_ne_nil (n := n / 10) (b := 10))
      have hhead := ih (n / 10) (Nat.div_lt_self hn (by decide)) hpos
      rw [toWord, hw] at hhead
      rw [hw]
      exact hhead

theorem hasLeadingZero_toWord (n : Nat) : hasLeadingZero (toWord n) = false := by
  cases n with
  | zero => rfl
  | succ n =>
    have hhead := head?_toWord (Nat.succ_pos n)
    unfold hasLeadingZero
    split
    · next heq =>
      rw [heq] at hhead
      exact absurd rfl hhead
    · rfl

/-- A row of digits without a superfluous zero is read in decimal. -/
theorem literal?_of_digits (h : ∀ c ∈ w, c.isDigit = true) (hz : hasLeadingZero w = false) :
    literal? w = inBase? 10 w := by
  have hsign : dropPlus w = w := by
    unfold dropPlus
    split
    · next w =>
      cases h '+' List.mem_cons_self
    · rfl
  rw [literal?, hsign]
  split
  · cases h 'x' (by simp)
  · cases h 'o' (by simp)
  · cases h 'b' (by simp)
  · rw [hz]
    rfl

/-- A number that fits is read as it was written. -/
theorem literal?_toWord (h : n < bound) : literal? (toWord n) = some n := by
  have hdigits : ∀ c ∈ toWord n, c.isDigit = true := fun c hc => isDigit_of_mem_toWord hc
  have hne : (toWord n).isEmpty = false := List.isEmpty_eq_false_iff.mpr Nat.toDigits_ne_nil
  have hvalue : Nat.ofDigitChars 10 (toWord n) 0 = n := Nat.ofDigitChars_ten_toDigits
  rw [literal?_of_digits hdigits (hasLeadingZero_toWord n), inBase?, hne,
    valueAfter?_of_digits hdigits, hvalue]
  simp [h]

theorem lt_bound_of_inBase? {base : Nat} (h : inBase? base w = some n) : n < bound := by
  unfold inBase? at h
  split at h
  · cases h
  · rw [Option.filter_eq_some_iff] at h
    exact of_decide_eq_true h.2

theorem lt_bound_of_literal? (h : literal? w = some n) : n < bound := by
  unfold literal? at h
  split at h
  · exact lt_bound_of_inBase? h
  · exact lt_bound_of_inBase? h
  · exact lt_bound_of_inBase? h
  · split at h
    · cases h
    · exact lt_bound_of_inBase? h

end Numeral

namespace Settings

open Yaml

variable {s d : Settings}

/-- The number of steps fits. -/
def Fits (s : Settings) : Prop := s.run.maxSteps < Numeral.bound

theorem bool?_keyword (b : Bool) : Node.bool? (.scalar ⟨.plain, Json.keyword b⟩) = some b := by
  cases b <;> rfl

theorem isPlain_keyword (b : Bool) : isPlain (Json.keyword b) = true := by
  cases b <;> decide

/-- How settings are written, line by line. -/
def runFields (r : RunSettings) : List Field :=
  [(historyName, Json.keyword r.history), (lenientName, Json.keyword r.lenient),
    (maxStepsName, Numeral.toWord r.maxSteps)]

def shellFields (r : ShellSettings) : List Field :=
  [(historyFileName, r.historyFile), (colorName, Json.keyword r.color)]

def outline (s : Settings) : Outline :=
  [(runName, runFields s.run), (shellName, shellFields s.shell)]

theorem isKey_names : ∀ w ∈ [runName, shellName, historyName, lenientName, maxStepsName,
    historyFileName, colorName], IsKey w := by
  decide

theorem fitField_runFields (r : RunSettings) : ∀ f ∈ runFields r, Outline.FitField f := by
  have hsteps := isPlain_of_isLabel (Numeral.isLabel_toWord r.maxSteps)
  have hkeys := isKey_names
  simp at hkeys
  simp [runFields, Outline.FitField, isPlain_keyword, hkeys, hsteps]

theorem fitField_shellFields {r : ShellSettings} (h : isPlain r.historyFile = true) :
    ∀ f ∈ shellFields r, Outline.FitField f := by
  have hkeys := isKey_names
  simp at hkeys
  simp [shellFields, Outline.FitField, isPlain_keyword, hkeys, h]

theorem fitSection_outline (h : isPlain s.shell.historyFile = true) :
    ∀ t ∈ s.outline, Outline.FitSection t := by
  simp only [outline, List.forall_mem_cons]
  exact ⟨⟨isKey_names _ (by simp), nofun, fitField_runFields s.run⟩,
    ⟨isKey_names _ (by simp), nofun, fitField_shellFields h⟩, nofun⟩

/-- What a file with the settings says. -/
def node (s : Settings) : Node := .map (s.outline.map Outline.sectionNode)

/-- What is written is these lines, if the name of the history file is written as it is. -/
theorem toTextIn_eq {y : Dialect} (h : y.write s.shell.historyFile = s.shell.historyFile) :
    s.toTextIn y = Outline.text s.outline := by
  simp [toTextIn, outline, runFields, shellFields, Outline.text, Outline.fieldsText, h]

/-- The file that is written is read as the mapping it shows, as far as the number of steps fits and
the name of the history file is written as it is. -/
def Faithful (y : Dialect) : Prop :=
  ∀ s : Settings, s.Fits → y.write s.shell.historyFile = s.shell.historyFile →
    y.node? (s.toTextIn y) = some s.node

theorem faithful_basic : Faithful .basic := by
  intro s _ hplain
  rw [toTextIn_eq hplain]
  exact Outline.ofText?_text nofun (fitSection_outline (isPlain_of_write_eq hplain))

/-- A field that is there once is read. -/
theorem read?_field {α : Type} {fs : List Field} {name v : Word} (hd : (fs.map Prod.fst).Nodup)
    (h : (name, v) ∈ fs) (default : Option α) (reader : Node → Option α) :
    Record.read? (fs.map fun f => (f.1, Node.scalar ⟨.plain, f.2⟩)) name default reader =
      reader (.scalar ⟨.plain, v⟩) := by
  refine Record.read?_of_mem ?_ (List.mem_map.mpr ⟨_, h, rfl⟩)
  rwa [List.map_map]

/-- A section that is there once is read with its fields. -/
theorem read?_section {o : Outline} {name : Word} {fs : List Field} (hd : (o.map Prod.fst).Nodup)
    (h : (name, fs) ∈ o) (default : Option (Record Node)) :
    Record.read? (o.map fun t => (t.1, Node.map (t.2.map Outline.fieldNode))) name default
      Node.fields? = some (fs.map fun f => (f.1, Node.scalar ⟨.plain, f.2⟩)) := by
  rw [← Outline.fields?_fields]
  refine Record.read?_of_mem ?_ (List.mem_map.mpr ⟨_, h, rfl⟩)
  rwa [List.map_map]

theorem runOf?_runFields {r : RunSettings} (h : r.maxSteps < Numeral.bound) (d : RunSettings) :
    runOf? d ((runFields r).map fun f => (f.1, Node.scalar ⟨.plain, f.2⟩)) = some r := by
  have hd : ((runFields r).map Prod.fst).Nodup :=
    (by decide : [historyName, lenientName, maxStepsName].Nodup)
  have hsteps : Node.number? (.scalar ⟨.plain, Numeral.toWord r.maxSteps⟩) = some r.maxSteps :=
    Numeral.literal?_toWord h
  unfold runOf?
  rw [read?_field hd (v := Json.keyword r.history) (by simp [runFields]),
    read?_field hd (v := Json.keyword r.lenient) (by simp [runFields]),
    read?_field hd (v := Numeral.toWord r.maxSteps) (by simp [runFields]), bool?_keyword,
    bool?_keyword, hsteps]
  rfl

theorem shellOf?_shellFields (r d : ShellSettings) :
    shellOf? d ((shellFields r).map fun f => (f.1, Node.scalar ⟨.plain, f.2⟩)) = some r := by
  have hd : ((shellFields r).map Prod.fst).Nodup :=
    (by decide : [historyFileName, colorName].Nodup)
  unfold shellOf?
  rw [read?_field hd (v := r.historyFile) (by simp [shellFields]),
    read?_field hd (v := Json.keyword r.color) (by simp [shellFields]), bool?_keyword]
  rfl

/-- Nothing is left to the defaults: all settings are there. -/
theorem ofNode?_node (h : s.Fits) (d : Settings) : ofNode? d s.node = some s := by
  have hd : (s.outline.map Prod.fst).Nodup := (by decide : [runName, shellName].Nodup)
  unfold ofNode? node
  simp only [Option.bind_eq_bind, Option.bind_some, Outline.fields?_sections]
  rw [read?_section hd (show (runName, runFields s.run) ∈ s.outline by simp [outline]),
    read?_section hd (show (shellName, shellFields s.shell) ∈ s.outline by simp [outline])]
  simp only [Option.bind_some, runOf?_runFields h, shellOf?_shellFields]
  rfl

/-- Settings are read as they were written, whatever the defaults are. -/
theorem ofTextIn?_toTextIn {y : Dialect} (hy : Faithful y) (h : s.Fits)
    (hplain : y.write s.shell.historyFile = s.shell.historyFile) (d : Settings) :
    ofTextIn? y d (s.toTextIn y) = some s := by
  rw [ofTextIn?, hy s h hplain, Option.bind_some, ofNode?_node h]

end Settings

end Transducer
