import Transducer.Proofs.Line.Continuation
import Transducer.Proofs.Line.Scanner

/-!
The scanner does on every line what the reader of characters does. At each moment the text behind
the position of the scanner is the text the reader has left, so the position is never off the characters
of the line, and what a failing scan tells in bytes is what a failing reader tells in characters.
-/

namespace Transducer

namespace Word

theorem utf8Size_toLower (c : Char) : c.toLower.utf8Size = c.utf8Size := by
  unfold Char.toLower
  split
  · rename_i h
    have hle : c.val.toNat ≤ 90 := UInt32.le_iff_toNat_le.mp h.2
    have hupper : c.utf8Size = 1 :=
      Char.utf8Size_eq_one_iff.mpr (UInt32.le_iff_toNat_le.mpr (Nat.le_trans hle (by decide)))
    have hsum : (c.val + ('a'.val - 'A'.val)).toNat = c.val.toNat + 32 := by
      rw [UInt32.toNat_add]
      exact Nat.mod_eq_of_lt (Nat.lt_of_le_of_lt (Nat.add_le_add_right hle 32) (by decide))
    rw [hupper, Char.utf8Size_eq_one_iff, UInt32.le_iff_toNat_le, hsum]
    exact Nat.le_trans (Nat.add_le_add_right hle 32) (by decide)
  · rfl

/-- Letters take as many bytes in the one case as in the other. -/
theorem bytes_eq_of_lower {v w : Word} (h : v.map Char.toLower = w.map Char.toLower) :
    bytes v = bytes w := by
  have hlower (w : Word) : bytes (w.map Char.toLower) = bytes w := by
    induction w with
    | nil => rfl
    | cons c w ih => rw [List.map_cons, bytes_cons, bytes_cons, utf8Size_toLower, ih]
  rw [← hlower v, h, hlower w]

end Word

namespace Scanner

open Word

variable {α β γ δ : Type} {line s u : Word} {pos : Nat}

/-- The text stands behind a byte position of the line. -/
def At (line : Word) (pos : Nat) (s : Word) : Prop := ∃ v, line = v ++ s ∧ v.bytes = pos

theorem at_zero (line : Word) : At line 0 line := ⟨[], rfl, rfl⟩

theorem At.append (h : At line pos (u ++ s)) : At line (pos + u.bytes) s := by
  obtain ⟨v, rfl, rfl⟩ := h
  exact ⟨v ++ u, (List.append_assoc v u s).symm, bytes_append v u⟩

theorem bind_of_ok {x : Scan α} {g : α → Scan β} {a : α} {q : Nat}
    (h : x pos = some (.ok (a, q))) : (x >>= g) pos = g a q := by
  simp [bind, StateT.bind, ExceptT.bind, ExceptT.mk, ExceptT.bindCont, h]

theorem bind_of_error {x : Scan α} {g : α → Scan β} {q : Nat}
    (h : x pos = some (.error q)) : (x >>= g) pos = some (.error q) := by
  simp [bind, StateT.bind, ExceptT.bind, ExceptT.mk, ExceptT.bindCont, h, pure]

theorem get_run (pos : Nat) : (get : Scan Nat) pos = some (.ok (pos, pos)) := rfl

theorem lift_run (a : α) (pos : Nat) : (liftM (some a) : Scan α) pos = some (.ok (a, pos)) := rfl

theorem At.rest (h : At line pos s) : rest line pos = some (.ok (s, pos)) := by
  obtain ⟨v, rfl, rfl⟩ := h
  rw [Scanner.rest, bind_of_ok (get_run _), splitAtByte?_append v s]
  rfl

theorem At.advance (h : At line pos (u ++ s)) :
    advance line u.bytes pos = some (.ok ((), pos + u.bytes)) := by
  obtain ⟨v, rfl, rfl⟩ := h
  rw [Scanner.advance, bind_of_ok (get_run _), splitAtByte?_append_append]
  rfl

theorem At.since (h : At line pos (u ++ s)) :
    since line pos (pos + u.bytes) = some (.ok (u, pos + u.bytes)) := by
  obtain ⟨v, rfl, rfl⟩ := h
  rw [Scanner.since, bind_of_ok (get_run _), splitAtByte?_append_append,
    bind_of_ok (lift_run _ _)]
  simp only [splitAtByte?_append]
  rfl

theorem At.atEnd (h : At line pos s) : atEnd line pos = some (.ok (s.isEmpty, pos)) := by
  obtain ⟨v, rfl, rfl⟩ := h
  have hend : decide (bytes (v ++ s) ≤ v.bytes) = s.isEmpty := by
    cases s with
    | nil => simp
    | cons c s =>
      have hpos := c.utf8Size_pos
      simp only [bytes_append, bytes_cons, List.isEmpty_cons, decide_eq_false_iff_not]
      omega
  rw [← hend]
  rfl

theorem At.peek (h : At line pos s) : peek line pos = some (.ok (s.head?, pos)) := by
  rw [Scanner.peek, bind_of_ok h.rest]
  rfl

theorem At.sees (h : At line pos s) (w : Word) :
    sees line w pos = some (.ok (w.isPrefixOf s, pos)) := by
  rw [Scanner.sees, bind_of_ok h.rest]
  rfl

theorem At.length_lt_turns (h : At line pos s) : s.length < turns line := by
  obtain ⟨v, rfl, -⟩ := h
  rw [turns, List.length_append]
  omega

/-- Characters of the class are passed over. The induction is on the text behind the position, of
which each turn takes one character. -/
theorem At.skipWhile_of_lt (h : At line pos s) (p : Char → Bool) {n : Nat} (hn : s.length < n) :
    skipWhile line p n pos = some (.ok ((), pos + bytes (s.takeWhile p))) := by
  induction s generalizing pos n with
  | nil =>
    obtain ⟨n, rfl⟩ := Nat.exists_eq_succ_of_ne_zero (Nat.ne_zero_of_lt hn)
    rw [skipWhile, bind_of_ok h.peek]
    rfl
  | cons c s ih =>
    obtain ⟨n, rfl⟩ := Nat.exists_eq_succ_of_ne_zero (Nat.ne_zero_of_lt hn)
    rw [skipWhile, bind_of_ok h.peek]
    have hc : At line pos ([c] ++ s) := h
    cases hp : p c with
    | false =>
      simp only [List.head?_cons, hp, List.takeWhile_cons]
      rfl
    | true =>
      have hnext := ih hc.append (Nat.lt_of_succ_lt_succ hn)
      have hmove := hc.advance
      simp only [bytes_cons, bytes_nil, Nat.add_zero] at hnext hmove
      simp only [List.head?_cons, hp, if_true, List.takeWhile_cons]
      rw [bind_of_ok hmove, hnext, bytes_cons, Nat.add_assoc]

theorem At.skipWhile (h : At line pos s) (p : Char → Bool) :
    skipWhile line p (turns line) pos = some (.ok ((), pos + bytes (s.takeWhile p))) :=
  h.skipWhile_of_lt p h.length_lt_turns

theorem At.dropWhile (h : At line pos s) (p : Char → Bool) :
    At line (pos + bytes (s.takeWhile p)) (s.dropWhile p) := by
  rw [← s.takeWhile_append_dropWhile (p := p)] at h
  exact h.append

/-- After blanks the scan goes on behind them. -/
theorem At.skipBlanks (h : At line pos s) :
    ∃ q, skipBlanks line pos = some (.ok ((), q)) ∧ At line q s.trimStart :=
  ⟨_, h.skipWhile isBlank, h.dropWhile isBlank⟩

theorem At.run (h : At line pos s) (p : Char → Bool) :
    run line p pos = some (.ok (s.takeWhile p, pos + bytes (s.takeWhile p))) := by
  rw [Scanner.run, bind_of_ok (get_run _), bind_of_ok (h.skipWhile p)]
  rw [← s.takeWhile_append_dropWhile (p := p)] at h
  exact h.since

/-- A scan and a reader of what stands behind the position. Both fail, in front of the same text, or
both succeed, and what they give goes together. -/
inductive Follows (line : Word) (R : α → Nat → β → Prop) :
    Option (Except Nat (α × Nat)) → Except Word β → Prop
  | failed {q : Nat} {r : Word} (h : At line q r) : Follows line R (some (.error q)) (.error r)
  | took {a : α} {q : Nat} {b : β} (h : R a q b) : Follows line R (some (.ok (a, q))) (.ok b)

/-- The same value, and the position is in front of the text that is left. -/
def Leaves (line : Word) (a : α) (q : Nat) (x : α × Word) : Prop := x.1 = a ∧ At line q x.2

/-- The same value, and the position is in front of some text. -/
def Ends (line : Word) (a : α) (q : Nat) (b : α) : Prop := b = a ∧ ∃ r, At line q r

theorem Follows.bind {R : α → Nat → β → Prop} {S : γ → Nat → δ → Prop} {x : Scan α}
    {y : Except Word β} {g : α → Scan γ} {f : β → Except Word δ} (hx : Follows line R (x pos) y)
    (hg : ∀ a q b, R a q b → Follows line S (g a q) (f b)) :
    Follows line S ((x >>= g) pos) (y.bind f) := by
  generalize hres : x pos = res at hx
  cases hx with
  | failed h =>
    rw [bind_of_error hres]
    exact .failed h
  | took h =>
    rw [bind_of_ok hres]
    exact hg _ _ _ h

theorem follows_label (h : At line pos s) :
    Follows line (Leaves line) (label line pos) (Line.label s) := by
  have hrun := h.run isLabelChar
  rw [run, bind_of_ok (get_run _), bind_of_ok (h.skipWhile isLabelChar)] at hrun
  rw [label, bind_of_ok (get_run _), bind_of_ok (h.skipWhile isLabelChar), bind_of_ok (get_run _),
    Line.label, Line.run_eq]
  by_cases hw : s.takeWhile isLabelChar = []
  · simp only [hw, bytes_nil, Nat.add_zero, if_true]
    exact .failed h
  · have hmoved : pos + bytes (s.takeWhile isLabelChar) ≠ pos := by
      have hne := mt bytes_eq_zero_iff.mp hw
      omega
    rw [if_neg hmoved, if_neg hw, hrun]
    exact .took ⟨rfl, h.dropWhile isLabelChar⟩

theorem follows_token (h : At line pos s) :
    Follows line (Leaves line) (token line pos) (Line.token s) := by
  rw [token, bind_of_ok (h.run isTokenChar), Line.token, Line.run_eq]
  by_cases hw : s.takeWhile isTokenChar = []
  · simp only [hw, bytes_nil, Nat.add_zero, if_true, List.isEmpty_nil]
    exact .failed h
  · rw [if_neg (by simpa using hw), if_neg hw]
    exact .took ⟨rfl, h.dropWhile isTokenChar⟩

/-- A sign takes a byte. -/
theorem At.tail {c : Char} (h : At line pos s) (hs : s.head? = some c) (hc : c.utf8Size = 1) :
    Scanner.advance line 1 pos = some (.ok ((), pos + 1)) ∧ At line (pos + 1) s.tail := by
  obtain ⟨r, rfl⟩ := List.head?_eq_some_iff.mp hs
  have h : At line pos ([c] ++ r) := h
  have hmove := h.advance
  have hnext := h.append
  simp only [bytes_cons, bytes_nil, hc] at hmove hnext
  exact ⟨hmove, hnext⟩

theorem follows_colon (h : At line pos s) :
    Follows line (Leaves line) (colon line pos) (Line.colon s) := by
  rw [colon, bind_of_ok h.peek, Line.colon_eq]
  split
  · rename_i hs
    obtain ⟨hmove, hnext⟩ := h.tail hs (by decide)
    rw [hmove]
    exact .took ⟨rfl, hnext⟩
  · exact .failed h

theorem follows_doubleColon (h : At line pos s) :
    Follows line (Leaves line) (doubleColon line pos) (Line.doubleColon s) := by
  rw [doubleColon, bind_of_ok (h.sees _)]
  cases hs : List.isPrefixOf [':', ':'] s with
  | true =>
    obtain ⟨r, rfl⟩ := List.isPrefixOf_iff_prefix.mp hs
    have hmove : advance line 2 pos = some (.ok ((), pos + 2)) := h.advance
    rw [if_pos rfl, hmove]
    exact .took ⟨rfl, h.append⟩
  | false =>
    have hline : Line.doubleColon s = .error s := by
      unfold Line.doubleColon
      split
      · simp at hs
      · rfl
    rw [if_neg nofun, hline]
    exact .failed h

/-- What earlier clauses tell is what this one shows, unless it is the opposite. -/
theorem getD_of_ne {known : Option Bool} {b : Bool} (h : known ≠ some !b) : known.getD b = b := by
  cases known with
  | none => rfl
  | some d => simpa using h

theorem follows_emission (known : Option Bool) (h : At line pos s) :
    Follows line (Leaves line) (emission line known pos) (Line.emission known s) := by
  rw [emission, bind_of_ok h.peek, Line.emission_eq]
  by_cases hs : s.head? = some '|'
  · obtain ⟨hmove, hnext⟩ := h.tail hs (by decide)
    simp only [hs, decide_true, if_true]
    by_cases hk : known = some false
    · subst hk
      obtain ⟨r, rfl⟩ := List.head?_eq_some_iff.mp hs
      exact .failed h
    · have hknown : known.getD true = true := getD_of_ne hk
      obtain ⟨q, hskip, hq⟩ := (hnext.dropWhile isEmitChar).skipBlanks
      simp only [hknown, hk, ne_eq, not_true_eq_false, if_false]
      rw [bind_of_ok hmove, bind_of_ok (hnext.run isEmitChar), bind_of_ok hskip]
      exact .took ⟨rfl, hq⟩
  · simp only [hs, decide_false, if_false]
    by_cases hk : known = some true
    · subst hk
      exact .failed h
    · have hknown : known.getD false = false := getD_of_ne hk
      simp only [hknown, hk, ne_eq, not_true_eq_false, if_false]
      exact .took ⟨rfl, h⟩

theorem At.seesKeyword (h : At line pos s) (w : Word) :
    ∃ b : Bool, seesKeyword line w pos = some (.ok (b, pos)) ∧
      (b = true ↔ ∃ k r, s = k ++ r ∧ k.map Char.toLower = w.map Char.toLower) := by
  rw [Scanner.seesKeyword, bind_of_ok h.rest]
  cases hsplit : s.splitAtByte? w.bytes with
  | none =>
    refine ⟨false, rfl, nofun, ?_⟩
    rintro ⟨k, r, rfl, hk⟩
    rw [← bytes_eq_of_lower hk, splitAtByte?_append] at hsplit
    cases hsplit
  | some x =>
    obtain ⟨v, q⟩ := x
    obtain ⟨hs, hv⟩ := splitAtByte?_eq_some_iff.mp hsplit
    refine ⟨decide (v.map Char.toLower = w.map Char.toLower), rfl, ?_⟩
    rw [decide_eq_true_iff]
    constructor
    · intro hlower
      exact ⟨v, q, hs, hlower⟩
    · rintro ⟨k, r, rfl, hk⟩
      rw [← bytes_eq_of_lower hk, splitAtByte?_append] at hsplit
      cases hsplit
      exact hk

theorem At.keyword (h : At line pos s) : keyword line pos =
    match Line.keyword? s with
    | none => some (.error pos)
    | some (role, _) => some (.ok (role, pos)) := by
  obtain ⟨start, hstart, hstart_iff⟩ := h.seesKeyword "START".toList
  obtain ⟨accept, haccept, haccept_iff⟩ := h.seesKeyword "ACCEPT".toList
  rw [Scanner.keyword, bind_of_ok hstart]
  cases start with
  | true =>
    obtain ⟨k, r, hs, hk⟩ := hstart_iff.mp rfl
    have hsome : Line.keyword? s = some (.start, r) :=
      Line.keyword?_eq_some_iff.mpr ⟨k, ⟨_, rfl, hk⟩, hs⟩
    rw [hsome]
    rfl
  | false =>
    rw [if_neg nofun, bind_of_ok haccept]
    cases accept with
    | true =>
      obtain ⟨k, r, hs, hk⟩ := haccept_iff.mp rfl
      have hsome : Line.keyword? s = some (.accept, r) :=
        Line.keyword?_eq_some_iff.mpr ⟨k, ⟨_, rfl, hk⟩, hs⟩
      rw [hsome]
      rfl
    | false =>
      have hnone : Line.keyword? s = none := by
        rw [Option.eq_none_iff_forall_ne_some]
        rintro ⟨role, r⟩ hsome
        obtain ⟨k, ⟨w, hw, hk⟩, hs⟩ := Line.keyword?_eq_some_iff.mp hsome
        cases role <;> cases hw
        · exact nomatch hstart_iff.mpr ⟨k, r, hs, hk⟩
        · exact nomatch haccept_iff.mpr ⟨k, r, hs, hk⟩
      rw [hnone]
      rfl

/-- One turn in a role block. The bracket is passed, or there is a keyword, with which the scan goes
on as `y` does, or the scan fails. -/
theorem follows_roleBlock_turn {role : Role} {n : Nat} {y : Role → Word → Line.Reading Role}
    (h : At line pos s)
    (hy : ∀ q found k r, Line.Spells found k → s.trimStart = k ++ r → At line q (k ++ r) →
      Follows line (Leaves line)
        ((if role ≠ .ordinary then fail
          else do
            advance line ((found.keyword.map bytes).getD 0)
            roleBlock line n found) q) (y found r)) :
    Follows line (Leaves line) (roleBlock line (n + 1) role pos)
      (if s.trimStart.head? = some ']' then .ok (role, s.trimStart.tail) else
        match Line.keyword? s.trimStart with
        | none => .error s.trimStart
        | some (found, r) => y found r) := by
  obtain ⟨q, hskip, hq⟩ := h.skipBlanks
  rw [roleBlock, bind_of_ok hskip, bind_of_ok hq.peek]
  by_cases hclose : s.trimStart.head? = some ']'
  · obtain ⟨hmove, hnext⟩ := hq.tail hclose (by decide)
    rw [if_pos hclose, if_pos hclose, bind_of_ok hmove]
    exact .took ⟨rfl, hnext⟩
  · rw [if_neg hclose, if_neg hclose]
    have hkeyword := hq.keyword
    cases hfound : Line.keyword? s.trimStart with
    | none =>
      rw [hfound] at hkeyword
      rw [bind_of_error hkeyword]
      exact .failed hq
    | some x =>
      obtain ⟨found, r⟩ := x
      obtain ⟨k, hk, hs⟩ := Line.keyword?_eq_some_iff.mp hfound
      rw [hfound] at hkeyword
      rw [bind_of_ok hkeyword]
      exact hy q found k r hk hs (hs ▸ hq)

/-- Behind a keyword a role block ends, or the scan fails. A second keyword is no better than any
other text. -/
theorem follows_roleBlock_found {role : Role} {n : Nat} (hrole : role ≠ .ordinary)
    (h : At line pos s) :
    Follows line (Leaves line) (roleBlock line (n + 1) role pos)
      (if s.trimStart.head? = some ']' then .ok (role, s.trimStart.tail)
        else .error s.trimStart) := by
  have hturn := follows_roleBlock_turn (n := n) (y := fun _ _ => .error s.trimStart) h (by
    intro q found k r _ hs hq
    rw [if_pos hrole]
    exact .failed (hs ▸ hq))
  cases hfound : Line.keyword? s.trimStart with
  | none | some => simpa [hfound] using hturn

theorem follows_roleBlock (h : At line pos s) :
    Follows line (Leaves line) (roleBlock line (turns line) .ordinary pos) (Line.roleBlock s) := by
  rw [turns, Line.roleBlock_eq]
  refine follows_roleBlock_turn h ?_
  intro q found k r hk hs hq
  obtain ⟨w, hw, hlower⟩ := hk
  have hfound : found ≠ .ordinary := by
    rintro rfl
    cases hw
  have hlen : (found.keyword.map bytes).getD 0 = bytes k := by
    rw [Option.mem_def.mp hw, bytes_eq_of_lower hlower]
    rfl
  rw [if_neg nofun, hlen, bind_of_ok hq.advance]
  exact follows_roleBlock_found hfound hq.append

theorem follows_role (h : At line pos s) :
    Follows line (Leaves line) (role line pos) (Line.role s) := by
  rw [role, bind_of_ok h.peek, Line.role_eq]
  split
  · rename_i hopen
    obtain ⟨hmove, hnext⟩ := h.tail hopen (by decide)
    rw [bind_of_ok hmove]
    exact follows_roleBlock hnext
  · exact .took ⟨rfl, h⟩

theorem follows_clause (known : Option Bool) (h : At line pos s) :
    Follows line (Leaves line) (clause line known pos) (Line.clause known s) := by
  refine (follows_label h).bind ?_
  rintro target q ⟨_, r⟩ ⟨rfl, hr⟩
  obtain ⟨q, hskip, hr⟩ := hr.skipBlanks
  rw [bind_of_ok hskip]
  refine (follows_colon hr).bind ?_
  rintro _ q ⟨_, r⟩ ⟨_, hr⟩
  obtain ⟨q, hskip, hr⟩ := hr.skipBlanks
  rw [bind_of_ok hskip]
  refine (follows_token hr).bind ?_
  rintro token q ⟨_, r⟩ ⟨rfl, hr⟩
  obtain ⟨q, hskip, hr⟩ := hr.skipBlanks
  rw [bind_of_ok hskip]
  refine (follows_emission known hr).bind ?_
  rintro emit? q ⟨_, r⟩ ⟨rfl, hr⟩
  exact .took ⟨rfl, hr⟩

/-- The clauses are scanned as they are read. The induction is on the turns, each of which leaves
less of the text behind the position. -/
theorem follows_clauses_of_lt (known : Option Bool) (h : At line pos s) {n : Nat}
    (hn : s.length < n) :
    Follows line (Ends line) (clauses line n known pos) (Line.clauses known s) := by
  induction n generalizing known pos s with
  | zero => exact absurd hn (Nat.not_lt_zero _)
  | succ n ih =>
    rw [clauses, bind_of_ok h.atEnd]
    by_cases hs : s = []
    · subst hs
      rw [Line.clauses_nil]
      exact .took ⟨rfl, _, h⟩
    rw [if_neg (by simpa using hs), Line.clauses_eq_bind known hs]
    have hclause := follows_clause known h
    generalize hscan : clause line known pos = scan at hclause
    generalize hread : Line.clause known s = read at hclause
    cases hclause with
    | failed hr =>
      rw [bind_of_error hscan]
      exact .failed hr
    | @took _ q x hr =>
      obtain ⟨c, r⟩ := x
      obtain ⟨rfl, hr⟩ := hr
      rw [bind_of_ok hscan, bind_of_ok hr.peek]
      simp only [Except.bind]
      by_cases hcomma : r.head? = some ','
      · obtain ⟨hmove, hnext⟩ := hr.tail hcomma (by decide)
        obtain ⟨t, rfl⟩ := List.head?_eq_some_iff.mp hcomma
        obtain ⟨q, hskip, hq⟩ := hnext.skipBlanks
        have hlen : (trimStart t).length < n :=
          Nat.lt_of_lt_of_le (Line.length_after_comma hread) (Nat.le_of_lt_succ hn)
        rw [if_pos hcomma, if_pos hcomma, bind_of_ok hmove, bind_of_ok hskip, Except.map_eq_bind]
        refine (ih (some c.emit?.isSome) hq hlen).bind ?_
        rintro cs q _ ⟨rfl, hq⟩
        exact .took ⟨rfl, hq⟩
      · rw [if_neg hcomma, if_neg hcomma]
        exact .took ⟨rfl, _, hr⟩

/-- The scanner does on a whole line what the reader does. -/
theorem follows_state (line : Word) :
    Follows line (Ends line) (state line 0) (Line.state line) := by
  obtain ⟨q, hskip, hq⟩ := (at_zero line).skipBlanks
  rw [state, bind_of_ok hskip]
  refine (follows_role hq).bind ?_
  rintro role q ⟨_, r⟩ ⟨rfl, hr⟩
  obtain ⟨q, hskip, hr⟩ := hr.skipBlanks
  rw [bind_of_ok hskip]
  refine (follows_label hr).bind ?_
  rintro label q ⟨_, r⟩ ⟨rfl, hr⟩
  obtain ⟨q, hskip, hr⟩ := hr.skipBlanks
  rw [bind_of_ok hskip]
  refine (follows_doubleColon hr).bind ?_
  rintro _ q ⟨_, r⟩ ⟨_, hr⟩
  obtain ⟨q, hskip, hr⟩ := hr.skipBlanks
  rw [bind_of_ok hskip]
  refine (follows_clauses_of_lt none hr hr.length_lt_turns).bind ?_
  rintro cs q _ ⟨rfl, r, hr⟩
  rw [bind_of_ok hr.rest]
  exact .took ⟨rfl, r, hr⟩

/-- The scanner gives the answer of the reader on every line, so all its positions are between the
characters of the line. -/
theorem parse_eq (line : Word) : parse line = some (State.parse line) := by
  have h : Follows line (Ends line) ((state line).run 0).run (Line.state line) :=
    follows_state line
  unfold parse State.parse
  generalize ((state line).run 0).run = scan at h
  generalize Line.state line = read at h
  cases h with
  | took h =>
    obtain ⟨rfl, -⟩ := h
    rfl
  | failed h =>
    obtain ⟨v, rfl, rfl⟩ := h
    simp [splitAtByte?_append]

end Scanner

/-- A line that cannot be read can be read in part: what stands in front of the place where reading
stopped is the beginning of a line that can be read. The place is told in characters, and the
scanner, which never leaves the characters of the line, stops at the byte behind just as many of them. -/
theorem State.parse_stops_within (line : Word) :
    Scanner.parse line = some (State.parse line) ∧
      ∀ n, State.parse line = .error n → n ≤ line.length ∧
        (∃ w s, State.parse (line.take n ++ w) = .ok s) ∧
        ((Scanner.state line).run 0).run = some (.error (Word.bytes (line.take n))) := by
  refine ⟨Scanner.parse_eq line, ?_⟩
  intro n h
  cases hread : Line.state line with
  | ok s =>
    rw [State.parse, hread] at h
    cases h
  | error r =>
    have hscan := Scanner.follows_state line
    rw [hread] at hscan
    obtain ⟨v, w, s, rfl, hform⟩ := Line.state_eq_error hread
    obtain rfl : v.length = n := by
      rw [State.parse, hread] at h
      rw [Except.mapError_error, List.length_append, Nat.add_sub_cancel] at h
      exact Except.error.inj h
    rw [List.take_left]
    refine ⟨by simp, ⟨w, s, ?_⟩, ?_⟩
    · exact State.parse_eq_ok_iff.mpr (Line.state_eq_ok_iff.mpr hform)
    · generalize hres : Scanner.state (v ++ r) 0 = res at hscan
      cases hscan with
      | failed hat =>
        obtain ⟨v', hv, rfl⟩ := hat
        obtain rfl := List.append_cancel_right hv
        exact hres

/-- An accent is one character of two bytes. -/
theorem State.parse_stops_behind_accent :
    State.parse "S0 :: S1: é, ü".toList = .error 13 ∧
      13 ≤ "S0 :: S1: é, ü".toList.length ∧
      (∃ w s, State.parse ("S0 :: S1: é, ".toList ++ w) = .ok s) ∧
      ((Scanner.state "S0 :: S1: é, ü".toList).run 0).run = some (.error 14) := by
  have h : State.parse "S0 :: S1: é, ü".toList = .error 13 := by decide +kernel
  obtain ⟨hlen, hgoes, hbyte⟩ := (State.parse_stops_within _).2 13 h
  exact ⟨h, hlen, hgoes, hbyte⟩

end Transducer
