import Transducer.Proofs.Line.Acceptance

/-!
Where reading stops. Whatever reader fails, the text in front of the place where it stopped is the
beginning of a line that can be read: each place has a continuation of its own, and where earlier
clauses tell whether the next one emits, the continuation agrees with them.
-/

namespace Transducer.Line

open Word

variable {known : Option Bool} {s r : Word}

theorem stops_append_congr {p : Char → Bool} {u r r' : Word} (h : Stops p (u ++ r))
    (hr : r'.head? = r.head?) : Stops p (u ++ r') := by
  rwa [Stops, List.head?_append, hr, ← List.head?_append]

/-- A clause stays one in front of any rest that begins in the same way. -/
theorem ClauseIn.exists_text {c : Clause} (h : ClauseIn c s r) :
    ∃ v, s = v ++ r ∧ ∀ r', r'.head? = r.head? → ClauseIn c (v ++ r') r' := by
  cases h with
  | @intro target u v token w t _ emit? htarget hu hv htoken hstop hw ht =>
    cases ht with
    | nothing =>
      refine ⟨target ++ u ++ ':' :: v ++ token ++ w, rfl, ?_⟩
      intro r' hr
      exact .intro htarget hu hv htoken (stops_append_congr hstop hr) hw (.nothing r')
    | @token e x _ he hstop' hx =>
      refine ⟨target ++ u ++ ':' :: v ++ token ++ w ++ '|' :: e ++ x, by simp, ?_⟩
      intro r' hr
      have hbar : Stops isTokenChar (w ++ ('|' :: e ++ x ++ r')) := stops_append_congr hstop rfl
      have hc := ClauseIn.intro htarget hu hv htoken hbar hw
        (.token he (stops_append_congr hstop' hr) hx)
      simpa using hc

/-- A clause that is begun can be ended, with a bar if the clauses before it have one. -/
theorem exists_clause (known : Option Bool) {target u v token w : Word}
    (htarget : target.isLabel = true) (hu : u.isBlank = true) (hv : v.isBlank = true)
    (htoken : token.isToken = true) (hw : w.isBlank = true) :
    ∃ x c, ClauseIn c (target ++ u ++ ':' :: v ++ token ++ w ++ x) [] ∧
      Agrees known c.emit?.isSome := by
  have hstops {x : Word} (hx : Stops isTokenChar x) : Stops isTokenChar (w ++ x) :=
    stops_blanks (fun _ => isTokenChar_of_isBlank) hw hx
  have hbar : Emission (some []) ['|'] [] := .token (u := []) rfl (stops_nil _) rfl
  match known with
  | some true =>
    exact ⟨['|'], _, .intro htarget hu hv htoken (hstops (stops_cons.mpr (by decide))) hw hbar,
      fun b hb => (Option.some.inj hb).symm⟩
  | some false =>
    exact ⟨[], _, .intro htarget hu hv htoken (hstops (stops_nil _)) hw (.nothing []),
      fun b hb => (Option.some.inj hb).symm⟩
  | none =>
    exact ⟨[], _, .intro htarget hu hv htoken (hstops (stops_nil _)) hw (.nothing []), nofun⟩

theorem run_eq (p : Char → Bool) (s : Word) : run p s =
    if s.takeWhile p = [] then .error s else .ok (s.takeWhile p, s.dropWhile p) := by
  unfold run
  split
  · rename_i hw
    rw [if_pos hw]
  · rename_i hw
    rw [if_neg hw]

theorem run_eq_error {p : Char → Bool} (h : run p s = .error r) : s = r := by
  rw [run_eq] at h
  split at h
  · exact Except.error.inj h
  · cases h

theorem colon_eq_error (h : colon s = .error r) : s = r := by
  unfold colon at h
  split at h
  · cases h
  · exact Except.error.inj h

theorem doubleColon_eq_error (h : doubleColon s = .error r) : s = r := by
  unfold doubleColon at h
  split at h
  · cases h
  · exact Except.error.inj h

theorem emission_eq_error (h : emission known s = .error r) : s = r := by
  unfold emission at h
  split at h <;> split at h
  · exact Except.error.inj h
  · cases h
  · exact Except.error.inj h
  · cases h

/-- Wherever reading stops in a clause, the clause could be gone on with to its end. The parts that
are still missing are made up. -/
theorem clause_eq_error (h : clause known s = .error r) :
    ∃ v x c, s = v ++ r ∧ ClauseIn c (v ++ x) [] ∧ Agrees known c.emit?.isSome := by
  have hname : Word.isLabel ['A'] = true := by decide
  have hletter : Word.isToken ['x'] = true := by decide
  rcases Except.bind_eq_error_iff.mp h with hlabel | ⟨⟨target, s₁⟩, hlabel, h⟩
  · obtain ⟨x, c, hc⟩ := exists_clause known (u := []) (v := []) (w := []) hname rfl rfl hletter rfl
    exact ⟨[], _, c, run_eq_error hlabel, hc⟩
  obtain ⟨hs, htarget, -⟩ := label_eq_ok_iff.mp hlabel
  obtain ⟨u, hu, h₁, -⟩ := exists_trimStart s₁
  rcases Except.bind_eq_error_iff.mp h with hcolon | ⟨⟨_, s₂⟩, hcolon, h⟩
  · obtain ⟨x, c, hc⟩ := exists_clause known (v := []) (w := []) htarget hu rfl hletter rfl
    refine ⟨target ++ u, ':' :: 'x' :: x, c, ?_, by simpa using hc⟩
    rw [hs, h₁, colon_eq_error hcolon, List.append_assoc]
  obtain ⟨v, hv, h₂, -⟩ := exists_trimStart s₂
  rw [colon_eq_ok_iff.mp hcolon] at h₁
  rcases Except.bind_eq_error_iff.mp h with htoken | ⟨⟨token, s₃⟩, htoken, h⟩
  · obtain ⟨x, c, hc⟩ := exists_clause known (w := []) htarget hu hv hletter rfl
    refine ⟨target ++ u ++ ':' :: v, 'x' :: x, c, ?_, by simpa using hc⟩
    rw [hs, h₁, h₂, run_eq_error htoken]
    simp
  obtain ⟨ht, hword, -⟩ := token_eq_ok_iff.mp htoken
  obtain ⟨w, hw, h₃, -⟩ := exists_trimStart s₃
  rcases Except.bind_eq_error_iff.mp h with hemission | ⟨⟨emit?, s₄⟩, hemission, h⟩
  · obtain ⟨x, c, hc⟩ := exists_clause known htarget hu hv hword hw
    refine ⟨target ++ u ++ ':' :: v ++ token ++ w, x, c, ?_, hc⟩
    rw [hs, h₁, h₂, ht, h₃, emission_eq_error hemission]
    simp
  · cases h

/-- Wherever reading stops among the clauses, some clauses begin as the text in front of it does.
The induction is on the text; the clauses that were read stay in front. -/
theorem clauses_eq_error (h : clauses known s = .error r) :
    ∃ v x cs emitting, s = v ++ r ∧ Clauses emitting cs (v ++ x) ∧ Agrees known emitting := by
  induction hn : s.length using Nat.strongRecOn generalizing known s with
  | ind n ih =>
    by_cases hs : s = []
    · rw [hs, clauses_nil] at h
      cases h
    rw [clauses_eq_bind known hs] at h
    rcases Except.bind_eq_error_iff.mp h with hclause | ⟨⟨c, t⟩, hclause, h⟩
    · obtain ⟨v, x, c, rfl, hc, hagree⟩ := clause_eq_error hclause
      exact ⟨v, x, [c], _, rfl, .last hc rfl .nothing, hagree⟩
    obtain ⟨hc, -, hagree⟩ := clause_eq_ok_iff.mp hclause
    simp only at h
    split at h
    · rename_i hcomma
      obtain ⟨t, rfl⟩ := List.head?_eq_some_iff.mp hcomma
      obtain ⟨u, hu, ht, -⟩ := exists_trimStart t
      obtain ⟨v, x, cs, emitting, hv, hcs, hemit⟩ :=
        ih _ (hn ▸ length_after_comma hclause) (Except.map_eq_error_iff.mp h) rfl
      obtain rfl := hemit _ rfl
      obtain ⟨text, rfl, hchange⟩ := hc.exists_text
      have hc' := hchange (',' :: u ++ (v ++ x)) rfl
      refine ⟨text ++ ',' :: u ++ v, x, c :: cs, _, ?_, ?_, hagree⟩
      · rw [List.tail_cons] at hv
        rw [ht, hv]
        simp
      · simpa using Clauses.more hc' rfl hu hcs
    · cases h

/-- Wherever reading stops in a role block, the block could be closed. -/
theorem role_eq_error (h : Line.role s = .error r) :
    ∃ v x role, s = v ++ r ∧ Block role (v ++ x) := by
  rw [role_eq, roleBlock_eq] at h
  split at h
  · rename_i hopen
    obtain ⟨t, rfl⟩ := List.head?_eq_some_iff.mp hopen
    obtain ⟨u, hu, ht, -⟩ := exists_trimStart t
    rw [List.tail_cons] at h
    split at h
    · cases h
    split at h
    · cases h
      exact ⟨'[' :: u, [']'], _, congrArg ('[' :: ·) ht, .empty hu⟩
    rename_i role q hkeyword
    obtain ⟨k, hk, hq⟩ := keyword?_eq_some_iff.mp hkeyword
    obtain ⟨v, hv, hr, -⟩ := exists_trimStart q
    split at h
    · cases h
    · cases h
      have htext : t = u ++ (k ++ (v ++ q.trimStart)) := by rw [← hr, ← hq, ← ht]
      exact ⟨'[' :: u ++ k ++ v, [']'], role, by simpa using htext, .keyword hu hk hv⟩
  · cases h

/-- Wherever reading stops, some line begins as the text in front of it does. -/
theorem state_eq_error {line : Word} (h : state line = .error r) :
    ∃ v x q, line = v ++ r ∧ Form q (v ++ x) := by
  have hname : Word.isLabel ['A'] = true := by decide
  obtain ⟨u, hu, h₀, -⟩ := exists_trimStart line
  rcases Except.bind_eq_error_iff.mp h with hrole | ⟨⟨role, s₁⟩, hrole, h⟩
  · obtain ⟨v, x, role, hv, hb⟩ := role_eq_error hrole
    refine ⟨u ++ v, x ++ 'A' :: ':' :: [':'], ⟨['A'], role, .plain []⟩, ?_, ?_⟩
    · rw [h₀, hv, List.append_assoc]
    · simpa using Form.intro (v := []) (w := []) (x := []) hu hb rfl hname rfl rfl .empty
  obtain ⟨b, hb, h₀', -⟩ := role_eq_ok_iff.mp hrole
  obtain ⟨v, hv, h₁, -⟩ := exists_trimStart s₁
  rcases Except.bind_eq_error_iff.mp h with hlabel | ⟨⟨l, s₂⟩, hlabel, h⟩
  · refine ⟨u ++ b ++ v, 'A' :: ':' :: [':'], ⟨['A'], role, .plain []⟩, ?_, ?_⟩
    · rw [h₀, h₀', h₁, run_eq_error hlabel]
      simp
    · simpa using Form.intro (w := []) (x := []) hu hb hv hname rfl rfl .empty
  obtain ⟨h₁', hl, -⟩ := label_eq_ok_iff.mp hlabel
  obtain ⟨w, hw, h₂, -⟩ := exists_trimStart s₂
  rcases Except.bind_eq_error_iff.mp h with hcolons | ⟨⟨_, s₃⟩, hcolons, h⟩
  · refine ⟨u ++ b ++ v ++ l ++ w, ':' :: [':'], ⟨l, role, .plain []⟩, ?_, ?_⟩
    · rw [h₀, h₀', h₁, h₁', h₂, doubleColon_eq_error hcolons]
      simp
    · simpa using Form.intro (x := []) hu hb hv hl hw rfl .empty
  obtain ⟨x, hx, h₃, -⟩ := exists_trimStart s₃
  rcases Except.bind_eq_error_iff.mp h with hclauses | ⟨cs, hclauses, h⟩
  · obtain ⟨t, y, cs, emitting, ht, hcs, -⟩ := clauses_eq_error hclauses
    have hbody := body_iff.mpr ⟨cs, clauses_eq_ok_iff.mpr (.inr ⟨emitting, nofun, hcs⟩), rfl⟩
    refine ⟨u ++ b ++ v ++ l ++ w ++ ':' :: ':' :: x ++ t, y, ⟨l, role, .ofClauses cs⟩, ?_, ?_⟩
    · rw [h₀, h₀', h₁, h₁', h₂, doubleColon_eq_ok_iff.mp hcolons, h₃, ht]
      simp
    · simpa using Form.intro hu hb hv hl hw hx hbody
  · cases h

end Transducer.Line
