import Transducer.Proofs.Line.Grammar

/-!
A line is read as a state exactly if it describes the state in the grammar. Each reader takes off
the part of the grammar it is named for, as long as what stands behind does not belong to that part; the
grammar sees to it that it never does.
-/

namespace Transducer

namespace Word

variable {p : Char → Bool} {u r : Word}

/-- What a blank does not go on with does not go on over blanks. -/
theorem stops_blanks (hp : ∀ c, Transducer.isBlank c = true → p c = false)
    (hu : u.isBlank = true) (hr : Stops p r) : Stops p (u ++ r) := by
  cases u with
  | nil => exact hr
  | cons c u => exact stops_cons.mpr (hp c (List.all_eq_true.mp hu c List.mem_cons_self))

end Word

namespace Line

open Word

variable {known : Option Bool} {s r : Word} {c : Clause} {cs : List Clause}

theorem colon_eq_ok_iff {x : Unit} : colon s = .ok (x, r) ↔ s = ':' :: r := by
  unfold colon
  split <;> simp_all

theorem doubleColon_eq_ok_iff {x : Unit} :
    doubleColon s = .ok (x, r) ↔ s = ':' :: ':' :: r := by
  unfold doubleColon
  split <;> simp_all

theorem emission_eq_ok_iff {emit? : Option Word} (hs : Stops isBlank s) :
    emission known s = .ok (emit?, r) ↔
      Emission emit? s r ∧ Clear emit?.isSome r ∧ Agrees known emit?.isSome := by
  constructor
  · intro h
    have hagree := (emission_sound h).2
    rw [emission_eq] at h
    split at h
    · rename_i hbar
      obtain ⟨t, rfl⟩ := List.head?_eq_some_iff.mp hbar
      split at h
      · cases h
      cases h
      obtain ⟨ht, he, hstop⟩ := (run_iff (p := isEmitChar) (s := t)).mp ⟨rfl, rfl⟩
      simp only [List.tail_cons] at hagree ⊢
      generalize t.takeWhile isEmitChar = e at ht he hagree ⊢
      generalize t.dropWhile isEmitChar = q at ht hstop ⊢
      obtain ⟨u, hu, hq, hclear⟩ := exists_trimStart q
      rw [hq] at hstop ht
      subst ht
      exact ⟨by simpa using Emission.token he hstop hu, ⟨hclear, nofun⟩, hagree⟩
    · rename_i hbar
      split at h
      · cases h
      cases h
      exact ⟨.nothing s, ⟨hs, fun _ => hbar⟩, hagree⟩
  · intro h
    obtain ⟨htext, ⟨hclear, hbar⟩, hagree⟩ := h
    cases htext with
    | nothing =>
      have hk : known ≠ some true := fun hk => nomatch hagree true hk
      rw [emission_eq, if_neg (hbar rfl), if_neg hk]
    | @token e u _ he hstop hu =>
      have hk : known ≠ some false := fun hk => nomatch hagree false hk
      simp [emission, hk, takeWhile_append_of_stops he hstop, dropWhile_append_of_stops he hstop,
        trimStart_blanks hu hclear]

/-- A clause is read exactly if the text begins with it, and nothing behind it belongs to it. -/
theorem clause_eq_ok_iff : clause known s = .ok (c, r) ↔
    ClauseIn c s r ∧ Clear c.emit?.isSome r ∧ Agrees known c.emit?.isSome := by
  constructor
  · intro h
    obtain ⟨⟨target, s₁⟩, hlabel, h⟩ := Except.bind_eq_ok_iff.mp h
    obtain ⟨⟨_, s₂⟩, hcolon, h⟩ := Except.bind_eq_ok_iff.mp h
    obtain ⟨⟨token, s₃⟩, htoken, h⟩ := Except.bind_eq_ok_iff.mp h
    obtain ⟨⟨emit?, s₄⟩, hemission, h⟩ := Except.bind_eq_ok_iff.mp h
    cases h
    obtain ⟨rfl, htarget, -⟩ := label_eq_ok_iff.mp hlabel
    obtain ⟨u, hu, h₁, -⟩ := exists_trimStart s₁
    obtain ⟨v, hv, h₂, -⟩ := exists_trimStart s₂
    obtain ⟨w, hw, h₃, hclear⟩ := exists_trimStart s₃
    rw [colon_eq_ok_iff.mp hcolon] at h₁
    obtain ⟨ht, hword, hstop⟩ := token_eq_ok_iff.mp htoken
    rw [ht] at h₂
    obtain ⟨htext, hrest⟩ := (emission_eq_ok_iff hclear).mp hemission
    rw [h₃] at hstop
    refine ⟨?_, hrest⟩
    have hc := ClauseIn.intro htarget hu hv hword hstop hw htext
    rw [h₁, h₂, h₃]
    simpa using hc
  · intro h
    obtain ⟨htext, hclear, hagree⟩ := h
    cases htext with
    | @intro target u v token w t _ emit? htarget hu hv htoken hstop hw ht =>
      have hcolon : Stops isBlank (':' :: (v ++ (token ++ (w ++ t)))) := stops_cons.mpr (by decide)
      have hrest : Stops isBlank t := by
        cases ht with
        | nothing => exact hclear.1
        | token => exact stops_cons.mpr (by decide)
      have hlabel : label (target ++ (u ++ ':' :: (v ++ (token ++ (w ++ t))))) =
          .ok (target, u ++ ':' :: (v ++ (token ++ (w ++ t)))) :=
        label_eq_ok_iff.mpr ⟨rfl, htarget,
          stops_blanks (fun _ => isLabelChar_of_isBlank) hu (stops_cons.mpr (by decide))⟩
      have htoken' : Line.token (token ++ (w ++ t)) = .ok (token, w ++ t) :=
        token_eq_ok_iff.mpr ⟨rfl, htoken, hstop⟩
      have hemission := (emission_eq_ok_iff hrest).mpr ⟨ht, hclear, hagree⟩
      simp [clause, bind, Except.bind, hlabel, trimStart_blanks hu hcolon, colon,
        trimStart_blanks hv (stops_token_append htoken (w ++ t)), htoken',
        trimStart_blanks hw hrest, hemission, pure, Except.pure]

/-- Clauses are read exactly if the text is made of them, or if there is no text at all. -/
theorem clauses_eq_ok_iff : clauses known s = .ok cs ↔
    s = [] ∧ cs = [] ∨ ∃ emitting, Agrees known emitting ∧ Clauses emitting cs s := by
  constructor
  · intro h
    induction hn : s.length using Nat.strongRecOn generalizing known s cs with
    | ind n ih =>
      by_cases hs : s = []
      · subst hs
        rw [clauses_nil] at h
        cases h
        exact .inl ⟨rfl, rfl⟩
      rw [clauses_eq_bind known hs] at h
      obtain ⟨⟨c, r⟩, hclause, h⟩ := Except.bind_eq_ok_iff.mp h
      obtain ⟨hc, hclear, hagree⟩ := clause_eq_ok_iff.mp hclause
      refine .inr ⟨c.emit?.isSome, hagree, ?_⟩
      simp only at h
      split at h
      · rename_i hcomma
        obtain ⟨r, rfl⟩ := List.head?_eq_some_iff.mp hcomma
        obtain ⟨u, hu, hr, -⟩ := exists_trimStart r
        obtain ⟨ds, hds, rfl⟩ := Except.map_eq_ok_iff.mp h
        rcases ih _ (hn ▸ length_after_comma hclause) hds rfl with ⟨hnil, rfl⟩ | ⟨b, hb, hcs⟩
        · simp only [List.tail_cons] at hnil
          rw [hr, hnil, List.append_nil] at hc
          exact .last hc rfl (.comma hu)
        · obtain rfl := hb _ rfl
          rw [hr] at hc
          exact .more hc rfl hu hcs
      · rename_i hcomma
        cases h
        exact .last hc rfl (hclear.ending hcomma)
  · intro h
    rcases h with ⟨rfl, rfl⟩ | ⟨emitting, hagree, h⟩
    · exact clauses_nil known
    induction h generalizing known with
    | @last c s r hc he hr =>
      subst he
      rw [clauses_eq_bind known hc.ne_nil, clause_eq_ok_iff.mpr ⟨hc, hr.clear, hagree⟩]
      cases hr with
      | nothing => rfl
      | comma hu => simp [Except.bind, trimStart_of_isBlank hu, clauses_nil, Except.map]
      | text hcomma => simp [Except.bind, hcomma]
    | @more c cs s u r hc he hu hcs ih =>
      subst he
      have hrest : clauses (some c.emit?.isSome) r = .ok cs :=
        ih fun b hb => (Option.some.inj hb).symm
      rw [clauses_eq_bind known hc.ne_nil, clause_eq_ok_iff.mpr ⟨hc, clear_comma _ _, hagree⟩]
      simp [Except.bind, trimStart_blanks hu hcs.stops, hrest, Except.map]

/-- A keyword begins with a letter, whichever case it is in. -/
theorem Spells.head {role : Role} {k : Word} (h : Spells role k) (r : Word) :
    Stops isBlank (k ++ r) ∧ (k ++ r).head? ≠ some ']' := by
  obtain ⟨w, hw, hk⟩ := h
  have hfirst (c : Char) (d : Char) (hd : isBlank d = false ∧ d ≠ ']') (hc : c.toLower = d) :
      isBlank c = false ∧ c ≠ ']' := by
    constructor
    · rw [← Bool.not_eq_true]
      intro hblank
      rw [toLower_of_isBlank hblank] at hc
      rw [← hc, hblank] at hd
      cases hd.1
    · rintro rfl
      exact hd.2 hc.symm
  cases k with
  | nil => cases role <;> cases hw <;> cases hk
  | cons c k =>
    have hc : isBlank c = false ∧ c ≠ ']' := by
      cases role with
      | ordinary => cases hw
      | start | accept =>
        cases hw
        exact hfirst c _ ⟨by decide, by decide⟩ (List.cons.inj hk).1
    exact ⟨stops_cons.mpr hc.1, by simpa using hc.2⟩

theorem keyword?_eq_some_iff {role : Role} :
    keyword? s = some (role, r) ↔ ∃ k, Spells role k ∧ s = k ++ r := by
  constructor
  · intro h
    unfold keyword? at h
    split at h
    · rename_i hk
      cases h
      exact ⟨s.take 5, ⟨_, rfl, hk⟩, (List.take_append_drop 5 s).symm⟩
    split at h
    · rename_i hk
      cases h
      exact ⟨s.take 6, ⟨_, rfl, hk⟩, (List.take_append_drop 6 s).symm⟩
    · cases h
  · intro h
    obtain ⟨k, ⟨w, hw, hk⟩, rfl⟩ := h
    have hlen := congrArg List.length hk
    rw [List.length_map, List.length_map] at hlen
    cases role with
    | ordinary => cases hw
    | start =>
      cases hw
      have hk : k.map Char.toLower = "start".toList := hk
      have hlen : k.length = 5 := hlen
      simp [keyword?, ← hlen, hk]
    | accept =>
      cases hw
      have hk : k.map Char.toLower = "accept".toList := hk
      have hlen : k.length = 6 := hlen
      have htake : (k ++ r).take 5 = k.take 5 := List.take_append_of_le_length (by omega)
      simp [keyword?, htake, ← hlen, hk]

/-- The inside of a role block and its closing bracket are read off, in whatever spacing. -/
theorem roleBlock_eq_ok_iff {role : Role} :
    roleBlock s = .ok (role, r) ↔ ∃ b, Block role ('[' :: b) ∧ s = b ++ r := by
  rw [roleBlock_eq]
  constructor
  · intro h
    obtain ⟨u, hu, hs, -⟩ := exists_trimStart s
    generalize s.trimStart = t at hs h
    subst hs
    split at h
    · rename_i hclose
      obtain ⟨t, rfl⟩ := List.head?_eq_some_iff.mp hclose
      cases h
      exact ⟨u ++ [']'], .empty hu, by simp⟩
    split at h
    · cases h
    rename_i role' t' hkeyword
    obtain ⟨k, hk, rfl⟩ := keyword?_eq_some_iff.mp hkeyword
    split at h
    · rename_i hclose
      obtain ⟨v, hv, ht, -⟩ := exists_trimStart t'
      obtain ⟨q, hq⟩ := List.head?_eq_some_iff.mp hclose
      cases h
      refine ⟨u ++ k ++ v ++ [']'], .keyword hu hk hv, ?_⟩
      rw [hq] at ht ⊢
      simp [ht]
    · cases h
  · intro h
    obtain ⟨b, hb, rfl⟩ := h
    have hclose (w : Word) : Stops isBlank (']' :: w) := stops_cons.mpr (by decide)
    generalize hw : '[' :: b = w at hb
    cases hb with
    | absent => cases hw
    | @empty u hu =>
      obtain rfl : b = u ++ [']'] := by simpa using hw
      simp [trimStart_blanks hu (hclose r)]
    | @keyword _ u k v hu hk hv =>
      obtain rfl : b = u ++ k ++ v ++ [']'] := by simpa using hw
      obtain ⟨hstops, hhead⟩ := hk.head (v ++ ']' :: r)
      have hkeyword : keyword? (k ++ (v ++ ']' :: r)) = some (role, v ++ ']' :: r) :=
        keyword?_eq_some_iff.mpr ⟨k, hk, rfl⟩
      have htext : u ++ k ++ v ++ [']'] ++ r = u ++ (k ++ (v ++ ']' :: r)) := by simp
      rw [htext, trimStart_blanks hu hstops, if_neg hhead, hkeyword]
      simp [trimStart_blanks hv (hclose r)]

theorem role_eq_ok_iff {role : Role} : Line.role s = .ok (role, r) ↔
    ∃ b, Block role b ∧ s = b ++ r ∧ (b = [] → s.head? ≠ some '[') := by
  rw [role_eq]
  constructor
  · intro h
    split at h
    · rename_i hopen
      obtain ⟨t, rfl⟩ := List.head?_eq_some_iff.mp hopen
      obtain ⟨b, hb, ht⟩ := roleBlock_eq_ok_iff.mp h
      exact ⟨'[' :: b, hb, congrArg ('[' :: ·) ht, nofun⟩
    · rename_i hopen
      cases h
      exact ⟨[], .absent, rfl, fun _ => hopen⟩
  · intro h
    obtain ⟨b, hb, rfl, hopen⟩ := h
    cases b with
    | nil =>
      cases hb
      rw [if_neg (hopen rfl)]
      rfl
    | cons c b =>
      have hc : c = '[' := by cases hb <;> rfl
      subst hc
      exact roleBlock_eq_ok_iff.mpr ⟨b, hb, rfl⟩

/-- The first clause tells whether all of them emit. -/
theorem Clauses.ofClauses {emitting : Bool} (h : Clauses emitting cs s) :
    Table.ofClauses cs = if emitting then
      .emitting (cs.map Clause.transition) (cs.filterMap Clause.emit?)
    else .plain (cs.map Clause.transition) := by
  have hfirst : cs.head?.any (·.emit?.isSome) = emitting := by
    cases h with
    | last _ he | more _ he => exact he
  rw [Table.ofClauses, hfirst]

theorem body_iff {table : Table} :
    Body table s ↔ ∃ cs, clauses none s = .ok cs ∧ Table.ofClauses cs = table := by
  simp only [clauses_eq_ok_iff]
  constructor
  · intro h
    cases h with
    | empty => exact ⟨[], .inl ⟨rfl, rfl⟩, rfl⟩
    | plain h | emitting h => exact ⟨_, .inr ⟨_, nofun, h⟩, h.ofClauses⟩
  · intro h
    obtain ⟨cs, h, rfl⟩ := h
    rcases h with ⟨rfl, rfl⟩ | ⟨emitting, -, h⟩
    · exact .empty
    · rw [h.ofClauses]
      cases emitting with
      | false => exact .plain h
      | true => exact .emitting h

theorem Body.stops {table : Table} (h : Body table s) : Stops isBlank s := by
  cases h with
  | empty => exact stops_nil _
  | plain h | emitting h => exact h.stops

/-- The role is read off from what stands in front of a label, in whatever spacing. -/
theorem exists_role_of_block {role : Role} {u b v l : Word} (hu : u.isBlank = true)
    (hb : Block role b) (hv : v.isBlank = true) (hl : l.isLabel = true) (r : Word) :
    ∃ t, Line.role (trimStart (u ++ (b ++ (v ++ (l ++ r))))) = .ok (role, t) ∧
      trimStart t = l ++ r := by
  have hlabel := stops_label_append hl r
  cases b with
  | nil =>
    cases hb
    refine ⟨l ++ r, ?_, trimStart_of_stops hlabel⟩
    rw [trimStart_append hu, List.nil_append, trimStart_blanks hv hlabel]
    exact role_label hl r
  | cons c b =>
    have hc : c = '[' := by cases hb <;> rfl
    subst hc
    refine ⟨v ++ (l ++ r), ?_, trimStart_blanks hv hlabel⟩
    rw [List.cons_append, trimStart_blanks hu (stops_cons.mpr (by decide))]
    exact role_eq_ok_iff.mpr ⟨_, hb, rfl, nofun⟩

/-- A line is read as a state exactly if it describes the state. -/
theorem state_eq_ok_iff {line : Word} {q : State} : state line = .ok q ↔ Form q line := by
  constructor
  · intro h
    obtain ⟨⟨role, s₁⟩, hrole, h⟩ := Except.bind_eq_ok_iff.mp h
    obtain ⟨⟨l, s₂⟩, hlabel, h⟩ := Except.bind_eq_ok_iff.mp h
    obtain ⟨⟨_, s₃⟩, hcolons, h⟩ := Except.bind_eq_ok_iff.mp h
    obtain ⟨cs, hcs, h⟩ := Except.bind_eq_ok_iff.mp h
    cases h
    obtain ⟨u, hu, h₀, -⟩ := exists_trimStart line
    obtain ⟨v, hv, h₁, -⟩ := exists_trimStart s₁
    obtain ⟨w, hw, h₂, -⟩ := exists_trimStart s₂
    obtain ⟨x, hx, h₃, -⟩ := exists_trimStart s₃
    obtain ⟨b, hb, h₀', -⟩ := role_eq_ok_iff.mp hrole
    obtain ⟨h₁', hl, -⟩ := label_eq_ok_iff.mp hlabel
    have hform := Form.intro hu hb hv hl hw hx (body_iff.mpr ⟨cs, hcs, rfl⟩)
    rw [h₀, h₀', h₁, h₁', h₂, doubleColon_eq_ok_iff.mp hcolons, h₃]
    simpa using hform
  · intro h
    cases h with
    | @intro role table u b v l w x t hu hb hv hl hw hx ht =>
      obtain ⟨cs, hcs, rfl⟩ := body_iff.mp ht
      obtain ⟨r, hrole, hr⟩ := exists_role_of_block hu hb hv hl (w ++ ':' :: ':' :: (x ++ t))
      have hcolons : Stops isBlank (':' :: ':' :: (x ++ t)) := stops_cons.mpr (by decide)
      have hlabel : label (l ++ (w ++ ':' :: ':' :: (x ++ t))) =
          .ok (l, w ++ ':' :: ':' :: (x ++ t)) :=
        label_eq_ok_iff.mpr ⟨rfl, hl,
          stops_blanks (fun _ => isLabelChar_of_isBlank) hw (stops_cons.mpr (by decide))⟩
      simp [state, bind, Except.bind, hrole, hr, hlabel, trimStart_blanks hw hcolons, doubleColon,
        trimStart_blanks hx ht.stops, hcs, pure, Except.pure]

end Line

/-- Reading accepts exactly the lines of the grammar, and gives the state that the line describes. -/
theorem State.parse_eq_ok_iff_form (line : Word) (s : State) :
    State.parse line = .ok s ↔ Line.Form s line :=
  parse_eq_ok_iff.trans Line.state_eq_ok_iff

end Transducer
