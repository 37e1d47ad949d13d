import Transducer.Proofs.Line.RoundTrip

/-!
Blanks at the end of a line. No label and no token goes on with a blank, so every reader takes the
same part off a line with blanks behind it, and leaves a rest with blanks behind it. The line of a
state stays the line of that state, and any other line stays none.
-/

namespace Transducer

namespace Word

variable {p : Char → Bool} {u v w : Word}

/-- The second word is the first with blanks behind it. -/
def Padded (v w : Word) : Prop := ∃ u, isBlank u = true ∧ w = v ++ u

theorem stops_of_isBlank (hp : ∀ c, Transducer.isBlank c = true → p c = false)
    (h : u.isBlank = true) : Stops p u := by
  intro c hc
  exact hp c (List.all_eq_true.mp h c (List.mem_of_head? hc))

theorem takeWhile_padded (v : Word) (hu : Stops p u) : (v ++ u).takeWhile p = v.takeWhile p := by
  induction v with
  | nil => cases u <;> simp_all
  | cons c v ih => simp [List.takeWhile_cons, ih]

theorem dropWhile_padded (v : Word) (hu : Stops p u) :
    (v ++ u).dropWhile p = v.dropWhile p ++ u := by
  induction v with
  | nil => cases u <;> simp_all
  | cons c v ih =>
    rw [List.cons_append, List.dropWhile_cons, List.dropWhile_cons, ih]
    split <;> rfl

theorem trimStart_of_isBlank (h : u.isBlank = true) : trimStart u = [] := by
  have hdrop : (u ++ []).dropWhile Transducer.isBlank = _ :=
    List.dropWhile_append_of_pos (List.all_eq_true.mp h)
  rwa [List.append_nil] at hdrop

theorem Padded.trimStart (h : Padded v w) : Padded v.trimStart w.trimStart := by
  obtain ⟨u, hu, rfl⟩ := h
  unfold Word.trimStart
  rw [List.dropWhile_append]
  split
  · rename_i hv
    have hrest : u.dropWhile Transducer.isBlank = [] := trimStart_of_isBlank hu
    rw [List.isEmpty_iff.mp hv, hrest]
    exact ⟨[], rfl, rfl⟩
  · exact ⟨u, hu, rfl⟩

theorem Padded.trimStart_eq_nil (h : Padded v w) (hv : v.trimStart = []) : w.trimStart = [] := by
  obtain ⟨u, hu, rfl⟩ := h
  unfold Word.trimStart at hv ⊢
  rw [List.dropWhile_append, hv]
  exact trimStart_of_isBlank hu

theorem Padded.tail (h : Padded v w) : Padded v.tail w.tail := by
  obtain ⟨u, hu, rfl⟩ := h
  cases v with
  | nil => exact ⟨u.tail, List.all_eq_true.mpr fun c hc =>
      List.all_eq_true.mp hu c (List.mem_of_mem_tail hc), rfl⟩
  | cons c v => exact ⟨u, hu, rfl⟩

/-- Blanks behind a word bring nothing but a blank to its front. -/
theorem Padded.head?_eq_some_iff {d : Char} (hd : Transducer.isBlank d = false) (h : Padded v w) :
    w.head? = some d ↔ v.head? = some d := by
  obtain ⟨u, hu, rfl⟩ := h
  cases v with
  | nil =>
    constructor
    · intro he
      rw [List.all_eq_true.mp hu d (List.mem_of_head? he)] at hd
      cases hd
    · nofun
  | cons c v => rfl

end Word

namespace Line

open Word

variable {α β : Type} {s t : Word}

/-- Both readers fail, or both take the same and the second leaves more blanks. -/
inductive Alike : Reading α → Reading α → Prop
  | failed (s t : Word) : Alike (.error s) (.error t)
  | took (a : α) {r r' : Word} (h : Padded r r') : Alike (.ok (a, r)) (.ok (a, r'))

theorem Alike.bind {x y : Reading α} {f : α × Word → Reading β} (h : Alike x y)
    (hf : ∀ a r r', Padded r r' → Alike (f (a, r)) (f (a, r'))) :
    Alike (Except.bind x f) (Except.bind y f) := by
  cases h with
  | failed s t => exact .failed s t
  | took a hr => exact hf a _ _ hr

theorem Alike.toOption_bind {x y : Reading α} {f : α × Word → Except Word β} (h : Alike x y)
    (hf : ∀ a r r', Padded r r' → (f (a, r')).toOption = (f (a, r)).toOption) :
    (Except.bind y f).toOption = (Except.bind x f).toOption := by
  cases h with
  | failed s t => rfl
  | took a hr => exact hf a _ _ hr

theorem isLabelChar_of_isBlank {c : Char} (h : isBlank c = true) : isLabelChar c = false := by
  cases hc : isLabelChar c with
  | false => rfl
  | true =>
    rw [isBlank_of_isLabelChar hc] at h
    cases h

theorem isTokenChar_of_isBlank {c : Char} (h : isBlank c = true) : isTokenChar c = false := by
  simp [isTokenChar, isSeparator, h]

theorem isEmitChar_of_isBlank {c : Char} (h : isBlank c = true) : isEmitChar c = false := by
  simp [isEmitChar, isSeparator, h]

theorem alike_run {p : Char → Bool} (hp : ∀ c, isBlank c = true → p c = false)
    (h : Padded s t) : Alike (run p s) (run p t) := by
  obtain ⟨u, hu, rfl⟩ := h
  have hstops := stops_of_isBlank hp hu
  unfold run
  rw [takeWhile_padded s hstops, dropWhile_padded s hstops]
  split
  · exact .failed _ _
  · exact .took _ ⟨u, hu, rfl⟩

/-- A blank is no letter, in whichever case. -/
theorem toLower_of_isBlank {c : Char} (h : isBlank c = true) : c.toLower = c := by
  unfold Char.toLower
  split
  · rename_i hupper
    have hc : c.isUpper = true := by
      delta Char.isUpper
      simpa using hupper
    have hlabel : isLabelChar c = true := by
      delta isLabelChar Char.isAlphanum Char.isAlpha
      simp [hc]
    rw [isBlank_of_isLabelChar hlabel] at h
    cases h
  · rfl

theorem prefix_padded {k u : Word} (hk : ∀ c ∈ k, isBlank c = false) (s : Word)
    (hu : u.isBlank = true) : k <+: s ++ u ↔ k <+: s := by
  constructor
  · intro h
    rcases List.prefix_or_prefix_of_prefix h (List.prefix_append s u) with h' | ⟨k', rfl⟩
    · exact h'
    -- what of the keyword lies behind `s` would be blank
    have hk' : k' <+: u := (List.prefix_append_right_inj s).mp h
    cases k' with
    | nil => simp
    | cons c k' =>
      have hblank := List.all_eq_true.mp hu c (hk'.subset List.mem_cons_self)
      rw [hk c (by simp)] at hblank
      cases hblank
  · intro h
    exact h.trans (List.prefix_append s u)

/-- The word begins with a keyword, in whichever case. -/
theorem take_lower_eq_iff {k s : Word} :
    (s.take k.length).map Char.toLower = k ↔ k <+: s.map Char.toLower := by
  rw [List.prefix_iff_eq_take, List.map_take]
  exact eq_comm

theorem take_lower_padded {k u : Word} {n : Nat} (hn : k.length = n)
    (hk : k.any isBlank = false) (s : Word) (hu : u.isBlank = true) :
    ((s ++ u).take n).map Char.toLower = k ↔ (s.take n).map Char.toLower = k := by
  subst hn
  have hlower : u.map Char.toLower = u := by
    refine (List.map_congr_left fun c hc => ?_).trans (List.map_id u)
    exact toLower_of_isBlank (List.all_eq_true.mp hu c hc)
  have hk : ∀ c ∈ k, isBlank c = false := by simpa using hk
  rw [take_lower_eq_iff, take_lower_eq_iff, List.map_append, hlower, prefix_padded hk _ hu]

theorem le_length_of_take_lower {k s : Word} {n : Nat} (hn : k.length = n)
    (h : (s.take n).map Char.toLower = k) : n ≤ s.length := by
  subst hn
  have hlen := congrArg List.length h
  simp only [List.length_map, List.length_take] at hlen
  omega

theorem keyword?_padded (s : Word) {u : Word} (hu : u.isBlank = true) :
    keyword? (s ++ u) = (keyword? s).map fun r => (r.1, r.2 ++ u) := by
  have hstart := take_lower_padded (n := 5) (k := "start".toList) rfl (by decide) s hu
  have haccept := take_lower_padded (n := 6) (k := "accept".toList) rfl (by decide) s hu
  unfold keyword?
  by_cases h : (s.take 5).map Char.toLower = "start".toList
  · have hlen : 5 ≤ s.length := le_length_of_take_lower rfl h
    rw [if_pos h, if_pos (hstart.mpr h), List.drop_append_of_le_length hlen]
    rfl
  rw [if_neg h, if_neg (mt hstart.mp h)]
  by_cases h : (s.take 6).map Char.toLower = "accept".toList
  · have hlen : 6 ≤ s.length := le_length_of_take_lower rfl h
    rw [if_pos h, if_pos (haccept.mpr h), List.drop_append_of_le_length hlen]
    rfl
  rw [if_neg h, if_neg (mt haccept.mp h)]
  rfl

/-- A reader that looks for one sign finds it in front of a word with blanks behind it too, as long
as the sign is no blank. -/
theorem alike_sign (d : Char) (hd : isBlank d = false) {f : Word → Reading α} {x y : Reading α}
    (hf : ∀ r r', Padded r r' → Alike (f r) (f r')) (h : Padded s t) (hxy : Alike x y) :
    Alike (if s.head? = some d then f s.tail else x) (if t.head? = some d then f t.tail else y) := by
  simp only [h.head?_eq_some_iff hd]
  split
  · exact hf _ _ h.tail
  · exact hxy

theorem roleBlock_eq (s : Word) : roleBlock s =
    if s.trimStart.head? = some ']' then .ok (.ordinary, s.trimStart.tail) else
      match keyword? s.trimStart with
      | none => .error s.trimStart
      | some (role, r) =>
        if r.trimStart.head? = some ']' then .ok (role, r.trimStart.tail)
        else .error r.trimStart := by
  unfold roleBlock
  generalize s.trimStart = t
  have hclosed (v : Word) (h : v.head? ≠ some ']') (r : Word) : v ≠ ']' :: r := by
    rintro rfl
    exact h rfl
  by_cases ht : t.head? = some ']'
  · obtain ⟨r, rfl⟩ := List.head?_eq_some_iff.mp ht
    rfl
  rw [if_neg ht]
  split
  · exact absurd rfl (hclosed _ ht _)
  cases keyword? t with
  | none => rfl
  | some k =>
    obtain ⟨role, r⟩ := k
    simp only
    generalize r.trimStart = v
    by_cases hv : v.head? = some ']'
    · obtain ⟨r, rfl⟩ := List.head?_eq_some_iff.mp hv
      rfl
    rw [if_neg hv]
    split
    · exact absurd rfl (hclosed _ hv _)
    · rfl

theorem role_eq (s : Word) : role s =
    if s.head? = some '[' then roleBlock s.tail else .ok (.ordinary, s) := by
  cases s with
  | nil => rfl
  | cons c s =>
    by_cases hc : c = '['
    · subst hc
      rfl
    · simp [role, hc]

theorem colon_eq (s : Word) : colon s =
    if s.head? = some ':' then .ok ((), s.tail) else .error s := by
  cases s with
  | nil => rfl
  | cons c s =>
    by_cases hc : c = ':'
    · subst hc
      rfl
    · simp [colon, hc]

theorem doubleColon_eq (s : Word) : doubleColon s =
    if s.head? = some ':' then (colon s.tail).mapError (':' :: ·) else .error s := by
  cases s with
  | nil => rfl
  | cons c s =>
    by_cases hc : c = ':'
    · subst hc
      cases s with
      | nil => rfl
      | cons d s =>
        by_cases hd : d = ':'
        · subst hd
          rfl
        · simp [doubleColon, colon_eq, hd]
    · simp [doubleColon, hc]

theorem emission_eq (known : Option Bool) (s : Word) : emission known s =
    if s.head? = some '|' then
      if known = some false then .error ('|' :: s.tail)
      else .ok (some (s.tail.takeWhile isEmitChar), trimStart (s.tail.dropWhile isEmitChar))
    else if known = some true then .error s else .ok (none, s) := by
  cases s with
  | nil => rfl
  | cons c s =>
    by_cases hc : c = '|'
    · subst hc
      rfl
    · simp [emission, hc]

theorem Alike.mapError {x y : Reading α} (h : Alike x y) (f : Word → Word) :
    Alike (x.mapError f) (y.mapError f) := by
  cases h with
  | failed s t => exact .failed _ _
  | took a hr => exact .took a hr

theorem alike_roleBlock (h : Padded s t) : Alike (roleBlock s) (roleBlock t) := by
  rw [roleBlock_eq, roleBlock_eq]
  refine alike_sign ']' (by decide) (f := fun r => .ok (Role.ordinary, r)) (fun r r' => .took _)
    h.trimStart ?_
  obtain ⟨u, hu, ht⟩ := h.trimStart
  rw [ht, keyword?_padded _ hu]
  cases keyword? s.trimStart with
  | none => exact .failed _ _
  | some k =>
    have hrest : Padded k.2 (k.2 ++ u) := ⟨u, hu, rfl⟩
    exact alike_sign ']' (by decide) (f := fun r => .ok (k.1, r)) (fun r r' => .took _)
      hrest.trimStart (.failed _ _)

theorem alike_role (h : Padded s t) : Alike (role s) (role t) := by
  rw [role_eq, role_eq]
  exact alike_sign '[' (by decide) (fun r r' => alike_roleBlock) h (.took _ h)

theorem alike_colon (h : Padded s t) : Alike (colon s) (colon t) := by
  rw [colon_eq, colon_eq]
  exact alike_sign ':' (by decide) (f := fun r => .ok ((), r)) (fun r r' => .took _) h (.failed _ _)

theorem alike_doubleColon (h : Padded s t) : Alike (doubleColon s) (doubleColon t) := by
  rw [doubleColon_eq, doubleColon_eq]
  exact alike_sign ':' (by decide) (f := fun r => (colon r).mapError (':' :: ·))
    (fun r r' hr => (alike_colon hr).mapError _) h (.failed _ _)

theorem alike_emission (known : Option Bool) (h : Padded s t) :
    Alike (emission known s) (emission known t) := by
  rw [emission_eq, emission_eq]
  refine alike_sign '|' (by decide) (f := fun r =>
    if known = some false then .error ('|' :: r)
    else .ok (some (r.takeWhile isEmitChar), trimStart (r.dropWhile isEmitChar))) ?_ h ?_
  · intro r r' hr
    obtain ⟨u, hu, rfl⟩ := hr
    have hstops := stops_of_isBlank (fun c => isEmitChar_of_isBlank) hu
    rw [takeWhile_padded r hstops, dropWhile_padded r hstops]
    split
    · exact .failed _ _
    · exact .took _ (Padded.trimStart ⟨u, hu, rfl⟩)
  · split
    · exact .failed _ _
    · exact .took _ h

theorem alike_label (h : Padded s t) : Alike (label s) (label t) :=
  alike_run (fun _ => isLabelChar_of_isBlank) h

theorem alike_token (h : Padded s t) : Alike (token s) (token t) :=
  alike_run (fun _ => isTokenChar_of_isBlank) h

theorem alike_clause (known : Option Bool) (h : Padded s t) :
    Alike (clause known s) (clause known t) := by
  apply (alike_label h).bind
  intro target r r' hr
  apply (alike_colon hr.trimStart).bind
  intro _ r r' hr
  apply (alike_token hr.trimStart).bind
  intro token r r' hr
  apply (alike_emission known hr.trimStart).bind
  intro emit? r r' hr
  exact .took _ hr

theorem clauses_eq_bind (known : Option Bool) (hs : s ≠ []) :
    clauses known s = (clause known s).bind fun c =>
      if c.2.head? = some ',' then
        (clauses (some c.1.emit?.isSome) (trimStart c.2.tail)).map (c.1 :: ·)
      else .ok [c.1] := by
  rw [clauses_eq hs]
  cases clause known s with
  | error stop => rfl
  | ok c =>
    obtain ⟨c, r⟩ := c
    cases r with
    | nil => rfl
    | cons d r =>
      by_cases hd : d = ','
      · subst hd
        rfl
      · simp [Except.bind, hd]

/-- The same clauses are read, or none. The induction is on the text that is left. -/
theorem toOption_clauses (known : Option Bool) (h : Padded s t) :
    (clauses known t.trimStart).toOption = (clauses known s.trimStart).toOption := by
  induction hn : s.length using Nat.strongRecOn generalizing known s t with
  | ind n ih =>
    by_cases hs : s.trimStart = []
    · rw [hs, h.trimStart_eq_nil hs]
    have ht : t.trimStart ≠ [] := by
      obtain ⟨u, -, hu⟩ := h.trimStart
      simp [hu, hs]
    rw [clauses_eq_bind known hs, clauses_eq_bind known ht]
    have hclause := alike_clause known h.trimStart
    generalize hx : clause known s.trimStart = x at hclause
    generalize clause known t.trimStart = y at hclause
    cases hclause with
    | failed => rfl
    | @took c r r' hr =>
      simp only [Except.bind, hr.head?_eq_some_iff (d := ',') (by decide)]
      split
      · rename_i hcomma
        obtain ⟨q, rfl⟩ := List.head?_eq_some_iff.mp hcomma
        have hlen : q.length < n := by
          have hlt := length_clause hx
          have hle := length_trimStart_le s
          rw [List.length_cons] at hlt
          omega
        exact Except.toOption_map_congr (ih _ hlen (some c.emit?.isSome) hr.tail rfl)
      · rfl

end Line

namespace State

theorem toOption_parse (l : Word) : (State.parse l).toOption = (Line.state l).toOption := by
  unfold State.parse
  cases Line.state l <;> rfl

/-- Blanks behind a line do not count. -/
theorem toOption_parse_append {u : Word} (l : Word) (hu : u.isBlank = true) :
    (State.parse (l ++ u)).toOption = (State.parse l).toOption := by
  have hpadded : Word.Padded l (l ++ u) := ⟨u, hu, rfl⟩
  rw [toOption_parse, toOption_parse]
  unfold Line.state
  apply (Line.alike_role hpadded.trimStart).toOption_bind
  intro role r r' hr
  apply (Line.alike_label hr.trimStart).toOption_bind
  intro label r r' hr
  apply (Line.alike_doubleColon hr.trimStart).toOption_bind
  intro _ r r' hr
  exact Except.toOption_map_congr (Line.toOption_clauses none hr)

end State

end Transducer
