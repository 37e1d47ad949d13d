import Transducer.Alphabet
import Transducer.Clause

/-!
Reading the line of a state. Blanks are skipped between the parts of a line and never inside one.
A clause that no comma follows is the last, and the text after it is ignored. A reader that cannot
go on reports what it has left unread, from which follows the character it stopped at.
-/

namespace Transducer.Line

/-- A reader gives a value and the rest of the line, or the part of the line it could not read. -/
abbrev Reading (α : Type) := Except Word (α × Word)

/-- Reads a non-empty run of characters of a class. -/
def run (p : Char → Bool) (s : Word) : Reading Word :=
  match s.takeWhile p with
  | [] => .error s
  | w => .ok (w, s.dropWhile p)

def label (s : Word) : Reading Word := run isLabelChar s

/-- Reads a role keyword, in any case. -/
def keyword? (s : Word) : Option (Role × Word) :=
  if (s.take 5).map Char.toLower = "start".toList then some (.start, s.drop 5)
  else if (s.take 6).map Char.toLower = "accept".toList then
    some (.accept, s.drop 6)
  else none

/-- Reads a role block, its opening bracket already read. It holds one keyword or none. -/
def roleBlock (s : Word) : Reading Role :=
  match s.trimStart with
  | ']' :: s => .ok (.ordinary, s)
  | s =>
    match keyword? s with
    | none => .error s
    | some (role, s) =>
      match s.trimStart with
      | ']' :: s => .ok (role, s)
      | s => .error s

def role (s : Word) : Reading Role :=
  match s with
  | '[' :: s => roleBlock s
  | s => .ok (.ordinary, s)

def colon (s : Word) : Reading Unit :=
  match s with
  | ':' :: s => .ok ((), s)
  | s => .error s

/-- Reads the two colons after the label of a state. -/
def doubleColon (s : Word) : Reading Unit :=
  match s with
  | ':' :: ':' :: s => .ok ((), s)
  | s => .error s

def token (s : Word) : Reading Word := run isTokenChar s

/-- Reads the end of a clause, a bar and a token that may be empty. Where `emitting` is known from
an earlier clause, this one has to agree with it. -/
def emission (emitting : Option Bool) (s : Word) : Reading (Option Word) :=
  match s with
  | '|' :: r =>
    if emitting = some false then .error s
    else .ok (some (r.takeWhile isEmitChar), Word.trimStart (r.dropWhile isEmitChar))
  | _ => if emitting = some true then .error s else .ok (none, s)

/-- Reads a clause and the blanks after it. -/
def clause (emitting : Option Bool) (s : Word) : Except Word (Clause × Word) := do
  let (target, s) ← label s
  let (_, s) ← colon s.trimStart
  let (token, s) ← token s.trimStart
  let (emit?, s) ← emission emitting s.trimStart
  return (⟨target, token, emit?⟩, s)

theorem length_trimStart_le (s : Word) : s.trimStart.length ≤ s.length :=
  (List.dropWhile_suffix _).length_le

theorem length_run {p : Char → Bool} {s w r : Word} (h : run p s = .ok (w, r)) :
    r.length < s.length := by
  unfold run at h
  split at h
  · simp at h
  · rename_i hne
    simp only [Except.ok.injEq, Prod.mk.injEq] at h
    obtain ⟨rfl, rfl⟩ := h
    have hlen := congrArg List.length (List.takeWhile_append_dropWhile (p := p) (l := s))
    rw [List.length_append] at hlen
    have := List.length_pos_iff.mpr hne
    omega

theorem length_colon {s r : Word} (h : colon s = .ok ((), r)) : r.length ≤ s.length := by
  unfold colon at h
  split at h <;> simp_all

theorem length_emission {b : Option Bool} {s r : Word} {e : Option Word}
    (h : emission b s = .ok (e, r)) : r.length ≤ s.length := by
  unfold emission at h
  split at h
  · split at h
    · simp at h
    · rename_i r' _
      simp only [Except.ok.injEq, Prod.mk.injEq] at h
      obtain ⟨-, rfl⟩ := h
      have h1 := length_trimStart_le (r'.dropWhile isEmitChar)
      have h2 := (List.dropWhile_suffix (l := r') isEmitChar).length_le
      simp only [List.length_cons]
      omega
  · split at h <;> simp_all

theorem length_clause {b : Option Bool} {s r : Word} {c : Clause} (h : clause b s = .ok (c, r)) :
    r.length < s.length := by
  simp only [clause, bind, Except.bind, pure, Except.pure] at h
  split at h
  · simp at h
  split at h
  · simp at h
  split at h
  · simp at h
  split at h
  · simp at h
  rename_i v1 h1 _ v2 h2 _ v3 h3 _ v4 h4
  simp only [Except.ok.injEq, Prod.mk.injEq] at h
  obtain ⟨-, rfl⟩ := h
  have l1 := length_run h1
  have l2 := length_colon h2
  have l3 := length_run h3
  have l4 := length_emission h4
  have t1 := length_trimStart_le v1.2
  have t2 := length_trimStart_le v2.2
  have t3 := length_trimStart_le v3.2
  omega

theorem length_after_comma {b : Option Bool} {s r : Word} {c : Clause}
    (h : clause b s = .ok (c, ',' :: r)) : (Word.trimStart r).length < s.length := by
  have h1 := length_clause h
  have h2 := length_trimStart_le r
  simp only [List.length_cons] at h1
  omega

/-- Reads clauses up to the first that no comma follows. -/
def clauses (emitting : Option Bool) (s : Word) : Except Word (List Clause) :=
  if s.isEmpty then .ok []
  else
    match h : clause emitting s with
    | .error stop => .error stop
    | .ok (c, ',' :: r) =>
      have := length_after_comma h
      (clauses (some c.emit?.isSome) (Word.trimStart r)).map (c :: ·)
    | .ok (c, _) => .ok [c]
termination_by s.length

def state (s : Word) : Except Word State := do
  let (role, s) ← role s.trimStart
  let (label, s) ← label s.trimStart
  let (_, s) ← doubleColon s.trimStart
  let clauses ← clauses none s.trimStart
  return ⟨label, role, .ofClauses clauses⟩

end Line

/-- Reads the line of a state, or gives the number of characters in front of the place where reading
stopped. -/
def State.parse (line : Word) : Except Nat State :=
  (Line.state line).mapError fun stop => line.length - stop.length

end Transducer
