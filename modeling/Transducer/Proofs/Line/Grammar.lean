import Transducer.Proofs.Line.Padding

/-!
The grammar of a line, told apart from any way of reading it. Labels, keywords, tokens and signs
stand in a fixed order with blanks between them; a token goes on as far as it can; all clauses have
a bar and an emit token, or none has. Behind the last clause there may be a comma, or any text that
could not be taken for a part of the line.
-/

namespace Transducer.Line

open Word

/-- The word is the keyword of the role, in whichever case. -/
def Spells (role : Role) (k : Word) : Prop :=
  ∃ w ∈ role.keyword, k.map Char.toLower = w.map Char.toLower

/-- What may stand in front of a label: nothing, or brackets around one keyword or none. -/
inductive Block : Role → Word → Prop
  | absent : Block .ordinary []
  | empty {u : Word} (hu : u.isBlank = true) : Block .ordinary ('[' :: u ++ [']'])
  | keyword {role : Role} {u k v : Word} (hu : u.isBlank = true) (hk : Spells role k)
    (hv : v.isBlank = true) : Block role ('[' :: u ++ k ++ v ++ [']'])

/-- What may stand behind the token of a clause, in front of the rest of a line: nothing, or a bar
and an emit token that cannot go on, with blanks behind it. -/
inductive Emission : Option Word → Word → Word → Prop
  | nothing (r : Word) : Emission none r r
  | token {e u r : Word} (he : e.isEmit = true) (hstop : Stops isEmitChar (u ++ r))
    (hu : u.isBlank = true) : Emission (some e) ('|' :: e ++ u ++ r) r

/-- The text begins with the clause, and the rest of the line stands behind it. The token of the
clause cannot go on. -/
inductive ClauseIn : Clause → Word → Word → Prop
  | intro {target u v token w t r : Word} {emit? : Option Word} (htarget : target.isLabel = true)
    (hu : u.isBlank = true) (hv : v.isBlank = true) (htoken : token.isToken = true)
    (hstop : Stops isTokenChar (w ++ t)) (hw : w.isBlank = true) (ht : Emission emit? t r) :
    ClauseIn ⟨target, token, emit?⟩ (target ++ u ++ ':' :: v ++ token ++ w ++ t) r

/-- What may stand behind the last clause: nothing, a comma with blanks, or any text that goes on
neither with a comma nor a blank, nor with a bar if the clauses have none. -/
inductive Ending (emitting : Bool) : Word → Prop
  | nothing : Ending emitting []
  | comma {u : Word} (hu : u.isBlank = true) : Ending emitting (',' :: u)
  | text {c : Char} {r : Word} (hcomma : c ≠ ',') (hblank : isBlank c = false)
    (hbar : emitting = false → c ≠ '|') : Ending emitting (c :: r)

/-- One clause or more, with commas between them, all of which emit or none. -/
inductive Clauses (emitting : Bool) : List Clause → Word → Prop
  | last {c : Clause} {s r : Word} (hc : ClauseIn c s r) (he : c.emit?.isSome = emitting)
    (hr : Ending emitting r) : Clauses emitting [c] s
  | more {c : Clause} {cs : List Clause} {s u r : Word} (hc : ClauseIn c s (',' :: u ++ r))
    (he : c.emit?.isSome = emitting) (hu : u.isBlank = true) (hcs : Clauses emitting cs r) :
    Clauses emitting (c :: cs) s

/-- What may stand behind the two colons, and the table it gives: nothing, or clauses. The table has
an emit column exactly if the clauses have emit tokens. -/
inductive Body : Table → Word → Prop
  | empty : Body (.plain []) []
  | plain {cs : List Clause} {s : Word} (h : Clauses false cs s) :
    Body (.plain (cs.map Clause.transition)) s
  | emitting {cs : List Clause} {s : Word} (h : Clauses true cs s) :
    Body (.emitting (cs.map Clause.transition) (cs.filterMap Clause.emit?)) s

/-- The line describes the state. -/
inductive Form : State → Word → Prop
  | intro {role : Role} {table : Table} {u b v l w x t : Word} (hu : u.isBlank = true)
    (hb : Block role b) (hv : v.isBlank = true) (hl : l.isLabel = true) (hw : w.isBlank = true)
    (hx : x.isBlank = true) (ht : Body table t) :
    Form ⟨l, role, table⟩ (u ++ b ++ v ++ l ++ w ++ ':' :: ':' :: x ++ t)

/-- The rest of a line behind a clause begins with nothing that belongs to the clause. -/
def Clear (emitting : Bool) (r : Word) : Prop :=
  Stops isBlank r ∧ (emitting = false → r.head? ≠ some '|')

theorem clear_comma (emitting : Bool) (r : Word) : Clear emitting (',' :: r) :=
  ⟨stops_cons.mpr (by decide), fun _ => by simp⟩

theorem Ending.clear {emitting : Bool} {r : Word} (h : Ending emitting r) : Clear emitting r := by
  cases h with
  | nothing => exact ⟨stops_nil _, fun _ => by simp⟩
  | comma => exact clear_comma emitting _
  | text _ hblank hbar => exact ⟨stops_cons.mpr hblank, fun he => by simpa using hbar he⟩

theorem Clear.ending {emitting : Bool} {r : Word} (h : Clear emitting r)
    (hcomma : r.head? ≠ some ',') : Ending emitting r := by
  cases r with
  | nil => exact .nothing
  | cons c r => exact .text (by simpa using hcomma) (stops_cons.mp h.1) (by simpa using h.2)

/-- Text that begins with a clause begins with a label. -/
theorem ClauseIn.stops {c : Clause} {s r : Word} (h : ClauseIn c s r) : Stops isBlank s := by
  cases h with
  | intro htarget =>
    simp only [List.append_assoc]
    exact stops_label_append htarget _

theorem Clauses.stops {emitting : Bool} {cs : List Clause} {s : Word}
    (h : Clauses emitting cs s) : Stops isBlank s := by
  cases h with
  | last hc | more hc => exact hc.stops

theorem ClauseIn.ne_nil {c : Clause} {s r : Word} (h : ClauseIn c s r) : s ≠ [] := by
  cases h
  simp

end Transducer.Line
