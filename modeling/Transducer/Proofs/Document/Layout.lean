import Transducer.Proofs.Document.Composition
import Transducer.Proofs.Sameness
import Transducer.Proofs.Words

/-!
What of the layout of a document does not matter. Lines may end with or without a carriage return.
Blanks at the end of a line only move the place within the line that a fault names. Blank lines in
front of a document change nothing but the numbers of its lines.
-/

namespace Transducer

namespace Word

variable {a b t u v w : Word}

/-- The word with a carriage return in front of each line feed. -/
def withReturns (w : Word) : Word := w.flatMap fun c => if c = '\n' then ['\r', '\n'] else [c]

/-- Nothing but blanks stands in front of the next line feed, or of the end of the text. -/
inductive EndsLine : Word → Prop
  | text {x : Word} (hx : isBlank x = true) (hfeed : '\n' ∉ x) : EndsLine x
  | line {x : Word} (w : Word) (hx : isBlank x = true) (hfeed : '\n' ∉ x) :
    EndsLine (x ++ '\n' :: w)

theorem withReturns_of_not_mem (h : '\n' ∉ v) : withReturns v = v := by
  induction v with
  | nil => rfl
  | cons c v ih =>
    have hc : c ≠ '\n' := (List.ne_of_not_mem_cons h).symm
    have hv : withReturns v = v := ih (List.not_mem_of_not_mem_cons h)
    rw [withReturns, List.flatMap_cons, if_neg hc]
    exact congrArg (c :: ·) hv

theorem withReturns_append_feed (h : '\n' ∉ v) (w : Word) :
    withReturns (v ++ '\n' :: w) = (v ++ ['\r']) ++ '\n' :: withReturns w := by
  have hv := withReturns_of_not_mem h
  simp only [withReturns, List.flatMap_append, List.flatMap_cons] at hv ⊢
  rw [hv]
  simp

/-- Carriage returns that were put in front of line feeds are dropped again. The induction is on the
lines. -/
theorem lines_withReturns (h : '\r' ∉ t) : lines (withReturns t) = lines t := by
  induction hn : t.length using Nat.strongRecOn generalizing t with
  | ind n ih =>
    by_cases hfeed : '\n' ∈ t
    · obtain ⟨v, w, rfl, hv⟩ := List.eq_append_cons_of_mem hfeed
      rw [List.mem_append, List.mem_cons, not_or, not_or] at h
      obtain ⟨hrv, -, hrw⟩ := h
      have hlen : w.length < n := by
        rw [← hn, List.length_append, List.length_cons]
        omega
      have hv' : '\n' ∉ v ++ ['\r'] := by simpa using hv
      rw [withReturns_append_feed hv, lines_append_feed hv', lines_append_feed hv, chomp_concat,
        chomp_of_not_mem hrv, ih _ hlen hrw rfl]
    · rw [withReturns_of_not_mem hfeed]

theorem trimEnd_chomp (w : Word) : trimEnd (chomp w) = trimEnd w := by
  unfold chomp
  split
  · rename_i hlast
    obtain ⟨v, rfl⟩ := List.getLast?_eq_some_iff.mp hlast
    rw [List.dropLast_concat, trimEnd_append v (by decide)]
  · rfl

end Word

open Word

namespace Fault

/-- The fault of a document but for the place within the line. -/
def withoutOffset : Fault → Fault
  | parse line _ => parse line 0
  | f => f

/-- The fault of a document with so many lines more in front. -/
def later (k : Nat) : Fault → Fault
  | parse line offset => parse (line + k) offset
  | duplicateLine l line => duplicateLine l (line + k)
  | f => f

end Fault

theorem State.toOption_parse_trimEnd (l : Word) :
    (State.parse l.trimEnd).toOption = (State.parse l).toOption := by
  obtain ⟨u, hu, hl⟩ := exists_trimEnd l
  calc (State.parse l.trimEnd).toOption
      = (State.parse (l.trimEnd ++ u)).toOption := (toOption_parse_append l.trimEnd hu).symm
    _ = (State.parse l).toOption := by rw [← hl]

namespace Document

variable {a b t u w : Word}

/-- The entry without blanks at the end of its line. -/
def trimmed (e : Nat × Word) : Nat × Word := (e.1, e.2.trimEnd)

/-- The entry of a document with so many lines more in front. -/
def later (k : Nat) (e : Nat × Word) : Nat × Word := (e.1 + k, e.2)

theorem numbered_map_trimEnd (n : Nat) (ls : List Word) :
    numbered n (ls.map trimEnd) = (numbered n ls).map trimmed := by
  induction ls generalizing n with
  | nil => rfl
  | cons l ls ih =>
    rw [List.map_cons, numbered, numbered, isBlank_trimEnd, ih]
    split <;> rfl

theorem numbered_add (n k : Nat) (ls : List Word) :
    numbered (n + k) ls = (numbered n ls).map (later k) := by
  induction ls generalizing n with
  | nil => rfl
  | cons l ls ih =>
    rw [numbered, numbered, Nat.add_right_comm, ih]
    split <;> rfl

/-- Text without a line feed is one line, or none if it is empty; a blank line is no entry. -/
theorem numbered_lines_of_not_mem (n : Nat) (h : '\n' ∉ w) :
    numbered n (w.lines.map trimEnd) = numbered n [w.trimEnd] := by
  by_cases hw : w = []
  · rw [hw]
    rfl
  · rw [lines_of_not_mem h hw]
    rfl

/-- Blanks at the end of a line are in no entry. The induction is on the lines in front. -/
theorem numbered_lines_insert (n : Nat) (a : Word) (hu : u.isBlank = true) (hfeed : '\n' ∉ u)
    (hb : EndsLine b) :
    numbered n ((a ++ u ++ b).lines.map trimEnd) = numbered n ((a ++ b).lines.map trimEnd) := by
  induction hn : a.length using Nat.strongRecOn generalizing n a with
  | ind k ih =>
    by_cases ha : '\n' ∈ a
    · obtain ⟨v, w, rfl, hv⟩ := List.eq_append_cons_of_mem ha
      have hlen : w.length < k := by
        rw [← hn, List.length_append, List.length_cons]
        omega
      have hrest (n : Nat) := ih _ hlen n w rfl
      simp only [List.append_assoc] at hrest
      simp only [List.append_assoc, List.cons_append, lines_append_feed hv, List.map_cons,
        numbered, hrest]
    -- the blanks are in the first line, and this line ends behind them
    have htrim {x : Word} (hx : x.isBlank = true) : (a ++ u ++ x).trimEnd = (a ++ x).trimEnd := by
      rw [trimEnd_append _ hx, trimEnd_append _ hu, trimEnd_append _ hx]
    have hfree {x : Word} (hx : '\n' ∉ x) : '\n' ∉ a ++ u ++ x ∧ '\n' ∉ a ++ x := by
      simp [ha, hfeed, hx]
    cases hb with
    | @text x hx hfeed' =>
      obtain ⟨hlong, hshort⟩ := hfree hfeed'
      rw [numbered_lines_of_not_mem n hlong, numbered_lines_of_not_mem n hshort, htrim hx]
    | @line x w hx hfeed' =>
      obtain ⟨hlong, hshort⟩ := hfree hfeed'
      rw [← List.append_assoc, ← List.append_assoc, lines_append_feed hlong,
        lines_append_feed hshort, List.map_cons, List.map_cons, trimEnd_chomp, trimEnd_chomp,
        htrim hx]

theorem map_trimmed_entries_insert (a : Word) (hu : u.isBlank = true) (hfeed : '\n' ∉ u)
    (hb : EndsLine b) :
    (entries (a ++ u ++ b)).map trimmed = (entries (a ++ b)).map trimmed := by
  rw [entries, entries, ← numbered_map_trimEnd, ← numbered_map_trimEnd,
    numbered_lines_insert 1 a hu hfeed hb]

/-- Blank lines in front of a document are no entries, but they count. -/
theorem entries_flatMap_append {ls : List Word} (t : Word)
    (h : ∀ l ∈ ls, l.isBlank = true ∧ '\n' ∉ l) :
    entries (ls.flatMap (· ++ ['\n']) ++ t) = (entries t).map (later ls.length) := by
  have hnumbered (n : Nat) : numbered n (Word.lines (ls.flatMap (· ++ ['\n']) ++ t)) =
      numbered (n + ls.length) t.lines := by
    induction ls generalizing n with
    | nil => rfl
    | cons l ls ih =>
      rw [List.forall_mem_cons] at h
      obtain ⟨⟨hl, hfeed⟩, hls⟩ := h
      have hchomp : l.chomp.isBlank = true := by
        rw [← isBlank_trimEnd, trimEnd_chomp, isBlank_trimEnd, hl]
      rw [List.flatMap_cons, List.append_assoc, List.append_assoc, List.singleton_append,
        lines_append_feed hfeed, numbered, if_pos hchomp, ih hls, List.length_cons]
      congr 1
      omega
  rw [entries, hnumbered, numbered_add, entries]

end Document

open Document

namespace Machine

variable {m : Machine} {a b t u : Word}

theorem addIfPossible_trimEnd (m : Machine) (l : Word) :
    m.addIfPossible l.trimEnd = m.addIfPossible l := by
  apply eq_of_states
  rw [states_addIfPossible, states_addIfPossible, readable_cons, readable_cons,
    State.toOption_parse_trimEnd]

/-- The lenient reading does not look at the end of lines. -/
theorem ofText_eq_foldl_trimmed (t : Word) : ofText t =
    ((entries t).map trimmed).foldl (fun m e => m.addIfPossible e.2) empty := by
  rw [List.foldl_map]
  simp only [trimmed, addIfPossible_trimEnd]
  rfl

theorem addEntry_trimmed (m : Machine) (e : Nat × Word) :
    (m.addEntry (trimmed e)).mapError Fault.withoutOffset =
      (m.addEntry e).mapError Fault.withoutOffset := by
  have hparse := State.toOption_parse_trimEnd e.2
  unfold addEntry trimmed
  cases hp : State.parse e.2 <;> cases hq : State.parse e.2.trimEnd <;>
    simp_all [Except.toOption]
  rfl

theorem addEntry_later (m : Machine) (k : Nat) (e : Nat × Word) :
    m.addEntry (later k e) = (m.addEntry e).mapError (Fault.later k) := by
  unfold addEntry later
  cases State.parse e.2 with
  | error offset => rfl
  | ok s => cases hadd : m.add s <;> simp [hadd] <;> rfl

theorem addEntries_trimmed (m : Machine) (es : List (Nat × Word)) :
    (m.addEntries (es.map trimmed)).mapError Fault.withoutOffset =
      (m.addEntries es).mapError Fault.withoutOffset := by
  induction es generalizing m with
  | nil => rfl
  | cons e es ih =>
    simp only [List.map_cons, addEntries_cons, Except.mapError_bind, addEntry_trimmed, ih]

theorem addEntries_later (m : Machine) (k : Nat) (es : List (Nat × Word)) :
    m.addEntries (es.map (later k)) = (m.addEntries es).mapError (Fault.later k) := by
  induction es generalizing m with
  | nil => rfl
  | cons e es ih =>
    simp only [List.map_cons, addEntries_cons, Except.mapError_bind, addEntry_later, ih]

/-- The layout of a document does not matter. If there are no carriage returns in it, putting one in
front of each line feed changes nothing in what it is read as, be that a machine or a fault. Blanks
other than line feeds that are added at the end of a line, in front of its carriage return or behind
it, change at most the offset within the line that a fault names. Lines of blanks in front of the
document only add their number to that of the line that a fault names. -/
theorem layout_does_not_matter :
    (∀ t : Word, '\r' ∉ t →
      ofText t.withReturns = ofText t ∧ ofTextStrict t.withReturns = ofTextStrict t) ∧
    (∀ a u b : Word, u.isBlank = true → '\n' ∉ u → EndsLine b →
      ofText (a ++ u ++ b) = ofText (a ++ b) ∧
      (ofTextStrict (a ++ u ++ b)).mapError Fault.withoutOffset =
        (ofTextStrict (a ++ b)).mapError Fault.withoutOffset) ∧
    ∀ (ls : List Word) (t : Word), (∀ l ∈ ls, l.isBlank = true ∧ '\n' ∉ l) →
      ofText (ls.flatMap (· ++ ['\n']) ++ t) = ofText t ∧
      ofTextStrict (ls.flatMap (· ++ ['\n']) ++ t) =
        (ofTextStrict t).mapError (Fault.later ls.length) := by
  refine ⟨fun t ht => ?_, fun a u b hu hfeed hb => ?_, fun ls t hls => ?_⟩
  · have hentries : entries t.withReturns = entries t := by
      rw [entries, lines_withReturns ht, entries]
    unfold ofText ofTextStrict
    rw [hentries]
    exact ⟨rfl, rfl⟩
  · have htrimmed := map_trimmed_entries_insert a hu hfeed hb
    refine ⟨?_, ?_⟩
    · rw [ofText_eq_foldl_trimmed, htrimmed, ← ofText_eq_foldl_trimmed]
    · unfold ofTextStrict
      rw [← addEntries_trimmed, htrimmed, addEntries_trimmed]
  · have hlater := entries_flatMap_append t hls
    unfold ofText ofTextStrict
    rw [hlater, List.foldl_map, addEntries_later]
    exact ⟨rfl, rfl⟩

/-- A document of two lines, of which the second is none. -/
def cramped : Word := "S ::\nS".toList

/-- Its fault stays on the second line, behind carriage returns and in front of blanks, and comes to
stand on the fourth behind two lines of blanks. -/
theorem cramped_laid_out : '\r' ∉ cramped ∧ EndsLine [] ∧
    ofTextStrict cramped = .error (.parse 2 1) ∧
    ofTextStrict cramped.withReturns = .error (.parse 2 1) ∧
    ofTextStrict (cramped ++ " \u2028".toList) = .error (.parse 2 3) ∧
    (ofTextStrict (cramped ++ " \u2028".toList ++ [])).mapError Fault.withoutOffset =
      .error (.parse 2 0) ∧
    ofTextStrict (['\t', '\n', '\n'] ++ cramped) = .error (.parse 4 1) := by
  have hfault : ofTextStrict cramped = .error (.parse 2 1) := by decide +kernel
  have hreturn : '\r' ∉ cramped := by decide +kernel
  have hend : EndsLine [] := .text rfl nofun
  obtain ⟨hreturns, hblanks, hlines⟩ := layout_does_not_matter
  have hfront := (hlines [['\t'], []] cramped (by decide)).2
  refine ⟨hreturn, hend, hfault, ?_, by decide +kernel, ?_, ?_⟩
  · rw [(hreturns _ hreturn).2, hfault]
  · rw [(hblanks cramped " \u2028".toList [] (by decide +kernel) (by decide +kernel) hend).2,
      List.append_nil, hfault]
    rfl
  · rw [hfault] at hfront
    exact hfront

end Machine

end Transducer
