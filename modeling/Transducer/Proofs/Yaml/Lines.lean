import Mathlib.Data.List.TakeWhile
import Transducer.Proofs.Yaml.Plain
import Transducer.Settings.File

/-!
Reading the lines of a file whose mappings are written by indentation: a line that opens a section,
and a line that sets a text within one. Each adds its tokens to those that have been read, with the
lists and mappings it closes and the mapping it opens in front of them.
-/

namespace Transducer.Yaml

/-- What is open by indentation, and the tokens that have been read. -/
structure Nesting where
  columns : List Nat
  tokens : List Token

namespace Nesting

/-- Closes what lies further in than a column. -/
def closeTo (x : Nesting) (n : Nat) : Nesting where
  columns := x.columns.dropWhile fun i => !decide (i ≤ n)
  tokens := List.replicate (x.columns.takeWhile fun i => !decide (i ≤ n)).length .closeBlock ++
    x.tokens

/-- Opens a mapping at a column, unless one is open there. -/
def openMap (x : Nesting) (n : Nat) : Nesting :=
  if x.columns.head?.all (· < n) then ⟨n :: x.columns, .openBlockMap :: x.tokens⟩ else x

/-- Adds tokens, given in the order in which they are read. -/
def add (x : Nesting) (ts : List Token) : Nesting := ⟨x.columns, ts.reverse ++ x.tokens⟩

theorem add_add (x : Nesting) (ts us : List Token) : (x.add ts).add us = x.add (ts ++ us) := by
  simp [add]

/-- Nothing that is open lies further in than a column. -/
def Within (x : Nesting) (n : Nat) : Prop := ∀ i ∈ x.columns.head?, i ≤ n

variable {x : Nesting} {n m : Nat}

theorem Within.mono (h : x.Within n) (hn : n ≤ m) : x.Within m :=
  fun i hi => Nat.le_trans (h i hi) hn

theorem within_closeTo (x : Nesting) (n : Nat) : (x.closeTo n).Within n := by
  intro i hi
  have hhead := List.head?_dropWhile_not (fun i => !decide (i ≤ n)) x.columns
  rw [closeTo, Option.mem_def] at hi
  rw [hi] at hhead
  simpa using hhead

theorem Within.closeTo (h : x.Within n) : x.closeTo n = x := by
  rcases x with ⟨_ | ⟨i, columns⟩, ts⟩
  · rfl
  · have hi : i ≤ n := h i rfl
    simp [Nesting.closeTo, hi]

/-- What is open where a key begins in a column. -/
def keyAt (x : Nesting) (n : Nat) : Nesting := (x.closeTo n).openMap n

/-- Where a mapping is open, another key of it changes nothing. -/
theorem keyAt_head (n : Nat) (columns : List Nat) (ts : List Token) :
    (⟨n :: columns, ts⟩ : Nesting).keyAt n = ⟨n :: columns, ts⟩ := by
  simp [keyAt, closeTo, openMap]

theorem head_keyAt (x : Nesting) (n : Nat) : (x.keyAt n).columns.head? = some n := by
  have hx := x.within_closeTo n
  unfold keyAt openMap
  split
  · rfl
  · next h =>
    cases hi : (x.closeTo n).columns.head? with
    | none => simp [hi] at h
    | some i =>
      have hle : i ≤ n := hx i hi
      have hge : n ≤ i := by simpa [hi] using h
      rw [Nat.le_antisymm hle hge]

end Nesting

/-- A name short enough for a key. -/
def IsKey (w : Word) : Prop := w.isLabel = true ∧ w.bytes ≤ Candidate.reach

instance : DecidablePred IsKey := fun w =>
  inferInstanceAs (Decidable (w.isLabel = true ∧ w.bytes ≤ Candidate.reach))

variable {c : Char} {name r v w : Word} {a : Bool} {p q : Place} {x y : Nesting} {s t u : Scan}
  {n : Nat}

theorem marker?_of_isLabelChar (h : isLabelChar c = true) (w : Word) :
    Token.marker? (c :: w) = none := by
  unfold Token.marker?
  split
  · next heq =>
    obtain ⟨rfl, -⟩ := List.cons.inj heq
    cases h
  · next heq =>
    obtain ⟨rfl, -⟩ := List.cons.inj heq
    cases h
  · rfl

/-- What begins a plain scalar has no other meaning. -/
theorem meaningless_of_beginsPlain (h : beginsPlain false (c :: w) = true) :
    isSpace c = false ∧ isLineEnd c = false ∧ isIndicator c = false ∧
      (isHalfIndicator c = true → isClear w = false) := by
  cases hc : isHalfIndicator c with
  | false => simpa [beginsPlain, hc, and_assoc] using h
  | true =>
    have hw : isClear w = false := by simpa [beginsPlain, hc] using h
    simp only [isHalfIndicator, Bool.or_eq_true, beq_iff_eq] at hc
    rcases hc with (rfl | rfl) | rfl <;> exact ⟨rfl, rfl, rfl, fun _ => hw⟩

namespace Scan

/-- The reader between tokens, outside of brackets and where no key has begun. -/
def idle (p : Place) (x : Nesting) (keyAllowed : Bool) : Scan :=
  ⟨p, .between, x.columns, none, [], keyAllowed, x.tokens⟩

/-- The reader in a plain scalar. -/
def inPlain (p : Place) (x : Nesting) (k : Option Candidate) (d : Draft) : Scan :=
  ⟨p, .plain d, x.columns, k, [], false, x.tokens⟩

/-- The place of the reader, if a key may begin there. -/
def candidate? (p : Place) (x : Nesting) (keyAllowed : Bool) : Option Candidate :=
  if keyAllowed then some ⟨p, x.tokens.length, x.columns.head? == some p.column⟩ else none

theorem close_idle (p : Place) (x : Nesting) (a : Bool) (n : Nat) :
    (idle p x a).close (· ≤ n) = idle p (x.closeTo n) a := rfl

theorem close_of_head (h : ∀ i ∈ s.columns.head?, i ≤ n) : s.close (· ≤ n) = s := by
  rcases s with ⟨p, m, _ | ⟨i, columns⟩, k, outer, a, ts⟩
  · simp [close]
  · have hi : i ≤ n := h i rfl
    simp [close, hi]

theorem scalar?_idle (p : Place) (x : Nesting) (a : Bool) (d : Draft) :
    (idle p x a).scalar? (.plain d) = some (inPlain p x (candidate? p x a) d) := by
  cases a <;> rfl

theorem begin?_plain (hplace : p.column = 0 → isLabelChar c = true)
    (h : beginsPlain false (c :: w) = true) : (idle p x a).begin? c w =
      (idle p (x.closeTo p.column) a).scalar? (.plain (Draft.empty.push c)) := by
  obtain ⟨-, -, hi, hhalf⟩ := meaningless_of_beginsPlain h
  have hmark : (if p.column = 0 then Token.marker? (c :: w) else none) = none := by
    split
    · next hp => exact marker?_of_isLabelChar (hplace hp) w
    · rfl
  simp [isIndicator, isBracketing] at hi
  simp [isHalfIndicator] at hhalf
  rw [← close_idle]
  cases hw : isClear w with
  | true =>
    simp [hw] at hhalf
    simp [begin?, idle, forgetStale?, close, inFlow, hmark, hi, hhalf, h]
    rfl
  | false =>
    simp [begin?, idle, forgetStale?, close, inFlow, hmark, hi, hw, h]
    rfl

/-- Between tokens, what can begin a plain scalar does begin one. -/
theorem between?_plain (hplace : p.column = 0 → isLabelChar c = true)
    (h : beginsPlain false (c :: w) = true) : (idle p x a).between? c w =
      some (inPlain p (x.closeTo p.column) (candidate? p (x.closeTo p.column) a)
        (Draft.empty.push c)) := by
  obtain ⟨hs, hl, hi, -⟩ := meaningless_of_beginsPlain h
  have hbom : (decide (c = byteOrderMark) && decide ((idle p x a).place.column = 0)) = false := by
    rw [Bool.eq_false_iff]
    intro hbom
    simp at hbom
    cases hbom.1 ▸ hplace hbom.2
  simp [isSpace] at hs
  simp [isIndicator] at hi
  rw [← scalar?_idle, ← begin?_plain hplace h]
  simp [between?, hbom, hs, hl, hi]

theorem read?_step (h : s.step? c w = some t) (hu : { t with place := s.place.after c } = u) :
    s.read? (c :: w) = u.read? w := by
  rw [read?_cons h, hu]

/-- A plain scalar is read to its end. -/
theorem read?_scalar (hplace : p.column = 0 → w.all isLabelChar = true) (hw : isPlain w = true)
    (hx : x.closeTo p.column = y) (r : Word) : (idle p x a).read? (w ++ r) =
      (inPlain (p.behind w) y (candidate? p y a) ⟨w.reverse, Gap.none⟩).read? r := by
  obtain ⟨hbegin, hstays, -⟩ := isPlain_iff.mp hw
  have hreads := Draft.reads_of_isPlain hw
  cases w with
  | nil => cases hbegin
  | cons c w =>
    obtain ⟨hspace, hline, -, -⟩ := meaningless_of_beginsPlain hbegin
    obtain ⟨-, -, -, hrest⟩ := staysPlain_cons.mp hstays
    have hc : p.column = 0 → isLabelChar c = true := by
      intro hp
      have hall := hplace hp
      rw [List.all_cons, Bool.and_eq_true] at hall
      exact hall.1
    have hstep : (idle p x a).step? c (w ++ r) =
        some (inPlain p y (candidate? p y a) (Draft.empty.push c)) :=
      hx ▸ between?_plain hc (beginsPlain_append hbegin r)
    rw [hspace] at hrest
    have hfirst : Draft.empty.reads (c :: w) = (Draft.empty.push c).reads w := by
      simp [Draft.reads, hspace]
    rw [List.cons_append, read?_cons hstep, Place.after_of_not_isLineEnd hline,
      ← hreads, hfirst, p.behind_cons c w]
    exact read?_plain r rfl (g := []) rfl rfl (Nat.succ_ne_zero _) hrest

/-- A mapping opens for a key whether or not the reader may go on to another one. -/
theorem openBlock_idle (q : Place) (x : Nesting) (a : Bool) (k : Option Candidate) (n : Nat) :
    { idle q x a with candidate := k }.openBlock n .openBlockMap =
      { idle q (x.openMap n) a with candidate := k } := by
  rcases x with ⟨_ | ⟨i, columns⟩, ts⟩
  · rfl
  · change (if decide (i < n) = true then _ else _) =
      { idle q (if decide (i < n) = true then _ else _) a with candidate := k }
    split <;> rfl

/-- A scalar that may be a key is one if a colon follows. -/
theorem value?_scalar (q : Place) (x : Nesting) (p : Place) (required : Bool) (s : Scalar) :
    { idle q (x.add [.scalar s]) false with
      candidate := some ⟨p, x.tokens.length, required⟩ }.value? =
      some (idle q ((x.openMap p.column).add [.key, .scalar s, .value]) false) := by
  have hlater : x.tokens.length + 1 - x.tokens.length = 1 := Nat.add_sub_cancel_left ..
  have hopen := openBlock_idle q x false (some ⟨p, x.tokens.length, required⟩) p.column
  simp only [idle] at hopen
  simp [value?, announce, idle, Nesting.add, hlater, hopen, add]

/-- What a colon behind a scalar says: the scalar is a key. The mapping it belongs to opens here if
it is not open yet. -/
theorem step?_colon (hr : isClear r = true) (hline : q.line = p.line)
    (hcolumn : p.column < q.column) (hbytes : q.bytes ≤ p.bytes + Candidate.reach)
    (hx : x.Within p.column) :
    (inPlain q x (candidate? p x true) ⟨v, Gap.none⟩).step? ':' r = some
      (idle q ((x.openMap p.column).add [.key, .scalar ⟨.plain, v.reverse⟩, .value]) false) := by
  rw [← value?_scalar q x p (x.columns.head? == some p.column)]
  generalize hs : inPlain q x (candidate? p x true) ⟨v, Gap.none⟩ = s
  -- the colon ends the scalar and is then read between tokens
  obtain ⟨t, ht⟩ : ∃ t, t = s.endPlain ⟨v, Gap.none⟩ := ⟨_, rfl⟩
  have hq : q.column ≠ 0 := Nat.ne_zero_of_lt hcolumn
  have hend : s.step? ':' r = t.between? ':' r := by
    subst hs ht
    simp [step?, inPlain, plain?, isSpace, isLineEnd, Gap.isBroken, Gap.none, Gap.isNone, hq,
      isMisplacedColon, inFlow, endsPlain, hr]
  have hbegin : t.between? ':' r = t.begin? ':' r := by
    simp [between?, byteOrderMark, isLineEnd]
  have hfresh : t.forgetStale? = some t := by
    subst hs ht
    simp [forgetStale?, endPlain, add, inPlain, candidate?, Candidate.isStale, hline,
      Nat.not_lt.mpr hbytes]
  have hclose : t.close (· ≤ q.column) = t := by
    subst hs ht
    exact close_of_head (hx.mono (Nat.le_of_lt hcolumn))
  have hplace : t.place = q := by subst hs ht; rfl
  have hvalue : t.begin? ':' r = t.value? := by
    simp [begin?, hfresh, hplace, hclose, hq, hr]
  rw [hend, hbegin, hvalue]
  subst hs ht
  rfl

/-- A name with a colon behind it is read as a key. -/
theorem read?_key (hname : IsKey name) (hr : isClear r = true) :
    (idle p x true).read? (name ++ ':' :: r) =
      (idle (p.behind (name ++ [':'])) ((x.keyAt p.column).add
        [.key, .scalar ⟨.plain, name⟩, .value]) false).read? r := by
  obtain ⟨hlabel, hbytes⟩ := hname
  obtain ⟨hne, hall⟩ : name ≠ [] ∧ name.all isLabelChar = true := by
    simpa [Word.isLabel] using hlabel
  have hcolon := step?_colon (p := p) (q := p.behind name) (v := name.reverse) hr rfl
    (Nat.lt_add_of_pos_right (List.length_pos_iff.mpr hne)) (Nat.add_le_add_left hbytes _)
    (x.within_closeTo p.column)
  rw [List.reverse_reverse] at hcolon
  rw [read?_scalar (fun _ => hall) (isPlain_of_isLabel hlabel) rfl, p.behind_append]
  exact read?_step hcolon rfl

/-- A text behind a key is read to the end of its line. It might go on in the next one. -/
theorem read?_text (hv : isPlain v = true) (hp : p.column ≠ 0) (hx : x.Within p.column) :
    (idle p x false).read? (v ++ '\n' :: r) =
      (inPlain ⟨p.line + 1, 0, 0⟩ x none ⟨v.reverse, .lines (some '\n') []⟩).read? r := by
  rw [read?_scalar (fun h => absurd h hp) hv hx.closeTo]
  exact read?_step (t := inPlain (p.behind v) x none ⟨v.reverse, .lines (some '\n') []⟩) rfl rfl

theorem read?_space (r : Word) :
    (idle p x a).read? (' ' :: r) = (idle (p.behind [' ']) x a).read? r :=
  read?_step (t := idle p x a) rfl rfl

/-- The line end behind a key. -/
theorem read?_lineEnd (r : Word) :
    (idle p x false).read? ('\n' :: r) = (idle ⟨p.line + 1, 0, 0⟩ x true).read? r :=
  read?_step (t := idle p x true) rfl rfl

/-- In front of a line that is not indented far enough for it to go on, a scalar has ended. -/
theorem read?_ended (hc : isLabelChar c = true) (hn : ∃ i ∈ x.columns.head?, p.column + n ≤ i) :
    (inPlain p x none ⟨v, .lines (some '\n') []⟩).read? (List.replicate n ' ' ++ c :: r) =
      (idle p (x.add [.scalar ⟨.plain, v.reverse⟩]) true).read?
        (List.replicate n ' ' ++ c :: r) := by
  obtain ⟨i, hi, hn⟩ := hn
  -- the blanks of the line are read first, and leave both readers as they are
  induction n generalizing p with
  | zero =>
    have hcolumn : p.column < (inPlain p x none ⟨v, .lines (some '\n') []⟩).margin := by
      rcases x with ⟨_ | ⟨j, columns⟩, ts⟩
      · cases hi
      · cases hi
        exact Nat.lt_succ_of_le hn
    have hstep : (inPlain p x none ⟨v, .lines (some '\n') []⟩).step? c r =
        (idle p (x.add [.scalar ⟨.plain, v.reverse⟩]) true).step? c r := by
      simp [step?, inPlain] at hcolumn ⊢
      simp [plain?, isSpace_of_isLabelChar hc,
        isLineEnd_of_isOrdinary (isOrdinary_of_isLabelChar hc), Gap.isBroken, inFlow, hcolumn]
      rfl
    simp only [List.replicate_zero, List.nil_append, read?, hstep]
    rfl
  | succ n ih =>
    have hn' : (p.behind [' ']).column + n ≤ i := by
      rw [← Nat.succ_add_eq_add_succ] at hn
      exact hn
    have hspace : (inPlain p x none ⟨v, .lines (some '\n') []⟩).read?
        (' ' :: (List.replicate n ' ' ++ c :: r)) =
          (inPlain (p.behind [' ']) x none ⟨v, .lines (some '\n') []⟩).read?
            (List.replicate n ' ' ++ c :: r) :=
      read?_step (t := inPlain p x none ⟨v, .lines (some '\n') []⟩) rfl rfl
    rw [List.replicate_succ, List.cons_append, hspace, ih hn', read?_space]

/-- The tokens of a text whose beginning has been read. -/
def goOn? (s : Scan) (w : Word) : Option (List Token) := (s.read? w).bind finish?

/-- The reader at the beginning of a line. -/
def atLine (line : Nat) (x : Nesting) : Scan := idle ⟨line, 0, 0⟩ x true

theorem goOn?_end (line : Nat) (x : Nesting) : (atLine line x).goOn? [] =
    some (x.tokens.reverse ++ List.replicate x.columns.length .closeBlock) := by
  simp [goOn?, read?, finish?, atLine, idle, rest?, forgetStale?, close, inFlow, giveUp?,
    List.takeWhile_eq_self_iff.mpr]

/-- The next line begins with a name, no further in than two spaces, or there is none. -/
def Dedents (w : Word) : Prop :=
  w = [] ∨ ∃ n ≤ 2, ∃ c r, isLabelChar c = true ∧ w = List.replicate n ' ' ++ c :: r

/-- In front of such a line a text has ended. -/
theorem goOn?_ended (line : Nat) (hx : x.columns.head? = some 2) (hr : Dedents r) :
    (inPlain ⟨line, 0, 0⟩ x none ⟨v, .lines (some '\n') []⟩).goOn? r =
      (atLine line (x.add [.scalar ⟨.plain, v.reverse⟩])).goOn? r := by
  rcases hr with rfl | ⟨n, hn, c, r, hc, rfl⟩
  · rfl
  · have hcolumn : (0 : Nat) + n ≤ 2 := by rwa [Nat.zero_add]
    rw [goOn?, read?_ended hc ⟨2, hx, hcolumn⟩, goOn?, atLine]

theorem goOn?_sectionLine (hname : IsKey name) (line : Nat) (x : Nesting) (r : Word) :
    (atLine line x).goOn? (Settings.sectionLine name ++ r) =
      (atLine (line + 1) ((x.keyAt 0).add [.key, .scalar ⟨.plain, name⟩, .value])).goOn? r := by
  have hline : Settings.sectionLine name ++ r = name ++ ':' :: '\n' :: r := by
    simp [Settings.sectionLine]
  rw [goOn?, hline, atLine, read?_key hname rfl, read?_lineEnd]
  rfl

theorem goOn?_valueLine (hname : IsKey name) (hv : isPlain v = true) (hr : Dedents r)
    (line : Nat) (x : Nesting) :
    (atLine line x).goOn? (Settings.valueLine name v ++ r) =
      (atLine (line + 1) ((x.keyAt 2).add
        [.key, .scalar ⟨.plain, name⟩, .value, .scalar ⟨.plain, v⟩])).goOn? r := by
  have hline : Settings.valueLine name v ++ r =
      ' ' :: ' ' :: (name ++ ':' :: ' ' :: (v ++ '\n' :: r)) := by
    simp [Settings.valueLine]
  have hindent : ((⟨line, 0, 0⟩ : Place).behind [' ']).behind [' '] = ⟨line, 2, 2⟩ := rfl
  have hmargin : 2 ≤ (((⟨line, 2, 2⟩ : Place).behind (name ++ [':'])).behind [' ']).column := by
    simp only [Place.behind]
    omega
  have hcolumns : ((x.keyAt 2).add [.key, .scalar ⟨.plain, name⟩, .value]).columns.head? = some 2 :=
    x.head_keyAt 2
  have hwithin : ((x.keyAt 2).add [.key, .scalar ⟨.plain, name⟩, .value]).Within 2 := by
    intro i hi
    exact Nat.le_of_eq (Option.some.inj (hi.symm.trans hcolumns))
  rw [goOn?, hline, atLine, read?_space, read?_space, hindent, read?_key hname rfl,
    read?_space, read?_text hv (Nat.ne_zero_of_lt hmargin) (hwithin.mono hmargin)]
  refine (goOn?_ended (line + 1) hcolumns hr).trans ?_
  rw [Nesting.add_add, List.reverse_reverse]
  rfl

end Scan

end Transducer.Yaml
