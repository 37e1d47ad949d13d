import Transducer.Json.Quoted

/-!
Escaping loses nothing: an escaped text is closed by the first quote behind it, and reads back as
the text it was made from.
-/

namespace Transducer.Quoted

theorem hex4?_control {c : Char} (h : isControl c = true) :
    hex4? '0' '0' (Nat.digitChar (c.toNat / 16)) (Nat.digitChar (c.toNat % 16)) =
      some c.toNat := by
  have hc : c.toNat < 0x20 := by simpa [isControl] using h
  have h1 : c.toNat / 16 < 16 := by omega
  have h2 : c.toNat % 16 < 16 := by omega
  simp only [hex4?, Digit.value?_digitChar h1, Digit.value?_digitChar h2,
    show Digit.value? '0' = some 0 by decide, Option.pure_def, Option.bind_eq_bind, Option.bind_some]
  congr 1
  omega

/-- How the escaped form of a character is resolved. -/
def pieceOf (c : Char) : Piece :=
  if (shortEscapes.find? (·.1 == c)).isNone && isControl c then .unit c.toNat else .char c

theorem shortEscape?_of_find {c d e : Char} (h : shortEscapes.find? (·.1 == c) = some (d, e)) :
    shortEscape? e = some c ∧ e ≠ 'u' := by
  have hmem := List.mem_of_find?_eq_some h
  have hd : d = c := by simpa using List.find?_some h
  subst hd
  simp only [shortEscapes, List.mem_cons, Prod.mk.injEq, List.not_mem_nil, or_false] at hmem
  rcases hmem with ⟨rfl, rfl⟩ | ⟨rfl, rfl⟩ | ⟨rfl, rfl⟩ | ⟨rfl, rfl⟩ | ⟨rfl, rfl⟩ | ⟨rfl, rfl⟩ |
    ⟨rfl, rfl⟩ <;>
    decide

theorem pieces?_escapeChar (c : Char) (r : Word) :
    pieces? (escapeChar c ++ r) = (pieces? r).map (pieceOf c :: ·) := by
  unfold escapeChar pieceOf
  split
  · rename_i d e h
    obtain ⟨he, hu⟩ := shortEscape?_of_find h
    simp only [h, Option.isNone_some, Bool.false_and, Bool.false_eq_true, if_false,
      List.cons_append, List.nil_append]
    rw [pieces?.eq_3]
    · simp only [he]
      cases pieces? r <;> rfl
    · intro a b c d r' hu'
      simp_all
  · rename_i h
    split
    · rename_i hc
      simp only [List.cons_append, List.nil_append, pieces?, hex4?_control hc, h, hc,
        Option.isNone_none, Bool.true_and, if_true]
      cases pieces? r <;> rfl
    · rename_i hc
      simp only [h, hc, List.cons_append, List.nil_append, Bool.and_false, Bool.false_eq_true,
        if_false]
      rw [pieces?.eq_4]
      · intro a b c d r' he
        subst he
        simp [shortEscapes] at h
      · intro a r' he
        subst he
        simp [shortEscapes] at h

theorem characters?_pieceOf (c : Char) (ps : List Piece) :
    characters? (pieceOf c :: ps) = (characters? ps).map (c :: ·) := by
  unfold pieceOf
  split
  · rename_i h
    simp only [Bool.and_eq_true] at h
    have hc : c.toNat < 0x20 := by simpa [isControl] using h.2
    have hl : isLeading c.toNat = false := by simp [isLeading]; omega
    have ht : isTrailing c.toNat = false := by simp [isTrailing]; omega
    have ho : Char.ofNat c.toNat = c := Char.ofNat_toNat c
    cases ps with
    | nil => simp [characters?, hl, ht, ho]
    | cons p ps => cases p <;> simp [characters?, hl, ht, ho]
  · simp [characters?]

/-- What was escaped reads back. -/
theorem unescape?_escape (w : Word) : unescape? (escape w) = some w := by
  have h : ∀ w, pieces? (escape w) = some (w.map pieceOf) := by
    intro w
    induction w with
    | nil => rfl
    | cons c w ih =>
      rw [escape, List.flatMap_cons, ← escape, pieces?_escapeChar, ih]
      rfl
  rw [unescape?, h, Option.bind_some]
  induction w with
  | nil => rfl
  | cons c w ih => rw [List.map_cons, characters?_pieceOf, ih]; rfl

theorem close?_escapeChar (c : Char) (r : Word) :
    close? (escapeChar c ++ r) = (close? r).map fun (raw, s) => (escapeChar c ++ raw, s) := by
  unfold escapeChar
  split
  · rename_i d e h
    obtain ⟨he, hu⟩ := shortEscape?_of_find h
    simp only [List.cons_append, List.nil_append]
    rw [close?.eq_4]
    · simp [he]
    · intro a b c d r' hu'
      simp_all
  · rename_i h
    split
    · rename_i hc
      simp [close?, hex4?_control hc]
    · rename_i hc
      simp only [List.cons_append, List.nil_append]
      rw [close?.eq_5]
      · simp [hc]
      · intro he
        subst he
        simp [shortEscapes] at h
      · intro a b c d r' he
        subst he
        simp [shortEscapes] at h
      · intro a r' he
        subst he
        simp [shortEscapes] at h

/-- An escaped text holds no closing quote of its own. -/
theorem close?_escape (w r : Word) : close? (escape w ++ '"' :: r) = some (escape w, r) := by
  induction w with
  | nil => rfl
  | cons c w ih =>
    rw [escape, List.flatMap_cons, ← escape, List.append_assoc, close?_escapeChar, ih]
    rfl

end Transducer.Quoted
