import Transducer.Json.Parser
import Transducer.Json.Quoted.Lemmas

/-!
JSON values that are made of texts read back as they were written. The lines they are written on are
cut into just the lexemes of the value, and a reader that meets these lexemes goes on behind the
value, whatever stands in front of it and behind it.
-/

namespace Transducer.Json

mutual

/-- The lexemes that a value is written with. -/
def lexemes : Json → List Lexeme
  | null => [.null]
  | bool b => [.bool b]
  | number literal => [.number literal]
  | string raw => [.string raw]
  | array [] => [.openArray, .closeArray]
  | array (j :: js) => .openArray :: lexemes j ++ itemLexemes js ++ [.closeArray]
  | object [] => [.openObject, .closeObject]
  | object ((k, j) :: fs) =>
    .openObject :: .string k :: .colon :: lexemes j ++ fieldLexemes fs ++ [.closeObject]

/-- The lexemes of the items after the first. -/
def itemLexemes : List Json → List Lexeme
  | [] => []
  | j :: js => .comma :: lexemes j ++ itemLexemes js

/-- The lexemes of the fields after the first. -/
def fieldLexemes : List (Word × Json) → List Lexeme
  | [] => []
  | (k, j) :: fs => .comma :: .string k :: .colon :: lexemes j ++ fieldLexemes fs

end

/-! ### Reading lexemes -/

theorem readValue_openArray {stack : List Frame} {ls : List Lexeme}
    (h : ∀ r, ls ≠ .closeArray :: r) :
    readValue stack (.openArray :: ls) = readValue (.array [] :: stack) ls := by
  rw [readValue]
  exact h

theorem readAfter_comma_item (stack : List Frame) (items : List Json) (j : Json)
    (ls : List Lexeme) : readAfter (.array items :: stack) j (.comma :: ls) =
      readValue (.array (j :: items) :: stack) ls := by
  rw [readAfter.eq_def]
  split <;> simp_all

theorem lexemes_ne_close (j : Json) (r s : List Lexeme) :
    lexemes j ++ r ≠ .closeArray :: s := by
  cases j with
  | array items => cases items <;> simp [lexemes]
  | object fields =>
    cases fields with
    | nil => simp [lexemes]
    | cons f fs => simp [lexemes]
  | _ => simp [lexemes]

mutual

/-- A reader goes on behind the lexemes of a value with the value. -/
theorem readValue_lexemes (stack : List Frame) (r : List Lexeme) :
    (j : Json) → readValue stack (lexemes j ++ r) = readAfter stack j r
  | null => by simp [lexemes, readValue]
  | bool b => by simp [lexemes, readValue]
  | number literal => by simp [lexemes, readValue]
  | string raw => by simp [lexemes, readValue]
  | array [] => by simp [lexemes, readValue]
  | object [] => by simp [lexemes, readValue]
  | array (j :: js) => by
    have hitems := readAfter_items stack r [] j js
    rw [lexemes, List.append_assoc, List.append_assoc, List.cons_append,
      readValue_openArray (lexemes_ne_close j _), readValue_lexemes]
    simpa using hitems
  | object ((k, j) :: fs) => by
    have hfields := readAfter_fields stack r [] k j fs
    simp only [lexemes, List.append_assoc, List.cons_append, readValue]
    rw [readValue_lexemes]
    simpa using hfields

theorem readAfter_items (stack : List Frame) (r : List Lexeme) (items : List Json) (j : Json) :
    (js : List Json) →
      readAfter (.array items :: stack) j (itemLexemes js ++ .closeArray :: r) =
        readAfter stack (.array (items.reverse ++ j :: js)) r
  | [] => by simp [itemLexemes, readAfter]
  | i :: js => by
    simp only [itemLexemes, List.cons_append, List.append_assoc]
    rw [readAfter_comma_item, readValue_lexemes, readAfter_items]
    simp

theorem readAfter_fields (stack : List Frame) (r : List Lexeme) (fields : List (Word × Json))
    (l : Word) (j : Json) : (fs : List (Word × Json)) →
      readAfter (.object fields l :: stack) j (fieldLexemes fs ++ .closeObject :: r) =
        readAfter stack (.object (fields.reverse ++ (l, j) :: fs)) r
  | [] => by simp [fieldLexemes, readAfter]
  | (k, i) :: fs => by
    simp only [fieldLexemes, List.cons_append, List.append_assoc, readAfter]
    rw [readValue_lexemes, readAfter_fields]
    simp

end

/-! ### Cutting lines into lexemes -/

/-- The text is cut into the lexemes, whatever comes behind it. -/
def Scans (w : Word) (ls : List Lexeme) : Prop :=
  ∀ r, lexemes? (w ++ r) = (lexemes? r).map (ls ++ ·)

/-- The character makes a lexeme by itself. -/
def Sign (c : Char) (l : Lexeme) : Prop :=
  Lexeme.isBlank c = false ∧ ∀ r, Lexeme.first? (c :: r) = some (l, r)

/-- Between quotes the text is closed by the quote behind it and by none of its own. -/
def Closed (raw : Word) : Prop := ∀ r, Quoted.close? (raw ++ '"' :: r) = some (raw, r)

variable {v w raw : Word} {ks ls : List Lexeme} {l : Lexeme} {c : Char}

theorem lexemes?_of_blank (h : Lexeme.isBlank c = true) (w : Word) :
    lexemes? (c :: w) = lexemes? w := by
  rw [lexemes?, if_pos h]

theorem lexemes?_of_first (hc : Lexeme.isBlank c = false) {r : Word}
    (h : Lexeme.first? (c :: w) = some (l, r)) :
    lexemes? (c :: w) = (lexemes? r).map (l :: ·) := by
  rw [lexemes?, if_neg (by simp [hc])]
  split <;> simp_all

theorem Scans.append (hv : Scans v ks) (hw : Scans w ls) : Scans (v ++ w) (ks ++ ls) := by
  intro r
  rw [List.append_assoc, hv, hw, Option.map_map]
  simp [Function.comp_def]

theorem Scans.nil : Scans [] [] := by
  intro r
  simp

theorem Scans.blank (hc : Lexeme.isBlank c = true) (h : Scans w ls) : Scans (c :: w) ls := by
  intro r
  rw [List.cons_append, lexemes?_of_blank hc, h]

theorem Scans.sign (hc : Sign c l) (h : Scans w ls) : Scans (c :: w) (l :: ls) := by
  intro r
  rw [List.cons_append, lexemes?_of_first hc.1 (hc.2 _), h, Option.map_map]
  rfl

theorem scans_newLine (level : Nat) : Scans (newLine level) [] := by
  have hspaces (n : Nat) : Scans (List.replicate n ' ') [] := by
    induction n with
    | zero => exact .nil
    | succ n ih => exact ih.blank (by decide)
  exact (hspaces _).blank (by decide)

theorem scans_quote (h : Closed raw) : Scans (quote raw) [.string raw] := by
  intro r
  have hfirst : Lexeme.first? ('"' :: (raw ++ '"' :: r)) = some (.string raw, r) := by
    simp [Lexeme.first?, h r]
  have hcut : quote raw ++ r = '"' :: (raw ++ '"' :: r) := by simp [quote]
  rw [hcut, lexemes?_of_first (by decide) hfirst]
  rfl

theorem sign_openArray : Sign '[' .openArray := ⟨by decide, fun _ => rfl⟩

theorem sign_closeArray : Sign ']' .closeArray := ⟨by decide, fun _ => rfl⟩

theorem sign_openObject : Sign '{' .openObject := ⟨by decide, fun _ => rfl⟩

theorem sign_closeObject : Sign '}' .closeObject := ⟨by decide, fun _ => rfl⟩

theorem sign_colon : Sign ':' .colon := ⟨by decide, fun _ => rfl⟩

theorem sign_comma : Sign ',' .comma := ⟨by decide, fun _ => rfl⟩

/-- The value is made of texts, arrays and objects. -/
inductive Textual : Json → Prop
  | string {raw : Word} (h : Closed raw) : Textual (.string raw)
  | array {items : List Json} (h : ∀ j ∈ items, Textual j) : Textual (.array items)
  | object {fields : List (Word × Json)} (hk : ∀ f ∈ fields, Closed f.1)
    (h : ∀ f ∈ fields, Textual f.2) : Textual (.object fields)

/-- On whatever level the value stands, its lines are cut into its lexemes. -/
def Cut (j : Json) : Prop := ∀ level, Scans (pretty level j) (lexemes j)

theorem scans_items {js : List Json} (h : ∀ j ∈ js, Cut j) (level : Nat) :
    Scans (prettyItems level js) (itemLexemes js) := by
  induction js with
  | nil => exact .nil
  | cons j js ih =>
    have hj := h j List.mem_cons_self level
    have hjs := ih fun i hi => h i (List.mem_cons_of_mem j hi)
    have hcut := (((scans_newLine level).sign sign_comma).append hj).append hjs
    simpa [prettyItems, itemLexemes] using hcut

theorem scans_fields {fs : List (Word × Json)} (hk : ∀ f ∈ fs, Closed f.1)
    (h : ∀ f ∈ fs, Cut f.2) (level : Nat) :
    Scans (prettyFields level fs) (fieldLexemes fs) := by
  induction fs with
  | nil => exact .nil
  | cons f fs ih =>
    obtain ⟨k, j⟩ := f
    have hkey := scans_quote (hk _ List.mem_cons_self)
    have hj := h _ List.mem_cons_self level
    have hfs := ih (fun i hi => hk i (List.mem_cons_of_mem _ hi))
      (fun i hi => h i (List.mem_cons_of_mem _ hi))
    have hcut := ((((scans_newLine level).sign sign_comma).append hkey).append
      ((hj.blank (c := ' ') (by decide)).sign sign_colon)).append hfs
    simpa [prettyFields, fieldLexemes] using hcut

/-- The lines of a value made of texts are cut into the lexemes of the value. -/
theorem Textual.cut {j : Json} (h : j.Textual) : j.Cut := by
  induction h with
  | string hraw => exact fun level => scans_quote hraw
  | @array items _ ih =>
    intro level
    cases items with
    | nil => exact (Scans.nil.sign sign_closeArray).sign sign_openArray
    | cons j js =>
      have hj := ih j List.mem_cons_self (level + 1)
      have hjs := scans_items (fun i hi => ih i (List.mem_cons_of_mem j hi)) (level + 1)
      have hcut := (((((scans_newLine (level + 1)).sign sign_openArray).append hj).append
        hjs).append (scans_newLine level)).append (Scans.nil.sign sign_closeArray)
      simpa [pretty, lexemes] using hcut
  | @object fields hk _ ih =>
    intro level
    cases fields with
    | nil => exact (Scans.nil.sign sign_closeObject).sign sign_openObject
    | cons f fs =>
      obtain ⟨k, j⟩ := f
      have hkey := scans_quote (hk _ List.mem_cons_self)
      have hj := ih _ List.mem_cons_self (level + 1)
      have hfs := scans_fields (fun i hi => hk i (List.mem_cons_of_mem _ hi))
        (fun i hi => ih i (List.mem_cons_of_mem _ hi)) (level + 1)
      have hcut := ((((((scans_newLine (level + 1)).sign sign_openObject).append hkey).append
        ((hj.blank (c := ' ') (by decide)).sign sign_colon)).append hfs).append
          (scans_newLine level)).append (Scans.nil.sign sign_closeObject)
      simpa [pretty, lexemes] using hcut

/-- A value made of texts is read back from its lines. -/
theorem parse?_pretty {j : Json} (h : j.Textual) (level : Nat) :
    parse? (pretty level j) = some j := by
  have hcut := h.cut level []
  rw [List.append_nil] at hcut
  have hread := readValue_lexemes [] [] j
  rw [parse?, hcut]
  simpa [lexemes?, readAfter] using hread

end Transducer.Json
