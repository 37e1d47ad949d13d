import Transducer.Json.Quoted.Lemmas
import Transducer.Program

/-!
What is printed of a run, spelled out. A snapshot is a line for readers or an object of data, a
result several lines, and both say everything there is to see.
-/

namespace Transducer

theorem Palette.paint_monochrome (style : Style) (text : String) :
    Palette.monochrome.paint style text = text := rfl

namespace Word

/-- The word between quotes, with escapes where they are needed. -/
def quoted (w : Word) : String := "\"" ++ (Quoted.escape w).text ++ "\""

theorem text_cons (c : Char) (w : Word) : text (c :: w) = String.singleton c ++ w.text := by
  rw [← String.toList_inj]
  simp [text]

theorem text_append (v w : Word) : text (v ++ w) = v.text ++ w.text := String.ofList_append

end Word

namespace Json

/-- The items after the first each follow a comma. -/
theorem text_compactItems (j : Json) (js : List Json) :
    Word.text (compact j ++ compactItems js) =
      ",".intercalate ((compact j).text :: js.map fun i => (compact i).text) := by
  induction js generalizing j with
  | nil => rw [List.map_nil, String.intercalate_singleton, compactItems, List.append_nil]
  | cons i js ih =>
    rw [List.map_cons, String.intercalate_cons_cons, ← ih i, compactItems, Word.text_append,
      List.cons_append, Word.text_cons, String.append_assoc]
    rfl

theorem text_compact_array (js : List Json) : (compact (.array js)).text =
    "[" ++ ",".intercalate (js.map fun j => (compact j).text) ++ "]" := by
  cases js with
  | nil => rfl
  | cons j js =>
    rw [List.map_cons, ← text_compactItems, compact, Word.text_append, List.cons_append,
      Word.text_cons]
    rfl

/-- A field of an object. -/
def fieldText (f : Word × Json) : String := "\"" ++ f.1.text ++ "\":" ++ (compact f.2).text

theorem text_compact_field (k : Word) (j : Json) (w : Word) :
    Word.text (quote k ++ ':' :: compact j ++ w) = fieldText (k, j) ++ w.text := by
  rw [← String.toList_inj]
  simp [Word.text, fieldText, quote]

/-- The fields after the first each follow a comma. -/
theorem text_compactFields (k : Word) (j : Json) (fs : List (Word × Json)) :
    Word.text (quote k ++ ':' :: compact j ++ compactFields fs) =
      ",".intercalate (fieldText (k, j) :: fs.map fieldText) := by
  induction fs generalizing k j with
  | nil =>
    rw [text_compact_field, compactFields, List.map_nil, String.intercalate_singleton]
    exact String.append_empty
  | cons f fs ih =>
    rw [List.map_cons, String.intercalate_cons_cons, ← ih f.1 f.2, text_compact_field,
      compactFields, String.append_assoc, List.cons_append, List.cons_append, Word.text_cons]
    rfl

theorem text_compact_object (fs : List (Word × Json)) :
    (compact (.object fs)).text = "\x7b" ++ ",".intercalate (fs.map fieldText) ++ "\x7d" := by
  cases fs with
  | nil => rfl
  | cons f fs =>
    rw [List.map_cons, ← text_compactFields, compact, Word.text_append, List.cons_append,
      List.cons_append, Word.text_cons]
    rfl

/-- An object whose keys stand as they are. -/
theorem text_compact_ofFields {fs : List (String × Json)}
    (h : ∀ f ∈ fs, Quoted.escape f.1.toList = f.1.toList) : (compact (ofFields fs)).text =
      "\x7b" ++ ",".intercalate (fs.map fun f => "\"" ++ f.1 ++ "\":" ++ (compact f.2).text) ++
        "\x7d" := by
  have hfields : (fs.map fun f => field f.1.toList f.2).map fieldText =
      fs.map fun f => "\"" ++ f.1 ++ "\":" ++ (compact f.2).text := by
    rw [List.map_map]
    refine List.map_congr_left fun f hf => ?_
    simp [fieldText, field, h f hf, Word.text]
  rw [ofFields, text_compact_object, hfields]

theorem text_compact_bool (b : Bool) : (compact (.bool b)).text = toString b := by
  cases b <;> rfl

theorem text_compact_ofNat (n : Nat) : (compact (ofNat n)).text = toString n := rfl

theorem text_compact_ofWord (w : Word) : (compact (ofWord w)).text = w.quoted := by
  rw [← String.toList_inj]
  simp [Word.text, Word.quoted, ofWord, compact, quote]

theorem text_compact_ofWords (ws : List Word) : (compact (ofWords ws)).text =
    "[" ++ ",".intercalate (ws.map Word.quoted) ++ "]" := by
  rw [ofWords, text_compact_array, List.map_map]
  simp only [Function.comp_def, text_compact_ofWord]

end Json

/-- A snapshot for readers. -/
def Snapshot.shown (p : Palette) (s : Snapshot) : String :=
  "[" ++ p.paint .cyan (toString s.transitions) ++ "] " ++ p.paint .yellow s.state.text ++
    " @" ++ toString s.position ++ " output \"" ++ s.output.text ++ "\"" ++
    (if s.done then " " ++ p.paint .dimmed "done:" ++ " " ++ s.message else "") ++
    (match s.history with
      | none => ""
      | some ls => " " ++ p.paint .dimmed "history:" ++ " " ++ ",".intercalate (ls.map Word.text))

/-- The fields of a snapshot as data, each with its value. -/
def Snapshot.fields (s : Snapshot) : List (String × String) :=
  [("done", toString s.done), ("state", s.state.quoted), ("output", s.output.quoted),
    ("transitions", toString s.transitions), ("position", toString s.position),
    ("message", Word.quoted s.message.toList)] ++
    (s.history.map fun ls => ("history", "[" ++ ",".intercalate (ls.map Word.quoted) ++ "]")).toList

/-- A snapshot as an object of data. -/
def Snapshot.data (s : Snapshot) : String :=
  "\x7b" ++ ",".intercalate (s.fields.map fun f => "\"" ++ f.1 ++ "\":" ++ f.2) ++ "\x7d"

def Snapshot.printed (p : Palette) (json : Bool) (s : Snapshot) : String :=
  if json then s.data else s.shown p

/-- The lines that say why a machine is not run. -/
def Diagnosis.lines (p : Palette) (d : Diagnosis) : List String :=
  [p.paint .red "Unable to execute", "Check failed with code " ++ toString d.number,
    ">> \"" ++ d.message ++ "\""]

/-- The lines that tell a result. The last one is there if the history was recorded. -/
def Outcome.lines (p : Palette) (o : Outcome) : List String :=
  ["  Accepted:    " ++ (if o.accepted then p.paint .green "true" else p.paint .red "false"),
    "  Final:       " ++ p.paint .yellow o.finalState.text,
    "  Output:      \"" ++ o.output.text ++ "\"", "  Message:     " ++ o.message,
    "  Transitions: " ++ toString o.transitions] ++
    (o.history.map fun ls => "  History:     " ++ ",".intercalate (ls.map Word.text)).toList

namespace Report

theorem snapshot_eq_shown (p : Palette) (s : Snapshot) : snapshot p s = s.shown p := by
  cases hd : s.done <;> cases hh : s.history <;>
    simp [snapshot, labels, Snapshot.shown, hd, hh, String.append_assoc, toString]

theorem refusal_eq_lines (p : Palette) (d : Diagnosis) :
    refusal p d = "\n".intercalate (d.lines p) := by
  rw [← String.toList_inj]
  simp [refusal, Diagnosis.lines, String.intercalate_cons_cons, toString]

theorem outcome_eq_lines (p : Palette) (o : Outcome) :
    outcome p o = "\n".intercalate (o.lines p) := by
  -- two texts with a line feed in them, which are cut there
  have hquote : "\"\n" = "\"" ++ "\n" := rfl
  have hhistory : "\n  History:     " = "\n" ++ "  History:     " := rfl
  unfold outcome labels Outcome.lines
  cases o.history <;>
    simp only [Option.map_none, Option.map_some, Option.toList_none, Option.toList_some,
      List.cons_append, List.nil_append, String.intercalate_cons_cons,
      String.intercalate_singleton, String.append_assoc, String.append_empty, toString, hquote,
      hhistory]

end Report

/-- The names of the fields need no escapes. -/
theorem Snapshot.compact_toJson (s : Snapshot) : s.toJson.compact.text = s.data := by
  have hnames : ∀ name ∈ ["done", "state", "output", "transitions", "position", "message",
      "history"], Quoted.escape name.toList = name.toList := by decide
  have hkeys : ∀ f ∈ [("done", Json.bool s.done), ("state", .ofWord s.state),
      ("output", .ofWord s.output), ("transitions", .ofNat s.transitions),
      ("position", .ofNat s.position), ("message", .ofString s.message)] ++
      Json.historyField s.history, Quoted.escape f.1.toList = f.1.toList := by
    refine fun f hf => hnames f.1 ?_
    revert f
    cases s.history <;> simp [Json.historyField]
  rw [toJson, Json.text_compact_ofFields hkeys, data, fields]
  cases s.history <;> simp [Json.historyField, Json.text_compact_bool, Json.text_compact_ofNat,
    Json.text_compact_ofWord, Json.text_compact_ofWords, Json.ofString]

theorem Program.snapshotText_eq (p : Palette) (json : Bool) :
    snapshotText p json = Snapshot.printed p json := by
  funext s
  rw [snapshotText, s.compact_toJson, Report.snapshot_eq_shown, Snapshot.printed]

end Transducer
