import Transducer.Yaml.Token.Scan

/-!
Reading the tokens of a YAML file, one character after the other.

Anchors, aliases, tags, directives and texts in blocks of lines have no tokens: a file that has one
of them cannot be read. What is proved of settings holds of readers that know them, too.
-/

namespace Transducer.Yaml

namespace Scan

def marker? (s : Scan) (t : Token) : Option Scan := do
  return { ← (s.close fun _ => false).giveUp? with keyAllowed := false, mode := .marker 2 }.add t

def openFlow? (s : Scan) (t : Token) : Option Scan := do
  let s ← s.nominate?
  return { s with candidate := none, outer := s.candidate :: s.outer, keyAllowed := true }.add t

def closeFlow? (s : Scan) (t : Token) : Option Scan := do
  let s ← s.giveUp?
  return { s with
    candidate := s.outer.head?.join, outer := s.outer.tail, keyAllowed := false }.add t

def comma? (s : Scan) : Option Scan := do
  return { ← s.giveUp? with keyAllowed := true }.add .comma

/-- Reads the dash in front of an item. -/
def item? (s : Scan) : Option Scan :=
  if !s.inFlow && !s.keyAllowed then none
  else do
    let s ← (s.openBlock s.place.column .openBlockList).giveUp?
    return { s with keyAllowed := true }.add .item

/-- Reads the question mark in front of a key. -/
def key? (s : Scan) : Option Scan :=
  if !s.inFlow && !s.keyAllowed then none
  else do
    let s ← (s.openBlock s.place.column .openBlockMap).giveUp?
    return { s with keyAllowed := !s.inFlow }.add .key

/-- Reads the colon in front of a value. -/
def value? (s : Scan) : Option Scan :=
  match s.candidate with
  | some k => some ({ s.announce k with candidate := none, keyAllowed := false }.add .value)
  | none =>
    if !s.inFlow && !s.keyAllowed then none
    else some ({ s.openBlock s.place.column .openBlockMap with keyAllowed := !s.inFlow }.add .value)

/-- Begins a scalar. -/
def scalar? (s : Scan) (m : Mode) : Option Scan := do
  return { ← s.nominate? with keyAllowed := false, mode := m }

/-- Begins a token with the character `c`, in front of `w`. -/
def begin? (s : Scan) (c : Char) (w : Word) : Option Scan := do
  let s := (← s.forgetStale?).close (· ≤ s.place.column)
  match if s.place.column = 0 then Token.marker? (c :: w) else none with
  | some t => s.marker? t
  | none =>
    if c = '[' then s.openFlow? .openList
    else if c = '{' then s.openFlow? .openMap
    else if c = ']' then s.closeFlow? .closeList
    else if c = '}' then s.closeFlow? .closeMap
    else if c = ',' then s.comma?
    else if c = '-' && isClear w then s.item?
    else if c = '?' && (s.inFlow || isClear w) then s.key?
    else if c = ':' && (s.inFlow || isClear w) then s.value?
    else if c = '\'' || c = '"' then s.scalar? (.quoted c Draft.empty)
    else if beginsPlain s.inFlow (c :: w) then s.scalar? (.plain (Draft.empty.push c))
    else none

/-- The mark of byte order may stand at the beginning of a line, where it takes up a column. -/
def byteOrderMark : Char := '\ufeff'

/-- Reads a character between tokens. A tab may not stand where a key may begin. -/
def between? (s : Scan) (c : Char) (w : Word) : Option Scan :=
  if c = byteOrderMark && s.place.column = 0 then some s
  else if c = ' ' then some s
  else if c = '\t' && (s.inFlow || !s.keyAllowed) then some s
  else if c = '#' then some { s with mode := .comment }
  else if isLineEnd c then some { s with keyAllowed := s.keyAllowed || !s.inFlow }
  else s.begin? c w

/-- Ends a plain scalar. If it has gone on to another line, a key may begin there. -/
def endPlain (s : Scan) (d : Draft) : Scan :=
  { s with mode := .between, keyAllowed := s.keyAllowed || d.gap.isBroken }.add (.scalar d.plain)

/-- Reads on in a plain scalar. It ends in front of what cannot be part of it, and in a new line in
front of what stands too far out. -/
def plain? (s : Scan) (d : Draft) (c : Char) (w : Word) : Option Scan :=
  if isSpace c then
    if d.gap.isBroken && c = '\t' && s.place.column < s.margin then none
    else some { s with mode := .plain (d.space c) }
  else if isLineEnd c then some { s with mode := .plain (d.lineEnd c) }
  else if (d.gap.isBroken && !s.inFlow && s.place.column < s.margin) ||
      (s.place.column = 0 && (Token.marker? (c :: w)).isSome) ||
      (!d.gap.isNone && c = '#') then (s.endPlain d).between? c w
  else if isMisplacedColon s.inFlow c w then none
  else if endsPlain s.inFlow c w then (s.endPlain d).between? c w
  else some { s with mode := .plain (d.push c) }

/-- Reads on in text between quotes. A marker between documents may not stand there. -/
def quoted? (s : Scan) (quote : Char) (d : Draft) (c : Char) (w : Word) : Option Scan :=
  if isSpace c then some { s with mode := .quoted quote (d.space c) }
  else if isLineEnd c then some { s with mode := .quoted quote (d.lineEnd c) }
  else if s.place.column = 0 && (Token.marker? (c :: w)).isSome then none
  else if c = '\'' && quote = '\'' && w.head? = some '\'' then some { s with mode := .doubled d }
  else if c = quote then some ({ s with mode := .between }.add (.scalar d.quoted))
  else if c = '\\' && quote = '"' then some { s with mode := .escape d }
  else some { s with mode := .quoted quote (d.push c) }

/-- Reads the letter of an escape. -/
def escaped? (s : Scan) (d : Draft) (c : Char) : Option Scan :=
  if isLineEnd c then some { s with mode := .quoted '"' d.continued }
  else
    match escape? c, codeLength? c with
    | some e, _ => some { s with mode := .quoted '"' (d.push e) }
    | none, some n => some { s with mode := .code d n 0 }
    | none, none => none

/-- Reads a digit of a number of which `left` digits are to come. -/
def code? (s : Scan) (d : Draft) (left value : Nat) (c : Char) : Option Scan := do
  let value := value * 16 + (← Digit.value? c)
  if left ≤ 1 then return { s with mode := .quoted '"' (d.push (← ofCode? value)) }
  else return { s with mode := .code d (left - 1) value }

/-- Reads a character, in front of `w`. -/
def step? (s : Scan) (c : Char) (w : Word) : Option Scan :=
  match s.mode with
  | .between => s.between? c w
  | .comment => if isLineEnd c then { s with mode := .between }.between? c w else some s
  | .marker left => some { s with mode := if left ≤ 1 then .between else .marker (left - 1) }
  | .plain d => s.plain? d c w
  | .quoted quote d => s.quoted? quote d c w
  | .doubled d => some { s with mode := .quoted '\'' (d.push '\'') }
  | .escape d => s.escaped? d c
  | .code d left value => s.code? d left value c

def read? (s : Scan) : Word → Option Scan
  | [] => some s
  | c :: w => do read? { ← s.step? c w with place := s.place.after c } w

/-- The scan where the text ends, unless it ends within a token. -/
def rest? (s : Scan) : Option Scan :=
  match s.mode with
  | .between | .comment => some s
  | .plain d => some (s.endPlain d)
  | _ => none

def finish? (s : Scan) : Option (List Token) := do
  let s ← (← s.rest?).forgetStale?
  return (← (s.close fun _ => false).giveUp?).tokens.reverse

end Scan

def tokens? (text : Word) : Option (List Token) := do
  (← Scan.start.read? (← source? text)).finish?

end Transducer.Yaml
