import Transducer.Yaml.Node
import Transducer.Yaml.Token.Reader

/-!
Reading a node from its tokens. The lists and mappings that are still open form a stack, so that
nesting of any depth is read in one pass over the tokens. A node may be missing: that shows at the
token behind it.
-/

namespace Transducer.Yaml

/-- How a list or a mapping is written. -/
inductive Layout where
  /-- By indentation. -/
  | block
  /-- As a list in a mapping, no further in than the mapping itself. -/
  | flat
  /-- Between brackets. -/
  | flow
  deriving DecidableEq, Repr

/-- What is open, and what is to come in it. The entries of a mapping have the latest first. -/
inductive Frame where
  /-- The whole file, in front of its node. -/
  | root
  /-- The whole file, behind its node. -/
  | whole (n : Node)
  /-- A list, in front of a dash, a comma or its end. -/
  | items (l : Layout)
  /-- A list, in front of an item. -/
  | item (l : Layout)
  /-- A list between brackets with a key, a colon or a value of an item to come that is a mapping of
  one entry. -/
  | pairKey
  | pairColon
  | pairValue
  /-- A mapping, in front of the announcement of a key, a comma or its end. -/
  | entries (l : Layout) (es : List (Node × Node))
  /-- A mapping between brackets, in front of a key that need not be announced. -/
  | entry (es : List (Node × Node))
  | key (l : Layout) (es : List (Node × Node))
  | colon (l : Layout) (es : List (Node × Node)) (key : Node)
  | value (l : Layout) (es : List (Node × Node)) (key : Node)

namespace Frame

/-- The token shows that a node that was to come is missing. -/
def mayLack : Frame → Token → Bool
  | item .block, .item | item .block, .closeBlock => true
  | item .flat, .item | item .flat, .key | item .flat, .value | item .flat, .closeBlock => true
  | key .block _, .key | key .block _, .value | key .block _, .closeBlock => true
  | value .block .., .key | value .block .., .value | value .block .., .closeBlock => true
  | key .flow _, .value | key .flow _, .comma | key .flow _, .closeMap => true
  | value .flow .., .comma | value .flow .., .closeMap => true
  | pairValue, .comma | pairValue, .closeList => true
  | _, _ => false

/-- Puts a node where one is to come. -/
def place? (n : Node) : List Frame → Option (List Frame)
  | [root] => some [whole n]
  | item l :: r => some (items l :: r)
  | pairKey :: r => some (pairColon :: r)
  | pairValue :: r => some (items .flow :: r)
  | entry es :: r => some (entries .flow ((n, Node.empty) :: es) :: r)
  | key l es :: r => some (colon l es n :: r)
  | value l es k :: r => some (entries l ((k, n) :: es) :: r)
  | _ => none

/-- Puts an empty node where a node is missing. -/
def placeMissing? (t : Token) (stack : List Frame) : Option (List Frame) :=
  if stack.head?.any (·.mayLack t) then place? Node.empty stack else some stack

/-- A flat list ends without a token of its own. -/
def endFlat? (t : Token) : List Frame → Option (List Frame)
  | items .flat :: r => if t = .item then some (items .flat :: r) else place? .list r
  | stack => some stack

/-- A key may have no value. -/
def endKey (t : Token) : List Frame → List Frame
  | colon l es k :: r =>
    if t = .value then colon l es k :: r else entries l ((k, Node.empty) :: es) :: r
  | pairColon :: r => if t = .value then pairColon :: r else items .flow :: r
  | stack => stack

/-- Takes a token where nothing is missing. -/
def take? (t : Token) (stack : List Frame) : Option (List Frame) :=
  match t, stack with
  | .scalar s, stack => place? (.scalar s) stack
  | .openBlockList, stack => some (items .block :: stack)
  | .openBlockMap, stack => some (entries .block [] :: stack)
  | .openList, stack => some (item .flow :: stack)
  | .openMap, stack => some (entry [] :: stack)
  | .item, items .block :: r => some (item .block :: r)
  | .item, items .flat :: r => some (item .flat :: r)
  | .item, key .block es :: r => some (item .flat :: key .block es :: r)
  | .item, value .block es k :: r => some (item .flat :: value .block es k :: r)
  | .key, entries .block es :: r => some (key .block es :: r)
  | .key, entry es :: r => some (key .flow es :: r)
  | .key, item .flow :: r => some (pairKey :: r)
  | .value, colon l es k :: r => some (value l es k :: r)
  | .value, pairColon :: r => some (pairValue :: r)
  | .comma, items .flow :: r => some (item .flow :: r)
  | .comma, entries .flow es :: r => some (entry es :: r)
  | .closeBlock, items .block :: r => place? .list r
  | .closeBlock, entries .block es :: r => place? (.map es.reverse) r
  | .closeList, items .flow :: r => place? .list r
  | .closeList, item .flow :: r => place? .list r
  | .closeMap, entries .flow es :: r => place? (.map es.reverse) r
  | .closeMap, entry es :: r => place? (.map es.reverse) r
  | _, _ => none

def step? (stack : List Frame) (t : Token) : Option (List Frame) := do
  take? t (endKey t (← endFlat? t (← placeMissing? t stack)))

end Frame

namespace Node

def ofTokens? (ts : List Token) : Option Node := do
  match ← ts.foldlM Frame.step? [.root] with
  | [.whole n] => some n
  | _ => none

/-- The tokens without the markers at the end. -/
def trimEnds (ts : List Token) : List Token :=
  (ts.reverse.dropWhile (· == .documentEnd)).reverse

/-- The node of a file. A file holds one document at most, which a marker may open and markers may
close; where there is none, nothing is written. -/
def ofDocument? (ts : List Token) : Option Node :=
  match ts with
  | [] => some empty
  | .documentStart :: r => if (trimEnds r).isEmpty then some empty else ofTokens? (trimEnds r)
  | ts => ofTokens? (trimEnds ts)

def ofText? (text : Word) : Option Node := (tokens? text).bind ofDocument?

end Node

end Transducer.Yaml
