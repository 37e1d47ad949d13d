import Transducer.Word.Ranges
import Transducer.Word.Cluster.Table

/-!
The part a character plays in a cluster, after the Unicode properties Grapheme_Cluster_Break,
Extended_Pictographic and Indic_Conjunct_Break.
-/

namespace Transducer.Cluster

inductive Kind where
  | carriageReturn
  | lineFeed
  | control
  | mark
  /-- A mark that ties a consonant to the next one. -/
  | linker
  /-- The mark that keeps consonants apart. -/
  | nonJoiner
  /-- What joins one pictograph to the next. -/
  | joiner
  | spacing
  | prepend
  /-- One letter of the two that make a flag. -/
  | regional
  | leading
  | vowel
  | trailing
  /-- A block of a leading consonant and a vowel. -/
  | openSyllable
  /-- A block that ends in a trailing consonant. -/
  | closedSyllable
  | pictograph
  | consonant
  | plain
  deriving DecidableEq, Repr

/-- The kinds that are told by the tables. -/
def tabled : List (Kind × List (Nat × Nat)) :=
  [(.control, controlRanges), (.mark, markRanges), (.linker, linkerRanges),
   (.spacing, spacingRanges), (.prepend, prependRanges), (.regional, [(0x1f1e6, 0x1f1ff)]),
   (.leading, leadingRanges), (.vowel, vowelRanges), (.trailing, trailingRanges),
   (.pictograph, pictographRanges), (.consonant, consonantRanges)]

/-- A syllable block of Hangul. They stand in the order of their consonants and vowels; each 28th is
the first of its vowel and has no trailing consonant. -/
def Kind.ofSyllable? (c : Char) : Option Kind :=
  if inRanges [(0xac00, 0xd7a3)] c then
    some (if (c.toNat - 0xac00) % 28 = 0 then .openSyllable else .closedSyllable)
  else none

def Kind.ofChar (c : Char) : Kind :=
  if c = '\r' then .carriageReturn
  else if c = '\n' then .lineFeed
  else if c = '\u200c' then .nonJoiner
  else if c = '\u200d' then .joiner
  else ((Kind.ofSyllable? c).or ((tabled.find? (inRanges ·.2 c)).map Prod.fst)).getD .plain

namespace Kind

/-- Nothing joins it and it joins nothing, but for a line feed behind a carriage return. -/
def isControl : Kind → Bool
  | .carriageReturn | .lineFeed | .control => true
  | _ => false

/-- A mark of any sort, unless it is written beside the character or joins it to another. -/
def isMark : Kind → Bool
  | .mark | .linker | .nonJoiner => true
  | _ => false

/-- It belongs to the character in front, whatever that is. -/
def trails : Kind → Bool
  | .joiner | .spacing => true
  | k => k.isMark

/-- What may stand between consonants that are tied. -/
def isWithinConjunct : Kind → Bool
  | .mark | .linker | .joiner => true
  | _ => false

/-- Two parts of one syllable of Hangul. -/
def isSyllableWith : Kind → Kind → Bool
  | .leading, .leading | .leading, .vowel | .leading, .openSyllable | .leading, .closedSyllable => true
  | .openSyllable, .vowel | .vowel, .vowel | .openSyllable, .trailing | .vowel, .trailing => true
  | .closedSyllable, .trailing | .trailing, .trailing => true
  | _, _ => false

end Kind

end Transducer.Cluster
