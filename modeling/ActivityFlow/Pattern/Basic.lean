import ActivityFlow.Pattern.CharSet

/-!
# Patterns

A pattern describes pieces of text. It is found in a text by following the set of places
that it can reach: the places before the first character, between two characters and after
the last one are numbered from zero, and a pattern maps the places where it may begin to
those where it may end.
-/
namespace ActivityFlow

/-- A condition on the characters before and after a place. The flag of the word conditions
says whether only ASCII characters count as word characters. -/
inductive Anchor where
  | textStart
  | textEnd
  | lineStart
  | lineEnd
  /-- As `lineStart`, where carriage returns end lines too and a pair of both ends one. -/
  | lineStartCR
  | lineEndCR
  | wordEdge (ascii : Bool)
  | noWordEdge (ascii : Bool)
  | wordStart (ascii : Bool)
  | wordEnd (ascii : Bool)
  /-- No word character stands before the place. -/
  | noWordBefore (ascii : Bool)
  /-- No word character stands after the place. -/
  | noWordAfter (ascii : Bool)
deriving DecidableEq

/-- A description of pieces of text. -/
inductive Pattern where
  | empty
  /-- One character of a set. -/
  | char (set : CharSet)
  | anchor (a : Anchor)
  | seq (p q : Pattern)
  | alt (p q : Pattern)
  /-- At least and at most so many pieces one after the other. -/
  | times (p : Pattern) (least : Nat) (most : Option Nat)
  /-- A part in parentheses; it means the same as without them. -/
  | group (p : Pattern)
deriving DecidableEq

namespace Anchor

/-- Whether a character is there and part of a word. -/
def inWord (ascii : Bool) : Option Char → Bool
  | some c => if ascii then CharSet.asciiWord.contains c else Text.isWordChar c
  | none => false

/-- Whether an anchor holds between two characters, of which either may be missing. -/
def admits (a : Anchor) (before after : Option Char) : Bool :=
  match a with
  | textStart => before.isNone
  | textEnd => after.isNone
  | lineStart => before.isNone || before == some '\n'
  | lineEnd => after.isNone || after == some '\n'
  | lineStartCR =>
    before.isNone || before == some '\n' || (before == some '\r' && after != some '\n')
  | lineEndCR =>
    after.isNone || after == some '\r' || (after == some '\n' && before != some '\r')
  | wordEdge ascii => inWord ascii before != inWord ascii after
  | noWordEdge ascii => inWord ascii before == inWord ascii after
  | wordStart ascii => !inWord ascii before && inWord ascii after
  | wordEnd ascii => inWord ascii before && !inWord ascii after
  | noWordBefore ascii => !inWord ascii before
  | noWordAfter ascii => !inWord ascii after

def holds (a : Anchor) (text : Array Char) (place : Nat) : Bool :=
  a.admits (if place = 0 then none else text[place - 1]?) text[place]?

end Anchor

namespace Pattern

/-! ## Places

Sets of places are lists in ascending order. -/

/-- The union of two sets of places. -/
def mergePlaces : List Nat → List Nat → List Nat
  | [], bs => bs
  | a :: as, [] => a :: as
  | a :: as, b :: bs =>
    if a < b then a :: mergePlaces as (b :: bs)
    else if b < a then b :: mergePlaces (a :: as) bs
    else a :: mergePlaces as bs

/-- The place after a place if a character of the set stands between them. -/
def afterChar (set : CharSet) (text : Array Char) (place : Nat) : Option Nat :=
  match text[place]? with
  | some c => if set.contains c then some (place + 1) else none
  | none => none

/-- Takes a step a number of times. A set that a step does not change stays as it is. -/
def stepExactly (step : List Nat → List Nat) : Nat → List Nat → List Nat
  | 0, places => places
  | n + 1, places =>
    let next := step places
    if next = places then places else stepExactly step n next

/-- The places reached by at most a number of steps. -/
def stepUpTo (step : List Nat → List Nat) : Nat → List Nat → List Nat
  | 0, places => places
  | n + 1, places =>
    let next := mergePlaces places (step places)
    if next = places then places else stepUpTo step n next

/-- The places where a pattern can end that begins at one of the given places. -/
def ends (text : Array Char) : Pattern → List Nat → List Nat
  | empty, places => places
  | char set, places => places.filterMap (afterChar set text)
  | anchor a, places => places.filter (a.holds text)
  | seq p q, places => ends text q (ends text p places)
  | alt p q, places => mergePlaces (ends text p places) (ends text q places)
  | times p least most, places =>
    let more :=
      match most with
      | some n => n - least
      | none => text.size + 1
    stepUpTo (ends text p) more (stepExactly (ends text p) least places)
  | group p, places => ends text p places

/-- Whether some piece of a text is described by a pattern. -/
def occursIn (p : Pattern) (s : String) : Bool :=
  let text := s.toList.toArray
  !(ends text p (List.range (text.size + 1))).isEmpty

/-! ## Limits -/

/-- How deep a pattern is nested. A run of parts counts as one level; the flags say whether
the pattern is a later part of such a run. -/
def depth (inSeq inAlt : Bool) : Pattern → Nat
  | empty | char _ | anchor _ => 0
  | seq p q => (if inSeq then 0 else 1) + max (depth false false p) (depth true false q)
  | alt p q => (if inAlt then 0 else 1) + max (depth false false p) (depth false true q)
  | times p _ _ => 1 + depth false false p
  | group p => 1 + depth false false p

/-- How many bytes a compiled category takes: an estimate, as is every weight below. Patterns
near the limit of `isModerate` can be judged differently than by their compiled size. -/
def categoryWeight (kind : Text.Category) : Nat :=
  match Text.Category.assigned.find? (·.1 == kind) with
  | some e => 60 * e.2.size
  | none => 43000

def setWeight : CharSet → Nat
  | .range _ last => if last < 0x80 then 40 else 128
  | .category kinds => (kinds.map categoryWeight).sum
  | .listed table => 60 * table.size
  | .word => 47000
  | .digit => 4000
  | .blank => 700
  | .complement s => 600 + setWeight s
  | .union s t | .inter s t => setWeight s + setWeight t
  | .anyCase s | .anyAsciiCase s => 2 * setWeight s

/-- How many bytes a compiled pattern takes: bounded repetitions are written out. -/
def weight : Pattern → Nat
  | empty | anchor _ => 32
  | char set => setWeight set
  | seq p q => weight p + weight q
  | alt p q => 32 + weight p + weight q
  | times p least most => 32 + weight p * max 1 (most.getD least)
  | group p => 64 + weight p

/-- Whether a pattern is neither nested too deep nor too large. -/
def isModerate (p : Pattern) : Bool := depth false false p ≤ 250 && weight p ≤ 10485760

end Pattern

end ActivityFlow
