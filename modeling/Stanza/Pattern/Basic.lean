import Stanza.Pattern.CharSet

/-! Patterns that texts are searched for, and the search. A pattern leads from some places in a text
to others; the text contains the pattern if it leads from some place to any. Places are followed
all together, in their order, so no place is looked at twice for the same step. -/

namespace Stanza

inductive WordEdge where
  /-- Where a word begins or ends. -/
  | boundary
  | inside
  | first
  | last
  /-- No word comes before. -/
  | firstHalf
  /-- No word comes behind. -/
  | lastHalf
  deriving DecidableEq

inductive Anchor where
  | textStart
  | textEnd
  | lineStart
  | lineEnd
  /-- Lines end at a carriage return as well, but not between that and a line feed. -/
  | returnLineStart
  | returnLineEnd
  | word (edge : WordEdge)
  /-- Words of all scripts. There is no search for these. -/
  | anyWord (edge : WordEdge)
  deriving DecidableEq

inductive Pattern where
  | empty
  | char (s : CharSet)
  | anchor (a : Anchor)
  | sequence (p q : Pattern)
  | choice (p q : Pattern)
  /-- At least so many times one after the other, and at most so many. -/
  | repeated (p : Pattern) (least : Nat) (most : Option Nat)
  /-- A part whose place in the text is kept. -/
  | kept (p : Pattern)
  deriving DecidableEq

structure Place where
  /-- How many characters come before. -/
  offset : Nat
  /-- The character just before. -/
  before : Option Char
  rest : Text
  deriving DecidableEq

namespace Place

def onward (offset : Nat) (before : Option Char) : Text → List Place
  | [] => [⟨offset, before, []⟩]
  | c :: t => ⟨offset, before, c :: t⟩ :: onward (offset + 1) (some c) t

def all (t : Text) : List Place := onward 0 none t

def pass? (s : CharSet) (p : Place) : Option Place :=
  match p.rest with
  | c :: t => if s.contains c then some ⟨p.offset + 1, some c, t⟩ else none
  | [] => none

/-- The places in either list. Both are in order, and so is the result. -/
def merge : List Place → List Place → List Place
  | [], qs => qs
  | ps, [] => ps
  | p :: ps, q :: qs =>
    if p.offset < q.offset then p :: merge ps (q :: qs)
    else if q.offset < p.offset then q :: merge (p :: ps) qs
    else p :: merge ps qs
termination_by ps qs => ps.length + qs.length

def iterate (step : List Place → List Place) : Nat → List Place → List Place
  | 0, ps => ps
  | n + 1, ps => if ps.isEmpty then [] else iterate step n (step ps)

/-- The places after at most so many steps. -/
def reach (step : List Place → List Place) : Nat → List Place → List Place
  | 0, ps => ps
  | n + 1, ps =>
    let more := merge ps (step ps)
    if more.length = ps.length then ps else reach step n more

/-- The most characters that come behind one of the places. -/
def room (ps : List Place) : Nat := (ps.map fun p => p.rest.length).foldl max 0

end Place

/-- Whether a word of ASCII comes up to a place, and whether one goes on behind it, are as asked. -/
def WordEdge.holds (wordBefore wordBehind : Bool) : WordEdge → Bool
  | boundary => wordBefore != wordBehind
  | inside => wordBefore == wordBehind
  | first => !wordBefore && wordBehind
  | last => wordBefore && !wordBehind
  | firstHalf => !wordBefore
  | lastHalf => !wordBehind

def Anchor.holds (a : Anchor) (p : Place) : Bool :=
  let behind := p.rest.head?
  match a with
  | textStart => p.before.isNone
  | textEnd => behind.isNone
  | lineStart => p.before.isNone || p.before = some '\n'
  | lineEnd => behind.isNone || behind = some '\n'
  | returnLineStart =>
    p.before.isNone || p.before = some '\n' || (p.before = some '\r' && behind ≠ some '\n')
  | returnLineEnd =>
    behind.isNone || behind = some '\r' || (behind = some '\n' && p.before ≠ some '\r')
  | word edge => edge.holds (p.before.any CharSet.word.contains) (behind.any CharSet.word.contains)
  | anyWord _ => false

namespace Pattern

/-- The places that a pattern leads to from these. Of more repetitions than there are characters
some pass none, so it does not matter how many more they are. -/
def follow : Pattern → List Place → List Place
  | empty, ps => ps
  | char s, ps => ps.filterMap (Place.pass? s)
  | anchor a, ps => ps.filter a.holds
  | sequence p q, ps => q.follow (p.follow ps)
  | choice p q, ps => Place.merge (p.follow ps) (q.follow ps)
  | repeated p least most, ps =>
    let enough := Place.room ps + 1
    Place.reach p.follow (min (most.elim enough (· - least)) enough)
      (Place.iterate p.follow (min least enough) ps)
  | kept p, ps => p.follow ps

def isIn (p : Pattern) (t : Text) : Bool := !(p.follow (Place.all t)).isEmpty

/-- Whether the pattern passes no character wherever it leads. -/
def isStill : Pattern → Bool
  | empty | anchor _ => true
  | char _ => false
  | sequence p q | choice p q => p.isStill && q.isStill
  | repeated p _ _ | kept p => p.isStill

/-- The pattern repeated. Repeating changes nothing where no character is passed, and what is
repeated no times at all is not there. -/
def times (p : Pattern) (least : Nat) (most : Option Nat) : Pattern :=
  let least := if p.isStill then min least 1 else least
  let most := if p.isStill then some (most.elim 1 (min · 1)) else most
  if most = some 0 then empty else if least = 1 ∧ most = some 1 then p else repeated p least most

def asksAnyWord : Pattern → Bool
  | anchor (.anyWord _) => true
  | empty | char _ | anchor _ => false
  | sequence p q | choice p q => p.asksAnyWord || q.asksAnyWord
  | repeated p _ _ | kept p => p.asksAnyWord

def stateSize : Nat := 32

def waySize : Nat := 4

def setSize (s : CharSet) : Nat :=
  match s.only? with
  | some c => stateSize * c.utf8Size
  | none =>
    if s.isAscii then 2 * stateSize + 2 * waySize * s.forms.1
    else 2 * stateSize + waySize * s.forms.1 + stateSize * s.forms.2

/-- The size of a machine that searches for a pattern. A part that is repeated has its states once
for each time that it has to be or may be passed. -/
def size : Pattern → Nat
  | empty | anchor _ => stateSize
  | char s => setSize s
  | sequence p q => p.size + q.size
  | choice p q => p.size + q.size + 2 * (stateSize + waySize)
  | repeated p least none => max least 1 * p.size + stateSize + 2 * waySize
  | repeated p least (some most) =>
    max least most * p.size +
      if most ≤ least then 0 else (most - least) * (stateSize + 2 * waySize) + stateSize
  | kept p => p.size + 2 * stateSize

end Pattern

end Stanza
