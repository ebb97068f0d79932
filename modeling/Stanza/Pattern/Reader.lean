import Stanza.Pattern.Brackets
import Stanza.Text.Alphabetic

/-! Reading patterns. A pattern is read from left to right; the groups that are still open lie on a
stack, each with what was read before it. -/

namespace Stanza

inductive PatternError where
  | malformed (written : Text)
  | tooLarge
  /-- The pattern asks for words of all scripts. -/
  | unsearchable
  deriving DecidableEq

namespace Pattern

def sizeLimit : Nat := 10485760

/-- The size of what comes with every pattern, in bytes. -/
def frameSize : Nat := 208

def depthLimit : Nat := 250

/-- A number of repetitions is less than this. -/
def countLimit : Nat := 4294967296

/-- A part of a sequence: a pattern, or the place where flags are set. -/
inductive Item where
  | pattern (p : Nested Pattern)
  | flags

def Item.depth : Item → Nat
  | pattern p => p.depth
  | flags => 0

def Item.part : Item → Pattern
  | pattern p => p.part
  | flags => .empty

structure Level where
  /-- The choices before the present one, the last first. -/
  choices : List (Nested Pattern)
  /-- The items of the present one, the last first. -/
  items : List Item

def Level.start : Level := ⟨[], []⟩

def ofSequence : List Pattern → Pattern
  | [] => .empty
  | [p] => p
  | p :: ps => .sequence p (ofSequence ps)

def ofChoices : List Pattern → Pattern
  | [] => .empty
  | [p] => p
  | p :: ps => .choice p (ofChoices ps)

namespace Level

def choice (l : Level) : Nested Pattern :=
  ⟨ofSequence (l.items.map Item.part).reverse, depthOver (l.items.map Item.depth)⟩

def value (l : Level) : Nested Pattern :=
  let all := l.choice :: l.choices
  ⟨ofChoices (all.map Nested.part).reverse, depthOver (all.map Nested.depth)⟩

def add (l : Level) (i : Item) : Level := { l with items := i :: l.items }

def next (l : Level) : Level := ⟨l.choice :: l.choices, []⟩

def repeat? (l : Level) (least : Nat) (most : Option Nat) : Option Level :=
  match l.items with
  | .pattern p :: items =>
    some { l with items := .pattern ⟨p.part.times least most, p.depth + 1⟩ :: items }
  | _ => none

end Level

/-- A group that is still open, with the flags and the level to go on with behind it. -/
structure Group where
  flags : Flags
  level : Level
  /-- Whether the place of what the group passes is kept. -/
  keeps : Bool

structure Draft where
  flags : Flags
  level : Level
  /-- The groups that are open, the innermost first. -/
  groups : List Group
  names : List Text

namespace Draft

def start : Draft := ⟨.start, .start, [], []⟩

def add (d : Draft) (i : Item) : Draft := { d with level := d.level.add i }

def enter (d : Draft) (flags : Flags) (keeps : Bool) : Draft :=
  { d with flags, level := .start, groups := ⟨d.flags, d.level, keeps⟩ :: d.groups }

def leave? (d : Draft) : Option Draft :=
  match d.groups with
  | [] => none
  | g :: groups =>
    let inner := d.level.value
    let p := if g.keeps then .kept inner.part else inner.part
    some { d with flags := g.flags, level := g.level.add (.pattern ⟨p, inner.depth + 1⟩), groups }

def isGroupName : Text → Bool
  | [] => false
  | c :: t =>
    (c = '_' || Text.isAlphabetic c) &&
      t.all fun c => c ∈ ['_', '.', '[', ']'] || Text.isAlphanumeric c

def named? (d : Draft) (t : Text) : Option (Draft × Text) :=
  let name := t.takeWhile (· ≠ '>')
  match t.dropWhile (· ≠ '>') with
  | '>' :: rest =>
    if isGroupName name && name ∉ d.names then
      some ({ d with names := name :: d.names }.enter d.flags true, rest)
    else none
  | _ => none

/-- Sets flags, or opens a group that has flags of its own. -/
def flagged? (d : Draft) (t : Text) : Option (Draft × Text) := do
  let isEnd (c : Char) : Bool := c = ':' || c = ')'
  let word := t.takeWhile (!isEnd ·)
  let flags ← d.flags.change? word
  match t.dropWhile (!isEnd ·) with
  | ':' :: rest => some (d.enter flags false, rest)
  | ')' :: rest => if word.isEmpty then none else some ({ d with flags }.add .flags, rest)
  | _ => none

/-- Takes what begins with a parenthesis. Looking around is not possible. -/
def group? (d : Draft) (t : Text) : Option (Draft × Text) :=
  match d.flags.skip t with
  | '?' :: '=' :: _ | '?' :: '!' :: _ | '?' :: '<' :: '=' :: _ | '?' :: '<' :: '!' :: _ => none
  | '?' :: 'P' :: '<' :: t | '?' :: '<' :: t => d.named? t
  | '?' :: t => d.flagged? t
  | t => some (d.enter d.flags true, t)

def count? (f : Flags) (t : Text) : Option (Nat × Text) :=
  let (digits, t) := f.span Char.isDigit (t.dropWhile Text.isWhiteSpace)
  let n := digits.foldl (fun n d => 10 * n + (d.toNat - '0'.toNat)) 0
  if digits.isEmpty || countLimit ≤ n then none
  else some (n, f.skip (t.dropWhile Text.isWhiteSpace))

def counts? (f : Flags) (t : Text) : Option ((Nat × Option Nat) × Text) := do
  match ← count? f (f.skip t) with
  | (n, '\x7D' :: t) => some ((n, some n), t)
  | (n, ',' :: t) =>
    match f.skip t with
    | '\x7D' :: t => some ((n, none), t)
    | t =>
      match ← count? f t with
      | (m, '\x7D' :: t) => if n ≤ m then some ((n, some m), t) else none
      | _ => none
  | _ => none

/-- The text behind a question mark that says which repetitions are tried first. -/
def dropLazy : Text → Text
  | '?' :: t => t
  | t => t

def repeat? (d : Draft) (least : Nat) (most : Option Nat) : Option Draft :=
  (d.level.repeat? least most).map fun level => { d with level }

def step? (d : Draft) : Text → Option (Draft × Text)
  | [] => none
  | c :: t =>
    if c = '(' then d.group? t
    else if c = ')' then d.leave?.map fun d => (d, t)
    else if c = '|' then some ({ d with level := d.level.next }, t)
    else if c = '[' then
      (Brackets.read? d.flags t).map fun r => (d.add (.pattern ⟨.char r.1.part, r.1.depth⟩), r.2)
    else if c = '?' then (d.repeat? 0 (some 1)).map fun d => (d, dropLazy t)
    else if c = '*' then (d.repeat? 0 none).map fun d => (d, dropLazy t)
    else if c = '+' then (d.repeat? 1 none).map fun d => (d, dropLazy t)
    else if c = '\x7B' then do
      let (n, t) ← counts? d.flags t
      (d.repeat? n.1 n.2).map fun r => (r, dropLazy (d.flags.skip t))
    else do
      let (a, t) ← Atom.read? d.flags (c :: t)
      let p ← a.pattern? d.flags
      some (d.add (.pattern ⟨p, 0⟩), t)

/-- Takes all that is left. The number bounds how many steps that may take. -/
def steps? : Nat → Draft → Text → Option Draft
  | 0, _, _ => none
  | fuel + 1, d, t =>
    match d.flags.skip t with
    | [] => some d
    | c :: t =>
      match d.step? (c :: t) with
      | some (d, t) => steps? fuel d t
      | none => none

def finish? (d : Draft) : Option (Nested Pattern) :=
  if d.groups.isEmpty then some d.level.value else none

end Draft

/-- The pattern that a text writes, whether it can be searched for or not. -/
def parse? (t : Text) : Option Pattern :=
  match (Draft.steps? (t.length + 1) .start t).bind Draft.finish? with
  | some p => if p.depth ≤ depthLimit then some p.part else none
  | none => none

def read (t : Text) : Except PatternError Pattern :=
  match parse? t with
  | none => .error (.malformed t)
  | some p =>
    if sizeLimit < p.size + frameSize then .error .tooLarge
    else if p.asksAnyWord then .error .unsearchable
    else .ok p

end Pattern

def PatternError.message : PatternError → Text
  | .malformed written =>
    "regex parse error:\n    ".toList ++ written ++ "\nerror: this is no pattern".toList
  | .tooLarge =>
    "Compiled regex exceeds size limit of ".toList ++ Text.ofNat Pattern.sizeLimit ++
      " bytes.".toList
  | .unsearchable => "error building NFA".toList

end Stanza
