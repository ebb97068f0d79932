import Stanza.Pattern.Escape

/-! Sets of characters as a pattern writes them, in brackets: characters, ranges, families, other
sets in brackets of their own, and operations between such lists. -/

namespace Stanza.Pattern

/-- A part that has been read, and how deep parts lie in one another in it. -/
structure Nested (α : Type) where
  part : α
  depth : Nat
  deriving DecidableEq

/-- How deep something lies that holds these. Where there is but one nothing holds it. -/
def depthOver : List Nat → Nat
  | [] => 0
  | [n] => n
  | ns => ns.foldl max 0 + 1

namespace Brackets

inductive Operation where
  | inter
  | diff
  | symmDiff
  deriving DecidableEq

def Operation.apply : Operation → CharSet → CharSet → CharSet
  | inter => .inter
  | diff => .diff
  | symmDiff => .symmDiff

def operation? : Text → Option (Operation × Text)
  | '&' :: '&' :: t => some (.inter, t)
  | '-' :: '-' :: t => some (.diff, t)
  | '~' :: '~' :: t => some (.symmDiff, t)
  | _ => none

structure Draft where
  negated : Bool
  /-- What comes before the last operation. -/
  left : Option (Nested CharSet × Operation)
  /-- What comes behind it so far, the last first. -/
  items : List (Nested CharSet)

namespace Draft

def add (d : Draft) (item : Nested CharSet) : Draft := { d with items := item :: d.items }

/-- The set that is written so far. Operations go from left to right. -/
def value (d : Draft) : Nested CharSet :=
  let right : Nested CharSet :=
    ⟨.ofList (d.items.map Nested.part), depthOver (d.items.map Nested.depth)⟩
  match d.left with
  | none => right
  | some (left, o) => ⟨o.apply left.part right.part, max left.depth right.depth + 1⟩

def operate (d : Draft) (o : Operation) : Draft := ⟨d.negated, some (d.value, o), []⟩

def close? (f : Flags) (d : Draft) : Option (Nested CharSet) :=
  (f.negate? d.negated d.value.part).map fun s => ⟨s, d.value.depth + 1⟩

end Draft

def leaf (s : CharSet) : Nested CharSet := ⟨s, 0⟩

/-- The dashes at the beginning of brackets, which stand for themselves. -/
def dashes? (f : Flags) (d : Draft) (t : Text) : Option (Draft × Text) := do
  let (written, t) := f.span (· = '-') t
  let dash ← if written.isEmpty then some .empty else f.range? '-' '-'
  let d := written.foldl (fun d _ => d.add (leaf dash)) d
  some (d, t)

/-- The beginning of brackets behind the first of them. A closing bracket that comes at once stands
for itself. -/
def opening? (f : Flags) (t : Text) : Option (Draft × Text) := do
  let (negated, t) :=
    match f.skip t with
    | '^' :: t => (true, f.skip t)
    | t => (false, t)
  let (d, t) ← dashes? f ⟨negated, none, []⟩ t
  match d.items, t with
  | [], ']' :: t => some (d.add (leaf (← f.range? ']' ']')), f.skip t)
  | _, t => some (d, t)

/-- A named set at the beginning of a text: its name between colons, in brackets of its own. -/
def named? : Text → Option (Text × Bool × Text)
  | '[' :: ':' :: t =>
    let (negated, t) :=
      match t with
      | '^' :: t => (true, t)
      | t => (false, t)
    match t.dropWhile (· ≠ ':') with
    | ':' :: ']' :: rest =>
      let name := t.takeWhile (· ≠ ':')
      if (CharSet.named? name).isSome then some (name, negated, rest) else none
    | _ => none
  | _ => none

def atom? (f : Flags) : Text → Option (Atom × Text)
  | [] => none
  | '\\' :: t => Atom.escaped? f t
  | c :: t => some (.literal c false, t)

/-- A character, a range or a family. A dash stands for itself before the closing bracket and before
another dash. -/
def item? (f : Flags) (t : Text) : Option (Nested CharSet × Text) := do
  let (a, t) ← atom? f t
  match f.skip t with
  | [] => none
  | '-' :: t =>
    if f.peek? t ∈ [some ']', some '-'] then some (leaf (← a.set? f), '-' :: t)
    else
      match a, ← atom? f (f.skip t) with
      | .literal first _, (.literal last _, t) =>
        if first ≤ last then some (leaf (← f.range? first last), t) else none
      | _, _ => none
  | t => some (leaf (← a.set? f), t)

/-- What is left of brackets of which something has been read. The number bounds how many steps that
may take. -/
def rest? (f : Flags) : Nat → Draft → Text → Option (Nested CharSet × Text)
  | 0, _, _ => none
  | fuel + 1, d, t =>
    let t := f.skip t
    match t with
    | [] => none
    | ']' :: t => (d.close? f).map fun s => (s, t)
    | '[' :: inside =>
      match named? t with
      | some (name, negated, t) =>
        match f.named? name negated with
        | some s => rest? f fuel (d.add (leaf s)) t
        | none => none
      | none =>
        match opening? f inside with
        | some (inner, t) =>
          match rest? f fuel inner t with
          | some (s, t) => rest? f fuel (d.add s) t
          | none => none
        | none => none
    | t =>
      match operation? t with
      | some (o, t) => rest? f fuel (d.operate o) t
      | none =>
        match item? f t with
        | some (s, t) => rest? f fuel (d.add s) t
        | none => none

def read? (f : Flags) (t : Text) : Option (Nested CharSet × Text) := do
  let (d, t) ← opening? f t
  rest? f (t.length + 1) d t

end Brackets

end Stanza.Pattern
