import Stanza.Toml.Quotes
import Stanza.Toml.Scalar
import Stanza.Toml.Tree

/-! Reading a document: first its statements, then the tables that they build. A reader of a part
answers what it found and the text behind it, or nothing if the text has no such part. -/

namespace Stanza.Toml

def isKeyChar (c : Char) : Bool := c.isAlphanum || c = '_' || c = '-'

def key? : Text → Option (Text × Text)
  | '"' :: t => basic? t
  | '\'' :: t => literal? t
  | t =>
    let bare := t.takeWhile isKeyChar
    if bare.isEmpty then none else some (bare, t.dropWhile isKeyChar)

/-- The keys that follow a key, each after a dot. The number bounds how many there are. -/
def moreKeys? : Nat → Text → Option (List Text × Text)
  | 0, t => some ([], t)
  | n + 1, t =>
    match dropSpaces t with
    | '.' :: rest =>
      match key? (dropSpaces rest) with
      | some (k, rest) => (moreKeys? n rest).map fun r => (k :: r.1, r.2)
      | none => none
    | _ => some ([], t)

/-- A dotted key: the path to its table, and its last part. -/
structure Key where
  path : List Text
  last : Text
  deriving DecidableEq

def Key.ofParts (first : Text) (others : List Text) : Key :=
  ⟨(first :: others).dropLast, (first :: others).getLast (List.cons_ne_nil _ _)⟩

/-- A key has at most so many parts, and arrays and inline tables hold one another to this
depth. -/
def maxDepth : Nat := 80

def dottedKey? (t : Text) : Option (Key × Text) :=
  match key? (dropSpaces t) with
  | some (k, rest) =>
    match moreKeys? rest.length rest with
    | some (others, rest) =>
      if others.length < maxDepth then some (.ofParts k others, dropSpaces rest) else none
    | none => none
  | none => none

def dropComment (t : Text) : Text := t.dropWhile fun c => !isControl c

theorem length_dropComment_le (t : Text) : (dropComment t).length ≤ t.length :=
  (List.dropWhile_suffix _).length_le

theorem length_lt_of_comment {t rest after : Text} (blank : dropBlankLines t = '#' :: rest)
    (ending : newline? (dropComment rest) = some after) : after.length < t.length := by
  have fewer := length_dropBlankLines_le t
  rw [blank, List.length_cons] at fewer
  have := length_newline?_lt ending
  have := length_dropComment_le rest
  omega

def dropFiller (t : Text) : Text :=
  match blank : dropBlankLines t with
  | '#' :: rest =>
    match ending : newline? (dropComment rest) with
    | some after =>
      have := length_lt_of_comment blank ending
      dropFiller after
    | none => dropComment rest
  | t => t
termination_by t.length

mutual

def value? : Nat → Nat → Text → Option (Value × Text)
  | 0, _, _ => none
  | fuel + 1, depth, t =>
    match t, depth with
    | '"' :: _, _ => (string? t).map fun r => (.string r.1, r.2)
    | '\'' :: _, _ => (string? t).map fun r => (.string r.1, r.2)
    | '[' :: _, 0 => none
    | '[' :: t, depth + 1 => (items? fuel depth t).map fun r => (.array r.1, r.2)
    | '{' :: _, 0 => none
    | '{' :: t, depth + 1 => (fields? fuel depth [] t).map fun r => (.table (Tree.entries r.1), r.2)
    | t, _ => Scalar.scalar? t

def items? : Nat → Nat → Text → Option (List Value × Text)
  | 0, _, _ => none
  | fuel + 1, depth, t =>
    match dropFiller t with
    | ']' :: rest => some ([], rest)
    | t =>
      match value? fuel depth t with
      | none => none
      | some (v, t) =>
        match dropFiller t with
        | ',' :: t => (items? fuel depth t).map fun r => (v :: r.1, r.2)
        | ']' :: t => some ([v], t)
        | _ => none

/-- An inline table with the entries that are still to come. Lines may end anywhere in it but
within a key. -/
def fields? : Nat → Nat → Children → Text → Option (Children × Text)
  | 0, _, _, _ => none
  | fuel + 1, depth, children, t =>
    match dropFiller t with
    | '}' :: rest => some (children, rest)
    | t =>
      match dottedKey? t with
      | none => none
      | some (k, t) =>
        match dropFiller t with
        | '=' :: t =>
          match value? fuel depth (dropFiller t) with
          | none => none
          | some (v, t) =>
            match Tree.addLeaf k.path k.last v children, dropFiller t with
            | some children, ',' :: t => fields? fuel depth children t
            | some children, '}' :: t => some (children, t)
            | _, _ => none
        | _ => none

end

inductive Statement where
  | entry (key : Key) (value : Value)
  | header (key : Key)
  | element (key : Key)

/-- What follows the end of a line: blanks, perhaps a comment, and a line ending unless the
document ends there. -/
def lineEnd? (t : Text) : Option Text :=
  let t := dropSpaces t
  let t :=
    match t with
    | '#' :: rest => dropComment rest
    | t => t
  if t.isEmpty then some [] else newline? t

def statement? : Text → Option (Statement × Text)
  | '[' :: '[' :: t =>
    match dottedKey? t with
    | some (k, ']' :: ']' :: rest) => some (.element k, rest)
    | _ => none
  | '[' :: t =>
    match dottedKey? t with
    | some (k, ']' :: rest) => some (.header k, rest)
    | _ => none
  | t =>
    match dottedKey? t with
    | some (k, '=' :: rest) =>
      (value? (2 * rest.length + 2) maxDepth (dropSpaces rest)).map fun r => (.entry k r.1, r.2)
    | _ => none

def statements? : Nat → Text → Option (List Statement)
  | 0, t => if t.isEmpty then some [] else none
  | n + 1, t =>
    match dropSpaces t with
    | [] => some []
    | c :: rest =>
      if c ∈ ['#', '\n', '\r'] then
        match lineEnd? (c :: rest) with
        | some t => statements? n t
        | none => none
      else
        match statement? (c :: rest) with
        | some (s, t) =>
          match lineEnd? t with
          | some t => (statements? n t).map (s :: ·)
          | none => none
        | none => none

/-- The tables that statements build, with the table that entries go to at present. -/
structure Building where
  current : List Text
  root : Children

def Building.add (b : Building) : Statement → Option Building
  | .entry k v =>
    (Tree.within .implied (fun _ table => Tree.addLeaf k.path k.last v table)
      b.current .header b.root).map fun root => ⟨b.current, root⟩
  | .header k => (Tree.openTable k.path k.last b.root).map fun root => ⟨k.path ++ [k.last], root⟩
  | .element k => (Tree.openElement k.path k.last b.root).map fun root => ⟨k.path ++ [k.last], root⟩

def dropMark : Text → Text
  | '\uFEFF' :: t => t
  | t => t

def read? (t : Text) : Option Entries :=
  match statements? (t.length + 1) (dropMark t) with
  | some statements =>
    (statements.foldlM Building.add ⟨[], []⟩).map fun b => Tree.entries b.root
  | none => none

end Stanza.Toml
