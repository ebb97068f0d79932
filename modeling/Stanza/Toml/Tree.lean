import Stanza.Toml.Value

/-! Tables under construction. A document builds its tables statement by statement, and what may
still be added to a table depends on how it came into being. -/

namespace Stanza.Toml

inductive Origin where
  /-- By a header of its own, or as an inline table. -/
  | header
  /-- By the header of a table inside it. -/
  | implied
  /-- By a dotted key. -/
  | dotted
  deriving DecidableEq

/-- A value, a table, or an array of tables with the latest first. -/
inductive Tree where
  | leaf (value : Value)
  | branch (origin : Origin) (children : List (Text × Tree))
  | series (tables : List (List (Text × Tree)))

abbrev Children := List (Text × Tree)

namespace Tree

def put (key : Text) (tree : Tree) : Children → Children
  | [] => [(key, tree)]
  | (k, t) :: children =>
    if k = key then (key, tree) :: children else (k, t) :: put key tree children

/-- Changes the table at the end of a path. Tables that are missing on the way come into being as
`fresh` says. Only a header's path may lead through a table that has a header. -/
def within (fresh : Origin) (change : Origin → Children → Option Children) :
    List Text → Origin → Children → Option Children
  | [], origin, children => change origin children
  | key :: path, _, children =>
    match children.lookup key with
    | none =>
      (within fresh change path fresh []).map fun t => put key (branch fresh t) children
    | some (branch origin inner) =>
      if fresh = .dotted ∧ origin = .header then none
      else (within fresh change path origin inner).map fun t => put key (branch origin t) children
    | some (series (latest :: earlier)) =>
      (within fresh change path .header latest).map fun t =>
        put key (series (t :: earlier)) children
    | some _ => none

/-- Adds a value under a key that is not there yet. After a dotted path the table must have come
into being by a dotted key as well. -/
def addLeaf (path : List Text) (key : Text) (value : Value) (children : Children) :
    Option Children :=
  within .dotted
    (fun origin inner =>
      if path ≠ [] ∧ origin ≠ .dotted then none
      else if (inner.lookup key).isSome then none
      else some (put key (leaf value) inner))
    path .header children

/-- Opens the table of a header: a new one, or one that exists only for the tables inside it. -/
def openTable (path : List Text) (key : Text) (children : Children) : Option Children :=
  within .implied
    (fun _ inner =>
      match inner.lookup key with
      | none => some (put key (branch .header []) inner)
      | some (branch .implied t) => some (put key (branch .header t) inner)
      | some _ => none)
    path .header children

def openElement (path : List Text) (key : Text) (children : Children) : Option Children :=
  within .implied
    (fun _ inner =>
      match inner.lookup key with
      | none => some (put key (series [[]]) inner)
      | some (series tables) => some (put key (series ([] :: tables)) inner)
      | some _ => none)
    path .header children

mutual

def value : Tree → Value
  | leaf v => v
  | branch _ children => .table (entries children)
  | series tables => .array (elements tables).reverse

def entries : Children → Entries
  | [] => []
  | child :: children => entry child :: entries children

def entry : Text × Tree → Text × Value
  | (key, tree) => (key, value tree)

/-- The tables of an array of tables, latest first. -/
def elements : List Children → List Value
  | [] => []
  | table :: tables => .table (entries table) :: elements tables

end

end Tree

end Stanza.Toml
