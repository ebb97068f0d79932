import Stanza.Store.Basic

/-! Finding the place that a path denotes. A path is followed name by name from the root or from
the working directory; every name but the last has to be a directory that exists. -/

namespace Stanza.Store

def names (path : Text) : List Text := (Text.splitAt '/' path).filter fun n => !n.isEmpty

def isAbsolute (path : Text) : Bool := path.head? = some '/'

/-- A path that can denote nothing but a directory. -/
def endsWithSlash (path : Text) : Bool := path.getLast? = some '/'

/-- The size in bytes that a path may not reach. -/
def pathLimit : Nat := 4096

def nameLimit : Nat := 255

def malformed? (path : Text) : Option FileError :=
  if '\x00' ∈ path then some .nulInName
  else if path.isEmpty then some .notFound
  else if pathLimit ≤ path.byteLength then some .nameTooLong
  else none

/-- One step from a directory by a name. One dot stays, two dots lead outwards. -/
def enter (s : Store) (l : Location) (name : Text) : Except FileError Location :=
  if !s.isDirectory l then .error .notDirectory
  else if name = ['.'] then .ok l
  else if name = ['.', '.'] then .ok l.tail
  else if nameLimit < name.byteLength then .error .nameTooLong
  else if (s.get? (name :: l)).isNone then .error .notFound
  else .ok (name :: l)

def start (s : Store) (path : Text) : Location := if isAbsolute path then [] else s.working

def locate (s : Store) (path : Text) : Except FileError Location := do
  if let some e := malformed? path then throw e
  let l ← (names path).foldlM s.enter (s.start path)
  if endsWithSlash path && !s.isDirectory l then throw .notDirectory
  return l

/-- The place of something that may be made: a name in a directory that exists. Nothing can be
made of a path without a last name, such as the root or one that ends in dots. -/
inductive Vacancy where
  | named (directory : Location) (name : Text)
  | unnamed
  deriving DecidableEq

/-- The place where a path would put something. The name may be one that is too long. -/
def vacancy (s : Store) (path : Text) : Except FileError Vacancy := do
  if let some e := malformed? path then throw e
  let l ← (names path).dropLast.foldlM s.enter (s.start path)
  if !s.isDirectory l then throw .notDirectory
  match (names path).getLast? with
  | none => return .unnamed
  | some name =>
    if name = ['.'] ∨ name = ['.', '.'] then return .unnamed
    return .named l name

/-- The beginnings of a path that end with a piece between slashes, the shortest first, given the
pieces that are passed, the last first. Empty pieces count for nothing, nor does a dot that is not
the first piece of all. -/
def beginningsAfter (passed : List Text) : List Text → List Text
  | [] => []
  | piece :: pieces =>
    if piece.isEmpty || (piece = ['.'] && !passed.isEmpty) then
      beginningsAfter (piece :: passed) pieces
    else
      List.intercalate ['/'] (piece :: passed).reverse :: beginningsAfter (piece :: passed) pieces

def beginnings (path : Text) : List Text := beginningsAfter [] (Text.splitAt '/' path)

end Stanza.Store
