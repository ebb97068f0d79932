import Stanza.Store.Path

/-! Reading and writing files by path. A file that is opened for writing is emptied first, so what it
held is lost even if not all of the new bytes are taken. What the system makes of a write is not
decided by the tree: the disk may be full. A directory is made wherever the tree lets it. An operation
that fails before a file is open may have made directories, but it changes no file. -/

namespace Stanza

/-- What the system makes of a write by a path that can be written to. -/
inductive Writing where
  | whole
  /-- Nothing is opened. -/
  | refused (cause : FileError)
  /-- No more than these many bytes are taken. -/
  | cut (taken : Nat) (cause : FileError)
  deriving DecidableEq

/-- How a write ends, and what it leaves in the file that it opens. -/
def Writing.effect (bytes : ByteArray) : Writing → Except FileError Unit × Option ByteArray
  | whole => (.ok (), some bytes)
  | refused cause => (.error cause, none)
  | cut taken cause =>
    if bytes.size ≤ taken then (.ok (), some bytes)
    else (.error cause, some (bytes.extract 0 taken))

namespace Store

def readBytes (s : Store) (path : Text) : Except FileError ByteArray := do
  match s.get? (← s.locate path) with
  | some (.file bytes) => return bytes
  | some .directory => throw .isDirectory
  | some .device => return .empty
  | none => throw .notFound

def readText (s : Store) (path : Text) : Except FileError Text := do
  match Text.ofBytes? (← s.readBytes path) with
  | some t => return t
  | none => throw .invalidText

/-- The place that a path opens for writing. A file is made there if there is nothing. -/
def opening (s : Store) (path : Text) : Except FileError Location := do
  match ← s.vacancy path with
  | .unnamed => throw .isDirectory
  | .named directory name =>
    if endsWithSlash path then throw .isDirectory
    if nameLimit < name.byteLength then throw .nameTooLong
    if s.isDirectory (name :: directory) then throw .isDirectory
    return name :: directory

def fill (s : Store) (l : Location) (bytes : ByteArray) : Store :=
  if s.get? l = some .device then s else s.put l (.file bytes)

def writeBytes (s : Store) (path : Text) (bytes : ByteArray) (w : Writing := .whole) :
    Except FileError Unit × Store :=
  match s.opening path with
  | .error e => (.error e, s)
  | .ok l =>
    match w.effect bytes with
    | (result, some left) => (result, s.fill l left)
    | (result, none) => (result, s)

def makeDirectory (s : Store) (path : Text) : Except FileError Store := do
  match ← s.vacancy path with
  | .unnamed => throw .exists
  | .named directory name =>
    if nameLimit < name.byteLength then throw .nameTooLong
    if (s.get? (name :: directory)).isSome then throw .exists
    return s.put (name :: directory) .directory

def isDirectoryPath (s : Store) (path : Text) : Bool :=
  match s.locate path with
  | .ok l => s.isDirectory l
  | .error _ => false

def ensureDirectory (s : Store) (path : Text) : Except FileError Store :=
  match s.makeDirectory path with
  | .error .exists => if s.isDirectoryPath path then .ok s else .error .exists
  | result => result

/-- Makes the directory of the first path, and those of the others if it cannot be made without
them. Each path leads to the directory around that of the path before it. -/
def ensureDirectories : List Text → Store → Except FileError Unit × Store
  | [], s => (.ok (), s)
  | path :: around, s =>
    match s.ensureDirectory path with
    | .ok s => (.ok (), s)
    | .error .notFound =>
      match ensureDirectories around s with
      | (.ok (), s) =>
        match s.ensureDirectory path with
        | .ok s => (.ok (), s)
        | .error e => (.error e, s)
      | failed => failed
    | .error e => (.error e, s)

def pathsAround (path : Text) : List Text := (beginnings path).reverse.tail

def makeDirectories (s : Store) (path : Text) : Except FileError Unit × Store :=
  if (beginnings path).isEmpty then (.ok (), s)
  else ensureDirectories (path :: pathsAround path) s

def makeParents (s : Store) (path : Text) : Except FileError Unit × Store :=
  ensureDirectories (pathsAround path) s

/-- Writes bytes to a file, after making the directories around it that are missing. -/
def save (s : Store) (path : Text) (bytes : ByteArray) (w : Writing := .whole) :
    Except FileError Unit × Store :=
  match s.makeParents path with
  | (.ok (), s) => s.writeBytes path bytes w
  | failed => failed

end Store

end Stanza
