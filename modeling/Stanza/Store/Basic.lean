import Stanza.Text.Utf8

/-! A tree of files, directories and devices. It is kept flat: each place in the tree has an entry or
none. Removing is no operation, so a place once taken stays taken. Names are texts, and a name that
is no text has no place in the tree. There are no links and no permissions: a system that has them
refuses a path for causes that the tree does not know. -/

namespace Stanza

/-- A place in the tree: the names that lead to it, the innermost first. The root is the empty
list. -/
abbrev Location := List Text

/-- Bytes are compared by this instance, whichever others are in scope. -/
instance decidableEqBytes : DecidableEq ByteArray := ByteArray.instDecidableEq

inductive Entry where
  | file (bytes : ByteArray)
  | directory
  /-- Whatever is written there is gone, and nothing is read from it. -/
  | device
  deriving DecidableEq

inductive FileError where
  | notFound
  | exists
  | notDirectory
  | isDirectory
  | nameTooLong
  /-- The path holds the character that ends names. -/
  | nulInName
  /-- The bytes of the file are no text. -/
  | invalidText
  /-- Any other cause, in the words of the system. -/
  | other (description : Text)
  deriving DecidableEq

def FileError.message : FileError → Text
  | .notFound => "No such file or directory (os error 2)".toList
  | .exists => "File exists (os error 17)".toList
  | .notDirectory => "Not a directory (os error 20)".toList
  | .isDirectory => "Is a directory (os error 21)".toList
  | .nameTooLong => "File name too long (os error 36)".toList
  | .nulInName => "file name contained an unexpected NUL byte".toList
  | .invalidText => "stream did not contain valid UTF-8".toList
  | .other description => description

structure Store where
  working : Location
  entries : List (Location × Entry)
  deriving DecidableEq

namespace Store

def directoriesTo : Location → List (Location × Entry)
  | [] => []
  | name :: outer => (name :: outer, .directory) :: directoriesTo outer

/-- A tree with nothing in it but the working directory and the device. -/
def fresh (working : Location) : Store :=
  ⟨working,
    directoriesTo working ++
      (["null".toList, "dev".toList], .device) :: directoriesTo ["dev".toList]⟩

def get? (s : Store) : Location → Option Entry
  | [] => some .directory
  | l => s.entries.lookup l

def put (s : Store) (l : Location) (e : Entry) : Store := { s with entries := (l, e) :: s.entries }

@[simp] theorem working_put (s : Store) (l : Location) (e : Entry) :
    (s.put l e).working = s.working := rfl

theorem get?_put (s : Store) (l m : Location) (e : Entry) (h : l ≠ []) :
    (s.put l e).get? m = if m = l then some e else s.get? m := by
  cases m with
  | nil => simp [get?, h.symm]
  | cons n m =>
    simp only [get?, put, List.lookup_cons]
    by_cases hm : n :: m = l
    · simp [hm]
    · rw [if_neg hm, show (n :: m == l) = false from by simpa using hm]

def isDirectory (s : Store) (l : Location) : Bool := s.get? l = some .directory

end Store

end Stanza
