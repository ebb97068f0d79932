import Stanza.Store.Files

/-! Looking for a text at a path. It matters whether nothing is there or what is there has no
text: some files may be missing. -/

namespace Stanza

inductive Reading where
  /-- There is nothing at the path. -/
  | missing (cause : FileError)
  /-- What is there has no text. -/
  | unreadable (cause : FileError)
  | text (t : Text)
  deriving DecidableEq

namespace Reading

def ofBytes (bytes : ByteArray) : Reading :=
  match Text.ofBytes? bytes with
  | some t => .text t
  | none => .unreadable .invalidText

def text? : Reading → Except FileError Text
  | missing cause => .error cause
  | unreadable cause => .error cause
  | text t => .ok t

end Reading

def Store.reading (s : Store) (path : Text) : Reading :=
  match s.locate path with
  | .error e => .missing e
  | .ok _ =>
    match s.readBytes path with
    | .ok bytes => .ofBytes bytes
    | .error e => .unreadable e

end Stanza
