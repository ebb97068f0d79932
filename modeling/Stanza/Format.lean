import Stanza.Text.Quoted

/-! The formats that results are printed in. -/

namespace Stanza

inductive Format where
  /-- One line for each node or token. -/
  | text
  | json
  | html
  deriving DecidableEq

structure UnknownFormat where
  name : Text
  deriving DecidableEq

def UnknownFormat.message (e : UnknownFormat) : Text :=
  "Unknown output format ".toList ++ e.name.quote ++ " (expected text, json or html)".toList

namespace Format

def name : Format → Text
  | text => "text".toList
  | json => "json".toList
  | html => "html".toList

/-- The format with exactly this name. -/
def named? (t : Text) : Option Format :=
  [text, json, html].find? fun f => f.name = t

/-- The format with this name in capitals, small letters or both. -/
def ofText (t : Text) : Except UnknownFormat Format :=
  match named? t.lowercase with
  | some f => .ok f
  | none => .error ⟨t⟩

end Format

end Stanza
