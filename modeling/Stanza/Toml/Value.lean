import Stanza.Text.Basic

/-! The values of a TOML document. Numbers with a fraction and dates keep their spelling, since
nothing here reckons with them. -/

namespace Stanza.Toml

inductive Value where
  | string (t : Text)
  | integer (n : Int)
  | float (spelling : Text)
  | boolean (b : Bool)
  /-- A date, a time, or both. -/
  | moment (spelling : Text)
  | array (items : List Value)
  | table (entries : List (Text × Value))

abbrev Entries := List (Text × Value)

/-- Control characters, which a document holds only as escapes. The tab is not one of them. -/
def isControl (c : Char) : Bool := (c.toNat < 0x20 && c != '\t') || c.toNat = 0x7F

end Stanza.Toml
