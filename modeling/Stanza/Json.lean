import Stanza.Text.Basic

/-! JSON values without numbers, and their indented form: two spaces for each level, a line for
each item and each field. -/

namespace Stanza

/-- A JSON value; the fields of an object are in the order they are written. -/
inductive Json where
  | bool (b : Bool)
  | string (t : Text)
  | array (items : List Json)
  | object (fields : List (Text × Json))

namespace Json

def hexPair (n : Nat) : Text := [Nat.digitChar (n / 16), Nat.digitChar (n % 16)]

def escapeChar (c : Char) : Text :=
  if c = '"' then ['\\', '"']
  else if c = '\\' then ['\\', '\\']
  else if c = '\x08' then ['\\', 'b']
  else if c = '\x0c' then ['\\', 'f']
  else if c = '\n' then ['\\', 'n']
  else if c = '\r' then ['\\', 'r']
  else if c = '\t' then ['\\', 't']
  else if c.toNat < 0x20 then ['\\', 'u', '0', '0'] ++ hexPair c.toNat
  else [c]

def quoteString (t : Text) : Text := '"' :: t.flatMap escapeChar ++ ['"']

def newline (level : Nat) : Text := '\n' :: List.replicate (2 * level) ' '

mutual

/-- The indented form of a value that begins at a level. -/
def indented (level : Nat) : Json → Text
  | bool true => "true".toList
  | bool false => "false".toList
  | string t => quoteString t
  | array [] => ['[', ']']
  | array (item :: items) =>
    '[' :: newline (level + 1) ++ indented (level + 1) item ++ indentedItems (level + 1) items ++
      newline level ++ [']']
  | object [] => ['{', '}']
  | object (field :: fields) =>
    '{' :: newline (level + 1) ++ indentedField (level + 1) field ++
      indentedFields (level + 1) fields ++ newline level ++ ['}']

def indentedItems (level : Nat) : List Json → Text
  | [] => []
  | item :: items => ',' :: newline level ++ indented level item ++ indentedItems level items

def indentedField (level : Nat) : Text × Json → Text
  | (key, value) => quoteString key ++ [':', ' '] ++ indented level value

def indentedFields (level : Nat) : List (Text × Json) → Text
  | [] => []
  | field :: fields =>
    ',' :: newline level ++ indentedField level field ++ indentedFields level fields

end

def pretty (j : Json) : Text := j.indented 0

end Json

end Stanza
