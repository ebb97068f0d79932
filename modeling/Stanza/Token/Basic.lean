import Stanza.Text.Basic

/-! The tokens of a stanza. A literal is a span of grammar text that stands for itself, written
between two delimiters; a definition marker follows the name that a rule defines. -/

namespace Stanza

def delimiter : Text := ['$', '$']

def definitionMarker : Text := [':', ':', '=']

inductive Kind where
  | literal
  | definition
  | identifier
  | whitespace
  | other
  deriving DecidableEq

def Kind.name : Kind → Text
  | .literal => "Literal".toList
  | .definition => "Definition".toList
  | .identifier => "Identifier".toList
  | .whitespace => "Whitespace".toList
  | .other => "Other".toList

/-- A token. The text of a literal is what stands between its delimiters, that of any other
token is its source. -/
structure Token where
  kind : Kind
  text : Text
  deriving DecidableEq

/-- A token and the bytes of the source it was read from, the one at `stop` not included. -/
structure Spanned where
  token : Token
  start : Nat
  stop : Nat
  deriving DecidableEq

end Stanza
