import Stanza.Node.Basic
import Stanza.Text.Lines
import Stanza.Text.Quoted
import Stanza.Token.Basic

/-! Dumps for reading by eye: a line for each token or node, all texts in quoted form. -/

namespace Stanza

def Token.dump (t : Token) : Text := t.kind.name ++ ' ' :: t.text.quote

def Node.dump : Node → Text
  | .text content => "Text ".toList ++ content.quote
  | .literal content => "LiteralEmphasis ".toList ++ content.quote
  | .definition category name =>
    "DefinitionMarker ".toList ++ category ++ ' ' :: name.quote
  | .reference r =>
    "CrossReference ".toList ++ r.domain ++ ':' :: r.role ++ ' ' :: r.target.quote ++
      ' ' :: r.display.quote ++ " @ ".toList ++ r.document.quote

def dumpTokens (ts : List Token) : Text := Text.joinLines (ts.map Token.dump)

def dumpNodes (ns : List Node) : Text := Text.joinLines (ns.map Node.dump)

end Stanza
