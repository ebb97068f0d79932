import Stanza.Text.Basic

/-! HTML text and elements. Text and attribute values are escaped, so that nothing in them can
open a tag or close an attribute. -/

namespace Stanza.Markup

def textChar (c : Char) : Text :=
  if c = '&' then "&amp;".toList
  else if c = '<' then "&lt;".toList
  else if c = '>' then "&gt;".toList
  else [c]

def valueChar (c : Char) : Text :=
  if c = '"' then "&quot;".toList else textChar c

def escapeText (t : Text) : Text := t.flatMap textChar

def escapeValue (t : Text) : Text := t.flatMap valueChar

/-- An attribute with a value that is already in its written form. -/
def attr (name value : Text) : Text := ' ' :: name ++ ['=', '"'] ++ value ++ ['"']

def element (tag attributes content : Text) : Text :=
  '<' :: tag ++ attributes ++ '>' :: content ++ ['<', '/'] ++ tag ++ ['>']

end Stanza.Markup
