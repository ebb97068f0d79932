import Stanza.Text.Basic
import Stanza.Text.Extending
import Stanza.Text.Printable

/-! The quoted form of a text, for dumps and messages: on one line, between double quotes, with
every character that would not show written as an escape. -/

namespace Stanza.Text

def codeEscape (c : Char) : Text := ['\\', 'u', '{'] ++ Nat.toDigits 16 c.toNat ++ ['}']

def quoteChar (c : Char) : Text :=
  if c = '\x00' then ['\\', '0']
  else if c = '\t' then ['\\', 't']
  else if c = '\r' then ['\\', 'r']
  else if c = '\n' then ['\\', 'n']
  else if c = '"' then ['\\', '"']
  else if c = '\\' then ['\\', '\\']
  else if isExtending c || !isPrintable c then codeEscape c
  else [c]

def quote (t : Text) : Text := '"' :: t.flatMap quoteChar ++ ['"']

end Stanza.Text
