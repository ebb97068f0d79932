import Stanza.Toml.Value

/-! Writing strings. The form is the plainest one that holds the text without escapes; where none
does, basic strings with escapes are used, over many lines if the text has a line feed. -/

namespace Stanza.Toml

inductive Form where
  | basic
  | literal
  | multilineBasic
  | multilineLiteral
  deriving DecidableEq

def hasTriple (c : Char) : Text → Bool
  | d :: e :: f :: t => (d = c && e = c && f = c) || hasTriple c (e :: f :: t)
  | _ => false

def Form.ofText (t : Text) : Form :=
  let needsEscape := t.any fun c => isControl c && c != '\n'
  if needsEscape then (if '\n' ∈ t then .multilineBasic else .basic)
  else if !t.any fun c => c ∈ ['\\', '"', '\n'] then .basic
  else if !t.any fun c => c ∈ ['\'', '\n'] then .literal
  else if '\\' ∉ t ∧ !hasTriple '"' t then .multilineBasic
  else if !hasTriple '\'' t then .multilineLiteral
  else if '\n' ∈ t then .multilineBasic
  else .basic

def upperHexPair (n : Nat) : Text :=
  [(Nat.digitChar (n / 16)).toUpper, (Nat.digitChar (n % 16)).toUpper]

/-- What stands for a character other than the quote and the line feed in a basic string. -/
def basicChar (c : Char) : Text :=
  if c = '\\' then ['\\', '\\']
  else if c = '\t' then ['\\', 't']
  else if c = '\x08' then ['\\', 'b']
  else if c = '\x0c' then ['\\', 'f']
  else if c = '\r' then ['\\', 'r']
  else if isControl c then ['\\', 'u', '0', '0'] ++ upperHexPair c.toNat
  else [c]

def inlineChar (c : Char) : Text :=
  if c = '"' then ['\\', '"'] else if c = '\n' then ['\\', 'n'] else basicChar c

/-- A basic string over many lines without its delimiters, after `quotes` quotes in a row. Every
third quote is escaped, so that three in a row close the string. -/
def multilineBody (quotes : Nat) : Text → Text
  | [] => []
  | c :: t =>
    if c = '"' then
      if quotes = 2 then '\\' :: '"' :: multilineBody 0 t else '"' :: multilineBody (quotes + 1) t
    else if c = '\n' then '\n' :: multilineBody 0 t
    else basicChar c ++ multilineBody 0 t

/-- The line feed that a string with line feeds begins with, for readers drop the first. -/
def leadingNewline (t : Text) : Text := if '\n' ∈ t then ['\n'] else []

def Form.write (t : Text) : Form → Text
  | .basic => '"' :: t.flatMap inlineChar ++ ['"']
  | .literal => '\'' :: t ++ ['\'']
  | .multilineBasic => ['"', '"', '"'] ++ leadingNewline t ++ multilineBody 0 t ++ ['"', '"', '"']
  | .multilineLiteral => ['\'', '\'', '\''] ++ leadingNewline t ++ t ++ ['\'', '\'', '\'']

def writeString (t : Text) : Text := (Form.ofText t).write t

end Stanza.Toml
