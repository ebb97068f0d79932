import Stanza.Text.Basic

/-! Sets of characters, described by how they are made up of ranges. -/

namespace Stanza

inductive CharSet where
  | empty
  /-- The characters from the first to the last. -/
  | range (first last : Char)
  | union (a b : CharSet)
  | inter (a b : CharSet)
  | diff (a b : CharSet)
  /-- What is in one of the two but not in both. -/
  | symmDiff (a b : CharSet)
  | complement (a : CharSet)
  /-- The characters of which one case is in the set. Only letters of ASCII have two. -/
  | eitherCase (a : CharSet)
  deriving DecidableEq

namespace CharSet

def swapCase (c : Char) : Char := if c.isUpper then c.toLower else c.toUpper

def contains : CharSet → Char → Bool
  | empty, _ => false
  | range first last, c => first ≤ c && c ≤ last
  | union a b, c => a.contains c || b.contains c
  | inter a b, c => a.contains c && b.contains c
  | diff a b, c => a.contains c && !b.contains c
  | symmDiff a b, c => a.contains c != b.contains c
  | complement a, c => !a.contains c
  | eitherCase a, c => a.contains c || a.contains (swapCase c)

def singleton (c : Char) : CharSet := range c c

def ofList : List CharSet → CharSet
  | [] => empty
  | [a] => a
  | a :: as => union a (ofList as)

def ofRanges (ranges : List (Char × Char)) : CharSet := ofList (ranges.map fun r => range r.1 r.2)

def named : List (Text × List (Char × Char)) :=
  [("alnum".toList, [('0', '9'), ('A', 'Z'), ('a', 'z')]),
   ("alpha".toList, [('A', 'Z'), ('a', 'z')]),
   ("ascii".toList, [('\x00', '\x7F')]),
   ("blank".toList, [('\t', '\t'), (' ', ' ')]),
   ("cntrl".toList, [('\x00', '\x1F'), ('\x7F', '\x7F')]),
   ("digit".toList, [('0', '9')]),
   ("graph".toList, [('!', '~')]),
   ("lower".toList, [('a', 'z')]),
   ("print".toList, [(' ', '~')]),
   ("punct".toList, [('!', '/'), (':', '@'), ('[', '\x60'), ('\x7B', '~')]),
   ("space".toList, [('\t', '\r'), (' ', ' ')]),
   ("upper".toList, [('A', 'Z')]),
   ("word".toList, [('0', '9'), ('A', 'Z'), ('_', '_'), ('a', 'z')]),
   ("xdigit".toList, [('0', '9'), ('A', 'F'), ('a', 'f')])]

def named? (name : Text) : Option CharSet := (named.lookup name).map ofRanges

def word : CharSet := ofRanges [('0', '9'), ('A', 'Z'), ('_', '_'), ('a', 'z')]

/-- Whether the set is made up in such a way that it can hold characters of ASCII only. -/
def isAscii : CharSet → Bool
  | empty => true
  | range _ last => last ≤ '\x7F'
  | union a b | symmDiff a b => a.isAscii && b.isAscii
  | inter a b => a.isAscii || b.isAscii
  | diff a _ | eitherCase a => a.isAscii
  | complement _ => false

/-- How many ranges it takes to write the set down, and how many bytes of UTF-8 these take; a
range counts once for each length of UTF-8. The complement of ASCII takes eight ranges of 26
bytes. -/
def forms : CharSet → Nat × Nat
  | empty => (0, 0)
  | range first last =>
    (last.utf8Size - first.utf8Size + 1,
      ((List.range (last.utf8Size + 1)).filter (first.utf8Size ≤ ·)).sum)
  | union a b | inter a b | diff a b | symmDiff a b =>
    (a.forms.1 + b.forms.1, a.forms.2 + b.forms.2)
  | complement a => (a.forms.1 + 9, a.forms.2 + 27)
  | eitherCase a => (2 * a.forms.1, 2 * a.forms.2)

def only? : CharSet → Option Char
  | range first last => if first = last then some first else none
  | _ => none

end CharSet

end Stanza
