import Stanza.Pattern.Flags

/-! The smallest parts of a pattern: characters, and what a backslash makes of those behind it. A
reader answers what it found and the text behind it, or nothing. -/

namespace Stanza.Pattern

/-- A part of a pattern that holds no other. -/
inductive Atom where
  /-- A character; it may be written as a byte. -/
  | literal (c : Char) (byte : Bool)
  | dot
  /-- A family of characters by its letter, or its complement. -/
  | family (letter : Char) (negated : Bool)
  | anchor (a : Anchor)
  deriving DecidableEq

namespace Atom

def signs : Text := "\\.+*?()|[]\x7B\x7D^$#&-~".toList

/-- The characters that a backslash leaves as they are. -/
def isPlain (c : Char) : Bool :=
  c ∈ signs || (c.toNat < 0x80 && !c.isAlphanum && c ∉ ['<', '>'])

def controls : List (Char × Char) :=
  [('a', '\x07'), ('f', '\x0C'), ('t', '\t'), ('n', '\n'), ('r', '\r'), ('v', '\x0B')]

def edges : List (Text × WordEdge) :=
  [("start".toList, .first), ("end".toList, .last), ("start-half".toList, .firstHalf),
   ("end-half".toList, .lastHalf)]

def isHexDigit (c : Char) : Bool :=
  c.isDigit || ('a' ≤ c && c ≤ 'f') || ('A' ≤ c && c ≤ 'F')

def hexDigit (c : Char) : Nat :=
  if c.isDigit then c.toNat - '0'.toNat else c.toLower.toNat - 'a'.toNat + 10

def ofHex? (digits : Text) : Option Char :=
  let n := digits.foldl (fun n d => 16 * n + hexDigit d) 0
  if digits.isEmpty then none else if n.isValidChar then some (Char.ofNat n) else none

/-- So many digits, with what may be skipped behind each. -/
def hexDigits? (f : Flags) : Nat → Text → Option (Text × Text)
  | 0, t => some ([], t)
  | _ + 1, [] => none
  | n + 1, c :: t =>
    if isHexDigit c then (hexDigits? f n (f.skip t)).map fun r => (c :: r.1, r.2) else none

/-- A character by its code: so many digits, or any number of them in braces. -/
def coded? (f : Flags) (count : Nat) (t : Text) : Option (Atom × Text) :=
  match f.skip t with
  | '\x7B' :: t =>
    match f.span isHexDigit (f.skip t) with
    | (digits, '\x7D' :: t) => (ofHex? digits).map fun c => (literal c false, f.skip t)
    | _ => none
  | t =>
    match hexDigits? f count t with
    | some (digits, t) => (ofHex? digits).map fun c => (literal c (count = 2), t)
    | none => none

def isEdgeChar (c : Char) : Bool := c.isAlpha || c = '-'

/-- An edge of words behind its letter. A name in braces tells which; braces with something else in
them are not part of it. -/
def boundary? (f : Flags) (t : Text) : Option (Atom × Text) :=
  let plain := some (anchor (f.word .boundary), t)
  match t with
  | '\x7B' :: inside =>
    match f.span isEdgeChar (f.skip inside) with
    | (_, []) => none
    | ([], _) => plain
    | (name, '\x7D' :: rest) => (edges.lookup name).map fun edge => (anchor (f.word edge), rest)
    | _ => none
  | _ => plain

def escaped? (f : Flags) : Text → Option (Atom × Text)
  | [] => none
  | c :: t =>
    if c = 'x' then coded? f 2 t
    else if c = 'u' then coded? f 4 t
    else if c = 'U' then coded? f 8 t
    else if c ∈ ['d', 's', 'w', 'D', 'S', 'W'] then some (family c.toLower c.isUpper, t)
    else if isPlain c then some (literal c false, t)
    else if c = 'A' then some (anchor .textStart, t)
    else if c = 'z' then some (anchor .textEnd, t)
    else if c = 'b' then boundary? f t
    else if c = 'B' then some (anchor (f.word .inside), t)
    else if c = '<' then some (anchor (f.word .first), t)
    else if c = '>' then some (anchor (f.word .last), t)
    else (controls.lookup c).map fun control => (literal control false, t)

def read? (f : Flags) : Text → Option (Atom × Text)
  | [] => none
  | '\\' :: t => escaped? f t
  | '.' :: t => some (dot, t)
  | '^' :: t => some (anchor f.lineStart, t)
  | '$' :: t => some (anchor f.lineEnd, t)
  | c :: t => some (literal c false, t)

/-- What an atom means. A character beyond ASCII has no cases, and a byte beyond ASCII is none. -/
def pattern? (f : Flags) : Atom → Option Pattern
  | literal c byte =>
    if f.allScripts || c ≤ '\x7F' then (f.range? c c).map .char
    else if byte then none
    else some (.char (.singleton c))
  | dot => f.dot?.map .char
  | family letter negated => ((f.family? letter).bind (f.negate? negated)).map .char
  | anchor a => some (.anchor a)

def set? (f : Flags) : Atom → Option CharSet
  | literal c _ => f.range? c c
  | family letter negated => (f.family? letter).bind (f.negate? negated)
  | _ => none

end Atom

end Stanza.Pattern
