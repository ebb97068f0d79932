import Stanza.Text.Utf8

/-! What is left of a text when the sequences that steer a terminal are taken out of it. A sequence
begins with an escape character; the first characters behind that tell its kind, and its kind tells
where it ends. Control characters steer as well, except for those that count as white space. -/

namespace Stanza.Terminal

inductive State where
  /-- In no sequence. -/
  | ground
  /-- Behind the escape character. -/
  | escape
  /-- Behind the first characters of a sequence that ends with the first character that is none
  of these. -/
  | escapeMore
  /-- In a control sequence, which ends with a letter or the like. -/
  | control
  /-- At the beginning of a string for a device. -/
  | device
  /-- In the numbers before a string for a device. -/
  | deviceNumbers
  /-- Between these numbers and the string. -/
  | deviceMore
  /-- In a string that nothing of is shown. -/
  | string
  /-- In a command for the system. -/
  | command
  deriving DecidableEq

/-- Control characters that are shown as they are. -/
def isSpacing (c : Char) : Bool := c ∈ ['\t', '\n', '\x0C', '\r']

/-- Characters that are shown where no sequence has begun. -/
def isShown (c : Char) : Bool := (0x20 ≤ c.toNat && c.toNat ≠ 0x7F) || isSpacing c

def between (first last : Char) (c : Char) : Bool := first ≤ c && c ≤ last

/-- The byte that ends a string, which may also be part of a character. -/
def stringEnd : UInt8 := 0x9C

namespace State

def shows : State → Char → Bool
  | ground, c => isShown c
  | escape, c | escapeMore, c | control, c => isSpacing c
  | _, _ => false

/-- How a text stands behind a character that is not shown, unless that begins or breaks off a
sequence. -/
def within : State → Char → State
  | ground, _ => ground
  | escape, c =>
    if between ' ' '/' c then escapeMore
    else if c = '[' then control
    else if c = ']' then command
    else if c = 'P' then device
    else if c ∈ ['X', '^', '_'] then string
    else if between '0' '~' c then ground
    else escape
  | escapeMore, c => if between '0' '~' c then ground else escapeMore
  | control, c => if between '@' '~' c then ground else control
  | device, c =>
    if between ' ' '/' c then deviceMore
    else if c = ':' || between '@' '~' c then string
    else if between '0' '?' c then deviceNumbers
    else device
  | deviceNumbers, c =>
    if between ' ' '/' c then deviceMore
    else if c = ':' || between '<' '~' c then string
    else deviceNumbers
  | deviceMore, c => if between '0' '~' c then string else deviceMore
  | string, c => if stringEnd ∈ String.utf8EncodeChar c then ground else string
  | command, c => if c = '\x07' then ground else command

def next (s : State) (c : Char) : State :=
  if c = '\x1B' then escape
  else if c ∈ ['\x18', '\x1A'] then ground
  else s.within c

end State

/-- What is shown of a text that stands so. White space in a sequence is shown, and then what
follows it, up to the next control character: there the sequence goes on. -/
def plainFrom (shown : Bool) (s : State) : Text → Text
  | [] => []
  | c :: t =>
    if if shown then isShown c else s.shows c then
      c :: plainFrom true (if c.toNat < 0x80 then s else .ground) t
    else plainFrom false (s.next c) t

def plain (t : Text) : Text := plainFrom false .ground t

end Stanza.Terminal
