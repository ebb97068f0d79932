import Stanza.Pattern.Basic
import Stanza.Text.Blank

/-! How the characters of a pattern are to be taken. Flags are set by letters, for the rest of the
group that they stand in or for a group of their own. What a character means under its flags is said
here, and which characters mean nothing at all. -/

namespace Stanza.Pattern

structure Flags where
  /-- Letters stand for both of their cases. -/
  ignoreCase : Bool
  /-- The ends of lines count as ends. -/
  multiLine : Bool
  /-- A dot passes the end of a line. -/
  dotAll : Bool
  /-- Carriage returns end lines. -/
  returns : Bool
  /-- Characters are all those there are, and not those of ASCII. -/
  allScripts : Bool
  /-- Blanks and comments in the pattern count for nothing. -/
  spaced : Bool
  deriving DecidableEq

namespace Flags

def start : Flags := ⟨false, false, false, false, true, false⟩

/-- The letters of flags. The letter `U` is for the order in which repetitions are tried, which does
not matter here. -/
def letters : Text := "imsUuRx".toList

def set (f : Flags) (value : Bool) (letter : Char) : Flags :=
  if letter = 'i' then { f with ignoreCase := value }
  else if letter = 'm' then { f with multiLine := value }
  else if letter = 's' then { f with dotAll := value }
  else if letter = 'R' then { f with returns := value }
  else if letter = 'u' then { f with allScripts := value }
  else if letter = 'x' then { f with spaced := value }
  else f

/-- The flags after a word of letters; those behind the dash are taken away. No letter comes twice,
and something comes behind the dash. -/
def change? (f : Flags) (word : Text) : Option Flags :=
  if word.all (fun c => c ∈ '-' :: letters) && decide word.Nodup && word.getLast? ≠ some '-' then
    some <| ((word.dropWhile (· ≠ '-')).drop 1).foldl (set · false)
      ((word.takeWhile (· ≠ '-')).foldl (set · true) f)
  else none

/-- The characters from one to another, as they are meant. Under the flag for all scripts there is
no table that says which characters are cases of one letter; without it there are none but those of
ASCII. -/
def range? (f : Flags) (first last : Char) : Option CharSet :=
  if f.allScripts then if f.ignoreCase then none else some (.range first last)
  else if '\x7F' < last then none
  else some (if f.ignoreCase then .eitherCase (.range first last) else .range first last)

def named? (f : Flags) (name : Text) (negated : Bool) : Option CharSet := do
  let s ← CharSet.named? name
  if f.allScripts then
    if f.ignoreCase then none else some (if negated then .complement s else s)
  else if negated then none
  else some (if f.ignoreCase then .eitherCase s else s)

/-- The family of characters with a letter. The families of all scripts have no tables. -/
def family? (f : Flags) (letter : Char) : Option CharSet :=
  if f.allScripts then none
  else if letter = 'd' then CharSet.named? "digit".toList
  else if letter = 's' then CharSet.named? "space".toList
  else if letter = 'w' then CharSet.named? "word".toList
  else none

/-- A set or its complement. The complement goes beyond ASCII. -/
def negate? (f : Flags) (negated : Bool) (s : CharSet) : Option CharSet :=
  if !negated then some s else if f.allScripts then some (.complement s) else none

def dot? (f : Flags) : Option CharSet :=
  if !f.allScripts then none
  else
    some <| .complement <|
      if f.dotAll then .empty
      else if f.returns then .ofRanges [('\n', '\n'), ('\r', '\r')]
      else .singleton '\n'

def lineStart (f : Flags) : Anchor :=
  if !f.multiLine then .textStart else if f.returns then .returnLineStart else .lineStart

def lineEnd (f : Flags) : Anchor :=
  if !f.multiLine then .textEnd else if f.returns then .returnLineEnd else .lineEnd

def word (f : Flags) (edge : WordEdge) : Anchor :=
  if f.allScripts then .anyWord edge else .word edge

/-- The rest of a text behind blanks and comments. A comment begins with a number sign and takes up
its line; one may have begun already. -/
def dropFiller (comment : Bool) : Text → Text
  | [] => []
  | c :: t =>
    if comment then dropFiller (c ≠ '\n') t
    else if Text.isWhiteSpace c then dropFiller false t
    else if c = '#' then dropFiller true t
    else c :: t

theorem length_dropFiller_le (comment : Bool) (t : Text) :
    (dropFiller comment t).length ≤ t.length := by
  induction t generalizing comment with
  | nil => exact Nat.le_refl _
  | cons c t ih =>
    simp only [dropFiller]
    split
    · exact Nat.le_succ_of_le (ih _)
    · split
      · exact Nat.le_succ_of_le (ih _)
      · split
        · exact Nat.le_succ_of_le (ih _)
        · exact Nat.le_refl _

def skip (f : Flags) (t : Text) : Text := if f.spaced then dropFiller false t else t

theorem length_skip_le (f : Flags) (t : Text) : (f.skip t).length ≤ t.length := by
  rw [skip]
  split
  · exact length_dropFiller_le _ _
  · exact Nat.le_refl _

/-- The next character that counts. Of a comment only the sign at its beginning is passed over, and
where nothing else is left blanks count. -/
def peek? (f : Flags) (t : Text) : Option Char :=
  let after :=
    match t.dropWhile Text.isWhiteSpace with
    | '#' :: t => t.dropWhile Text.isWhiteSpace
    | t => t
  if f.spaced then after.head?.or t.head? else t.head?

def span (f : Flags) (p : Char → Bool) : Text → Text × Text
  | [] => ([], [])
  | c :: t =>
    if p c then
      let r := span f p (f.skip t)
      (c :: r.1, r.2)
    else ([], c :: t)
termination_by t => t.length
decreasing_by exact Nat.lt_succ_of_le (f.length_skip_le t)

end Flags

end Stanza.Pattern
