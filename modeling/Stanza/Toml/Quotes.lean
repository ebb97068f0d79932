import Stanza.Toml.Digit
import Stanza.Toml.Value

/-! Reading the four forms of string: basic strings know escapes, literal strings do not, and each
has a form over many lines between three quotes. A reader answers the string and what follows it,
or nothing if the text is not in its form. -/

namespace Stanza.Toml

def dropSpaces (t : Text) : Text := t.dropWhile fun c => c = ' ' || c = '\t'

def newline? : Text → Option Text
  | '\n' :: t => some t
  | '\r' :: '\n' :: t => some t
  | _ => none

def dropBlankLines : Text → Text
  | '\r' :: '\n' :: t => dropBlankLines t
  | c :: t => if c = ' ' || c = '\t' || c = '\n' then dropBlankLines t else c :: t
  | [] => []

/-- What a backslash at the end of a line joins to the text before it. -/
def continuation? (t : Text) : Option Text := (newline? (dropSpaces t)).map dropBlankLines

def codePoint? (count : Nat) (t : Text) : Option (Char × Text) :=
  let digits := t.take count
  let n := numberOf 16 digits
  if digits.length = count ∧ digits.all isHexDigit ∧ n.isValidChar then
    some (Char.ofNat n, t.drop count)
  else none

def escapes : List (Char × Char) :=
  [('b', '\x08'), ('t', '\t'), ('n', '\n'), ('f', '\x0c'), ('r', '\r'), ('e', '\x1b'), ('"', '"'),
    ('\\', '\\')]

/-- The letters behind which a code is written, and the digits that it has. -/
def codeLengths : List (Char × Nat) := [('x', 2), ('u', 4), ('U', 8)]

def escape? : Text → Option (Char × Text)
  | [] => none
  | c :: t =>
    match escapes.lookup c, codeLengths.lookup c with
    | some d, _ => some (d, t)
    | none, some count => codePoint? count t
    | none, none => none

def prepend (c : Char) (r : Text × Text) : Text × Text := (c :: r.1, r.2)

/-- Three quotes close a string over many lines. Up to two more before them belong to it. -/
def closing? (quote : Char) (t : Text) : Option (Text × Text) :=
  if [quote, quote, quote].isPrefixOf t then
    let extra := min 2 ((t.drop 3).takeWhile (· = quote)).length
    some (List.replicate extra quote, t.drop (3 + extra))
  else none

theorem length_codePoint?_le {count : Nat} {c : Char} {t rest : Text}
    (h : codePoint? count t = some (c, rest)) : rest.length ≤ t.length := by
  simp only [codePoint?] at h
  split at h
  · rw [← (Prod.mk.inj (Option.some.inj h)).2]
    exact (List.drop_suffix _ _).length_le
  · nomatch h

theorem length_escape?_lt {c : Char} {t rest : Text} (h : escape? t = some (c, rest)) :
    rest.length < t.length := by
  cases t with
  | nil => simp [escape?] at h
  | cons d t =>
    simp only [escape?] at h
    refine Nat.lt_succ_of_le ?_
    split at h
    · exact Nat.le_of_eq (congrArg List.length (Prod.mk.inj (Option.some.inj h)).2.symm)
    · exact length_codePoint?_le h
    · cases h

theorem length_dropBlankLines_le (t : Text) : (dropBlankLines t).length ≤ t.length := by
  fun_induction dropBlankLines t with
  | case1 t ih => simp only [List.length_cons]; omega
  | case2 c t _ _ ih => simp only [List.length_cons]; omega
  | case3 => exact Nat.le_refl _
  | case4 => exact Nat.le_refl _

theorem length_newline?_lt {t rest : Text} (h : newline? t = some rest) :
    rest.length < t.length := by
  unfold newline? at h
  split at h
  · rw [← Option.some.inj h, List.length_cons]
    omega
  · rw [← Option.some.inj h, List.length_cons, List.length_cons]
    omega
  · nomatch h

theorem length_continuation?_lt {t rest : Text} (h : continuation? t = some rest) :
    rest.length < t.length := by
  obtain ⟨r, hr, rfl⟩ := Option.map_eq_some_iff.1 h
  have := length_newline?_lt hr
  have := length_dropBlankLines_le r
  have : (dropSpaces t).length ≤ t.length := (List.dropWhile_suffix _).length_le
  omega

def basic? (t : Text) : Option (Text × Text) :=
  match t with
  | [] => none
  | c :: t =>
    if c = '"' then some ([], t)
    else if c = '\\' then
      match h : escape? t with
      | some (d, rest) =>
        have := length_escape?_lt h
        (basic? rest).map (prepend d)
      | none => none
    else if isControl c then none
    else (basic? t).map (prepend c)
termination_by t.length
decreasing_by
  · simp only [List.length_cons]; omega
  · simp only [List.length_cons]; omega

def literal? : Text → Option (Text × Text)
  | [] => none
  | c :: t =>
    if c = '\'' then some ([], t)
    else if isControl c then none
    else (literal? t).map (prepend c)

/-- A basic string over many lines after its opening quotes and the line ending behind them. -/
def multilineBasic? (t : Text) : Option (Text × Text) :=
  match closing? '"' t with
  | some found => some found
  | none =>
    match t with
    | [] => none
    | '\r' :: '\n' :: t => (multilineBasic? t).map fun r => prepend '\r' (prepend '\n' r)
    | c :: t =>
      if c = '\\' then
        match h : continuation? t with
        | some rest =>
          have := length_continuation?_lt h
          multilineBasic? rest
        | none =>
          match h : escape? t with
          | some (d, rest) =>
            have := length_escape?_lt h
            (multilineBasic? rest).map (prepend d)
          | none => none
      else if isControl c && c != '\n' then none
      else (multilineBasic? t).map (prepend c)
termination_by t.length
decreasing_by
  · simp only [List.length_cons]; omega
  · simp only [List.length_cons]; omega
  · simp only [List.length_cons]; omega
  · simp only [List.length_cons]; omega

def multilineLiteral? (t : Text) : Option (Text × Text) :=
  match closing? '\'' t with
  | some found => some found
  | none =>
    match t with
    | [] => none
    | '\r' :: '\n' :: t => (multilineLiteral? t).map fun r => prepend '\r' (prepend '\n' r)
    | c :: t =>
      if isControl c && c != '\n' then none else (multilineLiteral? t).map (prepend c)
termination_by t.length
decreasing_by
  · simp only [List.length_cons]; omega
  · simp only [List.length_cons]; omega

def dropNewline (t : Text) : Text := (newline? t).getD t

def string? : Text → Option (Text × Text)
  | '"' :: '"' :: '"' :: t => multilineBasic? (dropNewline t)
  | '"' :: t => basic? t
  | '\'' :: '\'' :: '\'' :: t => multilineLiteral? (dropNewline t)
  | '\'' :: t => literal? t
  | _ => none

end Stanza.Toml
