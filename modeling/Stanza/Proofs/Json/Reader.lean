import Stanza.Json
import Stanza.Toml.Digit

/-! JSON of any kind read into values: with numbers and `null`, blanks between all parts, and every
escape. A reader of a part answers what it found and the text behind it, or nothing if the text has
no such part. -/

namespace Stanza

/-- A JSON value. A number is the text that writes it, and the fields of an object are in the order
they are written. -/
inductive Datum where
  | null
  | bool (b : Bool)
  | number (written : Text)
  | string (t : Text)
  | array (items : List Datum)
  | object (fields : List (Text × Datum))

namespace Datum

open Toml

def isBlank (c : Char) : Bool := c = ' ' || c = '\t' || c = '\n' || c = '\r'

def dropBlanks (t : Text) : Text := t.dropWhile isBlank

/-! ## Strings -/

def unit? (t : Text) : Option (Nat × Text) :=
  let digits := t.take 4
  if digits.length = 4 ∧ digits.all isHexDigit then some (numberOf 16 digits, t.drop 4) else none

def ofSurrogates (first second : Nat) : Char :=
  Char.ofNat (0x10000 + 0x400 * (first - 0xD800) + (second - 0xDC00))

/-- The character with the code that follows, which is a pair of surrogates past the first plane. A
surrogate alone is no character. -/
def codePoint? (t : Text) : Option (Char × Text) :=
  match unit? t with
  | none => none
  | some (n, rest) =>
    if n.isValidChar then some (Char.ofNat n, rest)
    else
      match rest with
      | '\\' :: 'u' :: more =>
        match unit? more with
        | none => none
        | some (m, rest) =>
          if n < 0xDC00 ∧ 0xDC00 ≤ m ∧ m < 0xE000 then some (ofSurrogates n m, rest) else none
      | _ => none

def escapes : List (Char × Char) :=
  [('"', '"'), ('\\', '\\'), ('/', '/'), ('b', '\x08'), ('f', '\x0c'), ('n', '\n'), ('r', '\r'),
    ('t', '\t')]

def escape? : Text → Option (Char × Text)
  | [] => none
  | c :: t => if c = 'u' then codePoint? t else (escapes.lookup c).map fun d => (d, t)

theorem length_unit?_le {n : Nat} {t rest : Text} (h : unit? t = some (n, rest)) :
    rest.length ≤ t.length := by
  simp only [unit?] at h
  split at h
  · rw [← (Prod.mk.inj (Option.some.inj h)).2]
    exact (List.drop_suffix _ _).length_le
  · cases h

theorem length_codePoint?_le {c : Char} {t rest : Text} (h : codePoint? t = some (c, rest)) :
    rest.length ≤ t.length := by
  unfold codePoint? at h
  split at h
  · cases h
  next n after hfirst =>
  have hle := length_unit?_le hfirst
  split at h
  · rw [← (Prod.mk.inj (Option.some.inj h)).2]
    exact hle
  split at h
  · next more =>
    split at h
    · cases h
    next m after hsecond =>
    have hle' := length_unit?_le hsecond
    split at h
    · rw [← (Prod.mk.inj (Option.some.inj h)).2]
      simp only [List.length_cons] at hle
      omega
    · cases h
  · cases h

theorem length_escape?_lt {c : Char} {t rest : Text} (h : escape? t = some (c, rest)) :
    rest.length < t.length := by
  cases t with
  | nil => cases h
  | cons d t =>
    refine Nat.lt_succ_of_le ?_
    rw [escape?] at h
    split at h
    · exact length_codePoint?_le h
    · obtain ⟨e, -, he⟩ := Option.map_eq_some_iff.1 h
      exact Nat.le_of_eq (congrArg List.length (Prod.mk.inj he).2.symm)

def characters? : Text → Option (Text × Text)
  | [] => none
  | c :: t =>
    if c = '"' then some ([], t)
    else if c = '\\' then
      match h : escape? t with
      | some (d, rest) =>
        have := length_escape?_lt h
        (characters? rest).map fun r => (d :: r.1, r.2)
      | none => none
    else if c.toNat < 0x20 then none
    else (characters? t).map fun r => (c :: r.1, r.2)
termination_by t => t.length

/-! ## Numbers and words -/

def digits? (t : Text) : Option (Text × Text) :=
  let digits := t.takeWhile Char.isDigit
  if digits.isEmpty then none else some (digits, t.dropWhile Char.isDigit)

/-- A number does not begin with a zero, unless that is its whole integer part. -/
def integer? : Text → Option (Text × Text)
  | '0' :: t => some (['0'], t)
  | t => digits? t

def fraction? : Text → Option (Text × Text)
  | '.' :: t => (digits? t).map fun r => ('.' :: r.1, r.2)
  | t => some ([], t)

def sign (signs : Text) : Text → Text × Text
  | [] => ([], [])
  | c :: t => if c ∈ signs then ([c], t) else ([], c :: t)

def exponent? : Text → Option (Text × Text)
  | [] => some ([], [])
  | c :: t =>
    if c = 'e' || c = 'E' then
      let signed := sign ['+', '-'] t
      (digits? signed.2).map fun r => (c :: signed.1 ++ r.1, r.2)
    else some ([], c :: t)

def number? (t : Text) : Option (Datum × Text) := do
  let (minus, t) := sign ['-'] t
  let (integer, t) ← integer? t
  let (fraction, t) ← fraction? t
  let (exponent, t) ← exponent? t
  return (.number (minus ++ integer ++ fraction ++ exponent), t)

def scalar? : Text → Option (Datum × Text)
  | 't' :: 'r' :: 'u' :: 'e' :: t => some (.bool true, t)
  | 'f' :: 'a' :: 'l' :: 's' :: 'e' :: t => some (.bool false, t)
  | 'n' :: 'u' :: 'l' :: 'l' :: t => some (.null, t)
  | t => number? t

/-! ## Values -/

/-- The items up to the character behind the last, one at least, with commas between them. -/
def items? {α : Type} (item? : Text → Option (α × Text)) (closing : Char) :
    Nat → Text → Option (List α × Text)
  | 0, _ => none
  | fuel + 1, t =>
    match item? t with
    | none => none
    | some (a, t) =>
      match dropBlanks t with
      | [] => none
      | c :: t =>
        if c = ',' then (items? item? closing fuel t).map fun r => (a :: r.1, r.2)
        else if c = closing then some ([a], t)
        else none

def sequence? {α : Type} (item? : Text → Option (α × Text)) (closing : Char) (t : Text) :
    Option (List α × Text) :=
  match dropBlanks t with
  | [] => none
  | c :: rest => if c = closing then some ([], rest) else items? item? closing t.length t

def field? (value? : Text → Option (Datum × Text)) (t : Text) :
    Option ((Text × Datum) × Text) :=
  match dropBlanks t with
  | '"' :: t =>
    match characters? t with
    | none => none
    | some (key, t) =>
      match dropBlanks t with
      | ':' :: t => (value? t).map fun r => ((key, r.1), r.2)
      | _ => none
  | _ => none

/-- A value that is nested less deep than a bound. -/
def value? : Nat → Text → Option (Datum × Text)
  | 0, _ => none
  | depth + 1, t =>
    match dropBlanks t with
    | '"' :: t => (characters? t).map fun r => (.string r.1, r.2)
    | '[' :: t => (sequence? (value? depth) ']' t).map fun r => (.array r.1, r.2)
    | '{' :: t => (sequence? (field? (value? depth)) '}' t).map fun r => (.object r.1, r.2)
    | t => scalar? t

def read? (t : Text) : Option Datum :=
  match value? (t.length + 1) t with
  | some (v, rest) => if (dropBlanks rest).isEmpty then some v else none
  | none => none

example : read? " [-0.5E+7, null, \"\\ud83d\\ude00\\/\" ] ".toList =
    some (.array [.number "-0.5E+7".toList, .null, .string "😀/".toList]) := by cbv

example : read? "[1,]".toList = none := by cbv

end Datum

end Stanza
