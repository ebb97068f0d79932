import Stanza.Toml.Moment
import Stanza.Toml.Value

/-! Values that stand without quotes or brackets: truth values, integers, floating-point numbers,
dates and times. -/

namespace Stanza.Toml.Scalar

def isScalarChar (c : Char) : Bool := c.isAlphanum || c ∈ ['+', '-', '_', '.', ':']

/-- The digits of a number without the underscores, of which each stands between two digits. -/
def ungroup? (isDigit : Char → Bool) : Text → Option Text
  | [] => none
  | [c] => if isDigit c then some [c] else none
  | c :: '_' :: t => if isDigit c then (ungroup? isDigit t).map (c :: ·) else none
  | c :: t => if isDigit c then (ungroup? isDigit t).map (c :: ·) else none

/-- The digits of a decimal number, which begins with a zero only if it is zero. -/
def decimal? (t : Text) : Option Text :=
  match ungroup? Char.isDigit t with
  | some ('0' :: _ :: _) => none
  | digits => digits

def grouped? (base : Nat) (isDigit : Char → Bool) (t : Text) : Option Int :=
  (ungroup? isDigit t).map fun digits => Int.ofNat (numberOf base digits)

def decimalInteger? (t : Text) : Option Int :=
  (decimal? t).map fun digits => Int.ofNat (numberOf 10 digits)

/-- An integer before its size is looked at: with a sign, or in one of three other bases. -/
def unbounded? : Text → Option Int
  | '0' :: 'x' :: t => grouped? 16 isHexDigit t
  | '0' :: 'o' :: t => grouped? 8 (fun c => '0' ≤ c && c ≤ '7') t
  | '0' :: 'b' :: t => grouped? 2 (fun c => c = '0' || c = '1') t
  | '-' :: t => (decimalInteger? t).map fun n => -n
  | '+' :: t => decimalInteger? t
  | t => decimalInteger? t

/-- An integer that fits into 128 bits, with a sign or without. -/
def integer? (t : Text) : Option Int :=
  match unbounded? t with
  | some n => if -Int.pow 2 127 ≤ n ∧ n < Int.pow 2 128 then some n else none
  | none => none

/-- The least number that is rounded to infinity when it is stored in 64 bits. -/
def overflow : Nat := Nat.pow 2 1024 - Nat.pow 2 970

/-- Whether the number with these digits, scaled by a power of ten, can be stored. -/
def isFinite (digits : Text) (exponent : Int) : Bool :=
  let n := numberOf 10 digits
  let size := (Text.ofNat n).length + exponent
  if n = 0 || size < 300 then true
  else if size > 310 then false
  else if 0 ≤ exponent then n * Nat.pow 10 exponent.toNat < overflow
  else n < overflow * Nat.pow 10 (-exponent).toNat

def exponent? : Text → Option Int
  | '-' :: t => (grouped? 10 Char.isDigit t).map fun n => -n
  | '+' :: t => grouped? 10 Char.isDigit t
  | t => grouped? 10 Char.isDigit t

/-- Whether the text after the fraction of a number is an exponent, or nothing. -/
def scaled (digits : Text) (places : Nat) : Text → Bool
  | [] => isFinite digits (-Int.ofNat places)
  | c :: t =>
    (c = 'e' || c = 'E') &&
      match exponent? t with
      | some e => isFinite digits (e - Int.ofNat places)
      | none => false

def isMagnitude (t : Text) : Bool :=
  t = ['i', 'n', 'f'] || t = ['n', 'a', 'n'] ||
    let grouped := fun c : Char => c.isDigit || c = '_'
    match decimal? (t.takeWhile grouped), t.dropWhile grouped with
    | some whole, '.' :: rest =>
      match ungroup? Char.isDigit (rest.takeWhile grouped) with
      | some part => scaled (whole ++ part) part.length (rest.dropWhile grouped)
      | none => false
    | some whole, c :: rest => scaled whole 0 (c :: rest)
    | _, _ => false

def isFloat : Text → Bool
  | '-' :: t => isMagnitude t
  | '+' :: t => isMagnitude t
  | t => isMagnitude t

def ofText? (t : Text) : Option Value :=
  if t = "true".toList then some (.boolean true)
  else if t = "false".toList then some (.boolean false)
  else
    match integer? t with
    | some n => some (.integer n)
    | none =>
      if isFloat t then some (.float t)
      else if Moment.isMoment t then some (.moment t)
      else none

/-- The characters of the value that a text begins with. A date is joined to a time by one space. -/
def run (t : Text) : Text × Text :=
  let first := t.takeWhile isScalarChar
  match t.dropWhile isScalarChar with
  | ' ' :: c :: rest =>
    if Moment.date? first = some [] && c.isDigit then
      (first ++ ' ' :: (c :: rest).takeWhile isScalarChar, (c :: rest).dropWhile isScalarChar)
    else (first, ' ' :: c :: rest)
  | rest => (first, rest)

def scalar? (t : Text) : Option (Value × Text) :=
  (ofText? (run t).1).map fun v => (v, (run t).2)

end Stanza.Toml.Scalar
