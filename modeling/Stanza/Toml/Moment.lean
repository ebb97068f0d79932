import Stanza.Toml.Digit

/-! Dates and times: a date, a time, or both with an optional distance from universal time. -/

namespace Stanza.Toml.Moment

def pair? (a b : Char) : Option Nat :=
  if a.isDigit && b.isDigit then some (numberOf 10 [a, b]) else none

def isLeapYear (year : Nat) : Bool :=
  year % 4 = 0 && (year % 100 != 0 || year % 400 = 0)

/-- The number of days of a month; no other number is a month. -/
def daysOf (year month : Nat) : Nat :=
  if month = 2 then (if isLeapYear year then 29 else 28)
  else if month ∈ [4, 6, 9, 11] then 30
  else if 1 ≤ month ∧ month ≤ 12 then 31
  else 0

/-- What follows a date. -/
def date? : Text → Option Text
  | y :: z :: a :: b :: '-' :: m :: n :: '-' :: d :: e :: t => do
    let century ← pair? y z
    let year ← pair? a b
    let month ← pair? m n
    let day ← pair? d e
    if 1 ≤ day ∧ day ≤ daysOf (100 * century + year) month then some t else none
  | _ => none

def clock? : Text → Option Text
  | h :: i :: ':' :: m :: n :: t => do
    let hours ← pair? h i
    let minutes ← pair? m n
    if hours ≤ 23 ∧ minutes ≤ 59 then some t else none
  | _ => none

/-- What follows a time of the day. Seconds may be missing, and may be 60 once in a while. -/
def time? (t : Text) : Option Text := do
  match ← clock? t with
  | ':' :: s :: u :: rest =>
    let seconds ← pair? s u
    if seconds ≤ 60 then
      match rest with
      | '.' :: fraction =>
        if (fraction.takeWhile Char.isDigit).isEmpty then none
        else some (fraction.dropWhile Char.isDigit)
      | rest => some rest
    else none
  | ':' :: _ => none
  | rest => some rest

/-- Whether the text is the distance of a place from universal time, or nothing. -/
def isOffset : Text → Bool
  | [] => true
  | ['Z'] => true
  | ['z'] => true
  | '+' :: t => clock? t = some []
  | '-' :: t => clock? t = some []
  | _ => false

def isMoment (t : Text) : Bool :=
  match date? t with
  | some [] => true
  | some (c :: rest) =>
    (c = 'T' || c = 't' || c = ' ') && ((time? rest).map isOffset).getD false
  | none => time? t = some []

end Stanza.Toml.Moment
