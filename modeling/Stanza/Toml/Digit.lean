import Stanza.Text.Basic

/-! Digits of any base up to sixteen, and the numbers they write. -/

namespace Stanza.Toml

/-- The value of a hexadecimal digit; the digits of smaller bases are among them. -/
def hexDigit? (c : Char) : Option Nat :=
  if '0' ≤ c ∧ c ≤ '9' then some (c.toNat - 48)
  else if 'a' ≤ c ∧ c ≤ 'f' then some (c.toNat - 87)
  else if 'A' ≤ c ∧ c ≤ 'F' then some (c.toNat - 55)
  else none

def isHexDigit (c : Char) : Bool := (hexDigit? c).isSome

def numberOf (base : Nat) (digits : Text) : Nat :=
  digits.foldl (fun n c => base * n + (hexDigit? c).getD 0) 0

end Stanza.Toml
