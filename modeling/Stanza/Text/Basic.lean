/-! A text is the list of its characters. Offsets into a text count the bytes of its UTF-8 form. -/

namespace Stanza

abbrev Text := List Char

namespace Text

def byteLength : Text → Nat
  | [] => 0
  | c :: t => c.utf8Size + byteLength t

@[simp] theorem byteLength_nil : byteLength [] = 0 := rfl

@[simp] theorem byteLength_cons (c : Char) (t : Text) :
    byteLength (c :: t) = c.utf8Size + byteLength t := rfl

@[simp] theorem byteLength_append (s t : Text) :
    byteLength (s ++ t) = byteLength s + byteLength t := by
  induction s with
  | nil => rw [List.nil_append, byteLength_nil, Nat.zero_add]
  | cons c s ih => rw [List.cons_append, byteLength_cons, byteLength_cons, ih, Nat.add_assoc]

def ofNat (n : Nat) : Text := Nat.toDigits 10 n

/-- ASCII capitals made small; every other character stays. -/
def lowercase (t : Text) : Text := t.map Char.toLower

/-- The pieces between the occurrences of `c`: always one more than there are occurrences. -/
def splitAt (c : Char) : Text → List Text
  | [] => [[]]
  | d :: t =>
    if d = c then [] :: splitAt c t
    else
      match splitAt c t with
      | [] => [[d]]
      | piece :: pieces => (d :: piece) :: pieces

theorem splitAt_of_not_mem {c : Char} {t : Text} (h : c ∉ t) : splitAt c t = [t] := by
  induction t with
  | nil => rfl
  | cons d t ih =>
    rw [List.mem_cons, not_or] at h
    rw [splitAt, if_neg (Ne.symm h.1), ih h.2]

theorem splitAt_append {c : Char} {p : Text} (h : c ∉ p) (r : Text) :
    splitAt c (p ++ c :: r) = p :: splitAt c r := by
  induction p with
  | nil => simp [splitAt]
  | cons d p ih =>
    rw [List.mem_cons, not_or] at h
    rw [List.cons_append, splitAt, if_neg (Ne.symm h.1), ih h.2]

def trim (p : Char → Bool) (t : Text) : Text :=
  ((t.dropWhile p).reverse.dropWhile p).reverse

end Text

end Stanza
