import Stanza.Text.Basic

/-! Slices of a text by byte offsets. An offset inside of a character has no slice, so a slice that
exists begins and ends between characters. -/

namespace Stanza.Text

/-- the text from byte `n` on, when a character or the end is there -/
def dropBytes? (n : Nat) : Text → Option Text
  | [] => if n = 0 then some [] else none
  | c :: t =>
    if n = 0 then some (c :: t)
    else if c.utf8Size ≤ n then dropBytes? (n - c.utf8Size) t else none

def takeBytes? (n : Nat) : Text → Option Text
  | [] => if n = 0 then some [] else none
  | c :: t =>
    if n = 0 then some []
    else if c.utf8Size ≤ n then (takeBytes? (n - c.utf8Size) t).map (c :: ·) else none

def slice? (start stop : Nat) (t : Text) : Option Text :=
  (dropBytes? start t).bind (takeBytes? (stop - start))

theorem dropBytes?_zero (t : Text) : dropBytes? 0 t = some t := by
  cases t <;> simp [dropBytes?]

theorem takeBytes?_zero (t : Text) : takeBytes? 0 t = some [] := by
  cases t <;> simp [takeBytes?]

theorem dropBytes?_append (s t : Text) : dropBytes? s.byteLength (s ++ t) = some t := by
  induction s with
  | nil => exact dropBytes?_zero t
  | cons c s ih =>
    have hc := c.utf8Size_pos
    rw [List.cons_append, byteLength_cons, dropBytes?, if_neg (by omega), if_pos (by omega),
      Nat.add_sub_cancel_left, ih]

theorem takeBytes?_append (s t : Text) : takeBytes? s.byteLength (s ++ t) = some s := by
  induction s with
  | nil => exact takeBytes?_zero t
  | cons c s ih =>
    have hc := c.utf8Size_pos
    rw [List.cons_append, byteLength_cons, takeBytes?, if_neg (by omega), if_pos (by omega),
      Nat.add_sub_cancel_left, ih]
    rfl

theorem slice?_append (s t u : Text) :
    slice? s.byteLength (s.byteLength + t.byteLength) (s ++ (t ++ u)) = some t := by
  rw [slice?, dropBytes?_append, Option.bind_some, Nat.add_sub_cancel_left, takeBytes?_append]

theorem append_inj_of_byteLength {s t u v : Text} (h : s ++ t = u ++ v)
    (hlength : s.byteLength = u.byteLength) : s = u ∧ t = v := by
  have hs : takeBytes? u.byteLength (u ++ v) = some s := by
    rw [← h, ← hlength, takeBytes?_append]
  have ht : dropBytes? u.byteLength (u ++ v) = some t := by
    rw [← h, ← hlength, dropBytes?_append]
  rw [takeBytes?_append] at hs
  rw [dropBytes?_append] at ht
  exact ⟨(Option.some.inj hs).symm, (Option.some.inj ht).symm⟩

end Stanza.Text
