/-! Membership of a code point in a list of ranges. The lists that describe classes of characters
are increasing, so a search may stop at the first range that begins past the code point. -/

namespace Stanza.Text

/-- Whether `n` lies in one of the ranges, both ends included, of an increasing list. -/
def inRanges : List (Nat × Nat) → Nat → Bool
  | [], _ => false
  | (first, last) :: ranges, n => if n < first then false else n ≤ last || inRanges ranges n

def Increasing : List (Nat × Nat) → Prop
  | (first, last) :: (next, stop) :: ranges =>
    first ≤ last ∧ last < next ∧ Increasing ((next, stop) :: ranges)
  | [(first, last)] => first ≤ last
  | [] => True

instance decidableIncreasing : (ranges : List (Nat × Nat)) → Decidable (Increasing ranges)
  | [] => .isTrue trivial
  | [r] => inferInstanceAs (Decidable (r.1 ≤ r.2))
  | r :: s :: ranges =>
    have := decidableIncreasing (s :: ranges)
    inferInstanceAs (Decidable (r.1 ≤ r.2 ∧ r.2 < s.1 ∧ Increasing (s :: ranges)))

theorem Increasing.tail {r : Nat × Nat} {ranges : List (Nat × Nat)}
    (h : Increasing (r :: ranges)) : Increasing ranges := by
  cases ranges with
  | nil => trivial
  | cons s ranges => exact h.2.2

/-- The ends of a range that follows `r` in an increasing list lie past `r`. -/
theorem Increasing.lt_of_mem {r s : Nat × Nat} {ranges : List (Nat × Nat)}
    (h : Increasing (r :: ranges)) (hs : s ∈ ranges) : r.2 < s.1 := by
  induction ranges generalizing r with
  | nil => cases hs
  | cons t ranges ih =>
    have hrt : r.2 < t.1 := h.2.1
    rcases List.mem_cons.1 hs with rfl | hs
    · exact hrt
    · have htt : t.1 ≤ t.2 := by
        cases ranges with
        | nil => exact h.2.2
        | cons u ranges => exact h.2.2.1
      have := ih h.tail hs
      omega

/-- In an increasing list the early stop misses nothing. -/
theorem inRanges_iff {ranges : List (Nat × Nat)} (h : Increasing ranges) (n : Nat) :
    inRanges ranges n = true ↔ ∃ r ∈ ranges, r.1 ≤ n ∧ n ≤ r.2 := by
  induction ranges with
  | nil => simp [inRanges]
  | cons r ranges ih =>
    have hih := ih h.tail
    by_cases hn : n < r.1
    · simp only [inRanges, if_pos hn, Bool.false_eq_true, false_iff]
      rintro ⟨s, hs, h1, h2⟩
      rcases List.mem_cons.1 hs with rfl | hs
      · omega
      · have := h.lt_of_mem hs
        have : r.1 ≤ r.2 := by
          cases ranges with
          | nil => exact h
          | cons u ranges => exact h.1
        omega
    · simp only [inRanges, if_neg hn, Bool.or_eq_true, decide_eq_true_eq, hih, List.mem_cons]
      constructor
      · rintro (h2 | ⟨s, hs, hb⟩)
        · exact ⟨r, .inl rfl, by omega, h2⟩
        · exact ⟨s, .inr hs, hb⟩
      · rintro ⟨s, rfl | hs, h1, h2⟩
        · exact .inl h2
        · exact .inr ⟨s, hs, h1, h2⟩

end Stanza.Text
