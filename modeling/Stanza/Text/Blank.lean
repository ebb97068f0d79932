import Stanza.Text.Letter

/-! Blank characters: the property White_Space and, where a stanza is cut into tokens, the four
information separators. No blank is a letter. -/

namespace Stanza.Text

set_option maxRecDepth 8192

/-- Ranges of the property White_Space. -/
def whiteSpaceRanges : List (Nat × Nat) :=
  [(0x9, 0xD), (0x20, 0x20), (0x85, 0x85), (0xA0, 0xA0), (0x1680, 0x1680), (0x2000, 0x200A),
   (0x2028, 0x2029), (0x202F, 0x202F), (0x205F, 0x205F), (0x3000, 0x3000)]

def isWhiteSpace (c : Char) : Bool := inRanges whiteSpaceRanges c.toNat

/-- White space or one of the separators U+001C to U+001F. -/
def isBlank (c : Char) : Bool := isWhiteSpace c || inRanges [(0x1C, 0x1F)] c.toNat

theorem isBlank_iff (c : Char) :
    isBlank c = true ↔ (0x9 ≤ c.toNat ∧ c.toNat ≤ 0xD) ∨ (0x1C ≤ c.toNat ∧ c.toNat ≤ 0x20) ∨
      c.toNat = 0x85 ∨ c.toNat = 0xA0 ∨ c.toNat = 0x1680 ∨
      (0x2000 ≤ c.toNat ∧ c.toNat ≤ 0x200A) ∨ c.toNat = 0x2028 ∨ c.toNat = 0x2029 ∨
      c.toNat = 0x202F ∨ c.toNat = 0x205F ∨ c.toNat = 0x3000 := by
  have h := inRanges_iff (show Increasing whiteSpaceRanges by decide) c.toNat
  have h' := inRanges_iff (show Increasing [(0x1C, 0x1F)] by decide) c.toNat
  rw [isBlank, isWhiteSpace, Bool.or_eq_true, h, h']
  simp only [whiteSpaceRanges, List.mem_cons, List.not_mem_nil, or_false, exists_eq_or_imp,
    exists_eq_left]
  omega

theorem not_isLetter_of_isBlank {c : Char} (h : isBlank c = true) : isLetter c = false := by
  rw [isBlank_iff] at h
  have codes : ∀ n ∈ [0x9, 0xA, 0xB, 0xC, 0xD, 0x1C, 0x1D, 0x1E, 0x1F, 0x20, 0x85, 0xA0, 0x1680,
      0x2000, 0x2001, 0x2002, 0x2003, 0x2004, 0x2005, 0x2006, 0x2007, 0x2008, 0x2009, 0x200A,
      0x2028, 0x2029, 0x202F, 0x205F, 0x3000], inRanges letterRanges n = false := by decide
  refine codes c.toNat ?_
  simp only [List.mem_cons, List.not_mem_nil, or_false]
  omega

end Stanza.Text
