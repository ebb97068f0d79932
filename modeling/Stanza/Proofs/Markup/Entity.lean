import Stanza.Markup

/-! Entities. Escaping writes an entity for each character that would be read as markup, and
decoding takes the entities back, so a decoded text is the one that was escaped. -/

namespace Stanza.Markup

/-- One character of escaped text, which begins with `c`, and what follows it. An ampersand that
begins no entity stands for itself. -/
def character : Char → Text → Char × Text
  | '&', 'a' :: 'm' :: 'p' :: ';' :: t => ('&', t)
  | '&', 'l' :: 't' :: ';' :: t => ('<', t)
  | '&', 'g' :: 't' :: ';' :: t => ('>', t)
  | '&', 'q' :: 'u' :: 'o' :: 't' :: ';' :: t => ('"', t)
  | c, t => (c, t)

theorem length_character_le (c : Char) (t : Text) : (character c t).2.length ≤ t.length := by
  unfold character
  split <;> simp only [List.length_cons] <;> omega

def decode : Text → Text
  | [] => []
  | c :: t => (character c t).1 :: decode (character c t).2
termination_by t => t.length
decreasing_by exact Nat.lt_succ_of_le (length_character_le c t)

/-- `w` is one character of escaped text that stands for `c`, with no character of markup in it -/
structure Encodes (c : Char) (w : Text) : Prop where
  reads : ∃ d e, w = d :: e ∧ ∀ t, character d (e ++ t) = (c, t)
  plain : '<' ∉ w ∧ '>' ∉ w

theorem character_self {c : Char} (h : c ≠ '&') (t : Text) : character c t = (c, t) := by
  simp [character, h]

theorem encodes_textChar (c : Char) : Encodes c (textChar c) := by
  unfold textChar
  split
  · next h => exact ⟨⟨_, _, rfl, fun t => h ▸ rfl⟩, by decide⟩
  split
  · next h => exact ⟨⟨_, _, rfl, fun t => h ▸ rfl⟩, by decide⟩
  split
  · next h => exact ⟨⟨_, _, rfl, fun t => h ▸ rfl⟩, by decide⟩
  · next hamp hlt hgt => exact ⟨⟨c, [], rfl, character_self hamp⟩, by simp [Ne.symm hlt, Ne.symm hgt]⟩

theorem encodes_valueChar (c : Char) : Encodes c (valueChar c) := by
  unfold valueChar
  split
  · next h => exact ⟨⟨_, _, rfl, fun t => h ▸ rfl⟩, by decide⟩
  · exact encodes_textChar c

theorem decode_flatMap {write : Char → Text} (h : ∀ c, Encodes c (write c)) (t : Text) :
    decode (t.flatMap write) = t := by
  induction t with
  | nil => rw [List.flatMap_nil, decode]
  | cons c t ih =>
    obtain ⟨d, e, hw, hread⟩ := (h c).reads
    rw [List.flatMap_cons, hw, List.cons_append, decode, hread, ih]

theorem decode_escapeText (t : Text) : decode (escapeText t) = t := decode_flatMap encodes_textChar t

theorem decode_escapeValue (t : Text) : decode (escapeValue t) = t :=
  decode_flatMap encodes_valueChar t

theorem quote_not_mem_valueChar (c : Char) : '"' ∉ valueChar c := by
  unfold valueChar textChar
  split
  · decide
  next hquote =>
  split
  · decide
  split
  · decide
  split
  · decide
  · simpa [eq_comm] using hquote

/-- What is escaped for an attribute holds nothing that ends the attribute or its tag. -/
theorem not_mem_escapeValue (t : Text) :
    '"' ∉ escapeValue t ∧ '<' ∉ escapeValue t ∧ '>' ∉ escapeValue t := by
  refine ⟨?_, ?_, ?_⟩
  · intro h
    obtain ⟨c, -, hc⟩ := List.mem_flatMap.1 h
    exact quote_not_mem_valueChar c hc
  · intro h
    obtain ⟨c, -, hc⟩ := List.mem_flatMap.1 h
    exact (encodes_valueChar c).plain.1 hc
  · intro h
    obtain ⟨c, -, hc⟩ := List.mem_flatMap.1 h
    exact (encodes_valueChar c).plain.2 hc

def special : Text := ['&', '<', '>', '"']

theorem escapeValue_eq_self {t : Text} (h : ∀ c ∈ t, c ∉ special) : escapeValue t = t := by
  induction t with
  | nil => rfl
  | cons c t ih =>
    obtain ⟨hc, ht⟩ := List.forall_mem_cons.1 h
    have hself : valueChar c = [c] := by
      simp only [special, List.mem_cons, List.not_mem_nil, or_false, not_or] at hc
      simp [valueChar, textChar, hc]
    have hrest := ih ht
    rw [escapeValue] at hrest ⊢
    rw [List.flatMap_cons, hself, hrest]
    rfl

end Stanza.Markup
