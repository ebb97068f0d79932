import Stanza.Token.Lexer

/-! Where the delimiters of a text stand. They are found from the left and do not overlap, so a
text is a piece without a delimiter, or such a piece, a delimiter and again a text. The cut of the
lexer at a delimiter finds exactly this. -/

namespace Stanza

def Undelimited (t : Text) : Prop := ¬ delimiter <:+: t

/-- A text whose end meets a delimiter before any other does: it holds none, and it does not end
in the first half of one. -/
def EndsAtDelimiter (t : Text) : Prop := Undelimited t ∧ t.getLast? ≠ some '$'

theorem undelimited_nil : Undelimited [] := by
  intro h
  have := h.length_le
  simp [delimiter] at this

theorem undelimited_cons {c : Char} {t : Text} :
    Undelimited (c :: t) ↔ (c = '$' → t.head? ≠ some '$') ∧ Undelimited t := by
  unfold Undelimited
  rw [List.infix_cons_iff, not_or]
  refine and_congr_left fun _ => ?_
  cases t with
  | nil => simp [delimiter]
  | cons d t => simp [delimiter, eq_comm]

theorem endsAtDelimiter_nil : EndsAtDelimiter [] := ⟨undelimited_nil, by simp⟩

theorem endsAtDelimiter_cons {c : Char} {t : Text} :
    EndsAtDelimiter (c :: t) ↔ (c = '$' → (t ++ ['$']).head? ≠ some '$') ∧ EndsAtDelimiter t := by
  unfold EndsAtDelimiter
  rw [undelimited_cons]
  cases t with
  | nil => simp [undelimited_nil]
  | cons d t => simp [and_assoc]

theorem head?_append_delimiter (p r : Text) :
    (p ++ (delimiter ++ r)).head? = (p ++ ['$']).head? := by
  cases p <;> rfl

theorem cutAtDelimiter_nil : cutAtDelimiter [] = ([], none) := by rw [cutAtDelimiter]

theorem cutAtDelimiter_delimiter (r : Text) : cutAtDelimiter (delimiter ++ r) = ([], some r) := by
  rw [delimiter, List.cons_append, List.cons_append, List.nil_append, cutAtDelimiter]

theorem cutAtDelimiter_cons {c : Char} {t : Text} (h : c = '$' → t.head? ≠ some '$') :
    cutAtDelimiter (c :: t) = (c :: (cutAtDelimiter t).1, (cutAtDelimiter t).2) := by
  rw [cutAtDelimiter]
  rintro rest rfl rfl
  exact h rfl rfl

/-- without a delimiter the cut takes all of the text -/
theorem cutAtDelimiter_of_undelimited {t : Text} (h : Undelimited t) :
    cutAtDelimiter t = (t, none) := by
  induction t with
  | nil => exact cutAtDelimiter_nil
  | cons c t ih =>
    obtain ⟨hc, ht⟩ := undelimited_cons.1 h
    rw [cutAtDelimiter_cons hc, ih ht]

/-- the first delimiter is the one that a piece without any meets -/
theorem cutAtDelimiter_of_ends {p : Text} (r : Text) (h : EndsAtDelimiter p) :
    cutAtDelimiter (p ++ (delimiter ++ r)) = (p, some r) := by
  induction p with
  | nil => exact cutAtDelimiter_delimiter r
  | cons c p ih =>
    obtain ⟨hc, hp⟩ := endsAtDelimiter_cons.1 h
    rw [← head?_append_delimiter p r] at hc
    rw [List.cons_append, cutAtDelimiter_cons hc, ih hp]

/-- Every text is a piece without a delimiter, or one that meets a delimiter and some text. -/
theorem undelimited_or_exists_cut (t : Text) :
    Undelimited t ∨ ∃ p r, t = p ++ (delimiter ++ r) ∧ EndsAtDelimiter p := by
  induction t with
  | nil => exact Or.inl undelimited_nil
  | cons c t ih =>
    by_cases hc : c = '$' ∧ t.head? = some '$'
    · obtain ⟨rfl, ht⟩ := hc
      obtain ⟨r, rfl⟩ := List.head?_eq_some_iff.1 ht
      exact Or.inr ⟨[], r, rfl, endsAtDelimiter_nil⟩
    · rw [not_and] at hc
      rcases ih with ht | ⟨p, r, rfl, hp⟩
      · exact Or.inl (undelimited_cons.2 ⟨hc, ht⟩)
      · rw [head?_append_delimiter] at hc
        exact Or.inr ⟨c :: p, r, rfl, endsAtDelimiter_cons.2 ⟨hc, hp⟩⟩

theorem undelimited_iff {t : Text} : Undelimited t ↔ (cutAtDelimiter t).2 = none := by
  rcases undelimited_or_exists_cut t with h | ⟨p, r, rfl, hp⟩
  · simp [h, cutAtDelimiter_of_undelimited h]
  · have h : ¬ Undelimited (p ++ (delimiter ++ r)) := not_not_intro (List.infix_append' _ _ _)
    simp [h, cutAtDelimiter_of_ends r hp]

instance (t : Text) : Decidable (Undelimited t) := decidable_of_iff' _ undelimited_iff

theorem cut_induction {P : Text → Prop} (none : ∀ p, Undelimited p → P p)
    (cut : ∀ p r, EndsAtDelimiter p → P r → P (p ++ (delimiter ++ r))) (t : Text) : P t := by
  obtain ⟨n, hn⟩ : ∃ n, t.length = n := ⟨_, rfl⟩
  induction n using Nat.strongRecOn generalizing t with
  | ind n ih =>
    rcases undelimited_or_exists_cut t with ht | ⟨p, r, rfl, hp⟩
    · exact none t ht
    · refine cut p r hp (ih r.length ?_ r rfl)
      rw [← hn]
      simp only [List.length_append, delimiter, List.length_cons]
      omega

/-- The delimiters of a text come in pairs but for the last one, which may stand alone. -/
theorem delimited_induction {P : Text → Prop} (none : ∀ p, Undelimited p → P p)
    (single : ∀ p q, EndsAtDelimiter p → Undelimited q → P (p ++ (delimiter ++ q)))
    (pair : ∀ p q r, EndsAtDelimiter p → EndsAtDelimiter q → P r →
      P (p ++ (delimiter ++ (q ++ (delimiter ++ r))))) (t : Text) : P t := by
  -- a text and the same text behind one more delimiter go together
  have both : P t ∧ ∀ p, EndsAtDelimiter p → P (p ++ (delimiter ++ t)) := by
    induction t using cut_induction with
    | none q hq => exact ⟨none q hq, fun p hp => single p q hp hq⟩
    | cut q r hq ih => exact ⟨ih.2 q hq, fun p hp => pair p q r hp hq ih.1⟩
  exact both.1

/-- The pieces of a text between its delimiters, which are found from the left and do not
overlap. -/
def pieces : Text → List Text
  | [] => [[]]
  | '$' :: '$' :: rest => [] :: pieces rest
  | c :: rest =>
    match pieces rest with
    | [] => [[c]]
    | p :: ps => (c :: p) :: ps

def delimiterCount : Text → Nat
  | [] => 0
  | '$' :: '$' :: rest => delimiterCount rest + 1
  | _ :: rest => delimiterCount rest

theorem pieces_cons {c : Char} {t p : Text} {ps : List Text} (h : c = '$' → t.head? ≠ some '$')
    (ht : pieces t = p :: ps) : pieces (c :: t) = (c :: p) :: ps := by
  rw [pieces, ht]
  rintro rest rfl rfl
  exact h rfl rfl

theorem delimiterCount_cons {c : Char} {t : Text} (h : c = '$' → t.head? ≠ some '$') :
    delimiterCount (c :: t) = delimiterCount t := by
  rw [delimiterCount]
  rintro rest rfl rfl
  exact h rfl rfl

theorem pieces_of_undelimited {t : Text} (h : Undelimited t) :
    pieces t = [t] ∧ delimiterCount t = 0 := by
  induction t with
  | nil => exact ⟨by rw [pieces], by rw [delimiterCount]⟩
  | cons c t ih =>
    obtain ⟨hc, ht⟩ := undelimited_cons.1 h
    exact ⟨pieces_cons hc (ih ht).1, (delimiterCount_cons hc).trans (ih ht).2⟩

theorem pieces_append {p : Text} (r : Text) (h : EndsAtDelimiter p) :
    pieces (p ++ (delimiter ++ r)) = p :: pieces r ∧
      delimiterCount (p ++ (delimiter ++ r)) = delimiterCount r + 1 := by
  induction p with
  | nil =>
    rw [List.nil_append, delimiter, List.cons_append, List.cons_append, List.nil_append]
    exact ⟨by rw [pieces], by rw [delimiterCount]⟩
  | cons c p ih =>
    obtain ⟨hc, hp⟩ := endsAtDelimiter_cons.1 h
    rw [← head?_append_delimiter p r] at hc
    exact ⟨pieces_cons hc (ih hp).1, (delimiterCount_cons hc).trans (ih hp).2⟩

theorem length_pieces (t : Text) : (pieces t).length = delimiterCount t + 1 := by
  induction t using cut_induction with
  | none p hp =>
    obtain ⟨hp, hn⟩ := pieces_of_undelimited hp
    rw [hp, hn, List.length_singleton]
  | cut p r hp ih =>
    obtain ⟨hp, hn⟩ := pieces_append r hp
    rw [hp, hn, List.length_cons, ih]

/-- The pieces with delimiters between them are the text again. No delimiter stands in a piece,
and every piece but the last meets the delimiter after it before any other. -/
theorem pieces_eq_iff {t : Text} {ps : List Text} (hne : ps ≠ []) :
    pieces t = ps ↔ delimiter.intercalate ps = t ∧ (∀ p ∈ ps.dropLast, EndsAtDelimiter p) ∧
      ∀ p ∈ ps.getLast?, Undelimited p := by
  constructor
  · rintro rfl
    induction t using cut_induction with
    | none p hp => simpa [pieces_of_undelimited hp] using hp
    | cut p r hp ih =>
      obtain ⟨q, qs, hq⟩ : ∃ q qs, pieces r = q :: qs := by
        refine List.exists_cons_of_ne_nil (List.ne_nil_of_length_pos ?_)
        rw [length_pieces]
        omega
      rw [hq] at ih
      obtain ⟨join, ends, last⟩ := ih (List.cons_ne_nil q qs)
      rw [(pieces_append r hp).1, hq]
      refine ⟨?_, ?_, by simpa using last⟩
      · rw [List.intercalate_cons_cons, join]
        simp
      · rw [List.dropLast_cons_cons]
        exact List.forall_mem_cons.2 ⟨hp, ends⟩
  · rintro ⟨rfl, ends, last⟩
    induction ps with
    | nil => exact absurd rfl hne
    | cons p ps ih =>
      cases ps with
      | nil => simpa using (pieces_of_undelimited (last p rfl)).1
      | cons q qs =>
        rw [List.dropLast_cons_cons] at ends
        obtain ⟨hp, ends⟩ := List.forall_mem_cons.1 ends
        rw [List.intercalate_cons_cons, List.append_assoc, (pieces_append _ hp).1,
          ih (List.cons_ne_nil q qs) ends (by simpa using last)]

theorem undelimited_of_mem_pieces {t p : Text} (h : p ∈ pieces t) : Undelimited p := by
  induction t using cut_induction with
  | none q hq =>
    rw [(pieces_of_undelimited hq).1, List.mem_singleton] at h
    exact h ▸ hq
  | cut q r hq ih =>
    rw [(pieces_append r hq).1, List.mem_cons] at h
    rcases h with rfl | h
    · exact hq.1
    · exact ih h

end Stanza
