import Stanza.Proofs.Text.Run
import Stanza.Proofs.Token.Delimited

/-! What the lexer reads, said without the lexer. A lexeme fits before a text when the lexer takes
just that lexeme from its source and the text together. Lexemes are readable when each fits before
the sources of those after it. A text has exactly one list of readable lexemes that make it up,
and this is the list that the lexer answers. -/

namespace Stanza

theorem dollar_in_no_run : Text.isLetter '$' = false ∧ Text.isBlank '$' = false := by decide

theorem colon_in_no_run : Text.isLetter ':' = false ∧ Text.isBlank ':' = false := by decide

namespace Lexeme

/-- The lexeme is what the lexer takes first from its source and then `r`. -/
def Fits (r : Text) : Lexeme → Prop
  | literal body true => EndsAtDelimiter body
  | literal body false => Undelimited body ∧ r = []
  | marker => True
  | letters run => IsRun Text.isLetter run r
  | blanks run => IsRun Text.isBlank run r
  | single c => Text.isLetter c = false ∧ Text.isBlank c = false ∧
      (c = '$' → r.head? ≠ some '$') ∧ (c = ':' → ¬ [':', '='] <+: r)

theorem Fits.source_ne_nil {l : Lexeme} {r : Text} (h : l.Fits r) : l.source ≠ [] := by
  cases l with
  | literal body closed => cases closed <;> simp [source, delimiter]
  | marker => simp [source, definitionMarker]
  | letters run => exact h.1
  | blanks run => exact h.1
  | single c => simp [source]

theorem literalIn_fits (rest : Text) : (literalIn rest).1.Fits (literalIn rest).2 := by
  unfold literalIn
  rcases undelimited_or_exists_cut rest with h | ⟨p, r, rfl, hp⟩
  · rw [cutAtDelimiter_of_undelimited h]
    exact ⟨h, rfl⟩
  · rw [cutAtDelimiter_of_ends r hp]
    exact hp

/-- The lexer takes lexemes that fit. -/
theorem first_fits (c : Char) (rest : Text) : (first c rest).1.Fits (first c rest).2 := by
  unfold first
  split
  · next hl => exact isRun_takeWhile hl rest
  split
  · next hb => exact isRun_takeWhile hb rest
  next hl hb =>
  split
  · exact literalIn_fits _
  · trivial
  · next hdollar hcolon =>
    refine ⟨by simpa using hl, by simpa using hb, ?_, ?_⟩
    · rintro rfl h
      obtain ⟨r, rfl⟩ := List.head?_eq_some_iff.1 h
      exact hdollar r rfl rfl
    · rintro rfl ⟨r, rfl⟩
      exact hcolon r rfl rfl

/-- The lexer takes every lexeme that fits. -/
theorem Fits.first_eq {l : Lexeme} {r : Text} (h : l.Fits r) {c : Char} {rest : Text}
    (ht : l.source ++ r = c :: rest) : first c rest = (l, r) := by
  cases l with
  | literal body closed =>
    cases closed with
    | true =>
      obtain ⟨rfl, rfl⟩ : '$' = c ∧ '$' :: (body ++ (delimiter ++ r)) = rest := by
        simpa [source, delimiter] using ht
      simp [first, dollar_in_no_run, literalIn, cutAtDelimiter_of_ends r h]
    | false =>
      obtain ⟨hb, rfl⟩ := h
      obtain ⟨rfl, rfl⟩ : '$' = c ∧ '$' :: body = rest := by
        simpa [source, delimiter] using ht
      simp [first, dollar_in_no_run, literalIn, cutAtDelimiter_of_undelimited hb]
  | marker =>
    obtain ⟨rfl, rfl⟩ : ':' = c ∧ ':' :: '=' :: r = rest := by
      simpa [source, definitionMarker] using ht
    simp [first, colon_in_no_run]
  | letters run =>
    obtain ⟨hne, hrun, hr⟩ := h
    obtain ⟨d, run, rfl⟩ := List.exists_cons_of_ne_nil hne
    obtain ⟨rfl, rfl⟩ : d = c ∧ run ++ r = rest := by simpa [source] using ht
    obtain ⟨hd, hrun⟩ := List.forall_mem_cons.1 hrun
    unfold first
    rw [if_pos hd, takeWhile_run hrun hr, dropWhile_run hrun hr]
  | blanks run =>
    obtain ⟨hne, hrun, hr⟩ := h
    obtain ⟨d, run, rfl⟩ := List.exists_cons_of_ne_nil hne
    obtain ⟨rfl, rfl⟩ : d = c ∧ run ++ r = rest := by simpa [source] using ht
    obtain ⟨hd, hrun⟩ := List.forall_mem_cons.1 hrun
    unfold first
    rw [if_neg (by simp [Text.not_isLetter_of_isBlank hd]), if_pos hd, takeWhile_run hrun hr,
      dropWhile_run hrun hr]
  | single d =>
    obtain ⟨hl, hb, hdollar, hcolon⟩ := h
    obtain ⟨rfl, rfl⟩ : d = c ∧ r = rest := by simpa [source] using ht
    unfold first
    rw [if_neg (by simp [hl]), if_neg (by simp [hb])]
    split
    · exact absurd rfl (hdollar rfl)
    · exact absurd ⟨_, rfl⟩ (hcolon rfl)
    · rfl

end Lexeme

theorem lexemes_nil : lexemes [] = [] := by rw [lexemes]

theorem lexemes_cons (c : Char) (rest : Text) :
    lexemes (c :: rest) = (Lexeme.first c rest).1 :: lexemes (Lexeme.first c rest).2 := by
  rw [lexemes]

/-- one step of the lexer, in both directions -/
theorem lexemes_source_append {l : Lexeme} {r : Text} (h : l.Fits r) :
    lexemes (l.source ++ r) = l :: lexemes r := by
  obtain ⟨c, rest, hc⟩ := List.exists_cons_of_ne_nil
    (List.append_ne_nil_of_left_ne_nil h.source_ne_nil r)
  rw [hc, lexemes_cons, h.first_eq hc]

/-- Whatever holds of the empty text, and of a text when it holds of what follows the first lexeme,
holds of every text. -/
theorem lexeme_induction {P : Text → Prop} (nil : P [])
    (cons : ∀ (l : Lexeme) (r : Text), l.Fits r → P r → P (l.source ++ r)) (t : Text) : P t := by
  fun_induction lexemes t with
  | case1 => exact nil
  | case2 c rest ih =>
    rw [← Lexeme.first_append]
    exact cons _ _ (Lexeme.first_fits c rest) ih

def sources (ls : List Lexeme) : Text := ls.flatMap Lexeme.source

@[simp] theorem sources_nil : sources [] = [] := rfl

@[simp] theorem sources_cons (l : Lexeme) (ls : List Lexeme) :
    sources (l :: ls) = l.source ++ sources ls := rfl

@[simp] theorem sources_append (xs ys : List Lexeme) : sources (xs ++ ys) = sources xs ++ sources ys :=
  List.flatMap_append

/-- each lexeme fits before the sources of those after it and then `r` -/
def Readable (r : Text) : List Lexeme → Prop
  | [] => True
  | l :: ls => l.Fits (sources ls ++ r) ∧ Readable r ls

theorem readable_cons {l : Lexeme} {ls : List Lexeme} :
    Readable [] (l :: ls) ↔ l.Fits (sources ls) ∧ Readable [] ls := by
  rw [Readable, List.append_nil]

theorem readable_append {r : Text} {xs ys : List Lexeme} :
    Readable r (xs ++ ys) ↔ Readable (sources ys ++ r) xs ∧ Readable r ys := by
  induction xs with
  | nil => simp [Readable]
  | cons l ls ih =>
    simp only [List.cons_append, Readable, ih, sources_append, List.append_assoc, and_assoc]

/-- Nothing of the text is lost. -/
theorem sources_lexemes (t : Text) : sources (lexemes t) = t := by
  induction t using lexeme_induction with
  | nil => rw [lexemes_nil, sources_nil]
  | cons l r hl ih => rw [lexemes_source_append hl, sources_cons, ih]

theorem readable_lexemes (t : Text) : Readable [] (lexemes t) := by
  induction t using lexeme_induction with
  | nil => rw [lexemes_nil]; trivial
  | cons l r hl ih =>
    rw [lexemes_source_append hl, readable_cons, sources_lexemes]
    exact ⟨hl, ih⟩

theorem lexemes_sources {ls : List Lexeme} (h : Readable [] ls) : lexemes (sources ls) = ls := by
  induction ls with
  | nil => exact lexemes_nil
  | cons l ls ih =>
    obtain ⟨hl, hls⟩ := readable_cons.1 h
    rw [sources_cons, lexemes_source_append hl, ih hls]

/-- what is known of one lexeme of a text, between those before and after it -/
theorem lexemes_split {t : Text} {pre post : List Lexeme} {l : Lexeme}
    (h : lexemes t = pre ++ l :: post) :
    t = sources pre ++ (l.source ++ sources post) ∧ l.Fits (sources post) ∧ Readable [] post := by
  obtain ⟨hsource, hread⟩ : sources (pre ++ l :: post) = t ∧ Readable [] (pre ++ l :: post) :=
    h ▸ ⟨sources_lexemes t, readable_lexemes t⟩
  obtain ⟨-, hl, hpost⟩ := readable_append.1 hread
  rw [List.append_nil] at hl
  rw [sources_append, sources_cons] at hsource
  exact ⟨hsource.symm, hl, hpost⟩

/-- The lexemes of a text are the readable ones that make it up. -/
theorem lexemes_eq_iff {t : Text} {ls : List Lexeme} :
    lexemes t = ls ↔ sources ls = t ∧ Readable [] ls := by
  constructor
  · rintro rfl
    exact ⟨sources_lexemes t, readable_lexemes t⟩
  · rintro ⟨rfl, h⟩
    exact lexemes_sources h

end Stanza
