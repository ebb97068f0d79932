import Stanza.Proofs.Token.Range
import Stanza.Proofs.Token.Spans

/-! Which texts have the same tokens. The tokens of a text are written as the text again, except
that a literal left open at the end gets the delimiter that closes it. So nothing is forgotten but
whether a last literal that can be closed is closed. -/

namespace Stanza

/-- The text ends in a literal that is open, and that a delimiter put after the text would close. -/
def EndsOpen (t : Text) : Prop :=
  ∃ x ∈ (lexSpans t).getLast?, x.IsOpen ∧ x.token.text.getLast? ≠ some '$'

instance (t : Text) : Decidable (EndsOpen t) :=
  inferInstanceAs (Decidable (∃ x ∈ (lexSpans t).getLast?, _))

def Lexeme.Closable (l : Lexeme) : Prop := ∃ body, l = literal body false ∧ body.getLast? ≠ some '$'

theorem endsOpen_iff {t : Text} {init : List Lexeme} {l : Lexeme} (h : lexemes t = init ++ [l]) :
    EndsOpen t ↔ l.Closable := by
  simp only [EndsOpen, getLast?_lexSpans h, Option.mem_def, Option.some.injEq, exists_eq_left',
    Lexeme.isOpen_span_iff]
  constructor
  · rintro ⟨⟨body, rfl⟩, hd⟩
    exact ⟨body, rfl, hd⟩
  · rintro ⟨body, rfl, hd⟩
    exact ⟨⟨body, rfl⟩, hd⟩

theorem Lexeme.Fits.written_token {l : Lexeme} {r : Text} (h : l.Fits r) (hr : r ≠ []) :
    l.token.written = l.source := by
  cases l with
  | literal body closed =>
    cases closed with
    | true => simp [token, Token.written, source, h.2]
    | false => exact absurd h.2 hr
  | _ => rfl

/-- At the end of a text a literal that can be closed is written closed. -/
theorem Lexeme.Fits.written_last {l : Lexeme} (h : l.Fits []) :
    l.Closable ∧ l.token.written = l.source ++ delimiter ∨
      ¬ l.Closable ∧ l.token.written = l.source := by
  cases l with
  | literal body closed =>
    cases closed with
    | true => simp [Closable, token, Token.written, source, h.2]
    | false =>
      by_cases hd : body.getLast? = some '$'
      · simp [Closable, token, Token.written, source, hd]
      · simp [Closable, token, Token.written, source, hd]
  | _ => simp [Closable, token, Token.written, source]

theorem Readable.written_tokens {r : Text} {ls : List Lexeme} (h : Readable r ls) (hr : r ≠ []) :
    written (ls.map Lexeme.token) = sources ls := by
  induction ls with
  | nil => rfl
  | cons l ls ih =>
    have hl := h.1.written_token (List.append_ne_nil_of_right_ne_nil _ hr)
    have hls := ih h.2
    rw [written] at hls ⊢
    rw [List.map_cons, List.flatMap_cons, hl, hls, sources_cons]

/-- Writing the tokens of a text gives the text, with its last literal closed where it can be. -/
theorem written_lex (t : Text) : written (lex t) = if EndsOpen t then t ++ delimiter else t := by
  by_cases ht : t = []
  · have h : ¬ EndsOpen [] := by simp [EndsOpen, lexSpans, lexemes_nil, Lexeme.spans]
    rw [ht, if_neg h, lex, lexemes_nil]
    rfl
  · obtain ⟨init, l, hl⟩ := exists_last_lexeme ht
    obtain ⟨hsource, hfits, -⟩ := lexemes_split hl
    -- only the last lexeme can be an open literal: the others have text after them
    have hread : Readable [] (init ++ [l]) := hl ▸ readable_lexemes t
    have hinit : written (init.map Lexeme.token) = sources init :=
      (readable_append.1 hread).1.written_tokens (by simpa using hfits.source_ne_nil)
    have hwritten : written (lex t) = sources init ++ l.token.written := by
      rw [← hinit, lex, hl]
      simp [written]
    rw [sources_nil, List.append_nil] at hsource
    rcases hfits.written_last with ⟨hopen, hw⟩ | ⟨hclosed, hw⟩
    · rw [if_pos ((endsOpen_iff hl).2 hopen), hwritten, hw, ← List.append_assoc, ← hsource]
    · rw [if_neg (mt (endsOpen_iff hl).1 hclosed), hwritten, hw, ← hsource]

/-- A delimiter put after a text that it closes leaves the tokens as they are. -/
theorem lex_append_delimiter {t : Text} (h : EndsOpen t) : lex (t ++ delimiter) = lex t := by
  have hwritten := written_lex t
  rw [if_pos h] at hwritten
  rw [← hwritten]
  exact (readable_lexemes t).wellFormed.lex_written

theorem lex_eq_lex_iff (a b : Text) :
    lex a = lex b ↔
      a = b ∨ (b = a ++ delimiter ∧ EndsOpen a) ∨ (a = b ++ delimiter ∧ EndsOpen b) := by
  constructor
  · intro h
    have hwritten : written (lex a) = written (lex b) := by rw [h]
    rw [written_lex, written_lex] at hwritten
    by_cases ha : EndsOpen a
    · by_cases hb : EndsOpen b
      · rw [if_pos ha, if_pos hb] at hwritten
        exact Or.inl (List.append_cancel_right hwritten)
      · rw [if_pos ha, if_neg hb] at hwritten
        exact Or.inr (Or.inl ⟨hwritten.symm, ha⟩)
    · by_cases hb : EndsOpen b
      · rw [if_neg ha, if_pos hb] at hwritten
        exact Or.inr (Or.inr ⟨hwritten, hb⟩)
      · rw [if_neg ha, if_neg hb] at hwritten
        exact Or.inl hwritten
  · rintro (rfl | ⟨rfl, ha⟩ | ⟨rfl, hb⟩)
    · rfl
    · exact (lex_append_delimiter ha).symm
    · exact lex_append_delimiter hb

end Stanza
