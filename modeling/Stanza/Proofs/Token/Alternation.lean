import Stanza.Proofs.Token.Seam
import Stanza.Proofs.Token.Spans

/-! Literals and the text between them. The pieces of a text between its delimiters lie outside and
inside of literals by turns: those outside are read as if each stood alone, and each inside is one
literal. The last literal lacks its closing delimiter when the delimiters do not come in pairs. -/

namespace Stanza

theorem Lexeme.delimiter_prefix_literal (body : Text) (closed : Bool) :
    delimiter <+: (literal body closed).source := by
  cases closed
  · exact List.prefix_append _ _
  · exact (List.prefix_append _ _).trans (List.prefix_append _ _)

theorem source_infix_of_mem {l : Lexeme} {t : Text} (h : l ∈ lexemes t) : l.source <:+: t := by
  obtain ⟨pre, post, hl⟩ := List.append_of_mem h
  rw [(lexemes_split hl).1]
  exact List.infix_append' _ _ _

/-- No literal stands where no delimiter does. -/
theorem kind_ne_literal {t : Text} (ht : Undelimited t) {l : Lexeme} (h : l ∈ lexemes t) :
    l.token.kind ≠ .literal := by
  cases l with
  | literal body closed =>
    have hd := (Lexeme.delimiter_prefix_literal body closed).isInfix
    exact absurd (hd.trans (source_infix_of_mem h)) ht
  | marker => exact Kind.noConfusion
  | letters run => exact Kind.noConfusion
  | blanks run => exact Kind.noConfusion
  | single c => exact Kind.noConfusion

theorem endsRun_delimiter {p : Char → Bool} (h : p '$' = false) (r : Text) :
    EndsRun p (delimiter ++ r) := by
  intro c hc
  obtain rfl : '$' = c := by simpa [delimiter] using hc
  exact h

/-- Nothing outside of literals reaches into the next delimiter. -/
theorem cleanSeam_delimiter {p : Text} (hp : EndsAtDelimiter p) (r : Text) :
    CleanSeam (lexemes p) (delimiter ++ r) := by
  refine ⟨fun l hl => ?_, fun _ => by simp [delimiter]⟩
  obtain ⟨init, hinit⟩ := List.getLast?_eq_some_iff.1 hl
  have hmem : l ∈ lexemes p := by rw [hinit]; simp
  obtain ⟨hsource, hfits, -⟩ := lexemes_split hinit
  cases l with
  | literal body closed => exact absurd rfl (kind_ne_literal hp.1 hmem)
  | marker => trivial
  | letters run => exact ⟨hfits.1, hfits.2.1, endsRun_delimiter dollar_in_no_run.1 r⟩
  | blanks run => exact ⟨hfits.1, hfits.2.1, endsRun_delimiter dollar_in_no_run.2 r⟩
  | single c =>
    refine ⟨hfits.1, hfits.2.1, ?_, ?_⟩
    · rintro rfl
      refine absurd ?_ hp.2
      rw [hsource]
      exact List.getLast?_concat
    · rintro rfl h
      simp [delimiter] at h

theorem lexemes_append_delimiter {p : Text} (hp : EndsAtDelimiter p) (r : Text) :
    lexemes (p ++ (delimiter ++ r)) = lexemes p ++ lexemes (delimiter ++ r) :=
  (lexemes_append_iff p (delimiter ++ r)).2 (cleanSeam_delimiter hp r)

theorem lexemes_single {p q : Text} (hp : EndsAtDelimiter p) (hq : Undelimited q) :
    lexemes (p ++ (delimiter ++ q)) = lexemes p ++ [.literal q false] := by
  have h := lexemes_source_append (l := .literal q false) (r := []) ⟨hq, rfl⟩
  rw [List.append_nil, lexemes_nil] at h
  rw [lexemes_append_delimiter hp]
  exact congrArg _ h

theorem lexemes_pair {p q : Text} (hp : EndsAtDelimiter p) (hq : EndsAtDelimiter q) (r : Text) :
    lexemes (p ++ (delimiter ++ (q ++ (delimiter ++ r)))) =
      lexemes p ++ .literal q true :: lexemes r := by
  have h := lexemes_source_append (l := .literal q true) (r := r) hq
  rw [lexemes_append_delimiter hp, ← h]
  simp [Lexeme.source]

/-- the tokens of pieces that lie outside and inside of literals by turns -/
def tokensByTurns (ps : List Text) : List Token :=
  (ps.mapIdx fun i p => if i % 2 = 0 then lex p else [⟨.literal, p⟩]).flatten

theorem tokensByTurns_cons_cons (p q : Text) (ps : List Text) :
    tokensByTurns (p :: q :: ps) = lex p ++ ⟨.literal, q⟩ :: tokensByTurns ps := by
  have parity (i : Nat) : (i + 1 + 1) % 2 = i % 2 := by omega
  simp [tokensByTurns, List.mapIdx_cons, parity]

theorem lex_eq_tokensByTurns (t : Text) : lex t = tokensByTurns (pieces t) := by
  induction t using delimited_induction with
  | none p hp =>
    rw [(pieces_of_undelimited hp).1]
    simp [tokensByTurns]
  | single p q hp hq =>
    rw [(pieces_append q hp).1, (pieces_of_undelimited hq).1, tokensByTurns_cons_cons, lex,
      lexemes_single hp hq, List.map_append]
    rfl
  | pair p q r hp hq ih =>
    rw [(pieces_append _ hp).1, (pieces_append r hq).1, tokensByTurns_cons_cons, ← ih, lex,
      lexemes_pair hp hq, List.map_append]
    rfl

def lastLiteral? (xs : List Spanned) : Option Spanned :=
  (xs.filter fun x => x.token.kind = .literal).getLast?

theorem lastLiteral?_of_undelimited {t : Text} (ht : Undelimited t) (start : Nat) :
    lastLiteral? (Lexeme.spans start (lexemes t)) = none := by
  rw [lastLiteral?, List.getLast?_eq_none_iff, List.filter_eq_nil_iff]
  intro x hx
  obtain ⟨pre, l, post, hl, rfl⟩ := Lexeme.exists_of_mem_spans hx
  have hmem : l ∈ lexemes t := by rw [hl]; simp
  rw [Lexeme.token_span, decide_eq_true_iff]
  exact kind_ne_literal ht hmem

theorem lastLiteral?_append_cons (xs ys : List Spanned) {x : Spanned}
    (hx : x.token.kind = .literal) :
    lastLiteral? (xs ++ x :: ys) = some ((lastLiteral? ys).getD x) := by
  simp [lastLiteral?, hx, List.getLast?_append, List.getLast?_cons]

/-- Only a delimiter without a partner leaves the last literal open. -/
theorem unclosed_lastLiteral?_iff (t : Text) (start : Nat) :
    (∃ x ∈ lastLiteral? (Lexeme.spans start (lexemes t)), x.Unclosed) ↔
      delimiterCount t % 2 = 1 := by
  induction t using delimited_induction generalizing start with
  | none p hp => simp [lastLiteral?_of_undelimited hp, (pieces_of_undelimited hp).2]
  | single p q hp hq =>
    rw [(pieces_append q hp).2, (pieces_of_undelimited hq).2, lexemes_single hp hq,
      Lexeme.spans_append, Lexeme.spans_cons, lastLiteral?_append_cons _ _ rfl]
    simp [Lexeme.spans, lastLiteral?, Lexeme.unclosed_span_literal]
  | pair p q r hp hq ih =>
    rw [(pieces_append _ hp).2, (pieces_append r hq).2, lexemes_pair hp hq, Lexeme.spans_append,
      Lexeme.spans_cons, lastLiteral?_append_cons _ _ rfl, show
      (delimiterCount r + 1 + 1) % 2 = delimiterCount r % 2 by omega, ← ih]
    -- the closed literal counts only where no literal follows it
    cases lastLiteral? (Lexeme.spans _ (lexemes r)) with
    | none => simp [Lexeme.closed_span_literal]
    | some y => simp

/-- Reading goes by turns: every even piece between the delimiters gives the tokens that it has
alone, none of them a literal, and every odd one, even an empty one, is the text of one literal.
The last literal is unclosed exactly when the number of delimiters is odd. -/
theorem lex_by_turns (t : Text) :
    lex t = ((pieces t).mapIdx fun i p => if i % 2 = 0 then lex p else [⟨.literal, p⟩]).flatten ∧
      (∀ p ∈ pieces t, ∀ token ∈ lex p, token.kind ≠ .literal) ∧
      ((∃ x ∈ lastLiteral? (lexSpans t), x.Unclosed) ↔ delimiterCount t % 2 = 1) := by
  refine ⟨lex_eq_tokensByTurns t, ?_, unclosed_lastLiteral?_iff t 0⟩
  intro p hp token htoken
  obtain ⟨l, hl, rfl⟩ := List.mem_map.1 htoken
  exact kind_ne_literal (undelimited_of_mem_pieces hp) hl

/-- the third delimiter of `a$$$$$$b$` is left open -/
theorem unclosed_lastLiteral?_third :
    delimiterCount "a$$$$$$b$".toList = 3 ∧
      ∃ x ∈ lastLiteral? (lexSpans "a$$$$$$b$".toList), x.Unclosed :=
  ⟨by decide, (lex_by_turns _).2.2.2 (by decide)⟩

end Stanza
