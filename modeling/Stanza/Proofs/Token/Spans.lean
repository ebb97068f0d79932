import Stanza.Proofs.Token.Readable

/-! Where the spans of lexemes lie. A span is known by the lexemes before its own, and its width
tells whether a literal is closed. -/

namespace Stanza

namespace Spanned

/-- the span has room for the text and two delimiters -/
def Closed (x : Spanned) : Prop := x.stop = x.start + (x.token.text.byteLength + 4)

def Unclosed (x : Spanned) : Prop := x.stop = x.start + (x.token.text.byteLength + 2)

/-- a literal that lacks its closing delimiter -/
def IsOpen (x : Spanned) : Prop := x.token.kind = .literal ∧ x.Unclosed

def shift (n : Nat) (x : Spanned) : Spanned := ⟨x.token, n + x.start, n + x.stop⟩

instance (x : Spanned) : Decidable x.IsOpen :=
  inferInstanceAs (Decidable (_ ∧ x.stop = x.start + (x.token.text.byteLength + 2)))

end Spanned

namespace Lexeme

def span (start : Nat) (l : Lexeme) : Spanned := ⟨l.token, start, start + l.source.byteLength⟩

@[simp] theorem token_span (start : Nat) (l : Lexeme) : (l.span start).token = l.token := rfl

theorem spans_cons (start : Nat) (l : Lexeme) (ls : List Lexeme) :
    spans start (l :: ls) = l.span start :: spans (start + l.source.byteLength) ls := rfl

theorem spans_append (start : Nat) (xs ys : List Lexeme) :
    spans start (xs ++ ys) = spans start xs ++ spans (start + (sources xs).byteLength) ys := by
  induction xs generalizing start with
  | nil => rfl
  | cons l xs ih =>
    rw [List.cons_append, spans_cons, spans_cons, ih, sources_cons, Text.byteLength_append,
      Nat.add_assoc, List.cons_append]

theorem spans_shift (n start : Nat) (ls : List Lexeme) :
    spans (n + start) ls = (spans start ls).map (Spanned.shift n) := by
  induction ls generalizing start with
  | nil => rfl
  | cons l ls ih =>
    rw [spans_cons, spans_cons, List.map_cons, Nat.add_assoc, ih]
    simp [Spanned.shift, span, Nat.add_assoc]

theorem token_spans (start : Nat) (ls : List Lexeme) :
    (spans start ls).map Spanned.token = ls.map token := by
  induction ls generalizing start with
  | nil => rfl
  | cons l ls ih => rw [spans_cons, List.map_cons, List.map_cons, ih]; rfl

/-- The span at a place is that of the lexeme there, behind the sources of the lexemes before it. -/
theorem exists_of_getElem?_spans {start i : Nat} {ls : List Lexeme} {x : Spanned}
    (h : (spans start ls)[i]? = some x) :
    ∃ pre l post, ls = pre ++ l :: post ∧ pre.length = i ∧
      x = l.span (start + (sources pre).byteLength) := by
  induction ls generalizing start i with
  | nil => cases h
  | cons l ls ih =>
    rw [spans_cons] at h
    cases i with
    | zero =>
      obtain rfl : l.span start = x := Option.some.inj h
      exact ⟨[], l, ls, rfl, rfl, rfl⟩
    | succ i =>
      obtain ⟨pre, m, post, rfl, rfl, rfl⟩ := ih h
      refine ⟨l :: pre, m, post, rfl, rfl, ?_⟩
      rw [sources_cons, Text.byteLength_append, Nat.add_assoc]

theorem exists_of_mem_spans {start : Nat} {ls : List Lexeme} {x : Spanned} (h : x ∈ spans start ls) :
    ∃ pre l post, ls = pre ++ l :: post ∧ x = l.span (start + (sources pre).byteLength) := by
  obtain ⟨i, hi⟩ := List.getElem?_of_mem h
  obtain ⟨pre, l, post, hls, -, hx⟩ := exists_of_getElem?_spans hi
  exact ⟨pre, l, post, hls, hx⟩

theorem byteLength_delimiter : delimiter.byteLength = 2 := rfl

theorem closed_span_literal (start : Nat) (body : Text) :
    ((literal body true).span start).Closed ∧ ¬ ((literal body true).span start).Unclosed := by
  have h : (literal body true).source.byteLength = body.byteLength + 4 := by
    simp only [source, Text.byteLength_append, byteLength_delimiter]
    omega
  simp only [Spanned.Closed, Spanned.Unclosed, span, token, h, true_and]
  omega

theorem unclosed_span_literal (start : Nat) (body : Text) :
    ((literal body false).span start).Unclosed ∧ ¬ ((literal body false).span start).Closed := by
  have h : (literal body false).source.byteLength = body.byteLength + 2 := by
    simp only [source, Text.byteLength_append, byteLength_delimiter]
    omega
  simp only [Spanned.Closed, Spanned.Unclosed, span, token, h, true_and]
  omega

theorem isOpen_span_iff {start : Nat} {l : Lexeme} :
    (l.span start).IsOpen ↔ ∃ body, l = literal body false := by
  cases l with
  | literal body closed =>
    cases closed with
    | true => simp [Spanned.IsOpen, closed_span_literal]
    | false => simpa [Spanned.IsOpen, token] using (unclosed_span_literal start body).1
  | _ => simp [Spanned.IsOpen, token]

end Lexeme

theorem exists_last_lexeme {t : Text} (ht : t ≠ []) : ∃ init l, lexemes t = init ++ [l] := by
  rcases List.eq_nil_or_concat (lexemes t) with hnil | ⟨init, l, hl⟩
  · exact absurd (lexemes_eq_iff.1 hnil).1.symm ht
  · exact ⟨init, l, by rw [hl, List.concat_eq_append]⟩

/-- the last spanned token of a text, by its last lexeme -/
theorem getLast?_lexSpans {t : Text} {init : List Lexeme} {l : Lexeme}
    (h : lexemes t = init ++ [l]) :
    (lexSpans t).getLast? = some (l.span (sources init).byteLength) := by
  rw [lexSpans, h, Lexeme.spans_append, Nat.zero_add]
  exact List.getLast?_concat

end Stanza
