import Stanza.Proofs.Token.Spans

/-! A lexer that is called again and again. Each call hands out the first of the spanned tokens
ahead, whichever way the token is asked for, and moves the position to the end of its span. At the
end of the text nothing moves any more. -/

namespace Stanza.Lexer

def ahead (l : Lexer) : List Spanned := Lexeme.spans l.position (lexemes l.remaining)

/-- All that a call can do: nothing at the end, and else take a lexeme that fits. -/
theorem nextSpanned_cases (l : Lexer) :
    (l.remaining = [] ∧ l.nextSpanned = (none, l)) ∨
      ∃ (x : Lexeme) (r : Text), x.Fits r ∧ l.remaining = x.source ++ r ∧
        l.nextSpanned = (some (x.span l.position), ⟨l.position + x.source.byteLength, r⟩) := by
  obtain ⟨position, remaining⟩ := l
  cases remaining with
  | nil => exact Or.inl ⟨rfl, rfl⟩
  | cons c rest =>
    exact Or.inr ⟨_, _, Lexeme.first_fits c rest, (Lexeme.first_append c rest).symm, rfl⟩

theorem ahead_eq_nil {l : Lexer} (h : l.remaining = []) : l.ahead = [] := by
  rw [ahead, h, lexemes_nil]
  rfl

theorem ahead_eq_cons {l : Lexer} {x : Lexeme} {r : Text} (hx : x.Fits r)
    (h : l.remaining = x.source ++ r) :
    l.ahead = x.span l.position :: ahead ⟨l.position + x.source.byteLength, r⟩ := by
  rw [ahead, h, lexemes_source_append hx, Lexeme.spans_cons]
  rfl

theorem nextSpanned_eq (l : Lexer) :
    l.nextSpanned.1 = l.ahead.head? ∧ l.nextSpanned.2.ahead = l.ahead.tail := by
  rcases l.nextSpanned_cases with ⟨hr, hn⟩ | ⟨x, r, hx, hr, hn⟩
  · rw [hn, ahead_eq_nil hr]
    exact ⟨rfl, rfl⟩
  · rw [hn, ahead_eq_cons hx hr]
    exact ⟨rfl, rfl⟩

theorem next_fst (l : Lexer) : l.next.1 = l.nextSpanned.1.map Spanned.token := rfl

theorem next_snd (l : Lexer) : l.next.2 = l.nextSpanned.2 := rfl

inductive Call where
  | next
  | nextSpanned
  deriving DecidableEq

def Call.apply (l : Lexer) : Call → Lexer
  | .next => l.next.2
  | .nextSpanned => l.nextSpanned.2

theorem Call.apply_eq (l : Lexer) (call : Call) : call.apply l = l.nextSpanned.2 := by
  cases call <;> rfl

def after (l : Lexer) (calls : List Call) : Lexer := calls.foldl Call.apply l

theorem after_cons (l : Lexer) (call : Call) (calls : List Call) :
    l.after (call :: calls) = l.nextSpanned.2.after calls := by
  rw [after, List.foldl_cons, Call.apply_eq]
  rfl

theorem ahead_after (l : Lexer) (calls : List Call) :
    (l.after calls).ahead = l.ahead.drop calls.length := by
  induction calls generalizing l with
  | nil => rfl
  | cons call calls ih => rw [after_cons, ih, l.nextSpanned_eq.2, List.length_cons, List.drop_tail]

/-- The position is the end of the last span handed out, and that of the text when none is left. -/
theorem position_after (l : Lexer) (calls : List Call) :
    (l.after calls).position =
      ((l.position :: l.ahead.map Spanned.stop)[calls.length]?).getD
        (l.position + l.remaining.byteLength) := by
  induction calls generalizing l with
  | nil => rfl
  | cons call calls ih =>
    rw [after_cons, ih, List.length_cons, List.getElem?_cons_succ]
    rcases l.nextSpanned_cases with ⟨hr, hn⟩ | ⟨x, r, hx, hr, hn⟩
    · rw [hn, ahead_eq_nil hr, hr]
      cases calls <;> rfl
    · rw [hn, ahead_eq_cons hx hr, hr, Text.byteLength_append, ← Nat.add_assoc]
      rfl

end Stanza.Lexer
