import Mathlib.Data.List.Chain
import Stanza.Proofs.Token.Rule
import Stanza.Proofs.Token.Seam

/-! Which lists of tokens are read from a text. Each token must be spelled as its kind asks, and
some tokens may not stand together, since they would be read as one or as others. Nothing else is
asked: a list without such neighbours is read again from the text that it is written as. -/

namespace Stanza

namespace Token

def other (c : Char) : Token := ⟨.other, [c]⟩

/-- the text is one that a token of the kind can have -/
def Spelled (token : Token) : Prop :=
  if token.kind = .literal then Undelimited token.text else token.kind.Matches token.text

instance (token : Token) : Decidable token.Spelled :=
  inferInstanceAs
    (Decidable (if token.kind = .literal then Undelimited token.text
      else token.kind.Matches token.text))

structure MayPrecede (a b : Token) : Prop where
  letters : ¬ (a.kind = .identifier ∧ b.kind = .identifier)
  blanks : ¬ (a.kind = .whitespace ∧ b.kind = .whitespace)
  dollars : a = other '$' → b ≠ other '$' ∧ b.kind ≠ .literal
  ends : a.kind = .literal → a.text.getLast? ≠ some '$'

instance (a b : Token) : Decidable (a.MayPrecede b) :=
  decidable_of_iff
    (¬ (a.kind = .identifier ∧ b.kind = .identifier) ∧
      ¬ (a.kind = .whitespace ∧ b.kind = .whitespace) ∧
      (a = other '$' → b ≠ other '$' ∧ b.kind ≠ .literal) ∧
      (a.kind = .literal → a.text.getLast? ≠ some '$'))
    ⟨fun ⟨h₁, h₂, h₃, h₄⟩ => ⟨h₁, h₂, h₃, h₄⟩, fun ⟨h₁, h₂, h₃, h₄⟩ => ⟨h₁, h₂, h₃, h₄⟩⟩

/-- how a token is written: a literal gets its delimiters, the closing one unless its text ends in
the first half of one -/
def written (token : Token) : Text :=
  if token.kind ≠ .literal then token.text
  else if token.text.getLast? = some '$' then delimiter ++ token.text
  else delimiter ++ token.text ++ delimiter

def lexeme (token : Token) : Lexeme :=
  match token.kind with
  | .literal => .literal token.text (token.text.getLast? != some '$')
  | .definition => .marker
  | .identifier => .letters token.text
  | .whitespace => .blanks token.text
  | .other => .single (token.text.headD ' ')

end Token

/-- a list of tokens that can be read from a text -/
structure WellFormed (ts : List Token) : Prop where
  spelled : ∀ token ∈ ts, token.Spelled
  neighbours : ts.IsChain Token.MayPrecede
  unmarked : ¬ [.other ':', .other ':', .other '='] <:+: ts

def written (ts : List Token) : Text := ts.flatMap Token.written

theorem wellFormed_nil : WellFormed [] := ⟨by simp, List.isChain_nil, by simp⟩

theorem wellFormed_cons {token : Token} {ts : List Token} :
    WellFormed (token :: ts) ↔ (token.Spelled ∧ (∀ u ∈ ts.head?, token.MayPrecede u) ∧
      ¬ [.other ':', .other ':', .other '='] <+: token :: ts) ∧ WellFormed ts := by
  constructor
  · rintro ⟨spelled, neighbours, unmarked⟩
    obtain ⟨h, spelled⟩ := List.forall_mem_cons.1 spelled
    obtain ⟨next, neighbours⟩ := List.isChain_cons.1 neighbours
    rw [List.infix_cons_iff, not_or] at unmarked
    exact ⟨⟨h, next, unmarked.1⟩, spelled, neighbours, unmarked.2⟩
  · rintro ⟨⟨h, next, first⟩, spelled, neighbours, unmarked⟩
    refine ⟨List.forall_mem_cons.2 ⟨h, spelled⟩, List.isChain_cons.2 ⟨next, neighbours⟩, ?_⟩
    rw [List.infix_cons_iff, not_or]
    exact ⟨first, unmarked⟩

instance decidableWellFormed : (ts : List Token) → Decidable (WellFormed ts)
  | [] => isTrue wellFormed_nil
  | _ :: ts =>
    have := decidableWellFormed ts
    decidable_of_iff' _ wellFormed_cons

namespace Lexeme

theorem token_ne_other {l : Lexeme} (h : l.token.kind ≠ .other) (c : Char) :
    l.token ≠ .other c := by
  intro hl
  rw [hl] at h
  exact h rfl

theorem token_eq_other_iff {l : Lexeme} {c : Char} : l.token = .other c ↔ l = single c := by
  cases l <;> simp [token, Token.other]

/-- the first character of a lexeme that fits, by the kind of its token -/
theorem Fits.exists_head {l : Lexeme} {r : Text} (h : l.Fits r) :
    ∃ c t, l.source ++ r = c :: t ∧
      (l.token.kind = .literal ∧ c = '$' ∨ l.token.kind = .definition ∧ c = ':' ∨
        l.token.kind = .identifier ∧ Text.isLetter c = true ∨
        l.token.kind = .whitespace ∧ Text.isBlank c = true ∨
        l.token = .other c ∧ Text.isLetter c = false ∧ Text.isBlank c = false) := by
  cases l with
  | literal body closed => cases closed <;> exact ⟨_, _, rfl, Or.inl ⟨rfl, rfl⟩⟩
  | marker => exact ⟨_, _, rfl, Or.inr (Or.inl ⟨rfl, rfl⟩)⟩
  | letters run =>
    obtain ⟨c, run, rfl⟩ := List.exists_cons_of_ne_nil h.1
    exact ⟨_, _, rfl, Or.inr (Or.inr (Or.inl ⟨rfl, h.2.1 c List.mem_cons_self⟩))⟩
  | blanks run =>
    obtain ⟨c, run, rfl⟩ := List.exists_cons_of_ne_nil h.1
    exact ⟨_, _, rfl, Or.inr (Or.inr (Or.inr (Or.inl ⟨rfl, h.2.1 c List.mem_cons_self⟩)))⟩
  | single c => exact ⟨_, _, rfl, Or.inr (Or.inr (Or.inr (Or.inr ⟨rfl, h.1, h.2.1⟩)))⟩

theorem Fits.endsRun_letter_iff {l : Lexeme} {r : Text} (h : l.Fits r) :
    EndsRun Text.isLetter (l.source ++ r) ↔ l.token.kind ≠ .identifier := by
  obtain ⟨c, t, ht, hc⟩ := h.exists_head
  rw [ht]
  rcases hc with ⟨hk, rfl⟩ | ⟨hk, rfl⟩ | ⟨hk, hl⟩ | ⟨hk, hb⟩ | ⟨hk, hl, -⟩
  · simp [EndsRun, hk, dollar_in_no_run]
  · simp [EndsRun, hk, colon_in_no_run]
  · simp [EndsRun, hk, hl]
  · simp [EndsRun, hk, Text.not_isLetter_of_isBlank hb]
  · simp [EndsRun, hk, hl, Token.other]

theorem Fits.endsRun_blank_iff {l : Lexeme} {r : Text} (h : l.Fits r) :
    EndsRun Text.isBlank (l.source ++ r) ↔ l.token.kind ≠ .whitespace := by
  obtain ⟨c, t, ht, hc⟩ := h.exists_head
  rw [ht]
  rcases hc with ⟨hk, rfl⟩ | ⟨hk, rfl⟩ | ⟨hk, hl⟩ | ⟨hk, hb⟩ | ⟨hk, -, hb⟩
  · simp [EndsRun, hk, dollar_in_no_run]
  · simp [EndsRun, hk, colon_in_no_run]
  · have hb : Text.isBlank c = false := by
      rw [← Bool.not_eq_true]
      intro hb
      simp [Text.not_isLetter_of_isBlank hb] at hl
    simp [EndsRun, hk, hb]
  · simp [EndsRun, hk, hb]
  · simp [EndsRun, hk, hb, Token.other]

/-- Where a text of lexemes begins with a character of no run, that character is a token by itself
or begins a delimiter or a marker. -/
theorem Fits.head_iff {l : Lexeme} {r : Text} (h : l.Fits r) {d : Char}
    (hd : Text.isLetter d = false ∧ Text.isBlank d = false) :
    (l.source ++ r).head? = some d ↔
      l.token = .other d ∨ l.token.kind = .literal ∧ d = '$' ∨
        l.token.kind = .definition ∧ d = ':' := by
  obtain ⟨c, t, ht, hc⟩ := h.exists_head
  rw [ht]
  rcases hc with ⟨hk, rfl⟩ | ⟨hk, rfl⟩ | ⟨hk, hl⟩ | ⟨hk, hb⟩ | ⟨hk, -⟩
  · simp [hk, token_ne_other (l := l) (by simp [hk]), eq_comm]
  · simp [hk, token_ne_other (l := l) (by simp [hk]), eq_comm]
  · have hc : c ≠ d := by
      rintro rfl
      simp [hd] at hl
    simp [hk, hc, token_ne_other (l := l) (by simp [hk])]
  · have hc : c ≠ d := by
      rintro rfl
      simp [hd] at hb
    simp [hk, hc, token_ne_other (l := l) (by simp [hk])]
  · simp [hk, Token.other]

theorem Fits.spelled {l : Lexeme} {r : Text} (h : l.Fits r) : l.token.Spelled := by
  cases l with
  | literal body closed => cases closed <;> exact h.1
  | marker => rfl
  | letters run => exact ⟨h.1, h.2.1⟩
  | blanks run => exact ⟨h.1, h.2.1⟩
  | single c => exact ⟨rfl, List.forall_mem_singleton.2 ⟨h.1, h.2.1⟩⟩

/-- The lexer never puts tokens together that may not stand together. -/
theorem Fits.mayPrecede {l m : Lexeme} {r : Text} (h : l.Fits (m.source ++ r)) (hm : m.Fits r) :
    l.token.MayPrecede m.token where
  letters := by
    rintro ⟨hl, hk⟩
    cases l with
    | letters run => exact hm.endsRun_letter_iff.1 h.2.2 hk
    | _ => cases hl
  blanks := by
    rintro ⟨hl, hk⟩
    cases l with
    | blanks run => exact hm.endsRun_blank_iff.1 h.2.2 hk
    | _ => cases hl
  dollars := by
    intro hl
    rw [token_eq_other_iff] at hl
    subst hl
    have hd := h.2.2.1 rfl
    rw [Ne, hm.head_iff dollar_in_no_run] at hd
    exact ⟨fun hk => hd (Or.inl hk), fun hk => hd (Or.inr (Or.inl ⟨hk, rfl⟩))⟩
  ends := by
    intro hl
    cases l with
    | literal body closed =>
      cases closed with
      | true => exact h.2
      | false => exact absurd (List.append_eq_nil_iff.1 h.2).1 hm.source_ne_nil
    | _ => cases hl

end Lexeme

/-- the one way to come to `:=` after a colon -/
theorem Readable.exists_of_colon_eq {ls : List Lexeme} (h : Readable [] ls)
    (hp : [':', '='] <+: sources ls) : ∃ ms, ls = .single ':' :: .single '=' :: ms := by
  have eq_in_no_run : Text.isLetter '=' = false ∧ Text.isBlank '=' = false := by decide
  cases ls with
  | nil => simp at hp
  | cons l ls =>
    obtain ⟨hl, hls⟩ := readable_cons.1 h
    obtain ⟨t, ht⟩ := hp
    rw [sources_cons] at ht
    rcases (hl.head_iff colon_in_no_run).1 (by rw [← ht]; rfl) with hk | ⟨-, hd⟩ | ⟨hk, -⟩
    · rw [Lexeme.token_eq_other_iff] at hk
      subst hk
      obtain ht : '=' :: t = sources ls := by simpa [Lexeme.source] using ht
      cases ls with
      | nil => cases ht
      | cons m ms =>
        obtain ⟨hm, -⟩ := readable_cons.1 hls
        rcases (hm.head_iff eq_in_no_run).1 (by rw [← sources_cons, ← ht]; rfl) with
          hk | ⟨-, hd⟩ | ⟨-, hd⟩
        · rw [Lexeme.token_eq_other_iff] at hk
          exact ⟨ms, by rw [hk]⟩
        · exact absurd hd (by decide)
        · exact absurd hd (by decide)
    · exact absurd hd (by decide)
    · cases l with
      | marker => simp [Lexeme.source, definitionMarker] at ht
      | _ => cases hk

theorem Readable.wellFormed {ls : List Lexeme} (h : Readable [] ls) :
    WellFormed (ls.map Lexeme.token) := by
  induction ls with
  | nil => exact wellFormed_nil
  | cons l ls ih =>
    obtain ⟨hl, hls⟩ := readable_cons.1 h
    refine wellFormed_cons.2 ⟨⟨hl.spelled, ?_, ?_⟩, ih hls⟩
    · intro u hu
      cases ls with
      | nil => cases hu
      | cons m ms =>
        obtain rfl : m.token = u := by simpa using hu
        obtain ⟨hm, -⟩ := readable_cons.1 hls
        exact hl.mayPrecede hm
    · rintro ⟨ts, hts⟩
      -- three single characters that spell the marker would have been read as one
      obtain ⟨hcolon, hrest⟩ : Token.other ':' = l.token ∧
          Token.other ':' :: Token.other '=' :: ts = ls.map Lexeme.token := by simpa using hts
      obtain ⟨m, n, ms, rfl, hm, hn⟩ : ∃ m n ms, ls = m :: n :: ms ∧ m.token = .other ':' ∧
          n.token = .other '=' := by
        obtain ⟨m, ls', rfl, hm, hrest⟩ := List.map_eq_cons_iff.1 hrest.symm
        obtain ⟨n, ms, rfl, hn, -⟩ := List.map_eq_cons_iff.1 hrest
        exact ⟨m, n, ms, rfl, hm, hn⟩
      rw [Lexeme.token_eq_other_iff] at hm hn
      obtain rfl := Lexeme.token_eq_other_iff.1 hcolon.symm
      subst hm hn
      exact hl.2.2.2 rfl ⟨sources ms, rfl⟩

theorem Token.lexeme_open {text : Text} (h : text.getLast? = some '$') :
    lexeme ⟨.literal, text⟩ = .literal text false := by
  simp [lexeme, h]

theorem Token.lexeme_closed {text : Text} (h : text.getLast? ≠ some '$') :
    lexeme ⟨.literal, text⟩ = .literal text true := by
  simp [lexeme, bne, h]

/-- A token that is spelled as its kind asks is that of the lexeme that it is written as. -/
theorem Token.Spelled.lexeme_eq {token : Token} (h : token.Spelled) :
    token.lexeme.token = token ∧ token.lexeme.source = token.written := by
  obtain ⟨kind, text⟩ := token
  cases kind with
  | literal =>
    refine ⟨rfl, ?_⟩
    by_cases hd : text.getLast? = some '$'
    · rw [lexeme_open hd]
      simp [written, Lexeme.source, hd]
    · rw [lexeme_closed hd]
      simp [written, Lexeme.source, hd]
  | definition =>
    obtain rfl : text = definitionMarker := h
    exact ⟨rfl, rfl⟩
  | identifier => exact ⟨rfl, rfl⟩
  | whitespace => exact ⟨rfl, rfl⟩
  | other =>
    obtain ⟨c, rfl⟩ := List.length_eq_one_iff.1 h.1
    exact ⟨rfl, rfl⟩

theorem map_token_lexeme {ts : List Token} (h : ∀ token ∈ ts, token.Spelled) :
    (ts.map Token.lexeme).map Lexeme.token = ts := by
  rw [List.map_map]
  exact (List.map_congr_left fun token ht => (h token ht).lexeme_eq.1).trans (List.map_id ts)

/-- What readable tokens are written as is nothing, or begins with the lexeme of the first. -/
theorem exists_first {ts : List Token} (hts : ∀ u ∈ ts, u.Spelled)
    (hread : Readable [] (ts.map Token.lexeme)) :
    sources (ts.map Token.lexeme) = [] ∨
      ∃ (l : Lexeme) (r : Text), l.token ∈ ts.head? ∧ l.Fits r ∧
        sources (ts.map Token.lexeme) = l.source ++ r := by
  cases ts with
  | nil => exact Or.inl rfl
  | cons u us =>
    obtain ⟨hu, -⟩ := readable_cons.1 hread
    refine Or.inr ⟨u.lexeme, sources (us.map Token.lexeme), ?_, hu, rfl⟩
    rw [(hts u List.mem_cons_self).lexeme_eq.1]
    rfl

/-- A token fits before tokens that it may precede, when they are readable themselves. -/
theorem Token.Spelled.fits {token : Token} {ts : List Token} (h : token.Spelled)
    (hts : ∀ u ∈ ts, u.Spelled) (hread : Readable [] (ts.map lexeme))
    (next : ∀ u ∈ ts.head?, token.MayPrecede u)
    (unmarked : ¬ [.other ':', .other ':', .other '='] <+: token :: ts) :
    token.lexeme.Fits (sources (ts.map lexeme)) := by
  have first := exists_first hts hread
  obtain ⟨kind, text⟩ := token
  cases kind with
  | literal =>
    by_cases hd : text.getLast? = some '$'
    · have hnil : ts = [] := by
        cases ts with
        | nil => rfl
        | cons u us => exact absurd hd ((next u rfl).ends rfl)
      rw [lexeme_open hd, hnil]
      exact ⟨h, rfl⟩
    · rw [lexeme_closed hd]
      exact ⟨h, hd⟩
  | definition => trivial
  | identifier =>
    refine ⟨h.1, h.2, ?_⟩
    rcases first with hnil | ⟨l, r, hmem, hl, hs⟩
    · simp [hnil, EndsRun]
    · rw [hs]
      exact hl.endsRun_letter_iff.2 fun hk => (next _ hmem).letters ⟨rfl, hk⟩
  | whitespace =>
    refine ⟨h.1, h.2, ?_⟩
    rcases first with hnil | ⟨l, r, hmem, hl, hs⟩
    · simp [hnil, EndsRun]
    · rw [hs]
      exact hl.endsRun_blank_iff.2 fun hk => (next _ hmem).blanks ⟨rfl, hk⟩
  | other =>
    obtain ⟨hlen, hall⟩ := h
    obtain ⟨c, rfl⟩ := List.length_eq_one_iff.1 hlen
    obtain ⟨hletter, hblank⟩ := hall c List.mem_cons_self
    refine ⟨hletter, hblank, ?_, ?_⟩
    · rintro rfl
      rcases first with hnil | ⟨l, r, hmem, hl, hs⟩
      · simp [hnil]
      · obtain ⟨hne, hk⟩ := (next _ hmem).dollars rfl
        rw [hs, Ne, hl.head_iff dollar_in_no_run]
        simp [hne, hk]
    · rintro rfl hp
      obtain ⟨ms, hms⟩ := hread.exists_of_colon_eq hp
      refine unmarked ⟨ms.map Lexeme.token, ?_⟩
      rw [← map_token_lexeme hts, hms]
      rfl

theorem WellFormed.readable {ts : List Token} (h : WellFormed ts) :
    Readable [] (ts.map Token.lexeme) := by
  induction ts with
  | nil => trivial
  | cons token ts ih =>
    obtain ⟨⟨spelled, next, unmarked⟩, hts⟩ := wellFormed_cons.1 h
    exact readable_cons.2 ⟨spelled.fits hts.spelled (ih hts) next unmarked, ih hts⟩

theorem WellFormed.lexemes_written {ts : List Token} (h : WellFormed ts) :
    lexemes (written ts) = ts.map Token.lexeme := by
  rw [lexemes_eq_iff]
  refine ⟨?_, h.readable⟩
  rw [sources, written, List.flatMap_map]
  exact List.flatMap_congr fun token ht => (h.spelled token ht).lexeme_eq.2

theorem WellFormed.lex_written {ts : List Token} (h : WellFormed ts) : lex (written ts) = ts := by
  rw [lex, h.lexemes_written, map_token_lexeme h.spelled]

/-- The lists of tokens that are read from a text are the well-formed ones, and a well-formed list
is read again from what it is written as. -/
theorem lex_range (ts : List Token) :
    ((∃ t, lex t = ts) ↔ WellFormed ts) ∧ (WellFormed ts → lex (written ts) = ts) := by
  refine ⟨⟨?_, fun h => ⟨written ts, h.lex_written⟩⟩, WellFormed.lex_written⟩
  rintro ⟨t, rfl⟩
  exact (readable_lexemes t).wellFormed

/-- Neighbours that nearly join: two colons before a letter, a dollar before a marker, and an empty
literal before one that is left open. -/
theorem lex_written_close_calls :
    let ts : List Token := [.other ':', .other ':', ⟨.identifier, ['a']⟩, .other '$',
      ⟨.definition, definitionMarker⟩, ⟨.literal, []⟩, ⟨.literal, ['$', 'b', '$']⟩]
    WellFormed ts ∧ lex (written ts) = ts :=
  ⟨by decide, (lex_range _).2 (by decide)⟩

end Stanza
