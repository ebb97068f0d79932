import Mathlib.Tactic.MkIffOfInductiveProp
import Stanza.Proofs.Text.Slice
import Stanza.Proofs.Token.Range
import Stanza.Proofs.Token.Spans

/-! Where a text can be cut and joined. Cut between two tokens, both parts give the tokens that
they have together. Joined, two texts give their own tokens when the tokens at the end of the first
could not have taken in more: an open literal, a run that goes on, a dollar before a dollar, and
colons that become a marker are all that stands in the way. -/

namespace Stanza

def IsBoundary (n : Nat) (xs : List Spanned) : Prop := ∃ x ∈ xs, x.start = n ∨ x.stop = n

/-- the token at the end of a text takes in nothing of `b` -/
@[mk_iff]
structure Spanned.EndsBefore (x : Spanned) (b : Text) : Prop where
  closed : ¬ x.IsOpen
  letters : x.token.kind = .identifier → ∀ c ∈ b.head?, Text.isLetter c = false
  blanks : x.token.kind = .whitespace → ∀ c ∈ b.head?, Text.isBlank c = false
  dollar : x.token = .other '$' → b.head? ≠ some '$'
  colon : x.token = .other ':' → ¬ [':', '='] <+: b

/-- the tokens at the end of `a` take in nothing of `b` -/
structure CleanJoin (a b : Text) : Prop where
  last : ∀ x ∈ (lexSpans a).getLast?, x.EndsBefore b
  colons : [.other ':', .other ':'] <:+ lex a → b.head? ≠ some '='

theorem Lexeme.map_token_eq_others (ls : List Lexeme) (cs : List Char) :
    ls.map token = cs.map Token.other ↔ ls = cs.map single := by
  induction ls generalizing cs with
  | nil => cases cs <;> simp
  | cons l ls ih => cases cs <;> simp [ih, token_eq_other_iff]

theorem colons_suffix_iff (ls : List Lexeme) :
    [.other ':', .other ':'] <:+ ls.map Lexeme.token ↔ [.single ':', .single ':'] <:+ ls := by
  rw [List.suffix_map_iff]
  constructor
  · rintro ⟨ms, hms, heq⟩
    obtain rfl := (Lexeme.map_token_eq_others ms [':', ':']).1 heq.symm
    exact hms
  · intro h
    exact ⟨_, h, rfl⟩

theorem Lexeme.Fits.endsBefore_iff {l : Lexeme} (h : l.Fits []) {b : Text} (hb : b ≠ [])
    (start : Nat) : (l.span start).EndsBefore b ↔ l.Fits b := by
  rw [Spanned.endsBefore_iff, isOpen_span_iff, token_span]
  cases l with
  | literal body closed =>
    cases closed with
    | true =>
      have hfits : (literal body true).Fits b := h
      simp [hfits, token, Token.other]
    | false => simp [Fits, hb]
  | marker => simp [Fits, token, Token.other]
  | letters run =>
    have hrun : (letters run).Fits b ↔ EndsRun Text.isLetter b :=
      ⟨fun hb => hb.2.2, fun hb => ⟨h.1, h.2.1, hb⟩⟩
    simp [hrun, EndsRun, token, Token.other]
  | blanks run =>
    have hrun : (blanks run).Fits b ↔ EndsRun Text.isBlank b :=
      ⟨fun hb => hb.2.2, fun hb => ⟨h.1, h.2.1, hb⟩⟩
    simp [hrun, EndsRun, token, Token.other]
  | single c => simp [Fits, token, Token.other, h.1, h.2.1]

theorem cleanJoin_iff {a b : Text} (ha : a ≠ []) (hb : b ≠ []) :
    CleanJoin a b ↔ CleanSeam (lexemes a) b := by
  have hcolons := colons_suffix_iff (lexemes a)
  obtain ⟨init, l, hl⟩ := exists_last_lexeme ha
  obtain ⟨-, hfits, -⟩ := lexemes_split hl
  have hlast : (lexemes a).getLast? = some l := by rw [hl, List.getLast?_concat]
  have hspan := getLast?_lexSpans hl
  have hends := hfits.endsBefore_iff hb (sources init).byteLength
  constructor
  · rintro ⟨last, colons⟩
    refine ⟨?_, fun hs => colons (hcolons.2 hs)⟩
    rw [hlast]
    rintro m ⟨rfl⟩
    exact hends.1 (last _ hspan)
  · rintro ⟨last, colons⟩
    refine ⟨?_, fun hs => colons (hcolons.1 hs)⟩
    rw [hspan]
    rintro x ⟨rfl⟩
    exact hends.2 (last _ hlast)

theorem IsBoundary.exists_parts {n : Nat} {t : Text} (h : IsBoundary n (lexSpans t)) :
    ∃ pre post, lexemes t = pre ++ post ∧ n = (sources pre).byteLength := by
  obtain ⟨x, hx, hn⟩ := h
  obtain ⟨pre, l, post, hl, rfl⟩ := Lexeme.exists_of_mem_spans hx
  rcases hn with rfl | rfl
  · exact ⟨pre, l :: post, hl, Nat.zero_add _⟩
  · refine ⟨pre ++ [l], post, by simp [hl], ?_⟩
    simp [Lexeme.span]

theorem lexemes_append_of_isBoundary {a b : Text}
    (h : IsBoundary a.byteLength (lexSpans (a ++ b))) :
    lexemes (a ++ b) = lexemes a ++ lexemes b := by
  -- the cut lies between lexemes, and lexemes that are read together are read apart too
  obtain ⟨pre, post, hparts, hlength⟩ := h.exists_parts
  obtain ⟨hsource, hpre, hpost⟩ := lexemes_parts hparts
  obtain ⟨rfl, rfl⟩ := Text.append_inj_of_byteLength hsource hlength
  rw [hpre, hpost, hparts]

theorem lexSpans_append {a b : Text} (h : lexemes (a ++ b) = lexemes a ++ lexemes b) :
    lexSpans (a ++ b) = lexSpans a ++ (lexSpans b).map (Spanned.shift a.byteLength) := by
  rw [lexSpans, h, Lexeme.spans_append, sources_lexemes, Nat.zero_add, lexSpans, lexSpans,
    ← Lexeme.spans_shift, Nat.add_zero]

theorem isBoundary_append {a : Text} (ha : a ≠ []) (xs : List Spanned) :
    IsBoundary a.byteLength (lexSpans a ++ xs) := by
  obtain ⟨init, l, hl⟩ := exists_last_lexeme ha
  have hmem := List.mem_of_getLast? (getLast?_lexSpans hl)
  refine ⟨_, List.mem_append_left xs hmem, Or.inr ?_⟩
  rw [← (lexemes_eq_iff.1 hl).1, sources_append, Text.byteLength_append]
  simp [Lexeme.span]

/-- A text can be cut at an offset when a token ends there, and just then the spanned tokens of the
parts are those of the text, and the parts meet in a clean join. -/
theorem lexSpans_append_iff {a b : Text} (ha : a ≠ []) (hb : b ≠ []) :
    (IsBoundary a.byteLength (lexSpans (a ++ b)) ↔
      lexSpans (a ++ b) = lexSpans a ++ (lexSpans b).map (Spanned.shift a.byteLength)) ∧
    (lexSpans (a ++ b) = lexSpans a ++ (lexSpans b).map (Spanned.shift a.byteLength) ↔
      CleanJoin a b) := by
  rw [cleanJoin_iff ha hb, ← lexemes_append_iff]
  have hboundary (h : lexSpans (a ++ b) =
      lexSpans a ++ (lexSpans b).map (Spanned.shift a.byteLength)) :
      IsBoundary a.byteLength (lexSpans (a ++ b)) := by
    rw [h]
    exact isBoundary_append ha _
  exact ⟨⟨fun h => lexSpans_append (lexemes_append_of_isBoundary h), hboundary⟩,
    fun h => lexemes_append_of_isBoundary (hboundary h), lexSpans_append⟩

/-- a colon stays a token before a marker, though not before what is left of one -/
theorem lexSpans_append_colon :
    let a := "A:".toList
    a ≠ [] ∧ "::=".toList ≠ [] ∧ ":=".toList ≠ [] ∧ CleanJoin a "::=".toList ∧
      ¬ CleanJoin a ":=".toList := by
  have hmarker : lexSpans ("A:".toList ++ "::=".toList) =
      [⟨⟨.identifier, ['A']⟩, 0, 1⟩, ⟨⟨.other, [':']⟩, 1, 2⟩,
        ⟨⟨.definition, definitionMarker⟩, 2, 5⟩] := by decide +kernel
  have hrest : lexSpans ("A:".toList ++ ":=".toList) =
      [⟨⟨.identifier, ['A']⟩, 0, 1⟩, ⟨⟨.definition, definitionMarker⟩, 1, 4⟩] := by decide +kernel
  have before := lexSpans_append_iff (a := "A:".toList) (b := "::=".toList) (by decide) (by decide)
  have inside := lexSpans_append_iff (a := "A:".toList) (b := ":=".toList) (by decide) (by decide)
  refine ⟨by decide, by decide, by decide, ?_, ?_⟩
  · rw [← before.2, ← before.1, hmarker]
    exact ⟨⟨⟨.other, [':']⟩, 1, 2⟩, by decide, Or.inr rfl⟩
  · rw [← inside.2, ← inside.1, hrest]
    rintro ⟨x, hx, hstop⟩
    revert x
    decide

end Stanza
