import Stanza.Proofs.Token.Seam
import Stanza.Proofs.Token.Spans

/-! Tokens of a text that goes on. No rule looks at more than two characters behind what it takes,
so two lexemes at the end keep all before them from seeing what comes after the text. -/

namespace Stanza

namespace Readable

theorem length_le {r : Text} {ls : List Lexeme} (h : Readable r ls) :
    ls.length ≤ (sources ls).length := by
  induction ls with
  | nil => exact Nat.le_refl _
  | cons l ls ih =>
    have hl := List.length_pos_iff.2 h.1.source_ne_nil
    have hls := ih h.2
    rw [sources_cons, List.length_append, List.length_cons]
    omega

/-- Two characters are more than any lexeme needs to see of what follows it. -/
theorem extend {r : Text} {ls : List Lexeme} (h : Readable r ls) (hr : 2 ≤ r.length) (b : Text) :
    Readable (r ++ b) ls := by
  induction ls with
  | nil => trivial
  | cons l ls ih =>
    have hlength : 2 ≤ (sources ls ++ r).length := by
      rw [List.length_append]
      omega
    refine ⟨?_, ih h.2⟩
    rw [← List.append_assoc]
    refine h.1.append (List.ne_nil_of_length_pos (by omega)) fun _ hcolon => ?_
    rw [hcolon] at hlength
    exact absurd hlength (by decide)

end Readable

/-- Text after a text leaves all lexemes but the last two as they are. -/
theorem exists_lexemes_append (s t : Text) :
    ∃ pre last rest, lexemes s = pre ++ last ∧ last.length ≤ 2 ∧ lexemes (s ++ t) = pre ++ rest := by
  by_cases hn : (lexemes s).length ≤ 2
  · exact ⟨[], lexemes s, lexemes (s ++ t), rfl, hn, rfl⟩
  · obtain ⟨pre, last, hparts, hlast⟩ : ∃ pre last, lexemes s = pre ++ last ∧ last.length = 2 :=
      ⟨_, _, (List.take_append_drop ((lexemes s).length - 2) (lexemes s)).symm,
        by rw [List.length_drop]; omega⟩
    obtain ⟨hsource, hread⟩ := lexemes_eq_iff.1 hparts
    obtain ⟨hpre, hpost⟩ := readable_append.1 hread
    have hlength := hpost.length_le
    rw [hlast] at hlength
    rw [List.append_nil] at hpre
    rw [sources_append] at hsource
    refine ⟨pre, last, lexemes (sources last ++ t), hparts, Nat.le_of_eq hlast, ?_⟩
    rw [lexemes_eq_iff, readable_append, sources_append, sources_lexemes, List.append_nil,
      ← List.append_assoc, hsource]
    exact ⟨rfl, hpre.extend hlength t, readable_lexemes _⟩

theorem length_spans (start : Nat) (ls : List Lexeme) :
    (Lexeme.spans start ls).length = ls.length := by
  simpa using congrArg List.length (Lexeme.token_spans start ls)

theorem take_lexSpans_append (s t : Text) :
    (lexSpans (s ++ t)).take ((lex s).length - 2) = (lexSpans s).take ((lex s).length - 2) := by
  obtain ⟨pre, last, rest, hs, hlast, ht⟩ := exists_lexemes_append s t
  have hlength : (lex s).length - 2 ≤ (Lexeme.spans 0 pre).length := by
    rw [lex, hs, List.length_map, List.length_append, length_spans]
    omega
  rw [lexSpans, lexSpans, hs, ht, Lexeme.spans_append, Lexeme.spans_append,
    List.take_append_of_le_length hlength, List.take_append_of_le_length hlength]

theorem take_lex_append (s t : Text) :
    (lex (s ++ t)).take ((lex s).length - 2) = (lex s).take ((lex s).length - 2) := by
  have hspans := congrArg (List.map Spanned.token) (take_lexSpans_append s t)
  rwa [List.map_take, List.map_take, lexSpans, lexSpans, Lexeme.token_spans,
    Lexeme.token_spans] at hspans

end Stanza
