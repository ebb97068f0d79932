import Stanza.Proofs.Text.Newline
import Stanza.Proofs.Token.Seam
import Stanza.Proofs.Token.Spans

/-! Tokens and line endings. Both characters of a line ending are blank, so a line ending lies inside
of one run of blanks or of one literal. Taking a carriage return out of it, or a line feed from the
end of the text, changes what is inside of that token and nothing else. -/

namespace Stanza

open Text

theorem return_in_blanks : isBlank '\r' = true ∧ isLetter '\r' = false := by decide

theorem feed_in_blanks : isBlank '\n' = true ∧ isLetter '\n' = false := by decide

theorem Undelimited.withoutReturns {t : Text} (h : Undelimited t) :
    Undelimited (withoutReturns t) :=
  fun hd => h (infix_of_infix_withoutReturns (by decide) hd)

theorem EndsAtDelimiter.withoutReturns {t : Text} (h : EndsAtDelimiter t) :
    EndsAtDelimiter (withoutReturns t) :=
  ⟨h.1.withoutReturns, by rw [getLast?_withoutReturns]; exact h.2⟩

/-- Where no run of `p` goes on, none does without returns, as long as `p` takes in no line feed or
takes in the return before it too. -/
theorem EndsRun.withoutReturns {p : Char → Bool} {r : Text} (h : EndsRun p r)
    (hp : p '\n' = false ∨ p '\r' = true) : EndsRun p (withoutReturns r) := by
  intro c hc
  rcases head?_withoutReturns r with hsame | ⟨hr, hn⟩
  · exact h c (hsame ▸ hc)
  · obtain rfl : '\n' = c := Option.some.inj (hn.symm.trans hc)
    rcases hp with hfeed | hreturn
    · exact hfeed
    · exact absurd (h '\r' hr) (by simp [hreturn])

namespace Lexeme

def withoutReturns : Lexeme → Lexeme
  | literal body closed => literal (Text.withoutReturns body) closed
  | blanks run => blanks (Text.withoutReturns run)
  | l => l

theorem not_mem_of_isLetter {run : Text} (h : ∀ c ∈ run, isLetter c = true) : '\r' ∉ run :=
  fun hr => by simpa [return_in_blanks] using h _ hr

theorem getLast?_source_closed (body : Text) :
    (literal body true).source.getLast? = some '$' := by
  rw [source, List.getLast?_append]
  rfl

/-- No line ending lies across the end of a lexeme. -/
theorem Fits.head?_ne_feed {l : Lexeme} {r : Text} (h : l.Fits r)
    (hlast : l.source.getLast? = some '\r') : r.head? ≠ some '\n' := by
  cases l with
  | literal body closed =>
    cases closed with
    | true => simp [getLast?_source_closed] at hlast
    | false => simp [h.2]
  | marker => simp [source, definitionMarker] at hlast
  | letters run => exact absurd (List.mem_of_getLast? hlast) (not_mem_of_isLetter h.2.1)
  | blanks run =>
    intro hr
    simpa [feed_in_blanks] using h.2.2 '\n' hr
  | single c =>
    obtain rfl : c = '\r' := by simpa [source] using hlast
    simpa [return_in_blanks] using h.2.1

theorem Fits.withoutReturns_source {l : Lexeme} {r : Text} (h : l.Fits r) :
    Text.withoutReturns l.source = l.withoutReturns.source := by
  have hdelimiter : Text.withoutReturns delimiter = delimiter := by decide
  cases l with
  | literal body closed =>
    have hopen : Text.withoutReturns (delimiter ++ body) =
        delimiter ++ Text.withoutReturns body := by
      rw [withoutReturns_append (by simp [delimiter]), hdelimiter]
    cases closed with
    | true =>
      rw [source, withoutReturns_append (by simp [delimiter]), hopen, hdelimiter]
      rfl
    | false => exact hopen
  | marker => decide
  | letters run => exact withoutReturns_eq_self (not_mem_of_isLetter h.2.1)
  | blanks run => rfl
  | single c => exact withoutReturns_cons (by simp)

theorem Fits.withoutReturns {l : Lexeme} {r : Text} (h : l.Fits r) :
    l.withoutReturns.Fits (Text.withoutReturns r) := by
  cases l with
  | literal body closed =>
    cases closed with
    | true => exact EndsAtDelimiter.withoutReturns h
    | false => exact ⟨h.1.withoutReturns, by rw [h.2]; rfl⟩
  | marker => trivial
  | letters run => exact ⟨h.1, h.2.1, h.2.2.withoutReturns (Or.inl feed_in_blanks.2)⟩
  | blanks run =>
    exact ⟨mt withoutReturns_eq_nil.1 h.1, fun c hc => h.2.1 c (mem_of_mem_withoutReturns hc),
      h.2.2.withoutReturns (Or.inr return_in_blanks.1)⟩
  | single c =>
    obtain ⟨hl, hb, hdollar, hcolon⟩ := h
    refine ⟨hl, hb, fun hc hr => ?_, fun hc hr => ?_⟩
    · rcases head?_withoutReturns r with hsame | ⟨-, hn⟩
      · exact hdollar hc (hsame ▸ hr)
      · rw [hr] at hn
        cases hn
    · exact hcolon hc (prefix_of_prefix_withoutReturns (by decide) hr)

end Lexeme

/-- Without returns in its line endings a text has the same lexemes, each without them. -/
theorem lexemes_withoutReturns (t : Text) :
    lexemes (withoutReturns t) = (lexemes t).map Lexeme.withoutReturns := by
  induction t using lexeme_induction with
  | nil => rw [withoutReturns, lexemes_nil, List.map_nil]
  | cons l r hl ih =>
    rw [withoutReturns_append hl.head?_ne_feed, hl.withoutReturns_source,
      lexemes_source_append hl.withoutReturns, ih, lexemes_source_append hl, List.map_cons]

/-- A line feed at the end of a text ends a run of blanks or an open literal. -/
theorem Lexeme.Fits.eq_of_append_feed {l : Lexeme} {v : Text} (h : l.Fits [])
    (hs : l.source = v ++ ['\n']) :
    l = blanks (v ++ ['\n']) ∨
      ∃ body, l = literal (body ++ ['\n']) false ∧ v = delimiter ++ body := by
  have hlast : l.source.getLast? = some '\n' := by rw [hs, List.getLast?_concat]
  cases l with
  | literal body closed =>
    cases closed with
    | true => simp [getLast?_source_closed] at hlast
    | false =>
      obtain ⟨body, rfl⟩ : ∃ init, body = init ++ ['\n'] := by
        rw [← List.getLast?_eq_some_iff]
        rcases List.eq_nil_or_concat body with rfl | ⟨init, c, rfl⟩
        · simp [source, delimiter] at hlast
        · simpa [source] using hlast
      refine Or.inr ⟨body, rfl, ?_⟩
      rw [source, ← List.append_assoc] at hs
      exact (List.append_cancel_right hs).symm
  | marker => simp [source, definitionMarker] at hlast
  | letters run =>
    have hletter := h.2.1 '\n' (List.mem_of_getLast? hlast)
    simp [feed_in_blanks] at hletter
  | blanks run => exact Or.inl (congrArg blanks hs)
  | single c =>
    obtain rfl : c = '\n' := by simpa [source] using hlast
    simpa [feed_in_blanks] using h.2.1

/-- A line feed at the end of a text is in its last lexeme, which is a run of blanks or an open
literal. Without it the lexemes are the same but for this one, and a run that is empty then is none. -/
theorem lexemes_append_feed (u : Text) :
    ∃ init, (∃ run, lexemes (u ++ ['\n']) = init ++ [.blanks (run ++ ['\n'])] ∧
        lexemes u = init ++ if run = [] then [] else [.blanks run]) ∨
      ∃ body, lexemes (u ++ ['\n']) = init ++ [.literal (body ++ ['\n']) false] ∧
        lexemes u = init ++ [.literal body false] := by
  have hne : u ++ ['\n'] ≠ [] := List.append_ne_nil_of_right_ne_nil u (List.cons_ne_nil _ _)
  obtain ⟨init, l, hl⟩ := exists_last_lexeme hne
  obtain ⟨hsource, hfits, -⟩ := lexemes_split hl
  rw [sources_nil, List.append_nil] at hsource
  obtain ⟨v, hv⟩ : ∃ v, l.source = v ++ ['\n'] := by
    rcases List.eq_nil_or_concat l.source with hnil | ⟨v, c, hv⟩
    · exact absurd hnil hfits.source_ne_nil
    · rw [List.concat_eq_append] at hv
      rw [hv, ← List.append_assoc] at hsource
      exact ⟨v, by rw [hv, (List.append_inj' hsource rfl).2]⟩
  obtain rfl : u = sources init ++ v := by
    rw [hv, ← List.append_assoc] at hsource
    exact List.append_cancel_right hsource
  -- what fits before the last lexeme fits before the beginning of it too
  have hinit : Readable v init := by
    have hread := (lexemes_eq_iff.1 hl).2
    rw [readable_append] at hread
    refine Readable.shorten (b := ['\n']) ?_
    simpa [hv] using hread.1
  have hlast {m : Lexeme} (hm : m.Fits []) (hs : m.source = v) :
      lexemes (sources init ++ v) = init ++ [m] := by
    rw [lexemes_eq_iff, readable_append]
    simpa [Readable, hs] using ⟨hinit, hm⟩
  refine ⟨init, ?_⟩
  rcases hfits.eq_of_append_feed hv with rfl | ⟨body, rfl, rfl⟩
  · refine Or.inl ⟨v, hl, ?_⟩
    split
    · next hnil =>
      rw [lexemes_eq_iff]
      simpa [hnil] using hinit
    · next hrun =>
      exact hlast ⟨hrun, fun c hc => hfits.2.1 c (List.mem_append_left _ hc), hfits.2.2⟩ rfl
  · refine Or.inr ⟨body, hl, hlast ⟨fun hd => hfits.1 ?_, rfl⟩ rfl⟩
    exact hd.trans (List.prefix_append body ['\n']).isInfix

end Stanza
