import Stanza.Proofs.Token.Readable

/-! Reading a text that is put together from two. The lexemes of the two halves are those of the
whole exactly when the seam is clean: the last lexeme of the left half would have been read before
the right half too, and no two colons end the left half where the right one begins with `=`. -/

namespace Stanza

namespace Lexeme

/-- A lexeme that fits before some text fits before more of it. What follows a colon is looked at
for two characters, which is why a second colon may not be followed by `=`. -/
theorem Fits.append {l : Lexeme} {r : Text} (h : l.Fits r) (hr : r ≠ []) {b : Text}
    (hb : l = single ':' → r = [':'] → b.head? ≠ some '=') : l.Fits (r ++ b) := by
  cases l with
  | literal body closed =>
    cases closed with
    | true => exact h
    | false => exact absurd h.2 hr
  | marker => trivial
  | letters run => exact ⟨h.1, h.2.1, h.2.2.append hr b⟩
  | blanks run => exact ⟨h.1, h.2.1, h.2.2.append hr b⟩
  | single c =>
    obtain ⟨hl, hbl, hdollar, hcolon⟩ := h
    obtain ⟨d, r, rfl⟩ := List.exists_cons_of_ne_nil hr
    refine ⟨hl, hbl, hdollar, ?_⟩
    rintro rfl hp
    cases r with
    | nil =>
      obtain ⟨rfl, t, rfl⟩ := List.cons_prefix_cons.1 hp
      exact hb rfl rfl rfl
    | cons e r =>
      refine hcolon rfl ?_
      simpa using hp

/-- Only a colon can lose its fit when a text that it fits before goes on. -/
theorem Fits.of_append {l : Lexeme} {r b : Text} (h : l.Fits (r ++ b)) (hr : r = [':'])
    (hl : l = single ':') : b.head? ≠ some '=' := by
  subst hr hl
  intro hb
  obtain ⟨t, rfl⟩ := List.head?_eq_some_iff.1 hb
  exact h.2.2.2 rfl ⟨t, rfl⟩

theorem Fits.shorten {l : Lexeme} {r b : Text} (h : l.Fits (r ++ b)) : l.Fits r := by
  cases l with
  | literal body closed =>
    cases closed with
    | true => exact h
    | false => exact ⟨h.1, (List.append_eq_nil_iff.1 h.2).1⟩
  | marker => trivial
  | letters run => exact ⟨h.1, h.2.1, h.2.2.shorten⟩
  | blanks run => exact ⟨h.1, h.2.1, h.2.2.shorten⟩
  | single c =>
    obtain ⟨hl, hb, hdollar, hcolon⟩ := h
    refine ⟨hl, hb, fun hc hr => hdollar hc ?_, fun hc hr => hcolon hc ?_⟩
    · rw [List.head?_append, hr]
      rfl
    · exact hr.trans (List.prefix_append r b)

/-- the only lexeme whose source is a colon -/
theorem Fits.eq_colon {l : Lexeme} {r : Text} (h : l.Fits r) (hs : l.source = [':']) :
    l = single ':' := by
  cases l with
  | literal body closed => cases closed <;> simp [source, delimiter] at hs
  | marker => simp [source, definitionMarker] at hs
  | letters run =>
    obtain rfl : run = [':'] := hs
    simpa [colon_in_no_run] using h.2.1
  | blanks run =>
    obtain rfl : run = [':'] := hs
    simpa [colon_in_no_run] using h.2.1
  | single c => simpa [source] using hs

end Lexeme

theorem Readable.shorten {r b : Text} {ls : List Lexeme} (h : Readable (r ++ b) ls) :
    Readable r ls := by
  induction ls with
  | nil => trivial
  | cons l ls ih =>
    obtain ⟨hl, hls⟩ := h
    rw [← List.append_assoc] at hl
    exact ⟨hl.shorten, ih hls⟩

/-- The lexemes of a text are also those of its parts, wherever they are parted. -/
theorem lexemes_parts {t : Text} {pre post : List Lexeme} (h : lexemes t = pre ++ post) :
    t = sources pre ++ sources post ∧ lexemes (sources pre) = pre ∧
      lexemes (sources post) = post := by
  obtain ⟨hsource, hread⟩ := lexemes_eq_iff.1 h
  obtain ⟨hpre, hpost⟩ := readable_append.1 hread
  rw [sources_append] at hsource
  exact ⟨hsource.symm, lexemes_sources (hpre.shorten (r := [])), lexemes_sources hpost⟩

theorem Readable.sources_eq_nil {r : Text} {ls : List Lexeme} (h : Readable r ls)
    (hs : sources ls = []) : ls = [] := by
  cases ls with
  | nil => rfl
  | cons l ls => exact absurd (List.append_eq_nil_iff.1 hs).1 h.1.source_ne_nil

theorem Readable.sources_eq_colon {r : Text} {ls : List Lexeme} (h : Readable r ls)
    (hs : sources ls = [':']) : ls = [.single ':'] := by
  cases ls with
  | nil => simp at hs
  | cons l ls =>
    rcases List.append_eq_singleton_iff.1 hs with ⟨h0, -⟩ | ⟨h1, h2⟩
    · exact absurd h0 h.1.source_ne_nil
    · rw [h.1.eq_colon h1, h.2.sources_eq_nil h2]

/-- the lexemes `ls` stay as they are when `b` is put after them -/
structure CleanSeam (ls : List Lexeme) (b : Text) : Prop where
  last : ∀ l ∈ ls.getLast?, l.Fits b
  colons : [.single ':', .single ':'] <:+ ls → b.head? ≠ some '='

theorem readable_iff_cleanSeam {ls : List Lexeme} (h : Readable [] ls) (b : Text) :
    Readable b ls ↔ CleanSeam ls b := by
  induction ls with
  | nil => exact ⟨fun _ => ⟨by simp, by simp⟩, fun _ => trivial⟩
  | cons l ls ih =>
    obtain ⟨hl, hls⟩ := readable_cons.1 h
    rw [Readable, ih hls]
    cases ls with
    | nil =>
      constructor
      · rintro ⟨hb, -⟩
        exact ⟨by simpa using hb, fun hs => by simpa using hs.length_le⟩
      · rintro ⟨hb, -⟩
        exact ⟨by simpa using hb, by simp, by simp⟩
    | cons m ls =>
      have hne : sources (m :: ls) ≠ [] := fun h => List.cons_ne_nil _ _ (hls.sources_eq_nil h)
      constructor
      · rintro ⟨hb, last, colons⟩
        refine ⟨by simpa using last, fun hs => ?_⟩
        rcases List.suffix_cons_iff.1 hs with hs | hs
        · obtain ⟨rfl, rfl, rfl⟩ : Lexeme.single ':' = l ∧ Lexeme.single ':' = m ∧ ls = [] := by
            simpa [eq_comm] using hs
          exact hb.of_append rfl rfl
        · exact colons hs
      · rintro ⟨last, colons⟩
        refine ⟨hl.append hne ?_, by simpa using last, fun hs => colons (hs.trans (List.suffix_cons l _))⟩
        rintro rfl hs
        rw [hls.sources_eq_colon hs] at colons
        exact colons List.suffix_rfl

/-- Two texts are read as one exactly when the seam is clean. -/
theorem lexemes_append_iff (a b : Text) :
    lexemes (a ++ b) = lexemes a ++ lexemes b ↔ CleanSeam (lexemes a) b := by
  rw [lexemes_eq_iff, readable_append, sources_append, sources_lexemes, sources_lexemes,
    List.append_nil, readable_iff_cleanSeam (readable_lexemes a)]
  simp [readable_lexemes]

end Stanza
