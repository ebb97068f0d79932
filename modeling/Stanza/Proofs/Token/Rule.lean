import Stanza.Proofs.Token.Readable

/-! The rules of the lexer, said by what they match. At the beginning of a text the rule that
matches the most wins. Some rule always does, no two can, and its kind is the kind of the token
that the lexer takes there. -/

namespace Stanza

namespace Kind

/-- What the rule of a kind matches. The rule of literals matches an opening delimiter; the rest of
the literal is found from there. -/
def Matches (m : Text) : Kind → Prop
  | literal => m = delimiter
  | definition => m = definitionMarker
  | identifier => m ≠ [] ∧ ∀ c ∈ m, Text.isLetter c = true
  | whitespace => m ≠ [] ∧ ∀ c ∈ m, Text.isBlank c = true
  | other => m.length = 1 ∧ ∀ c ∈ m, Text.isLetter c = false ∧ Text.isBlank c = false

instance (m : Text) : (k : Kind) → Decidable (k.Matches m)
  | literal => inferInstanceAs (Decidable (m = delimiter))
  | definition => inferInstanceAs (Decidable (m = definitionMarker))
  | identifier => decidable_of_iff (m ≠ [] ∧ m.all Text.isLetter) (by simp [Matches])
  | whitespace => decidable_of_iff (m ≠ [] ∧ m.all Text.isBlank) (by simp [Matches])
  | other => decidable_of_iff
      (m.length = 1 ∧ m.all fun c => !Text.isLetter c && !Text.isBlank c) (by simp [Matches])

/-- the rule of `k` matches `m` at the beginning of `t`, and every other rule matches less there -/
structure Wins (k : Kind) (m t : Text) : Prop where
  isMatch : k.Matches m
  begins : m <+: t
  longest : ∀ k' m', k'.Matches m' → m' <+: t → m'.length < m.length ∨ (k' = k ∧ m' = m)

theorem Wins.unique {k k' : Kind} {m m' t : Text} (h : k.Wins m t) (h' : k'.Wins m' t) :
    k' = k ∧ m' = m := by
  rcases h.longest k' m' h'.isMatch h'.begins with hlt | heq
  · rcases h'.longest k m h.isMatch h.begins with hlt' | ⟨hk, hm⟩
    · omega
    · exact ⟨hk.symm, hm.symm⟩
  · exact heq

/-- what a rule can match, by its first character -/
theorem Matches.exists_cons {k : Kind} {m : Text} (h : k.Matches m) :
    ∃ c m', m = c :: m' ∧
      (k = literal ∧ c = '$' ∧ m' = ['$'] ∨ k = definition ∧ c = ':' ∧ m' = [':', '='] ∨
        k = identifier ∧ Text.isLetter c = true ∨ k = whitespace ∧ Text.isBlank c = true ∨
        k = other ∧ m' = [] ∧ Text.isLetter c = false ∧ Text.isBlank c = false) := by
  cases k with
  | literal => exact ⟨'$', ['$'], h, by simp⟩
  | definition => exact ⟨':', [':', '='], h, by simp⟩
  | identifier =>
    obtain ⟨hne, hall⟩ := h
    obtain ⟨c, m', rfl⟩ := List.exists_cons_of_ne_nil hne
    exact ⟨c, m', rfl, by simpa using hall c List.mem_cons_self⟩
  | whitespace =>
    obtain ⟨hne, hall⟩ := h
    obtain ⟨c, m', rfl⟩ := List.exists_cons_of_ne_nil hne
    exact ⟨c, m', rfl, by simpa using hall c List.mem_cons_self⟩
  | other =>
    obtain ⟨hlen, hall⟩ := h
    obtain ⟨c, rfl⟩ := List.length_eq_one_iff.1 hlen
    exact ⟨c, [], rfl, by simpa using hall c List.mem_cons_self⟩

end Kind

def Lexeme.matched : Lexeme → Text
  | literal _ _ => delimiter
  | l => l.source

/-- A lexeme that fits is read by the rule that wins. -/
theorem Lexeme.Fits.wins {l : Lexeme} {r : Text} (h : l.Fits r) :
    l.token.kind.Wins l.matched (l.source ++ r) := by
  cases l with
  | literal body closed =>
    obtain ⟨t, ht⟩ : ∃ t, (literal body closed).source ++ r = '$' :: '$' :: t := by
      cases closed <;> simp [source, delimiter]
    rw [ht]
    refine ⟨rfl, ⟨t, rfl⟩, fun k m hk hm => ?_⟩
    obtain ⟨c, m, rfl, hc⟩ := hk.exists_cons
    obtain ⟨rfl, -⟩ := List.cons_prefix_cons.1 hm
    rcases hc with ⟨rfl, -, rfl⟩ | ⟨-, hc, -⟩ | ⟨-, hc⟩ | ⟨-, hc⟩ | ⟨-, rfl, -⟩
    · exact Or.inr ⟨rfl, rfl⟩
    · exact absurd hc (by decide)
    · exact absurd hc (by simp [dollar_in_no_run])
    · exact absurd hc (by simp [dollar_in_no_run])
    · exact Or.inl (by simp [matched, delimiter])
  | marker =>
    refine ⟨rfl, List.prefix_append _ _, fun k m hk hm => ?_⟩
    obtain ⟨c, m, rfl, hc⟩ := hk.exists_cons
    obtain ⟨rfl, -⟩ := List.cons_prefix_cons.1 hm
    rcases hc with ⟨-, hc, -⟩ | ⟨rfl, -, rfl⟩ | ⟨-, hc⟩ | ⟨-, hc⟩ | ⟨-, rfl, -⟩
    · exact absurd hc (by decide)
    · exact Or.inr ⟨rfl, rfl⟩
    · exact absurd hc (by simp [colon_in_no_run])
    · exact absurd hc (by simp [colon_in_no_run])
    · exact Or.inl (by simp [matched, source, definitionMarker])
  | letters run =>
    refine ⟨⟨h.1, h.2.1⟩, List.prefix_append _ _, fun k m hk hm => ?_⟩
    obtain ⟨d, run', rfl⟩ := List.exists_cons_of_ne_nil h.1
    have hd := h.2.1 d List.mem_cons_self
    obtain ⟨c, m', rfl, hc⟩ := hk.exists_cons
    obtain ⟨rfl, -⟩ := List.cons_prefix_cons.1 hm
    rcases hc with ⟨-, rfl, -⟩ | ⟨-, rfl, -⟩ | ⟨rfl, -⟩ | ⟨-, hc⟩ | ⟨-, -, hc, -⟩
    · exact absurd hd (by decide)
    · exact absurd hd (by decide)
    · exact (h.longest hk.2 hm).imp_right fun heq => ⟨rfl, heq⟩
    · exact absurd hd (by simp [Text.not_isLetter_of_isBlank hc])
    · exact absurd hd (by simp [hc])
  | blanks run =>
    refine ⟨⟨h.1, h.2.1⟩, List.prefix_append _ _, fun k m hk hm => ?_⟩
    obtain ⟨d, run', rfl⟩ := List.exists_cons_of_ne_nil h.1
    have hd := h.2.1 d List.mem_cons_self
    obtain ⟨c, m', rfl, hc⟩ := hk.exists_cons
    obtain ⟨rfl, -⟩ := List.cons_prefix_cons.1 hm
    rcases hc with ⟨-, rfl, -⟩ | ⟨-, rfl, -⟩ | ⟨-, hc⟩ | ⟨rfl, -⟩ | ⟨-, -, -, hc⟩
    · exact absurd hd (by decide)
    · exact absurd hd (by decide)
    · exact absurd hc (by simp [Text.not_isLetter_of_isBlank hd])
    · exact (h.longest hk.2 hm).imp_right fun heq => ⟨rfl, heq⟩
    · exact absurd hd (by simp [hc])
  | single d =>
    obtain ⟨hl, hb, hdollar, hcolon⟩ := h
    refine ⟨⟨rfl, List.forall_mem_singleton.2 ⟨hl, hb⟩⟩, List.prefix_append _ _, fun k m hk hm => ?_⟩
    obtain ⟨c, m', rfl, hc⟩ := hk.exists_cons
    obtain ⟨rfl, hrest⟩ := List.cons_prefix_cons.1 hm
    rcases hc with ⟨-, rfl, rfl⟩ | ⟨-, rfl, rfl⟩ | ⟨-, hc⟩ | ⟨-, hc⟩ | ⟨rfl, rfl, -⟩
    · obtain ⟨t, rfl⟩ : ['$'] <+: r := hrest
      exact absurd rfl (hdollar rfl)
    · exact absurd hrest (hcolon rfl)
    · exact absurd hc (by simp [hl])
    · exact absurd hc (by simp [hb])
    · exact Or.inr ⟨rfl, rfl⟩

end Stanza
