import Mathlib.Data.List.Chain
import Stanza.Proofs.Text.Slice
import Stanza.Proofs.Token.Rule
import Stanza.Proofs.Token.Run

/-! Spans lose nothing. The spans of a text lie side by side from its first byte to its last, each
token is told by its slice of the text, and the kinds, texts and widths make up the text again. -/

namespace Stanza

/-- spans side by side from `start` to `stop`, none of them empty -/
def Contiguous (start stop : Nat) : List Spanned → Prop
  | [] => start = stop
  | x :: xs => x.start = start ∧ x.start < x.stop ∧ Contiguous x.stop stop xs

/-- the text without a delimiter that begins it, and then without one that ends it -/
def stripDelimiters (t : Text) : Text :=
  let inner := (t.dropPrefix? delimiter).getD t
  (inner.dropSuffix? delimiter).getD inner

theorem dropPrefix?_delimiter (t : Text) : (delimiter ++ t).dropPrefix? delimiter = some t :=
  List.dropPrefix?_append_of_beq t (beq_self_eq_true delimiter)

theorem stripDelimiters_closed (body : Text) :
    stripDelimiters (delimiter ++ body ++ delimiter) = body := by
  have hbody : (body ++ delimiter).dropSuffix? delimiter = some body :=
    List.dropSuffix?_eq_some_iff.2 ⟨delimiter, rfl, beq_self_eq_true delimiter⟩
  unfold stripDelimiters
  rw [List.append_assoc, dropPrefix?_delimiter]
  simp only [Option.getD_some, hbody]

/-- A body that holds no delimiter loses nothing at its end, even where it ends in a dollar. -/
theorem stripDelimiters_unclosed {body : Text} (h : Undelimited body) :
    stripDelimiters (delimiter ++ body) = body := by
  have hbody : body.dropSuffix? delimiter = none := by
    rw [Option.eq_none_iff_forall_ne_some]
    intro p hp
    obtain ⟨s, rfl, hs⟩ := List.dropSuffix?_eq_some_iff.1 hp
    rw [eq_of_beq hs] at h
    exact h (List.suffix_append p delimiter).isInfix
  unfold stripDelimiters
  rw [dropPrefix?_delimiter]
  simp only [Option.getD_some, hbody, Option.getD_none]

namespace Spanned

def Reads (source : Text) (x : Spanned) : Prop :=
  if x.token.kind = .literal then
    Undelimited x.token.text ∧ x.token.text = stripDelimiters source ∧
      (source = delimiter ++ x.token.text ++ delimiter ∧ x.Closed ∨
        source = delimiter ++ x.token.text ∧ x.Unclosed)
  else x.token.text = source

def rebuild (x : Spanned) : Text :=
  if x.token.kind ≠ .literal then x.token.text
  else if x.stop - x.start = x.token.text.byteLength + 4 then
    delimiter ++ x.token.text ++ delimiter
  else delimiter ++ x.token.text

end Spanned

/-- The spanned tokens `xs` are a partition of the text `t` that loses nothing. -/
structure Partition (t : Text) (xs : List Spanned) : Prop where
  contiguous : Contiguous 0 t.byteLength xs
  /-- at each start some rule matches, and the token is of the kind whose rule matches the most -/
  ruled : ∀ x ∈ xs, ∃ rest m, Text.dropBytes? x.start t = some rest ∧ x.token.kind.Wins m rest
  sliced : ∀ x ∈ xs, ∃ source, Text.slice? x.start x.stop t = some source ∧ x.Reads source
  closed : ∀ x ∈ xs.dropLast, x.token.kind = .literal → x.Closed
  rebuilt : xs.flatMap Spanned.rebuild = t

theorem Readable.contiguous {r : Text} {ls : List Lexeme} (h : Readable r ls) (start : Nat) :
    Contiguous start (start + (sources ls).byteLength) (Lexeme.spans start ls) := by
  induction ls generalizing start with
  | nil => rfl
  | cons l ls ih =>
    refine ⟨rfl, ?_, ?_⟩
    · obtain ⟨c, t, hc⟩ := List.exists_cons_of_ne_nil h.1.source_ne_nil
      have hpos := c.utf8Size_pos
      simp only [hc, Text.byteLength_cons]
      omega
    · rw [sources_cons, Text.byteLength_append, ← Nat.add_assoc]
      exact ih h.2 _

theorem Lexeme.reads_span {l : Lexeme} {r : Text} (h : l.Fits r) (start : Nat) :
    (l.span start).Reads l.source := by
  cases l with
  | literal body closed =>
    cases closed with
    | true =>
      exact ⟨h.1, (stripDelimiters_closed body).symm,
        Or.inl ⟨rfl, (closed_span_literal start body).1⟩⟩
    | false =>
      exact ⟨h.1, (stripDelimiters_unclosed h.1).symm,
        Or.inr ⟨rfl, (unclosed_span_literal start body).1⟩⟩
  | marker => rfl
  | letters run => rfl
  | blanks run => rfl
  | single c => rfl

theorem Spanned.Reads.rebuild_eq {x : Spanned} {source : Text} (h : x.Reads source) :
    x.rebuild = source := by
  unfold Spanned.Reads at h
  unfold Spanned.rebuild
  split at h
  · next hk =>
    rw [if_neg (not_not_intro hk)]
    rcases h.2.2 with ⟨hs, hc⟩ | ⟨hs, hu⟩
    · unfold Spanned.Closed at hc
      rw [if_pos (by omega), hs]
    · unfold Spanned.Unclosed at hu
      rw [if_neg (by omega), hs]
  · next hk => rw [if_pos hk, h]

theorem Readable.rebuild_spans {r : Text} {ls : List Lexeme} (h : Readable r ls) (start : Nat) :
    (Lexeme.spans start ls).flatMap Spanned.rebuild = sources ls := by
  induction ls generalizing start with
  | nil => rfl
  | cons l ls ih =>
    rw [Lexeme.spans_cons, List.flatMap_cons, (Lexeme.reads_span h.1 start).rebuild_eq, ih h.2,
      sources_cons]

/-- Where a token of a text stands: its lexeme, between the sources before and after it. -/
theorem exists_of_mem_lexSpans {t : Text} {x : Spanned} (h : x ∈ lexSpans t) :
    ∃ (pre : List Lexeme) (l : Lexeme) (post : List Lexeme),
      t = sources pre ++ (l.source ++ sources post) ∧ l.Fits (sources post) ∧
        x = l.span (sources pre).byteLength := by
  obtain ⟨pre, l, post, hl, rfl⟩ := Lexeme.exists_of_mem_spans h
  obtain ⟨ht, hfits, -⟩ := lexemes_split hl
  exact ⟨pre, l, post, ht, hfits, by rw [Nat.zero_add]⟩

theorem exists_of_mem_dropLast_spans {start : Nat} {ls : List Lexeme} {x : Spanned}
    (h : x ∈ (Lexeme.spans start ls).dropLast) :
    ∃ pre l m post, ls = pre ++ l :: m :: post ∧ x = l.span (start + (sources pre).byteLength) := by
  rcases List.eq_nil_or_concat ls with rfl | ⟨init, last, rfl⟩
  · cases h
  · rw [List.concat_eq_append, Lexeme.spans_append, Lexeme.spans_cons, Lexeme.spans,
      List.dropLast_concat] at h
    obtain ⟨pre, l, post, rfl, rfl⟩ := Lexeme.exists_of_mem_spans h
    obtain ⟨m, post', hm⟩ := List.exists_cons_of_ne_nil (List.concat_ne_nil last post)
    refine ⟨pre, l, m, post', ?_, rfl⟩
    rw [← hm]
    simp

/-- A literal that something follows is closed. -/
theorem closed_of_mem_dropLast {t : Text} {x : Spanned} (h : x ∈ (lexSpans t).dropLast)
    (hk : x.token.kind = .literal) : x.Closed := by
  obtain ⟨pre, l, m, post, hl, rfl⟩ := exists_of_mem_dropLast_spans h
  obtain ⟨-, hfits, hm, -⟩ := lexemes_split hl
  cases l with
  | literal body closed =>
    cases closed with
    | true => exact (Lexeme.closed_span_literal _ body).1
    | false =>
      exact absurd (List.append_eq_nil_iff.1 hfits.2).1 hm.source_ne_nil
  | marker => cases hk
  | letters run => cases hk
  | blanks run => cases hk
  | single c => cases hk

theorem partition_lexSpans (t : Text) : Partition t (lexSpans t) where
  contiguous := by
    have h := (readable_lexemes t).contiguous 0
    rwa [sources_lexemes, Nat.zero_add] at h
  ruled := by
    intro x hx
    obtain ⟨pre, l, post, rfl, hfits, rfl⟩ := exists_of_mem_lexSpans hx
    exact ⟨_, _, Text.dropBytes?_append _ _, hfits.wins⟩
  sliced := by
    intro x hx
    obtain ⟨pre, l, post, rfl, hfits, rfl⟩ := exists_of_mem_lexSpans hx
    exact ⟨_, Text.slice?_append _ _ _, Lexeme.reads_span hfits _⟩
  closed _ := closed_of_mem_dropLast
  rebuilt := ((readable_lexemes t).rebuild_spans 0).trans (sources_lexemes t)

/-- The spans of a text are a partition that loses nothing. After any calls on one lexer the next
one answers the next of the spanned tokens, or nothing when there is none, and the position is the
end of the last span handed out, or that of the text when there was none left to hand out. -/
theorem lexSpans_lossless (t : Text) :
    Partition t (lexSpans t) ∧ ∀ calls : List Lexer.Call,
      ((Lexer.ofText t).after calls).nextSpanned.1 = (lexSpans t)[calls.length]? ∧
      ((Lexer.ofText t).after calls).next.1 = (lexSpans t)[calls.length]?.map Spanned.token ∧
      ((Lexer.ofText t).after calls).position =
        ((0 :: (lexSpans t).map Spanned.stop)[calls.length]?).getD t.byteLength := by
  refine ⟨partition_lexSpans t, fun calls => ?_⟩
  have hahead : (Lexer.ofText t).ahead = lexSpans t := rfl
  have hnext : ((Lexer.ofText t).after calls).nextSpanned.1 = (lexSpans t)[calls.length]? := by
    rw [(Lexer.nextSpanned_eq _).1, Lexer.ahead_after, hahead, List.head?_drop]
  refine ⟨hnext, by rw [Lexer.next_fst, hnext], ?_⟩
  rw [Lexer.position_after, hahead]
  simp only [Lexer.ofText, Nat.zero_add]

end Stanza
