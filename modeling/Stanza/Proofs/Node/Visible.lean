import Mathlib.Data.List.Basic
import Mathlib.Data.List.Induction
import Stanza.Block
import Stanza.Proofs.Node.Window
import Stanza.Proofs.Token.Alternation

/-! What a block shows. Each node shows the text of its token, and the text of a token is its
source but for the delimiters of a literal. So a block shows its source with the delimiters taken
out, and all of its source only where there are none. -/

namespace Stanza

/-- the text with its delimiters taken out, which are found from the left and do not overlap -/
def withoutDelimiters : Text → Text
  | [] => []
  | '$' :: '$' :: rest => withoutDelimiters rest
  | c :: rest => c :: withoutDelimiters rest

theorem withoutDelimiters_eq_flatten (t : Text) : withoutDelimiters t = (pieces t).flatten := by
  fun_induction pieces t with
  | case1 => rfl
  | case2 rest ih => simp [withoutDelimiters, ih]
  | case3 c rest hc hp ih => simp_all [withoutDelimiters]
  | case4 c rest hc p ps hp ih => simp_all [withoutDelimiters]

example : withoutDelimiters "$$$a$$$".toList = "$a$".toList := by decide

theorem length_withoutDelimiters (t : Text) :
    (withoutDelimiters t).length + 2 * delimiterCount t = t.length := by
  induction t using cut_induction with
  | none p hp =>
    obtain ⟨hp, hn⟩ := pieces_of_undelimited hp
    rw [withoutDelimiters_eq_flatten, hp, hn]
    simp
  | cut p r hp ih =>
    obtain ⟨hp, hn⟩ := pieces_append r hp
    rw [withoutDelimiters_eq_flatten] at ih ⊢
    rw [hp, hn]
    simp only [List.flatten_cons, List.length_append, delimiter, List.length_cons, List.length_nil]
    omega

theorem withoutDelimiters_eq_self_iff (t : Text) : withoutDelimiters t = t ↔ Undelimited t := by
  constructor
  · intro h
    have hlength := length_withoutDelimiters t
    rw [h] at hlength
    rcases undelimited_or_exists_cut t with ht | ⟨p, r, rfl, hp⟩
    · exact ht
    · rw [(pieces_append r hp).2] at hlength
      omega
  · intro h
    rw [withoutDelimiters_eq_flatten, (pieces_of_undelimited h).1, List.flatten_singleton]

theorem Lexeme.text_token {l : Lexeme} (h : l.token.kind ≠ .literal) : l.token.text = l.source := by
  cases l with
  | literal body closed => exact absurd rfl h
  | _ => rfl

theorem flatMap_text_lex_of_undelimited {t : Text} (h : Undelimited t) :
    (lex t).flatMap Token.text = t := by
  calc (lex t).flatMap Token.text
      = (lexemes t).flatMap fun l => l.token.text := by rw [lex, List.flatMap_map]
    _ = sources (lexemes t) :=
        List.flatMap_congr fun l hl => Lexeme.text_token (kind_ne_literal h hl)
    _ = t := sources_lexemes t

theorem flatMap_text_tokensByTurns {ps : List Text} (h : ∀ p ∈ ps, Undelimited p) :
    (tokensByTurns ps).flatMap Token.text = ps.flatten := by
  induction ps using List.twoStepInduction with
  | nil => rfl
  | singleton p =>
    have hp := flatMap_text_lex_of_undelimited (h p List.mem_cons_self)
    simp [tokensByTurns, hp]
  | cons_cons p q ps ih =>
    obtain ⟨hp, hq⟩ := List.forall_mem_cons.1 h
    rw [tokensByTurns_cons_cons, List.flatMap_append, flatMap_text_lex_of_undelimited hp,
      List.flatMap_cons, ih (List.forall_mem_cons.1 hq).2, List.flatten_cons, List.flatten_cons]

/-- The texts of the tokens are the pieces of the source, inside of literals and outside. -/
theorem flatMap_text_lex (t : Text) : (lex t).flatMap Token.text = withoutDelimiters t := by
  rw [lex_eq_tokensByTurns, flatMap_text_tokensByTurns fun p => undelimited_of_mem_pieces,
    withoutDelimiters_eq_flatten]

theorem visible_windowNode (document : Text) (token : Token) (second third : Option Token) :
    (windowNode document token second third).visible = token.text := by
  unfold windowNode
  split
  · rfl
  · split
    · split <;> rfl
    · rfl
  · rfl

theorem flatMap_visible_windowNodes (document : Text) (ts : List Token) :
    (windowNodes document ts).flatMap Node.visible = ts.flatMap Token.text := by
  induction ts with
  | nil => rfl
  | cons token ts ih =>
    rw [windowNodes, List.flatMap_cons, List.flatMap_cons, visible_windowNode, ih]

/-- A block shows its source without the delimiters, and just its source where there are none. -/
theorem text_ofText (t document : Text) :
    (Block.ofText t document).text = withoutDelimiters t ∧
      ((Block.ofText t document).text = t ↔ ¬ delimiter <:+: t) := by
  have h : (Block.ofText t document).text = withoutDelimiters t := by
    calc (Block.ofText t document).text
        = (parse t document).flatMap Node.visible := rfl
      _ = (lex t).flatMap Token.text := by rw [parse_eq, flatMap_visible_windowNodes]
      _ = withoutDelimiters t := flatMap_text_lex t
  refine ⟨h, ?_⟩
  rw [h]
  exact withoutDelimiters_eq_self_iff t

end Stanza
