import Stanza.Proofs.Node.Visible
import Stanza.Proofs.Token.Closing

/-! What nodes tell of their source. A node gives its token back: only literals become literal
nodes and only letters become names, and a text that is shown as it stands can be matched by no
more than one rule. So two texts have the same nodes only when they have the same tokens. -/

namespace Stanza

/-- the kind of a token that is no literal, by its text -/
def Kind.ofText (t : Text) : Kind :=
  if t.head?.any Text.isLetter then identifier
  else if t.head?.any Text.isBlank then whitespace
  else if t = definitionMarker then definition
  else other

def Node.token : Node → Token
  | text content => ⟨.ofText content, content⟩
  | literal content => ⟨.literal, content⟩
  | definition _ name => ⟨.identifier, name⟩
  | reference r => ⟨.identifier, r.target⟩

theorem Kind.Matches.ofText_eq {k : Kind} {m : Text} (h : k.Matches m) (hk : k ≠ literal) :
    ofText m = k := by
  obtain ⟨c, m', rfl, hc⟩ := h.exists_cons
  rcases hc with ⟨rfl, -⟩ | ⟨rfl, rfl, rfl⟩ | ⟨rfl, hl⟩ | ⟨rfl, hb⟩ | ⟨rfl, rfl, hl, hb⟩
  · exact absurd rfl hk
  · rfl
  · simp [ofText, hl]
  · simp [ofText, hb, Text.not_isLetter_of_isBlank hb]
  · simp [ofText, hl, hb, definitionMarker]

theorem token_windowNode {token : Token} (h : token.Spelled) (document : Text)
    (second third : Option Token) : (windowNode document token second third).token = token := by
  obtain ⟨kind, text⟩ := token
  have hkind (hk : kind ≠ .literal) : Kind.ofText text = kind :=
    Kind.Matches.ofText_eq (by simpa [Token.Spelled, hk] using h) hk
  cases kind with
  | literal => rfl
  | identifier =>
    by_cases hname : isName text = true
    · cases hmarker : markerAhead second third <;> simp [windowNode, hname, hmarker, Node.token]
    · simp [windowNode, hname, Node.token, hkind]
  | _ => simp [windowNode, Node.token, hkind]

theorem map_token_windowNodes {ts : List Token} (h : ∀ token ∈ ts, token.Spelled)
    (document : Text) : (windowNodes document ts).map Node.token = ts := by
  induction ts with
  | nil => rfl
  | cons token ts ih =>
    obtain ⟨htoken, hts⟩ := List.forall_mem_cons.1 h
    rw [windowNodes, List.map_cons, token_windowNode htoken, ih hts]

/-- The nodes of a text give its tokens back. -/
theorem map_token_parse (t document : Text) : (parse t document).map Node.token = lex t := by
  rw [parse_eq]
  exact map_token_windowNodes (readable_lexemes t).wellFormed.spelled document

/-- Parsing forgets nothing but whether a last literal that can be closed is closed. -/
theorem parse_eq_parse_iff (a b document : Text) :
    parse a document = parse b document ↔
      a = b ∨ (b = a ++ delimiter ∧ EndsOpen a) ∨ (a = b ++ delimiter ∧ EndsOpen b) := by
  rw [← lex_eq_lex_iff]
  constructor
  · intro h
    rw [← map_token_parse a document, ← map_token_parse b document, h]
  · intro h
    rw [parse_eq, parse_eq, h]

-- an open literal that ends in a dollar cannot be closed: the delimiter would begin at the dollar
example : EndsOpen "a$$b".toList ∧ ¬ EndsOpen "a$$b$".toList := by decide +kernel

end Stanza
