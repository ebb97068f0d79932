import Stanza.Node.Parser
import Stanza.Proofs.Lookahead
import Stanza.Proofs.Token.Run

/-! The parser as a window of three tokens that moves over the tokens of a text. The parser looks
ahead through a queue over a lexer that it shares with its main loop; seen from outside it makes
one node of each token, by the token and the two after it. -/

namespace Stanza

/-- whether `second` and `third` are the definition marker, or blanks and then the marker -/
def markerAhead (second third : Option Token) : Bool :=
  second.map Token.kind == some .definition ||
    (second.map Token.kind == some .whitespace && third.map Token.kind == some .definition)

/-- the node of a token, by the two tokens after it -/
def windowNode (document : Text) (token : Token) (second third : Option Token) : Node :=
  match token.kind with
  | .literal => .literal token.text
  | .identifier =>
    if isName token.text then
      if markerAhead second third then .definition "syntaxes".toList token.text
      else .reference
        { target := token.text
          display := token.text
          domain := "spec".toList
          role := "ref".toList
          document := document
          explicit := false
          warn := false }
    else .text token.text
  | _ => .text token.text

def windowNodes (document : Text) : List Token → List Node
  | [] => []
  | token :: ts => windowNode document token ts[0]? ts[1]? :: windowNodes document ts

theorem length_windowNodes (document : Text) (ts : List Token) :
    (windowNodes document ts).length = ts.length := by
  induction ts with
  | nil => rfl
  | cons token ts ih => rw [windowNodes, List.length_cons, List.length_cons, ih]

theorem windowNodes_getElem? (document : Text) (ts : List Token) (i : Nat) :
    (windowNodes document ts)[i]? =
      ts[i]?.map fun token => windowNode document token ts[i + 1]? ts[i + 2]? := by
  induction ts generalizing i with
  | nil => rfl
  | cons token ts ih =>
    cases i with
    | zero => rfl
    | succ i => exact ih i

namespace Lexer

theorem token_ahead (l : Lexer) : l.ahead.map Spanned.token = lex l.remaining :=
  Lexeme.token_spans _ _

/-- A lexer gives the tokens of the text that is left. -/
theorem delivers (l : Lexer) : Source.Delivers l (lex l.remaining) := by
  intro n
  rw [← token_ahead]
  induction n generalizing l with
  | zero =>
    have h : l.next.1 = (l.ahead.map Spanned.token).head? := by
      rw [next_fst, l.nextSpanned_eq.1, List.head?_map]
    exact h.trans List.head?_eq_getElem?
  | succ n ih =>
    refine (ih l.next.2).trans ?_
    rw [next_snd, l.nextSpanned_eq.2, List.map_tail, List.getElem?_tail]

end Lexer

theorem Lookahead.Holds.definitionAhead_eq {σ : Type} [Source σ Token] {b : Lookahead σ Token}
    {items : List Token} (h : b.Holds items) :
    b.definitionAhead.1 = markerAhead items[0]? items[1]? ∧ b.definitionAhead.2.Holds items := by
  obtain ⟨hblank, hholds⟩ := h.peekIs_eq 0 .whitespace
  obtain ⟨hmarker, hholds⟩ :=
    hholds.peekIs_eq (if (b.peekIs 0 .whitespace).1 then 1 else 0) .definition
  refine ⟨hmarker.trans ?_, hholds⟩
  rw [hblank, markerAhead]
  cases hsecond : items[0]? with
  | none => simp [hsecond]
  | some second => cases hkind : second.kind <;> simp [hsecond, hkind]

namespace Parser

/-- Classifying a token gives the node of the window, and takes nothing away. -/
theorem classify_eq {p : Parser} {items : List Token} (h : p.tokens.Holds items) (token : Token) :
    (classify token p).1.node = windowNode p.document token items[0]? items[1]? ∧
      (classify token p).2.tokens.Holds items ∧ (classify token p).2.document = p.document := by
  obtain ⟨hahead, hholds⟩ := h.definitionAhead_eq
  obtain ⟨kind, text⟩ := token
  cases kind with
  | literal => exact ⟨rfl, h, rfl⟩
  | definition => exact ⟨rfl, h, rfl⟩
  | whitespace => exact ⟨rfl, h, rfl⟩
  | other => exact ⟨rfl, h, rfl⟩
  | identifier =>
    by_cases hname : isName text
    · simp only [classify, windowNode, if_pos hname, hahead]
      refine ⟨?_, hholds, trivial⟩
      split <;> rfl
    · simp only [classify, windowNode, if_neg hname]
      exact ⟨rfl, h, trivial⟩

theorem next_of_none {p : Parser} (h : p.tokens.next.1 = none) :
    p.next = (none, ⟨p.tokens.next.2, p.document⟩) := by
  simp only [next, h]

theorem next_of_some {p : Parser} {token : Token} (h : p.tokens.next.1 = some token) :
    p.next = (some (classify token ⟨p.tokens.next.2, p.document⟩).1,
      (classify token ⟨p.tokens.next.2, p.document⟩).2) := by
  simp only [next, h]

/-- One pull: the node of the first token ahead, which is the only one taken away. -/
theorem next_eq {p : Parser} {items : List Token} (h : p.tokens.Holds items) :
    p.next.1.map Classified.node =
        items.head?.map (fun token => windowNode p.document token items[1]? items[2]?) ∧
      p.next.2.tokens.Holds items.tail ∧ p.next.2.document = p.document := by
  obtain ⟨htaken, hholds⟩ := h.next_eq
  cases items with
  | nil =>
    rw [next_of_none htaken]
    exact ⟨rfl, hholds, rfl⟩
  | cons token ts =>
    rw [next_of_some htaken]
    obtain ⟨hnode, hrest⟩ := classify_eq (p := ⟨p.tokens.next.2, p.document⟩) hholds token
    exact ⟨congrArg some hnode, hrest⟩

def after (p : Parser) : Nat → Parser
  | 0 => p
  | k + 1 => after p.next.2 k

theorem after_eq {p : Parser} {items : List Token} (h : p.tokens.Holds items) (k : Nat) :
    (p.after k).tokens.Holds (items.drop k) ∧ (p.after k).document = p.document := by
  induction k generalizing p items with
  | zero => exact ⟨h, rfl⟩
  | succ k ih =>
    obtain ⟨-, hholds, hdocument⟩ := next_eq h
    rw [← List.drop_tail, ← hdocument]
    exact ih hholds

theorem drain_eq {p : Parser} {items : List Token} (h : p.tokens.Holds items) :
    p.drain.1.map Classified.node = windowNodes p.document items := by
  induction items generalizing p with
  | nil =>
    obtain ⟨hnode, -⟩ := next_eq h
    unfold drain
    split
    · rfl
    · next hc => simp [hc] at hnode
  | cons token ts ih =>
    obtain ⟨hnode, hholds, hdocument⟩ := next_eq h
    unfold drain
    split
    · next hc => simp [hc] at hnode
    · next c p' hc =>
      rw [hc] at hnode hholds hdocument
      rw [List.map_cons, windowNodes, ih hholds, hdocument]
      exact congrArg (· :: _) (Option.some.inj hnode)

theorem holds_ofText (t document : Text) : (ofText t document).tokens.Holds (lex t) :=
  Lookahead.holds_ofSource (Lexer.delivers (.ofText t))

end Parser

theorem parse_eq (t document : Text) : parse t document = windowNodes document (lex t) := by
  rw [parse, classifyAll, Parser.drain_eq (Parser.holds_ofText t document)]
  rfl

/-- The node that is answered after some pulls is the next one of the stanza. -/
theorem Parser.node_after (t document : Text) (k : Nat) :
    ((ofText t document).after k).next.1.map Classified.node = (parse t document)[k]? := by
  obtain ⟨hholds, hdocument⟩ := after_eq (holds_ofText t document) k
  rw [(next_eq hholds).1, parse_eq, windowNodes_getElem?, hdocument, List.head?_drop,
    List.getElem?_drop, List.getElem?_drop]
  rfl

/-- A node of a stanza is what the window makes of one of its tokens. -/
theorem exists_of_mem_parse {t document : Text} {n : Node} (h : n ∈ parse t document) :
    ∃ token ∈ lex t, ∃ second third, n = windowNode document token second third := by
  obtain ⟨i, hi⟩ := List.mem_iff_getElem?.1 h
  rw [parse_eq, windowNodes_getElem?] at hi
  obtain ⟨token, htoken, rfl⟩ := Option.map_eq_some_iff.1 hi
  exact ⟨token, List.mem_of_getElem? htoken, _, _, rfl⟩

def Node.inDocument (document : Text) : Node → Node
  | .reference r => .reference { r with document := document }
  | n => n

theorem inDocument_windowNode (document document' : Text) (token : Token)
    (second third : Option Token) :
    (windowNode document token second third).inDocument document' =
      windowNode document' token second third := by
  unfold windowNode
  split
  · rfl
  · split
    · split <;> rfl
    · rfl
  · rfl

theorem inDocument_windowNodes (document document' : Text) (ts : List Token) :
    (windowNodes document ts).map (Node.inDocument document') = windowNodes document' ts := by
  induction ts with
  | nil => rfl
  | cons token ts ih => rw [windowNodes, List.map_cons, inDocument_windowNode, ih, windowNodes]

/-- The parser is the window: one node for each token, made of it and the two after it. After any
number of pulls what waits and what is unread are the tokens not yet taken, and the next pull
answers the next node. Only the documents of references depend on the document. -/
theorem parse_eq_window (t document : Text) :
    (parse t document).length = (lex t).length ∧
      (∀ i : Nat, (parse t document)[i]? = (lex t)[i]?.map fun token =>
        windowNode document token (lex t)[i + 1]? (lex t)[i + 2]?) ∧
      (∀ k : Nat,
        ((Parser.ofText t document).after k).tokens.queue ++
            lex ((Parser.ofText t document).after k).tokens.source.remaining = (lex t).drop k ∧
          ((Parser.ofText t document).after k).next.1.map Classified.node =
            (parse t document)[k]?) ∧
      ∀ document', (parse t document).map (Node.inDocument document') = parse t document' := by
  refine ⟨?_, fun i => ?_, fun k => ⟨?_, Parser.node_after t document k⟩, fun document' => ?_⟩
  · rw [parse_eq, length_windowNodes]
  · rw [parse_eq, windowNodes_getElem?]
  · obtain ⟨⟨rest, hrest, hitems⟩, -⟩ := Parser.after_eq (Parser.holds_ofText t document) k
    rw [hitems, (Lexer.delivers _).unique hrest]
  · rw [parse_eq, parse_eq, inDocument_windowNodes]

end Stanza
