import Stanza.CommandLine.Run
import Stanza.Proofs.Node.Append
import Stanza.Proofs.Node.Faithful
import Stanza.Proofs.Token.Newline

/-! The block of the lines of a text. Lines that are joined again have lost the carriage returns of
their endings and the last ending, so a block of lines is that of the text but for what its texts
and literals show of line endings. What is defined and what is referred to is the same. -/

namespace Stanza

def Token.withoutReturns (token : Token) : Token := ⟨token.kind, token.text.withoutReturns⟩

/-- the node with the line endings in what it shows written without returns -/
def Node.withoutReturns : Node → Node
  | text content => .text content.withoutReturns
  | literal content => .literal content.withoutReturns
  | n => n

theorem Lexeme.Fits.token_withoutReturns {l : Lexeme} {r : Text} (h : l.Fits r) :
    l.withoutReturns.token = l.token.withoutReturns := by
  cases l with
  | letters run =>
    have hrun := Text.withoutReturns_eq_self (not_mem_of_isLetter h.2.1)
    simp [Lexeme.withoutReturns, token, Token.withoutReturns, hrun]
  | single c =>
    have hc : Text.withoutReturns [c] = [c] := Text.withoutReturns_cons (by simp)
    simp [Lexeme.withoutReturns, token, Token.withoutReturns, hc]
  | _ => rfl

theorem lex_withoutReturns (t : Text) :
    lex t.withoutReturns = (lex t).map Token.withoutReturns := by
  rw [lex, lex, lexemes_withoutReturns, List.map_map, List.map_map]
  refine List.map_congr_left fun l hl => ?_
  obtain ⟨pre, post, hparts⟩ := List.append_of_mem hl
  exact (lexemes_split hparts).2.1.token_withoutReturns

theorem markerAhead_withoutReturns (second third : Option Token) :
    markerAhead (second.map Token.withoutReturns) (third.map Token.withoutReturns) =
      markerAhead second third := by
  rw [markerAhead, Option.map_map, Option.map_map]
  rfl

theorem windowNode_withoutReturns {token : Token} (h : token.Spelled) (document : Text)
    (second third : Option Token) :
    windowNode document token.withoutReturns (second.map Token.withoutReturns)
        (third.map Token.withoutReturns) =
      (windowNode document token second third).withoutReturns := by
  have hahead := markerAhead_withoutReturns second third
  obtain ⟨kind, text⟩ := token
  cases kind with
  | identifier =>
    have htext : text.withoutReturns = text :=
      Text.withoutReturns_eq_self (Lexeme.not_mem_of_isLetter h.2)
    simp only [windowNode, Token.withoutReturns, htext] at hahead ⊢
    rw [hahead]
    split
    · split <;> rfl
    · rw [Node.withoutReturns, htext]
  | _ => rfl

theorem windowNodes_withoutReturns {ts : List Token} (h : ∀ token ∈ ts, token.Spelled)
    (document : Text) :
    windowNodes document (ts.map Token.withoutReturns) =
      (windowNodes document ts).map Node.withoutReturns := by
  induction ts with
  | nil => rfl
  | cons token ts ih =>
    obtain ⟨htoken, hts⟩ := List.forall_mem_cons.1 h
    rw [List.map_cons, windowNodes, windowNodes, List.map_cons, ih hts, List.getElem?_map,
      List.getElem?_map, windowNode_withoutReturns htoken]

/-- Without returns in its line endings a text has the same nodes, each without them. -/
theorem parse_withoutReturns (t document : Text) :
    parse t.withoutReturns document = (parse t document).map Node.withoutReturns := by
  have hspelled : ∀ token ∈ lex t, token.Spelled := (readable_lexemes t).wellFormed.spelled
  rw [parse_eq, parse_eq, lex_withoutReturns, windowNodes_withoutReturns hspelled]

/-- A token at the end that is no marker makes no difference to the nodes before it. -/
theorem windowNodes_concat {document : Text} {token : Token} (h : token.kind ≠ .definition)
    (ts : List Token) :
    windowNodes document (ts ++ [token]) =
      windowNodes document ts ++ [windowNode document token none none] := by
  have hreach (i : Nat) : ¬ ReachesMarker ts [token] i := by
    simp [ReachesMarker, markerAhead, h]
  rw [windowNodes_append]
  refine congrArg (· ++ _) (List.mapIdx_eq_iff.2 fun i => ?_)
  simp [hreach]

theorem parse_of_lexemes {t : Text} {init : List Lexeme} {l : Lexeme}
    (h : lexemes t = init ++ [l]) (hl : l ≠ .marker) (document : Text) :
    parse t document =
      windowNodes document (init.map Lexeme.token) ++ [windowNode document l.token none none] := by
  rw [parse_eq, lex, h, List.map_append]
  exact windowNodes_concat (mt Lexeme.kind_definition_iff.1 hl) _

/-- `xs` ends with a node that shows a line feed last; `ys` are the same without this line feed, and
without the node if it is a text of nothing else -/
def LosesFeed (xs ys : List Node) : Prop :=
  ∃ init shown,
    (xs = init ++ [.text (shown ++ ['\n'])] ∧
      ys = init ++ if shown = [] then [] else [.text shown]) ∨
    (xs = init ++ [.literal (shown ++ ['\n'])] ∧ ys = init ++ [.literal shown])

theorem parse_losesFeed (u document : Text) :
    LosesFeed (parse (u ++ ['\n']) document) (parse u document) := by
  obtain ⟨ls, ⟨run, hfeed, hu⟩ | ⟨body, hfeed, hu⟩⟩ := lexemes_append_feed u
  · refine ⟨windowNodes document (ls.map Lexeme.token), run,
      Or.inl ⟨parse_of_lexemes hfeed Lexeme.noConfusion document, ?_⟩⟩
    split at hu
    · next hrun =>
      rw [if_pos hrun, List.append_nil, parse_eq, lex, hu, List.append_nil]
    · next hrun =>
      rw [if_neg hrun]
      exact parse_of_lexemes hu Lexeme.noConfusion document
  · exact ⟨windowNodes document (ls.map Lexeme.token), body,
      Or.inr ⟨parse_of_lexemes hfeed Lexeme.noConfusion document,
        parse_of_lexemes hu Lexeme.noConfusion document⟩⟩

/-- The nodes of the lines of a text are its nodes without returns, and without the line feed that
ends the text. -/
theorem children_ofLines (s document : Text) :
    (s.getLast? ≠ some '\n' → (Block.ofLines s.lines document).children =
      (Block.ofText s document).children.map Node.withoutReturns) ∧
    (s.getLast? = some '\n' → LosesFeed
      ((Block.ofText s document).children.map Node.withoutReturns)
      (Block.ofLines s.lines document).children) := by
  have hjoin := Text.joinLines_lines s
  have hparse : parse s.withoutReturns document =
      (Block.ofText s document).children.map Node.withoutReturns := parse_withoutReturns s document
  constructor
  · intro hlast
    rw [Text.lastNewline, if_neg hlast, List.append_nil] at hjoin
    rw [← hparse, ← hjoin]
    rfl
  · intro hlast
    rw [Text.lastNewline, if_pos hlast] at hjoin
    rw [← hparse, ← hjoin]
    exact parse_losesFeed _ document

section filterMap

variable {α : Type} {f : Node → Option α}

theorem filterMap_withoutReturns (hf : ∀ c, f (.text c) = none ∧ f (.literal c) = none)
    (nodes : List Node) : (nodes.map Node.withoutReturns).filterMap f = nodes.filterMap f := by
  rw [List.filterMap_map]
  refine congrArg (nodes.filterMap ·) (funext fun n => ?_)
  cases n <;> simp [Node.withoutReturns, hf]

theorem LosesFeed.filterMap_eq (hf : ∀ c, f (.text c) = none ∧ f (.literal c) = none)
    {xs ys : List Node} (h : LosesFeed xs ys) : ys.filterMap f = xs.filterMap f := by
  obtain ⟨init, shown, ⟨rfl, rfl⟩ | ⟨rfl, rfl⟩⟩ := h
  · split <;> simp [List.filterMap_append, hf]
  · simp [List.filterMap_append, hf]

/-- Nothing that is told of neither texts nor literals changes. -/
theorem filterMap_ofLines (hf : ∀ c, f (.text c) = none ∧ f (.literal c) = none)
    (s document : Text) :
    (Block.ofLines s.lines document).children.filterMap f =
      (Block.ofText s document).children.filterMap f := by
  obtain ⟨hsame, hloses⟩ := children_ofLines s document
  by_cases hlast : s.getLast? = some '\n'
  · rw [(hloses hlast).filterMap_eq hf, filterMap_withoutReturns hf]
  · rw [hsame hlast, filterMap_withoutReturns hf]

end filterMap

theorem joinLines_lines_withReturns {s : Text} (h : '\r' ∉ s) :
    Text.joinLines s.withReturns.lines = Text.joinLines s.lines := by
  have hlines := Text.joinLines_lines s
  have hreturns := Text.joinLines_lines s.withReturns
  have hlast : Text.lastNewline s.withReturns = Text.lastNewline s := by
    rw [Text.lastNewline, Text.getLast?_withReturns]
    rfl
  rw [Text.withoutReturns_eq_self h] at hlines
  rw [Text.withoutReturns_withReturns h, hlast] at hreturns
  exact List.append_cancel_right (hreturns.trans hlines.symm)

theorem joinLines_lines_append_feed {s : Text} (h : '\r' ∉ s) :
    Text.joinLines (s ++ ['\n']).lines = s := by
  have hlines := Text.joinLines_lines (s ++ ['\n'])
  rw [Text.lastNewline, if_pos List.getLast?_concat, Text.withoutReturns_eq_self (by simpa using h)]
    at hlines
  exact List.append_cancel_right hlines

theorem parse_append_feed_ne (u document : Text) :
    parse (u ++ ['\n']) document ≠ parse u document := by
  intro h
  obtain ⟨init, shown, ⟨hfeed, hu⟩ | ⟨hfeed, hu⟩⟩ := parse_losesFeed u document
  · rw [hfeed, hu, List.append_cancel_left_eq] at h
    split at h
    · cases h
    · simp at h
  · rw [hfeed, hu, List.append_cancel_left_eq] at h
    simp at h

theorem present_eq_ofLines {a : CommandLine.Arguments} (h : a.tokens = false) (s document : Text)
    (format : Format) :
    (CommandLine.present a document format s).1 =
      .ok ((Block.ofLines s.lines document).render format) := by
  rw [CommandLine.present, if_neg (by simp [h])]
  rfl

/-- What the command line shows of a text is the block of its lines. This defines and refers to what
the block of the text does. Its nodes are the same with line endings written without returns, but
for the line feed that ends the text, which the last node loses. So it does not matter whether line
endings are written with returns, and one more line feed at the end matters only behind another. -/
theorem ofLines_lines (s document : Text) :
    (∀ (a : CommandLine.Arguments) (format : Format), a.tokens = false →
      (CommandLine.present a document format s).1 =
        .ok ((Block.ofLines s.lines document).render format)) ∧
    (Block.ofLines s.lines document).definitions = (Block.ofText s document).definitions ∧
    (Block.ofLines s.lines document).references = (Block.ofText s document).references ∧
    (s.getLast? ≠ some '\n' → (Block.ofLines s.lines document).children =
      (Block.ofText s document).children.map Node.withoutReturns) ∧
    (s.getLast? = some '\n' → LosesFeed
      ((Block.ofText s document).children.map Node.withoutReturns)
      (Block.ofLines s.lines document).children) ∧
    ('\r' ∉ s →
      Block.ofLines s.withReturns.lines document = Block.ofLines s.lines document ∧
      (Block.ofLines (s ++ ['\n']).lines document = Block.ofLines s.lines document ↔
        s.getLast? ≠ some '\n')) := by
  obtain ⟨hsame, hloses⟩ := children_ofLines s document
  refine ⟨fun a format h => present_eq_ofLines h s document format,
    filterMap_ofLines (fun _ => ⟨rfl, rfl⟩) s document,
    filterMap_ofLines (fun _ => ⟨rfl, rfl⟩) s document, hsame, hloses, fun hreturn => ⟨?_, ?_⟩⟩
  · rw [Block.ofLines, Block.ofLines, joinLines_lines_withReturns hreturn]
  · have hlines := Text.joinLines_lines s
    rw [Text.withoutReturns_eq_self hreturn, Text.lastNewline] at hlines
    rw [Block.ofLines, Block.ofLines, joinLines_lines_append_feed hreturn]
    constructor
    · intro hblock hlast
      rw [if_pos hlast] at hlines
      refine parse_append_feed_ne (Text.joinLines s.lines) document ?_
      rw [hlines]
      exact congrArg Block.children hblock
    · intro hlast
      rw [if_neg hlast, List.append_nil] at hlines
      rw [hlines]

/-- a line ending at the end of an open literal, and one that is all of a literal -/
theorem ofLines_lines_literals :
    let s : Text := "Item\r\n::= $$a\r\n".toList
    let t : Text := "Item\n$$\n$$".toList
    (s.getLast? = some '\n' ∧
      LosesFeed ((Block.ofText s []).children.map Node.withoutReturns)
        (Block.ofLines s.lines []).children) ∧
    (t.getLast? ≠ some '\n' ∧
      (Block.ofLines t.lines []).children =
        (Block.ofText t []).children.map Node.withoutReturns) ∧
    ('\r' ∉ t ∧ Block.ofLines t.withReturns.lines [] = Block.ofLines t.lines [] ∧
      Block.ofLines (t ++ ['\n']).lines [] = Block.ofLines t.lines []) ∧
    CommandLine.Arguments.empty.tokens = false ∧
      (CommandLine.present .empty [] .json s).1 = .ok ((Block.ofLines s.lines []).render .json) := by
  intro s t
  obtain ⟨hshown, -, -, -, hloses, -⟩ := ofLines_lines s []
  obtain ⟨-, -, -, hsame, -, hreturns⟩ := ofLines_lines t []
  obtain ⟨hblock, hfeed⟩ := hreturns (by decide)
  exact ⟨⟨by decide, hloses (by decide)⟩, ⟨by decide, hsame (by decide)⟩,
    ⟨by decide, hblock, hfeed.2 (by decide)⟩, rfl, hshown .empty .json rfl⟩

end Stanza
