import Mathlib.Data.List.Infix
import Stanza.Block
import Stanza.Proofs.Node.Window
import Stanza.Proofs.Text.Quoted

/-! What the log says of a stanza. A pull tells of the node that it answers and of nothing else: the
tokens that it looks at come up again later, and are told of then, if at all. So the records are
those of the nodes in their order, and the names in a block can be read back from them. -/

namespace Stanza

/-- what is told of a node -/
def Node.told? : Node → Option Log.Record
  | .definition _ name =>
    some ⟨.trace, "spec_syntax::parser".toList, "definition of syntax ".toList ++ name.quote⟩
  | .reference r =>
    some ⟨.trace, "spec_syntax::parser".toList, "reference to syntax ".toList ++ r.target.quote⟩
  | .text _ | .literal _ => none

def Block.told (document : Text) (b : Block) : Log.Record :=
  ⟨.debug, "spec_syntax::block".toList,
    "parsed syntax block from ".toList ++ (document.quote ++ (" into ".toList ++
      (Text.ofNat b.children.length ++ " nodes".toList)))⟩

namespace Parser

theorem record_classify (token : Token) (p : Parser) :
    (classify token p).1.record = (classify token p).1.node.told? := by
  obtain ⟨kind, text⟩ := token
  cases kind with
  | identifier =>
    by_cases hname : isName text = true
    · simp only [classify, if_pos hname]
      split <;> rfl
    · simp only [classify, if_neg hname]
      rfl
  | _ => rfl

/-- One pull tells of the node that it answers. -/
theorem record_next {p : Parser} {c : Classified} (h : p.next.1 = some c) :
    c.record = c.node.told? := by
  cases htaken : p.tokens.next.1 with
  | none =>
    rw [next_of_none htaken] at h
    cases h
  | some token =>
    rw [next_of_some htaken] at h
    cases h
    exact record_classify token _

theorem record_drain (p : Parser) : ∀ c ∈ p.drain.1, c.record = c.node.told? := by
  fun_induction drain p with
  | case1 => simp
  | case2 p c p' h hlt rest ih =>
    intro d hd
    rcases List.mem_cons.1 hd with rfl | hd
    · exact record_next (congrArg Prod.fst h)
    · exact ih d hd

end Parser

theorem filterMap_record_classifyAll (t document : Text) :
    (classifyAll t document).filterMap Classified.record =
      (parse t document).filterMap Node.told? := by
  rw [parse, List.filterMap_map]
  exact List.filterMap_congr (Parser.record_drain (Parser.ofText t document))

/-- The records of a stanza: those of its nodes, and the one of the block. -/
theorem log_parse (t document : Text) :
    (Block.parse t document).2 =
      (Block.ofText t document).children.filterMap Node.told? ++
        [(Block.ofText t document).told document] := by
  have hlength : (Block.ofText t document).children.length = (classifyAll t document).length :=
    List.length_map _
  have hnodes := filterMap_record_classifyAll t document
  simp only [Block.parse, Block.told, hlength, hnodes, List.append_assoc]
  rfl

/-- A reference in a stanza is one to a rule, from the document of the stanza. -/
theorem reference?_of_mem_parse {t document : Text} {n : Node} (h : n ∈ parse t document) :
    (n.reference?.map Reference.target).map (.toRule · document) = n.reference? := by
  obtain ⟨token, -, second, third, rfl⟩ := exists_of_mem_parse h
  unfold windowNode
  split
  · rfl
  · split
    · split <;> rfl
    · rfl
  · rfl

namespace Log

/-- The text that a record quotes behind these words. -/
def Record.quoted? (words : Text) (r : Record) : Option Text :=
  ((words.isPrefixOf? r.message).bind Text.unquote?).map Prod.fst

def quoted (words : Text) (log : List Record) : List Text := log.filterMap (Record.quoted? words)

def definitions (log : List Record) : List Text := quoted "definition of syntax ".toList log

/-- The references that a log tells of. The document they stand in is told of with the block. -/
def references (log : List Record) : List Reference :=
  (quoted "parsed syntax block from ".toList log).flatMap fun document =>
    (quoted "reference to syntax ".toList log).map (.toRule · document)

theorem Record.quoted?_append (level : Level) (target words t u : Text) :
    quoted? words ⟨level, target, words ++ (t.quote ++ u)⟩ = some t := by
  have hwords : words.isPrefixOf? (words ++ (t.quote ++ u)) = some (t.quote ++ u) :=
    List.isPrefixOf?_eq_some_iff_append_eq.2 rfl
  simp only [quoted?, hwords, Option.bind_some, Text.unquote?_quote_append, Option.map_some]

theorem Record.quoted?_quote (level : Level) (target words t : Text) :
    quoted? words ⟨level, target, words ++ t.quote⟩ = some t := by
  have hread := quoted?_append level target words t []
  rwa [List.append_nil] at hread

theorem quoted_parse (words t document : Text) :
    quoted words (Block.parse t document).2 =
      (parse t document).filterMap (fun n => n.told?.bind (Record.quoted? words)) ++
        (((Block.ofText t document).told document).quoted? words).toList := by
  have hlast (r : Record) : [r].filterMap (Record.quoted? words) = (r.quoted? words).toList := by
    cases h : r.quoted? words <;> simp [h]
  rw [log_parse, quoted, List.filterMap_append, List.filterMap_filterMap, hlast]
  rfl

theorem definitions_parse (t document : Text) :
    definitions (Block.parse t document).2 = (Block.ofText t document).definitions := by
  have hnode (n : Node) :
      n.told?.bind (Record.quoted? "definition of syntax ".toList) = n.defined? := by
    cases n with
    | definition category name => exact Record.quoted?_quote _ _ _ name
    | _ => rfl
  rw [definitions, quoted_parse, funext hnode]
  exact List.append_nil _

theorem references_parse (t document : Text) :
    references (Block.parse t document).2 = (Block.ofText t document).references := by
  have hnode (n : Node) : n.told?.bind (Record.quoted? "reference to syntax ".toList) =
      n.reference?.map Reference.target := by
    cases n with
    | reference r => exact Record.quoted?_quote _ _ _ r.target
    | _ => rfl
  have hnone (n : Node) :
      n.told?.bind (Record.quoted? "parsed syntax block from ".toList) = none := by
    cases n <;> rfl
  have hdocument : quoted "parsed syntax block from ".toList (Block.parse t document).2 =
      [document] := by
    rw [quoted_parse, funext hnone, List.filterMap_none, Block.told, Record.quoted?_append]
    rfl
  have htargets : quoted "reference to syntax ".toList (Block.parse t document).2 =
      (parse t document).filterMap fun n => n.reference?.map Reference.target := by
    rw [quoted_parse, funext hnode]
    exact List.append_nil _
  rw [references, hdocument, List.flatMap_singleton, htargets, List.map_filterMap]
  exact List.filterMap_congr fun n hn => reference?_of_mem_parse hn

end Log

/-- The log of a stanza agrees with its block. Each pull tells of the node that it answers, and
nothing of a text or a literal; so the records are those of the definitions and references, in
their order, and then one with the document and the number of nodes, which is that of the tokens.
Definitions and references are read back from the log as they are. -/
theorem log_tells_block (t document : Text) :
    (∀ k : Nat, ((Parser.ofText t document).after k).next.1.map Classified.record =
        (Block.ofText t document).children[k]?.map Node.told?) ∧
      (Block.parse t document).2 =
        (Block.ofText t document).children.filterMap Node.told? ++
          [(Block.ofText t document).told document] ∧
      (Block.ofText t document).children.length = (lex t).length ∧
      Log.definitions (Block.parse t document).2 = (Block.ofText t document).definitions ∧
      Log.references (Block.parse t document).2 = (Block.ofText t document).references := by
  have hchildren : (Block.ofText t document).children = parse t document := rfl
  refine ⟨fun k => ?_, log_parse t document, ?_, Log.definitions_parse t document,
    Log.references_parse t document⟩
  · rw [hchildren, ← Parser.node_after, Option.map_map]
    cases h : ((Parser.ofText t document).after k).next.1 with
    | none => rfl
    | some c => exact congrArg some (Parser.record_next h)
  · rw [hchildren, parse_eq, length_windowNodes]

end Stanza
