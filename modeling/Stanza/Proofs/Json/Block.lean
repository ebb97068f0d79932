import Stanza.Proofs.Dump
import Stanza.Proofs.Json.Pretty

/-! What JSON says of a block and of tokens. Read again, a block is the object of its classes and
its children, where each child is an object with one field that is named for what the child is, and
a token is the object of its kind and its text. Nothing is left out of these values, so blocks and
tokens with the same JSON are the same. -/

namespace Stanza

def Token.datum (t : Token) : Datum :=
  .object [("kind".toList, .string t.kind.name), ("text".toList, .string t.text)]

def Reference.datum (r : Reference) : Datum :=
  .object [
    ("target".toList, .string r.target),
    ("display_text".toList, .string r.display),
    ("domain".toList, .string r.domain),
    ("reftype".toList, .string r.role),
    ("ref_doc".toList, .string r.document),
    ("explicit".toList, .bool r.explicit),
    ("warn".toList, .bool r.warn)]

def Node.datum : Node → Datum
  | .text content => .object [("Text".toList, .string content)]
  | .literal content => .object [("LiteralEmphasis".toList, .string content)]
  | .definition category name =>
    .object [("DefinitionMarker".toList,
      .object [("category".toList, .string category), ("name".toList, .string name)])]
  | .reference r => .object [("CrossReference".toList, r.datum)]

def Block.datum (b : Block) : Datum :=
  .object [
    ("classes".toList, .array (b.classes.map .string)),
    ("children".toList, .array (b.children.map Node.datum))]

theorem Token.datum_json (t : Token) : t.json.datum = t.datum := rfl

theorem Node.datum_json (n : Node) : n.json.datum = n.datum := by
  cases n <;> rfl

theorem Block.datum_json (b : Block) : b.json.datum = b.datum := by
  have hclasses : (b.classes.map Json.string).map Json.datum = b.classes.map .string := by
    rw [List.map_map]
    rfl
  have hchildren : (b.children.map Node.json).map Json.datum = b.children.map Node.datum := by
    rw [List.map_map]
    exact List.map_congr_left fun n _ => n.datum_json
  rw [datum, ← hclasses, ← hchildren, ← Json.itemData_eq_map, ← Json.itemData_eq_map]
  rfl

def Node.ofDatum? : Datum → Option Node
  | .object [(tag, .string content)] =>
    if tag = "Text".toList then some (.text content)
    else if tag = "LiteralEmphasis".toList then some (.literal content)
    else none
  | .object [(_, .object [(_, .string category), (_, .string name)])] =>
    some (.definition category name)
  | .object [(_, .object [(_, .string target), (_, .string display), (_, .string domain),
      (_, .string role), (_, .string document), (_, .bool explicit), (_, .bool warn)])] =>
    some (.reference ⟨target, display, domain, role, document, explicit, warn⟩)
  | _ => none

theorem Node.ofDatum?_datum (n : Node) : ofDatum? n.datum = some n := by
  cases n with
  | text content => rw [datum, ofDatum?, if_pos rfl]
  | literal content => rw [datum, ofDatum?, if_neg (by decide), if_pos rfl]
  | definition category name => rfl
  | reference r => rfl

theorem Node.datum_inj {m n : Node} (h : m.datum = n.datum) : m = n := by
  have hread := congrArg ofDatum? h
  rw [ofDatum?_datum, ofDatum?_datum] at hread
  exact Option.some.inj hread

theorem Token.datum_inj {s t : Token} (h : s.datum = t.datum) : s = t := by
  simp only [datum, Datum.object.injEq, List.cons.injEq, Prod.mk.injEq, Datum.string.injEq,
    true_and, and_true] at h
  obtain ⟨hkind, htext⟩ := h
  have hname : s.kind = t.kind := Kind.head?_name_inj (congrArg List.head? hkind)
  cases s
  cases t
  simp_all

theorem Block.datum_inj {b b' : Block} (h : b.datum = b'.datum) : b = b' := by
  simp only [datum, Datum.object.injEq, List.cons.injEq, Prod.mk.injEq, Datum.array.injEq,
    true_and, and_true] at h
  obtain ⟨hclasses, hchildren⟩ := h
  have hc := (List.map_inj_right fun _ _ => Datum.string.inj).1 hclasses
  have hn := (List.map_inj_right fun _ _ => Node.datum_inj).1 hchildren
  cases b
  cases b'
  simp_all

theorem Block.read?_render (b : Block) : Datum.read? (b.render .json) = some b.datum :=
  (Json.read?_pretty b.json).trans (congrArg some b.datum_json)

def tokensJson (ts : List Token) : Text := (Json.array (ts.map Token.json)).pretty

theorem read?_tokensJson (ts : List Token) :
    Datum.read? (tokensJson ts) = some (.array (ts.map Token.datum)) := by
  have hitems : Json.itemData (ts.map Token.json) = ts.map Token.datum := by
    rw [Json.itemData_eq_map, List.map_map]
    rfl
  rw [tokensJson, Json.read?_pretty, Json.datum, hitems]

/-- JSON is complete. A block is read again as the object of its classes and its children with all
their fields, the tokens of a text as the array of their kinds and texts. So two blocks with the
same JSON are equal, and so are the tokens of two texts. -/
theorem json_read_back :
    (∀ b : Block, Datum.read? (b.render .json) = some b.datum) ∧
    (∀ b b' : Block, b.render .json = b'.render .json ↔ b = b') ∧
    (∀ t, ∃ out, renderTokens t .json = .ok out ∧
      Datum.read? out = some (.array ((lex t).map Token.datum))) ∧
    ∀ s t, renderTokens s .json = renderTokens t .json ↔ lex s = lex t := by
  refine ⟨Block.read?_render, fun b b' => ⟨fun h => ?_, congrArg (Block.render · .json)⟩,
    fun t => ⟨tokensJson (lex t), rfl, read?_tokensJson (lex t)⟩, fun s t => ⟨fun h => ?_, ?_⟩⟩
  · have hread := congrArg Datum.read? h
    rw [Block.read?_render, Block.read?_render] at hread
    exact Block.datum_inj (Option.some.inj hread)
  · have htexts : tokensJson (lex s) = tokensJson (lex t) := Except.ok.inj h
    have hread := congrArg Datum.read? htexts
    rw [read?_tokensJson, read?_tokensJson] at hread
    have hdata := Datum.array.inj (Option.some.inj hread)
    exact (List.map_inj_right fun _ _ => Token.datum_inj).1 hdata
  · intro h
    simp only [renderTokens, h]

end Stanza
