import Stanza.Proofs.Markup.Block
import Stanza.Proofs.Node.Faithful

/-! What HTML tells of a stanza. Texts stand side by side in it with nothing between them, so where
one ends and the next begins is not written. It need not be: the trees give a text that has the same
tokens as the source, and reading its tokens again parts it as before. The documents of references
are written out, so in the end all nodes are known. -/

namespace Stanza

open Markup

/-- a text with the tokens that the trees of a stanza were made of -/
def Markup.sourceOf : List Tree → Text
  | [] => []
  | .char c :: ts => c :: sourceOf ts
  | .element tag _ content :: ts =>
    (if tag = "strong".toList then Token.written ⟨.literal, text content⟩ else text content) ++
      sourceOf ts

theorem sourceOf_chars (t : Text) (ts : List Tree) :
    sourceOf (t.map .char ++ ts) = t ++ sourceOf ts := by
  induction t with
  | nil => rfl
  | cons c t ih => rw [List.map_cons, List.cons_append, sourceOf, ih, List.cons_append]

theorem sourceOf_windowNode (document : Text) (token : Token) (second third : Option Token)
    (ts : List Tree) :
    sourceOf ((windowNode document token second third).trees ++ ts) =
      token.written ++ sourceOf ts := by
  obtain ⟨kind, content⟩ := token
  have hshown (hk : kind ≠ .literal) : Token.written ⟨kind, content⟩ = content := by
    simp [Token.written, hk]
  cases kind with
  | literal => simp [windowNode, Node.trees, sourceOf, text_chars]
  | identifier =>
    have hwritten := hshown (by decide)
    by_cases hname : isName content = true
    · cases hmarker : markerAhead second third <;>
        simp [windowNode, hname, hmarker, Node.trees, sourceOf, text_chars, hwritten]
    · simp [windowNode, hname, Node.trees, sourceOf_chars, hwritten]
  | definition => rw [hshown (by decide)]; exact sourceOf_chars content ts
  | whitespace => rw [hshown (by decide)]; exact sourceOf_chars content ts
  | other => rw [hshown (by decide)]; exact sourceOf_chars content ts

theorem sourceOf_windowNodes (document : Text) (ts : List Token) :
    sourceOf ((windowNodes document ts).flatMap Node.trees) = written ts := by
  induction ts with
  | nil => rfl
  | cons token ts ih =>
    rw [windowNodes, List.flatMap_cons, sourceOf_windowNode, ih]
    rfl

/-- The trees of a stanza give its tokens back. -/
theorem lex_sourceOf_parse (t document : Text) :
    lex (sourceOf ((parse t document).flatMap Node.trees)) = lex t := by
  rw [parse_eq, sourceOf_windowNodes]
  exact (readable_lexemes t).wellFormed.lex_written

theorem hasPlainClass_windowNode (document : Text) (token : Token) (second third : Option Token) :
    (windowNode document token second third).HasPlainClass := by
  unfold windowNode
  split
  · trivial
  · split
    · split
      · trivial
      · exact Node.hasPlainClass_ruleReference token.text document
    · trivial
  · trivial

theorem hasPlainClass_parse (t document : Text) : ∀ n ∈ parse t document, n.HasPlainClass := by
  intro n hn
  obtain ⟨token, -, second, third, rfl⟩ := exists_of_mem_parse hn
  exact hasPlainClass_windowNode document token second third

theorem Node.length_trees_inDocument (document : Text) (n : Node) :
    (n.inDocument document).trees.length = n.trees.length := by
  cases n <;> rfl

theorem Node.eq_of_trees_inDocument {document : Text} {n : Node}
    (h : (n.inDocument document).trees = n.trees) : n.inDocument document = n := by
  cases n with
  | reference r =>
    obtain rfl : document = r.document := by simpa [inDocument, trees] using h
    rfl
  | _ => rfl

/-- A reference in another document has other trees. -/
theorem eq_of_trees_inDocument {document : Text} {ns : List Node}
    (h : (ns.map (Node.inDocument document)).flatMap Node.trees = ns.flatMap Node.trees) :
    ns.map (Node.inDocument document) = ns := by
  induction ns with
  | nil => rfl
  | cons n ns ih =>
    rw [List.map_cons, List.flatMap_cons, List.flatMap_cons] at h
    obtain ⟨hn, hns⟩ := List.append_inj h (n.length_trees_inDocument document)
    rw [List.map_cons, Node.eq_of_trees_inDocument hn, ih hns]

/-- Stanzas with the same trees have the same nodes. -/
theorem parse_eq_of_trees {s t document document' : Text}
    (h : (parse s document).flatMap Node.trees = (parse t document').flatMap Node.trees) :
    parse s document = parse t document' := by
  have hlex : lex s = lex t := by
    rw [← lex_sourceOf_parse s document, h, lex_sourceOf_parse]
  have hmap : (parse s document).map (Node.inDocument document') = parse t document' := by
    rw [parse_eq, parse_eq, inDocument_windowNodes, hlex]
  rw [← hmap] at h ⊢
  exact (eq_of_trees_inDocument h.symm).symm

/-- Stanzas look the same in HTML just when they have the same nodes. -/
theorem html_ofText_eq_iff (s t document document' : Text) :
    (Block.ofText s document).render .html = (Block.ofText t document').render .html ↔
      (Block.ofText s document).children = (Block.ofText t document').children := by
  constructor
  · intro h
    have hread (t document : Text) : write [(Block.ofText t document).tree] =
        (Block.ofText t document).render .html :=
      Block.write_tree (hasPlainClass_parse t document)
    rw [← hread, ← hread] at h
    have htrees := congrArg read? h
    rw [read?_write_trees (Block.named_tree _), read?_write_trees (Block.named_tree _)] at htrees
    simp only [Block.tree, Option.some.injEq, List.cons.injEq, Tree.element.injEq] at htrees
    exact parse_eq_of_trees htrees.1.2.2
  · intro h
    exact congrArg (fun ns => (Block.mk [blockClass] ns).render .html) h

end Stanza
