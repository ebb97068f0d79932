import Stanza.Proofs.Markup.Reader
import Stanza.Render

/-! Blocks in HTML. What a block is written as is a tree: one element for the block, and in it the
characters of its texts and one element for each other node. Reading gives this tree back, whatever
texts the block holds. -/

namespace Stanza

open Markup

def Node.trees : Node → List Tree
  | .text content => content.map .char
  | .literal content =>
    [.element "strong".toList [("class".toList, "spec-syntax-literal".toList)] (content.map .char)]
  | .definition category name =>
    [.element "dfn".toList [("id".toList, category ++ '-' :: name)] (name.map .char)]
  | .reference r =>
    [.element "a".toList
      [("class".toList, r.domain ++ '-' :: r.role), ("href".toList, "#syntaxes-".toList ++ r.target),
        ("data-refdoc".toList, r.document)] (r.display.map .char)]

def Block.tree (b : Block) : Tree :=
  .element "pre".toList [("class".toList, List.intercalate [' '] b.classes)]
    (b.children.flatMap Node.trees)

/-- The class of a reference is written as it stands, so it may hold nothing that is escaped. -/
def Node.HasPlainClass : Node → Prop
  | .reference r => ∀ c ∈ r.domain ++ r.role, c ∉ special
  | _ => True

instance : (n : Node) → Decidable n.HasPlainClass
  | .text _ => isTrue trivial
  | .literal _ => isTrue trivial
  | .definition _ _ => isTrue trivial
  | .reference r => List.decidableBAll _ (r.domain ++ r.role)

theorem Node.hasPlainClass_ruleReference (name document : Text) :
    (ruleReference name document).HasPlainClass := by
  have hclass : (ruleDomain ++ ruleRole).all (· ∉ special) = true := by decide
  intro c hc
  exact of_decide_eq_true (List.all_eq_true.1 hclass c hc)

namespace Markup

theorem write_append (xs ys : List Tree) : write (xs ++ ys) = write xs ++ write ys := by
  induction xs using trees_induction with
  | nil => simp [write]
  | char c ts ih => simp [write, ih]
  | element tag attributes content ts hcontent hts => simp [write, hts]

theorem text_append (xs ys : List Tree) : text (xs ++ ys) = text xs ++ text ys := by
  induction xs using trees_induction with
  | nil => simp [text]
  | char c ts ih => simp [text, ih]
  | element tag attributes content ts hcontent hts => simp [text, hts]

theorem named_append {xs ys : List Tree} : Named (xs ++ ys) ↔ Named xs ∧ Named ys := by
  induction xs using trees_induction with
  | nil => simp [Named]
  | char c ts ih => simp [Named, ih]
  | element tag attributes content ts hcontent hts => simp [Named, hts, and_assoc]

theorem write_chars (t : Text) : write (t.map .char) = escapeText t := by
  induction t with
  | nil => simp [write, escapeText]
  | cons c t ih =>
    rw [escapeText] at ih ⊢
    rw [List.map_cons, write, ih, List.flatMap_cons]

theorem text_chars (t : Text) : text (t.map .char) = t := by
  induction t with
  | nil => simp [text]
  | cons c t ih => rw [List.map_cons, text, ih]

theorem named_chars (t : Text) : Named (t.map .char) := by
  induction t with
  | nil => simp [Named]
  | cons c t ih => rw [List.map_cons, Named]; exact ih

end Markup

theorem write_element (tag : Text) (attributes : List (Text × Text)) (content : Text) :
    write [.element tag attributes (content.map .char)] =
      element tag (attributes.flatMap fun a => attr a.1 (escapeValue a.2)) (escapeText content) := by
  rw [write, write_chars, write, List.append_nil]

theorem Node.write_trees {n : Node} (h : n.HasPlainClass) : write n.trees = n.html := by
  cases n with
  | text content => exact write_chars content
  | literal content =>
    have hclass : escapeValue "spec-syntax-literal".toList = literalClass := by decide
    simp only [trees, write_element, html, List.flatMap_singleton, hclass]
  | definition category name => simp [trees, write_element, html, anchor]
  | reference r =>
    have hclass : escapeValue (r.domain ++ '-' :: r.role) = r.domain ++ '-' :: r.role := by
      refine escapeValue_eq_self fun c hc => ?_
      rcases List.mem_append.1 hc with hc | hc
      · exact h c (List.mem_append_left _ hc)
      · rcases List.mem_cons.1 hc with rfl | hc
        · decide
        · exact h c (List.mem_append_right _ hc)
    have hhref : escapeValue ("#syntaxes-".toList ++ r.target) =
        '#' :: escapeValue (anchor ruleCategory r.target) := rfl
    simp only [trees, write_element, html, List.flatMap_cons, List.flatMap_nil, hclass, hhref,
      List.append_nil, List.append_assoc]

theorem Node.text_trees (n : Node) : Markup.text n.trees = n.visible := by
  cases n with
  | text content => exact text_chars content
  | literal content => simp [trees, Markup.text, text_chars, visible]
  | definition category name => simp [trees, Markup.text, text_chars, visible]
  | reference r => simp [trees, Markup.text, text_chars, visible]

theorem named_element {tag : Text} {attributes : List (Text × Text)} {content : List Tree}
    (htag : IsName tag) (h : ∀ a ∈ attributes, IsName a.1) (hcontent : Named content) :
    Named [.element tag attributes content] := by
  rw [Named, Named]
  exact ⟨⟨htag, h⟩, hcontent, trivial⟩

theorem Node.named_trees (n : Node) : Named n.trees := by
  have hclass : IsName "class".toList := by decide
  have hid : IsName "id".toList := by decide
  have hhref : IsName "href".toList := by decide
  have hdocument : IsName "data-refdoc".toList := by decide
  cases n with
  | text content => exact named_chars content
  | literal content =>
    exact named_element (by decide) (List.forall_mem_singleton.2 hclass) (named_chars content)
  | definition category name =>
    exact named_element (by decide) (List.forall_mem_singleton.2 hid) (named_chars name)
  | reference r =>
    refine named_element (by decide) ?_ (named_chars r.display)
    exact List.forall_mem_cons.2 ⟨hclass, List.forall_mem_cons.2
      ⟨hhref, List.forall_mem_singleton.2 hdocument⟩⟩

theorem write_flatMap_trees {ns : List Node} (h : ∀ n ∈ ns, n.HasPlainClass) :
    write (ns.flatMap Node.trees) = ns.flatMap Node.html := by
  induction ns with
  | nil => simp [write]
  | cons n ns ih =>
    obtain ⟨hn, hns⟩ := List.forall_mem_cons.1 h
    rw [List.flatMap_cons, write_append, Node.write_trees hn, ih hns, List.flatMap_cons]

theorem text_flatMap_trees (ns : List Node) :
    Markup.text (ns.flatMap Node.trees) = ns.flatMap Node.visible := by
  induction ns with
  | nil => simp [Markup.text]
  | cons n ns ih =>
    rw [List.flatMap_cons, text_append, Node.text_trees, ih, List.flatMap_cons]

theorem named_flatMap_trees (ns : List Node) : Named (ns.flatMap Node.trees) := by
  induction ns with
  | nil => simp [Named]
  | cons n ns ih =>
    rw [List.flatMap_cons, named_append]
    exact ⟨n.named_trees, ih⟩

theorem Block.named_tree (b : Block) : Named [b.tree] := by
  have hclass : IsName "class".toList := by decide
  exact named_element (by decide) (List.forall_mem_singleton.2 hclass)
    (named_flatMap_trees b.children)

theorem Block.write_tree {b : Block} (h : ∀ n ∈ b.children, n.HasPlainClass) :
    write [b.tree] = b.html := by
  simp [tree, write, write_flatMap_trees h, html]

/-- A block in HTML is read as one element that holds the characters of each text and an element
for each other node, in order and with the attributes that were given. Without its tags and with
its entities decoded it is the text of the block. No text can change this: whatever stands in a
class, a text, a name or a document, it is read as itself. -/
theorem Block.read?_html (b : Block) (h : ∀ n ∈ b.children, n.HasPlainClass) :
    read? (b.render .html) = some [b.tree] ∧ decode (withoutTags (b.render .html)) = b.text := by
  have hwrite : b.render .html = write [b.tree] := (write_tree h).symm
  rw [hwrite]
  refine ⟨read?_write_trees b.named_tree, ?_⟩
  rw [decode_withoutTags_write b.named_tree]
  simp [tree, Markup.text, text_flatMap_trees, text]

/-- quotes, brackets and entities in every place where a block takes a text -/
theorem Block.read?_html_hostile :
    let r : Reference := ⟨"\">x".toList, "<b>".toList, ruleDomain, ruleRole, "'\"<".toList, true, true⟩
    let b : Block := ⟨["a>".toList, "\"b".toList],
      [.text "&amp;".toList, .literal "</pre>".toList, .definition "c\"".toList "<i>".toList,
        .reference r]⟩
    (∀ n ∈ b.children, n.HasPlainClass) ∧
      read? (b.render .html) = some [b.tree] ∧
      decode (withoutTags (b.render .html)) = "&amp;</pre><i><b>".toList := by
  intro r b
  have h : ∀ n ∈ b.children, n.HasPlainClass := by decide
  obtain ⟨hread, htext⟩ := b.read?_html h
  exact ⟨h, hread, htext.trans (by decide)⟩

end Stanza
