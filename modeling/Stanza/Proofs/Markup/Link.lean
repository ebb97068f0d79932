import Mathlib.Data.List.Basic
import Stanza.Proofs.Dump
import Stanza.Proofs.Markup.Faithful
import Stanza.Proofs.Node.Site

/-! Links between stanzas. A link and the place that it leads to are told by two attributes, each
written where its node is. As they are written, both hold the same prefix and then the name with its
characters escaped, so they agree just when the names do. In a parsed stanza names are made of
letters, of which none is escaped. -/

namespace Stanza

namespace Markup

/-- The texts between angle brackets. -/
def tags : Text → List Text
  | [] => []
  | c :: t =>
    if c = '<' then t.takeWhile (· ≠ '>') :: tags ((t.dropWhile (· ≠ '>')).drop 1) else tags t
termination_by t => t.length
decreasing_by
  · have hle := (List.dropWhile_suffix (l := t) (· ≠ '>')).length_le
    simp only [List.length_drop, List.length_cons]
    omega
  · simp only [List.length_cons]
    omega

/-- The attributes in a tag that is cut at its quotes: every second piece is a value as it is
written, and the word before it is the name with an equals sign. -/
def writtenAttributes : List Text → List (Text × Text)
  | lead :: value :: pieces =>
    ((Text.splitAt ' ' lead).getLastD [], value) :: writtenAttributes pieces
  | _ => []

def writtenIn? (name inside : Text) : Option Text :=
  (writtenAttributes (Text.splitAt '"' inside)).lookup (name ++ ['='])

/-- The values of an attribute as they are written in a text, one tag after the other. -/
def values (name t : Text) : List Text := (tags t).filterMap (writtenIn? name)

def valuesIn (name : Text) : List Tree → List Text
  | [] => []
  | .char _ :: ts => valuesIn name ts
  | .element _ attributes content :: ts =>
    (attributes.lookup name).toList ++ (valuesIn name content ++ valuesIn name ts)

theorem tags_tag {inside : Text} (hinside : '>' ∉ inside) (r : Text) :
    tags ('<' :: (inside ++ '>' :: r)) = inside :: tags r := by
  rw [tags, if_pos rfl, takeWhile_until hinside, dropWhile_until hinside]
  rfl

theorem tags_append {w : Text} (h : '<' ∉ w) (r : Text) : tags (w ++ r) = tags r := by
  induction w with
  | nil => rfl
  | cons c w ih =>
    rw [List.mem_cons, not_or] at h
    rw [List.cons_append, tags, if_neg (Ne.symm h.1), ih h.2]

theorem values_append {w : Text} (h : '<' ∉ w) (name r : Text) :
    values name (w ++ r) = values name r := by
  rw [values, tags_append h, values]

theorem values_tag {inside : Text} (hinside : '>' ∉ inside) (name r : Text) :
    values name ('<' :: (inside ++ '>' :: r)) =
      (writtenIn? name inside).toList ++ values name r := by
  rw [values, tags_tag hinside, values, List.filterMap_cons]
  cases writtenIn? name inside <;> rfl

/-- Attributes are cut out of a tag as they were put into it, for no quote stands in a value. -/
theorem writtenAttributes_write {lead : Text} {attributes : List (Text × Text)}
    (hlead : '"' ∉ lead ∧ ' ' ∉ lead) (h : ∀ a ∈ attributes, IsName a.1) :
    writtenAttributes (Text.splitAt '"'
        (lead ++ attributes.flatMap fun a => attr a.1 (escapeValue a.2))) =
      attributes.map fun a => (a.1 ++ ['='], escapeValue a.2) := by
  induction attributes generalizing lead with
  | nil =>
    rw [List.flatMap_nil, List.append_nil, Text.splitAt_of_not_mem hlead.1]
    rfl
  | cons a attributes ih =>
    obtain ⟨ha, h⟩ := List.forall_mem_cons.1 h
    have hquote : '"' ∉ a.1 := ha.not_mem (by decide)
    have hblank : ' ' ∉ a.1 := ha.not_mem (by decide)
    have hbefore : '"' ∉ lead ++ ' ' :: (a.1 ++ ['=']) := by simp [hlead.1, hquote]
    have hname : ' ' ∉ a.1 ++ ['='] := by simp [hblank]
    have hattr (r : Text) : lead ++ (attr a.1 (escapeValue a.2) ++ r) =
        (lead ++ ' ' :: (a.1 ++ ['='])) ++ '"' :: (escapeValue a.2 ++ '"' :: r) := by
      simp [attr]
    have hrest := @ih [] (by simp) h
    rw [List.nil_append] at hrest
    rw [List.flatMap_cons, hattr, Text.splitAt_append hbefore,
      Text.splitAt_append (not_mem_escapeValue a.2).1, writtenAttributes, hrest,
      Text.splitAt_append hlead.2, Text.splitAt_of_not_mem hname, List.map_cons]
    rfl

theorem lookup_written (name : Text) (attributes : List (Text × Text)) :
    (attributes.map fun a => (a.1 ++ ['='], escapeValue a.2)).lookup (name ++ ['=']) =
      (attributes.lookup name).map escapeValue := by
  induction attributes with
  | nil => rfl
  | cons a attributes ih =>
    obtain ⟨other, value⟩ := a
    by_cases hname : name = other
    · subst hname
      simp
    · have hne : (name ++ ['='] == other ++ ['=']) = false := by simpa using hname
      have hne' : (name == other) = false := by simpa using hname
      rw [List.map_cons, List.lookup_cons, hne, List.lookup_cons, hne', ih]

theorem writtenIn?_opening {tag : Text} {attributes : List (Text × Text)} (htag : IsName tag)
    (h : ∀ a ∈ attributes, IsName a.1) (name : Text) :
    writtenIn? name (tag ++ attributes.flatMap fun a => attr a.1 (escapeValue a.2)) =
      (attributes.lookup name).map escapeValue := by
  have hlead : '"' ∉ tag ∧ ' ' ∉ tag := ⟨htag.not_mem (by decide), htag.not_mem (by decide)⟩
  rw [writtenIn?, writtenAttributes_write hlead h, lookup_written]

theorem writtenIn?_closing {tag : Text} (htag : IsName tag) (name : Text) :
    writtenIn? name ('/' :: tag) = none := by
  have hquote : '"' ∉ tag := htag.not_mem (by decide)
  have hclosing : '"' ∉ '/' :: tag := by simp [hquote]
  rw [writtenIn?, Text.splitAt_of_not_mem hclosing]
  rfl

/-- The values in what is written of trees are those of the trees, escaped. -/
theorem values_write {ts : List Tree} (h : Named ts) (name r : Text) :
    values name (write ts ++ r) = (valuesIn name ts).map escapeValue ++ values name r := by
  induction ts using trees_induction generalizing r with
  | nil => simp [write, valuesIn]
  | char c ts ih =>
    rw [Named] at h
    rw [write, List.append_assoc, values_append (encodes_textChar c).plain.1, ih h, valuesIn]
  | element tag attributes content ts hcontent hts =>
    rw [Named] at h
    obtain ⟨⟨htag, hattributes⟩, hc, ht⟩ := h
    rw [write, List.append_assoc, element_append,
      values_tag (not_mem_opening htag hattributes), writtenIn?_opening htag hattributes,
      hcontent hc, values_tag (not_mem_closing htag), writtenIn?_closing htag, hts ht, valuesIn]
    cases attributes.lookup name <;> simp

theorem values_write_eq {ts : List Tree} (h : Named ts) (name : Text) :
    values name (write ts) = (valuesIn name ts).map escapeValue := by
  have hwrite := values_write h name []
  have hnil : values name [] = [] := by rw [values, tags]; rfl
  rwa [hnil, List.append_nil, List.append_nil] at hwrite

theorem valuesIn_append (name : Text) (xs ys : List Tree) :
    valuesIn name (xs ++ ys) = valuesIn name xs ++ valuesIn name ys := by
  induction xs using trees_induction with
  | nil => simp [valuesIn]
  | char c ts ih => simp [valuesIn, ih]
  | element tag attributes content ts hcontent hts => simp [valuesIn, hts]

theorem valuesIn_chars (name t : Text) : valuesIn name (t.map .char) = [] := by
  induction t with
  | nil => simp [valuesIn]
  | cons c t ih => rw [List.map_cons, valuesIn, ih]

theorem valuesIn_flatMap (name : Text) (ns : List Node) :
    valuesIn name (ns.flatMap Node.trees) = ns.flatMap fun n => valuesIn name n.trees := by
  induction ns with
  | nil => simp [valuesIn]
  | cons n ns ih => rw [List.flatMap_cons, valuesIn_append, ih, List.flatMap_cons]

theorem escapeValue_inj {s t : Text} : escapeValue s = escapeValue t ↔ s = t := by
  refine ⟨fun h => ?_, congrArg escapeValue⟩
  rw [← decode_escapeValue s, ← decode_escapeValue t, h]

theorem not_mem_special_of_isLetter {c : Char} (h : Text.isLetter c = true) : c ∉ special := by
  have hspecial : special.all (!Text.isLetter ·) = true := by decide +kernel
  intro hc
  have hletter := List.all_eq_true.1 hspecial c hc
  rw [h] at hletter
  cases hletter

end Markup

open Markup

namespace Node

/-- The place of a definition is told by its category and its name. -/
theorem valuesIn_id {n : Node} (h : n.Made) :
    valuesIn "id".toList n.trees = n.defined?.toList.map ("syntaxes-".toList ++ ·) := by
  cases h with
  | text content => simp [trees, valuesIn_chars, defined?]
  | literal content => simp [trees, valuesIn, valuesIn_chars, defined?]
  | definition name =>
    have hanchor : ruleCategory ++ '-' :: name = "syntaxes-".toList ++ name := rfl
    simp only [ruleDefinition, trees, valuesIn, valuesIn_chars, hanchor, List.lookup_cons_self,
      defined?, Option.toList_some, List.append_nil, List.map_cons, List.map_nil]
  | reference name document =>
    simp [ruleReference, trees, valuesIn, valuesIn_chars, defined?, List.lookup_cons]

theorem valuesIn_href (n : Node) :
    valuesIn "href".toList n.trees =
      n.reference?.toList.map ("#syntaxes-".toList ++ ·.target) := by
  cases n with
  | text content => simp [trees, valuesIn_chars, reference?]
  | literal content => simp [trees, valuesIn, valuesIn_chars, reference?]
  | definition category name => simp [trees, valuesIn, valuesIn_chars, reference?]
  | reference r => simp [trees, valuesIn, valuesIn_chars, reference?, List.lookup_cons]

theorem values_html {n : Node} (h : n.HasPlainClass) (name : Text) :
    values name n.html = (valuesIn name n.trees).map escapeValue := by
  rw [← write_trees h, values_write_eq n.named_trees]

end Node

theorem Block.values_render {b : Block} (h : ∀ n ∈ b.children, n.HasPlainClass) {name : Text}
    (hname : name ≠ "class".toList) :
    values name (b.render .html) =
      b.children.flatMap fun n => (valuesIn name n.trees).map escapeValue := by
  have hwrite : b.render .html = write [b.tree] := (write_tree h).symm
  have hlookup : (name == "class".toList) = false := by simpa using hname
  rw [hwrite, values_write_eq b.named_tree, tree, valuesIn, valuesIn, List.lookup_cons, hlookup,
    valuesIn_flatMap]
  simp [List.map_flatMap]

theorem isLetter_of_names_parse {t document name : Text} {n : Node} (hn : n ∈ parse t document)
    (h : n.Names name) : ∀ c ∈ name, Text.isLetter c = true := by
  obtain ⟨token, htoken, second, third, rfl⟩ := exists_of_mem_parse hn
  obtain ⟨rfl, -⟩ := names_windowNode h
  exact ((readable_lexemes t).wellFormed.spelled _ htoken).2

/-- Nothing is escaped in the place of a name that is made of letters. -/
theorem escapeValue_place {place name : Text} (hplace : place.all (· ∉ special) = true)
    (h : ∀ c ∈ name, Text.isLetter c = true) : escapeValue (place ++ name) = place ++ name := by
  refine escapeValue_eq_self fun c hc => ?_
  rcases List.mem_append.1 hc with hc | hc
  · exact of_decide_eq_true (List.all_eq_true.1 hplace c hc)
  · exact not_mem_special_of_isLetter (h c hc)

theorem escaped_ids {t document : Text} {n : Node} (hn : n ∈ parse t document) :
    (valuesIn "id".toList n.trees).map escapeValue =
      n.defined?.toList.map ("syntaxes-".toList ++ ·) := by
  rw [Node.valuesIn_id (made_parse hn), List.map_map]
  refine List.map_congr_left fun name hname => ?_
  have hnames : n.Names name := Or.inl (Option.mem_toList.1 hname)
  exact escapeValue_place (by decide) (isLetter_of_names_parse hn hnames)

theorem escaped_hrefs {t document : Text} {n : Node} (hn : n ∈ parse t document) :
    (valuesIn "href".toList n.trees).map escapeValue =
      n.reference?.toList.map ("#syntaxes-".toList ++ ·.target) := by
  rw [Node.valuesIn_href, List.map_map]
  refine List.map_congr_left fun r hr => ?_
  have hnames : n.Names r.target := Or.inr (congrArg _ (Option.mem_toList.1 hr))
  exact escapeValue_place (by decide) (isLetter_of_names_parse hn hnames)

/-- The attributes of a rule's definition and of a reference to a rule, whatever their names. -/
theorem values_rule (name target document : Text) :
    values "id".toList (Node.ruleDefinition name).html =
        [escapeValue ("syntaxes-".toList ++ name)] ∧
      values "href".toList (Node.ruleReference target document).html =
        ['#' :: escapeValue ("syntaxes-".toList ++ target)] := by
  constructor
  · rw [Node.values_html (n := .ruleDefinition name) trivial, Node.valuesIn_id (.definition name)]
    rfl
  · rw [Node.values_html (Node.hasPlainClass_ruleReference target document), Node.valuesIn_href]
    rfl

theorem leads_iff {place target : Text} :
    ['#' :: target] = [place].map ('#' :: ·) ↔ place = target := by
  simp [eq_comm]

/-- A link leads to a definition just when both have the same name. In a stanza nothing is escaped in
either place, so the values are the names themselves behind a prefix. Any other names are escaped in
both places alike, and differ there if they differ at all. -/
theorem links_by_name :
    (∀ t document : Text,
      values "id".toList ((Block.ofText t document).render .html) =
          (Block.ofText t document).definitions.map ("syntaxes-".toList ++ ·) ∧
        values "href".toList ((Block.ofText t document).render .html) =
          (Block.ofText t document).references.map ("#syntaxes-".toList ++ ·.target)) ∧
    (∀ (s t document document' : Text) (m l : Node) (name : Text) (r : Reference),
      m ∈ (Block.ofText s document).children → l ∈ (Block.ofText t document').children →
      m.defined? = some name → l.reference? = some r →
        values "id".toList m.html = ["syntaxes-".toList ++ name] ∧
        values "href".toList l.html = ["#syntaxes-".toList ++ r.target] ∧
        (values "href".toList l.html = (values "id".toList m.html).map ('#' :: ·) ↔
          name = r.target)) ∧
    ∀ name target document : Text,
      values "id".toList (Node.ruleDefinition name).html =
          [escapeValue ("syntaxes-".toList ++ name)] ∧
        values "href".toList (Node.ruleReference target document).html =
          ['#' :: escapeValue ("syntaxes-".toList ++ target)] ∧
        (values "href".toList (Node.ruleReference target document).html =
            (values "id".toList (Node.ruleDefinition name).html).map ('#' :: ·) ↔
          name = target) := by
  refine ⟨fun t document => ⟨?_, ?_⟩, ?_, ?_⟩
  · rw [Block.values_render (hasPlainClass_parse t document) (by decide), Block.definitions,
      List.filterMap_eq_flatMap_toList, List.map_flatMap]
    exact List.flatMap_congr fun n hn => escaped_ids hn
  · rw [Block.values_render (hasPlainClass_parse t document) (by decide), Block.references,
      List.filterMap_eq_flatMap_toList, List.map_flatMap]
    exact List.flatMap_congr fun n hn => escaped_hrefs hn
  · intro s t document document' m l name r hm hl hname hr
    have hid := (Node.values_html (hasPlainClass_parse s document m hm) _).trans (escaped_ids hm)
    have hhref := (Node.values_html (hasPlainClass_parse t document' l hl) _).trans
      (escaped_hrefs hl)
    rw [hname, Option.toList_some, List.map_singleton] at hid
    rw [hr, Option.toList_some, List.map_singleton] at hhref
    have hplace : "#syntaxes-".toList ++ r.target = '#' :: ("syntaxes-".toList ++ r.target) := rfl
    refine ⟨hid, hhref, ?_⟩
    rw [hid, hhref, hplace, leads_iff, List.append_cancel_left_eq]
  · intro name target document
    obtain ⟨hid, hhref⟩ := values_rule name target document
    refine ⟨hid, hhref, ?_⟩
    rw [hid, hhref, leads_iff, escapeValue_inj, List.append_cancel_left_eq]

/-- a name that is used in another document, which has a quote in its own name -/
theorem links_by_name_item :
    let m := Node.ruleDefinition "Item".toList
    let l := Node.ruleReference "Item".toList "a\"b".toList
    m ∈ (Block.ofText "Item ::= Other".toList []).children ∧
      l ∈ (Block.ofText "Item | Other".toList "a\"b".toList).children ∧
      values "id".toList m.html = ["syntaxes-Item".toList] ∧
      values "href".toList l.html = ["#syntaxes-Item".toList] ∧
      values "href".toList l.html = (values "id".toList m.html).map ('#' :: ·) := by
  intro m l
  have hm : m ∈ parse "Item ::= Other".toList [] := by
    rw [parse_eq]
    decide +kernel
  have hl : l ∈ parse "Item | Other".toList "a\"b".toList := by
    rw [parse_eq]
    decide +kernel
  obtain ⟨-, hnodes, -⟩ := links_by_name
  obtain ⟨hid, hhref, hiff⟩ := hnodes _ _ _ _ m l _ _ hm hl rfl rfl
  exact ⟨hm, hl, hid, hhref, hiff.2 rfl⟩

end Stanza
