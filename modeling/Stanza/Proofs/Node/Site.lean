import Stanza.Proofs.Node.Window
import Stanza.Proofs.Text.Slice
import Stanza.Proofs.Token.Range

/-! Where names are defined, said of the source. The parser asks for one token of blanks and then
the marker. Since a run of blanks is one token, and a marker after it is always read as one, this
is to ask whether the source goes on with any blanks and then the marker. -/

namespace Stanza

/-- the text begins with any number of blanks and then the definition marker -/
def MarkerFollows (t : Text) : Prop :=
  ∃ blanks rest, t = blanks ++ (definitionMarker ++ rest) ∧ ∀ c ∈ blanks, Text.isBlank c = true

/-- the marker is the first lexeme, or the second behind blanks -/
def MarkerFirst (ls : List Lexeme) : Prop :=
  (∃ rest, ls = .marker :: rest) ∨ ∃ run rest, ls = .blanks run :: .marker :: rest

theorem Lexeme.kind_definition_iff {l : Lexeme} : l.token.kind = .definition ↔ l = marker := by
  cases l <;> simp [token]

theorem Lexeme.kind_whitespace_iff {l : Lexeme} :
    l.token.kind = .whitespace ↔ ∃ run, l = blanks run := by
  cases l <;> simp [token]

theorem markerAhead_iff (ls : List Lexeme) :
    markerAhead (ls.map Lexeme.token)[0]? (ls.map Lexeme.token)[1]? = true ↔ MarkerFirst ls := by
  unfold markerAhead MarkerFirst
  cases ls with
  | nil => simp
  | cons l ls =>
    cases ls with
    | nil => simp [Lexeme.kind_definition_iff]
    | cons m ls => simp [Lexeme.kind_definition_iff, Lexeme.kind_whitespace_iff]

theorem lexemes_marker (rest : Text) :
    lexemes (definitionMarker ++ rest) = .marker :: lexemes rest :=
  lexemes_source_append (l := .marker) (r := rest) trivial

theorem markerFirst_lexemes_iff (t : Text) : MarkerFirst (lexemes t) ↔ MarkerFollows t := by
  constructor
  · rintro (⟨ls, hls⟩ | ⟨run, ls, hls⟩)
    · obtain ⟨hsource, -⟩ := lexemes_eq_iff.1 hls
      exact ⟨[], sources ls, hsource.symm, by simp⟩
    · obtain ⟨hsource, hread⟩ := lexemes_eq_iff.1 hls
      exact ⟨run, sources ls, hsource.symm, hread.1.2.1⟩
  · rintro ⟨blanks, rest, rfl, hblanks⟩
    by_cases hne : blanks = []
    · rw [hne, List.nil_append, lexemes_marker]
      exact Or.inl ⟨_, rfl⟩
    · -- the colon ends the run, so all of the blanks are one lexeme
      have hfits : (Lexeme.blanks blanks).Fits (definitionMarker ++ rest) :=
        ⟨hne, hblanks, by simp [EndsRun, definitionMarker, colon_in_no_run]⟩
      have h := lexemes_source_append hfits
      rw [lexemes_marker] at h
      exact Or.inr ⟨_, _, h⟩

/-- The tokens ahead are a marker, or blanks and a marker, where the source says so. -/
theorem markerAhead_lex (t : Text) :
    markerAhead (lex t)[0]? (lex t)[1]? = true ↔ MarkerFollows t :=
  (markerAhead_iff (lexemes t)).trans (markerFirst_lexemes_iff t)

/-- The window makes a definition of a name before a marker, and a reference of any other name. -/
theorem windowNode_identifier (document text : Text) (second third : Option Token) :
    ((windowNode document ⟨.identifier, text⟩ second third).defined? = some text ↔
        isName text ∧ markerAhead second third = true) ∧
      ((windowNode document ⟨.identifier, text⟩ second third).reference?.map Reference.target =
          some text ↔
        isName text ∧ ¬ markerAhead second third = true) := by
  by_cases hname : isName text = true
  · by_cases hmarker : markerAhead second third = true
    · simp [windowNode, hname, hmarker, Node.defined?, Node.reference?]
    · simp [windowNode, hname, hmarker, Node.defined?, Node.reference?]
  · simp [windowNode, hname, Node.defined?, Node.reference?]

/-- the node defines the name or refers to it -/
def Node.Names (name : Text) (n : Node) : Prop :=
  n.defined? = some name ∨ n.reference?.map Reference.target = some name

theorem names_windowNode {document name : Text} {token : Token} {second third : Option Token}
    (h : (windowNode document token second third).Names name) :
    token = ⟨.identifier, name⟩ ∧ isName name := by
  unfold Node.Names at h
  obtain ⟨kind, text⟩ := token
  cases kind with
  | identifier =>
    by_cases hname : isName text = true
    · obtain rfl : text = name := by
        cases hmarker : markerAhead second third <;>
          simpa [windowNode, hname, hmarker, Node.defined?, Node.reference?] using h
      exact ⟨rfl, hname⟩
    · simp [windowNode, hname, Node.defined?, Node.reference?] at h
  | _ => simp [windowNode, Node.defined?, Node.reference?] at h

theorem isName_cons (c : Char) (t : Text) :
    isName (c :: t) ↔ Text.isUppercase c = true ∧ ∀ d ∈ t.head?, Text.isUppercase d = false := by
  cases t <;> simp [isName]

theorem exists_of_getElem?_lexSpans {t : Text} {i : Nat} {x : Spanned}
    (h : (lexSpans t)[i]? = some x) :
    ∃ rest, Text.dropBytes? x.stop t = some rest ∧ (lex t)[i]? = some x.token ∧
      (lex t).drop (i + 1) = lex rest := by
  obtain ⟨pre, l, post, hl, rfl, rfl⟩ := Lexeme.exists_of_getElem?_spans h
  obtain ⟨hsource, -, hpost⟩ := lexemes_split hl
  refine ⟨sources post, ?_, ?_, ?_⟩
  · rw [hsource, ← List.append_assoc, Nat.zero_add, Lexeme.span, ← Text.byteLength_append]
    exact Text.dropBytes?_append _ _
  · simp [lex, hl]
  · rw [lex, lex, hl, lexemes_sources hpost, ← List.map_drop, ← List.drop_drop, List.drop_left,
      List.drop_one, List.tail_cons]

/-- What defines a name is in the source. The node of a letter run defines the run when it is a
name and the source goes on with blanks and the marker, and refers to it when it is a name and the
source does not. No other token defines or refers to anything, so every name is made of letters,
of which the first is uppercase and the second is not. -/
theorem sites_by_source (t document : Text) :
    (∀ (i : Nat) (x : Spanned), (lexSpans t)[i]? = some x → x.token.kind = .identifier →
      ∃ rest node, Text.dropBytes? x.stop t = some rest ∧ (parse t document)[i]? = some node ∧
        (node.defined? = some x.token.text ↔ isName x.token.text ∧ MarkerFollows rest) ∧
        (node.reference?.map Reference.target = some x.token.text ↔
          isName x.token.text ∧ ¬ MarkerFollows rest)) ∧
    ∀ (i : Nat) (node : Node) (name : Text), (parse t document)[i]? = some node →
      node.Names name → (lex t)[i]? = some ⟨.identifier, name⟩ ∧
        (∀ c ∈ name, Text.isLetter c = true) ∧
        ∃ c rest, name = c :: rest ∧ Text.isUppercase c = true ∧
          ∀ d ∈ rest.head?, Text.isUppercase d = false := by
  rw [parse_eq]
  constructor
  · intro i x hx hk
    obtain ⟨rest, hrest, htoken, hafter⟩ := exists_of_getElem?_lexSpans hx
    have hmarker : markerAhead (lex t)[i + 1]? (lex t)[i + 2]? = true ↔ MarkerFollows rest := by
      rw [← markerAhead_lex, ← hafter, List.getElem?_drop, List.getElem?_drop]
    obtain ⟨⟨kind, text⟩, start, stop⟩ := x
    obtain rfl : kind = .identifier := hk
    obtain ⟨hdefined, hreference⟩ :=
      windowNode_identifier document text (lex t)[i + 1]? (lex t)[i + 2]?
    rw [hmarker] at hdefined hreference
    refine ⟨rest, _, hrest, ?_, hdefined, hreference⟩
    rw [windowNodes_getElem?, htoken, Option.map_some]
  · intro i node name hnode hname
    rw [windowNodes_getElem?] at hnode
    obtain ⟨token, htoken, rfl⟩ := Option.map_eq_some_iff.1 hnode
    obtain ⟨rfl, hisName⟩ := names_windowNode hname
    obtain ⟨hne, hletters⟩ : name ≠ [] ∧ ∀ c ∈ name, Text.isLetter c = true :=
      (readable_lexemes t).wellFormed.spelled _ (List.mem_of_getElem? htoken)
    obtain ⟨c, rest, rfl⟩ := List.exists_cons_of_ne_nil hne
    exact ⟨htoken, hletters, c, rest, rfl, (isName_cons c rest).1 hisName⟩

/-- a name before blanks of two kinds and the marker is defined -/
theorem sites_by_source_item :
    let t := "Item \u001c::= $$a$$".toList
    (lexSpans t)[0]? = some ⟨⟨.identifier, "Item".toList⟩, 0, 4⟩ ∧
      ∃ node, (parse t [])[0]? = some node ∧ node.defined? = some "Item".toList ∧
        (lex t)[0]? = some ⟨.identifier, "Item".toList⟩ := by
  have hx : (lexSpans "Item \u001c::= $$a$$".toList)[0]? =
      some ⟨⟨.identifier, "Item".toList⟩, 0, 4⟩ := by decide +kernel
  have hstop : Text.dropBytes? 4 "Item \u001c::= $$a$$".toList =
      some " \u001c::= $$a$$".toList := by decide
  obtain ⟨hsites, hnames⟩ := sites_by_source "Item \u001c::= $$a$$".toList []
  obtain ⟨rest, node, hrest, hnode, hiff, -⟩ := hsites 0 _ hx rfl
  obtain rfl : " \u001c::= $$a$$".toList = rest := Option.some.inj (hstop.symm.trans hrest)
  have hblanks : ∀ c ∈ " \u001c".toList, Text.isBlank c = true := List.all_eq_true.1 (by decide)
  have hdefined : node.defined? = some "Item".toList :=
    hiff.2 ⟨by decide, " \u001c".toList, " $$a$$".toList, rfl, hblanks⟩
  exact ⟨hx, node, hnode, hdefined, (hnames 0 node _ hnode (Or.inl hdefined)).1⟩

end Stanza
