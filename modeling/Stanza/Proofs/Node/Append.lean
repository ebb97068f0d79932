import Stanza.Proofs.Node.Site
import Stanza.Proofs.Token.Extension
import Stanza.Proofs.Token.Join

/-! Nodes of a text that goes on. A node is settled by its token and the two after it. So where texts
are joined between tokens no node changes but that of a name at the end of the first, which a marker
in the second makes a definition; and wherever they are joined, all but the last four nodes of the
first stay as they are. -/

namespace Stanza

section window

variable {document : Text} {ts us : List Token}

theorem drop_windowNodes (n : Nat) :
    (windowNodes document ts).drop n = windowNodes document (ts.drop n) := by
  induction ts generalizing n with
  | nil => simp [windowNodes]
  | cons token ts ih =>
    cases n with
    | zero => rfl
    | succ n => exact ih n

/-- The window shows no more than two tokens ahead. -/
theorem take_windowNodes_congr {n : Nat} (h : ts.take (n + 2) = us.take (n + 2)) :
    (windowNodes document ts).take n = (windowNodes document us).take n := by
  have hsame (i : Nat) (hi : i < n + 2) : ts[i]? = us[i]? := by
    rw [← List.getElem?_take_of_lt hi, h, List.getElem?_take_of_lt hi]
  refine List.ext_getElem? fun i => ?_
  by_cases hi : i < n
  · rw [List.getElem?_take_of_lt hi, List.getElem?_take_of_lt hi, windowNodes_getElem?,
      windowNodes_getElem?, hsame i (by omega), hsame (i + 1) (by omega), hsame (i + 2) (by omega)]
  · rw [List.getElem?_take_eq_none (by omega), List.getElem?_take_eq_none (by omega)]

theorem windowNode_congr {second third second' third' : Option Token} (token : Token)
    (h : markerAhead second third = markerAhead second' third') :
    windowNode document token second third = windowNode document token second' third' := by
  simp only [windowNode, h]

/-- the node when a marker has come to stand ahead of it -/
def Node.defining : Node → Node
  | reference r => ruleDefinition r.target
  | n => n

theorem windowNode_of_markerAhead {second third : Option Token} (token : Token)
    (h : markerAhead second third = true) (second' third' : Option Token) :
    windowNode document token second third =
      (windowNode document token second' third').defining := by
  obtain ⟨kind, text⟩ := token
  cases kind with
  | identifier =>
    by_cases hname : isName text = true
    · by_cases hmarker : markerAhead second' third' = true
      · simp only [windowNode, if_pos hname, if_pos h, if_pos hmarker, Node.defining]
      · simp only [windowNode, if_pos hname, if_pos h, if_neg hmarker, Node.defining]
        rfl
    · simp only [windowNode, if_neg hname, Node.defining]
  | _ => rfl

theorem defining_windowNode {token : Token} (h : token.kind ≠ .identifier)
    (second third : Option Token) :
    (windowNode document token second third).defining =
      windowNode document token second third := by
  obtain ⟨kind, text⟩ := token
  cases kind with
  | identifier => exact absurd rfl h
  | _ => rfl

/-- In front of `us` a marker is ahead of token `i` of `ts`, and `us` has a part in it. -/
def ReachesMarker (ts us : List Token) (i : Nat) : Prop :=
  (i + 1 = ts.length ∧ markerAhead us[0]? us[1]? = true) ∨
    (i + 2 = ts.length ∧ ts.getLast?.map Token.kind = some .whitespace ∧
      us.head?.map Token.kind = some .definition)

instance (ts us : List Token) (i : Nat) : Decidable (ReachesMarker ts us i) :=
  inferInstanceAs (Decidable (_ ∨ _))

theorem markerAhead_append (us : List Token) {i : Nat} (hi : i < ts.length) :
    markerAhead (ts ++ us)[i + 1]? (ts ++ us)[i + 2]? =
      (markerAhead ts[i + 1]? ts[i + 2]? || decide (ReachesMarker ts us i)) := by
  obtain h | h | h : i + 2 < ts.length ∨ i + 2 = ts.length ∨ i + 1 = ts.length := by omega
  · have hnot : ¬ ReachesMarker ts us i := by
      rintro (⟨h', -⟩ | ⟨h', -⟩) <;> omega
    rw [List.getElem?_append_left (by omega), List.getElem?_append_left h, decide_eq_false hnot,
      Bool.or_false]
  · have hlast : ts[i + 1]? = ts.getLast? := by
      rw [List.getLast?_eq_getElem?, ← h]
      rfl
    have hnone : ts[i + 2]? = none := List.getElem?_eq_none (by omega)
    have hne : i + 1 ≠ ts.length := by omega
    rw [List.getElem?_append_left (by omega), List.getElem?_append_right (by omega), hnone, hlast,
      h, Nat.sub_self]
    rw [Bool.eq_iff_iff]
    simp [markerAhead, ReachesMarker, h, hne, List.head?_eq_getElem?]
  · have hnone (k : Nat) : ts[i + 1 + k]? = none := List.getElem?_eq_none (by omega)
    have hne : i + 2 ≠ ts.length := by omega
    rw [List.getElem?_append_right (by omega), List.getElem?_append_right (by omega), hnone 0,
      hnone 1, show i + 1 - ts.length = 0 by omega, show i + 2 - ts.length = 1 by omega]
    rw [Bool.eq_iff_iff]
    simp [markerAhead, ReachesMarker, h, hne]

theorem getElem?_windowNodes_append {i : Nat} (hi : i < ts.length) :
    (windowNodes document (ts ++ us))[i]? = (windowNodes document ts)[i]?.map fun node =>
      if ReachesMarker ts us i then node.defining else node := by
  obtain ⟨token, htoken⟩ : ∃ token, ts[i]? = some token := ⟨_, List.getElem?_eq_getElem hi⟩
  have hmarker := markerAhead_append us hi
  rw [windowNodes_getElem?, windowNodes_getElem?, List.getElem?_append_left hi, htoken]
  simp only [Option.map_some, Option.some.injEq]
  split
  · next h =>
    rw [decide_eq_true h, Bool.or_true] at hmarker
    exact windowNode_of_markerAhead token hmarker _ _
  · next h =>
    rw [decide_eq_false h, Bool.or_false] at hmarker
    exact windowNode_congr token hmarker

/-- The nodes of tokens in front of others: those of the tokens alone, where a marker that has come
into reach makes a definition. -/
theorem windowNodes_append (document : Text) (ts us : List Token) :
    windowNodes document (ts ++ us) =
      ((windowNodes document ts).mapIdx fun i node =>
        if ReachesMarker ts us i then node.defining else node) ++ windowNodes document us := by
  refine List.ext_getElem? fun i => ?_
  by_cases hi : i < ts.length
  · rw [List.getElem?_append_left (by simpa [length_windowNodes] using hi), List.getElem?_mapIdx,
      getElem?_windowNodes_append hi]
  · have hdrop : (windowNodes document (ts ++ us)).drop ts.length = windowNodes document us := by
      rw [drop_windowNodes, List.drop_left]
    obtain ⟨k, rfl⟩ : ∃ k, i = ts.length + k := ⟨i - ts.length, by omega⟩
    rw [← List.getElem?_drop, hdrop, List.getElem?_append_right (by simp [length_windowNodes])]
    simp [length_windowNodes]

/-- A node that changes is that of letters, with a marker that has come into reach. -/
theorem reachesMarker_of_changed {i : Nat} (hi : i < ts.length)
    (h : (windowNodes document (ts ++ us))[i]? ≠ (windowNodes document ts)[i]?) :
    ReachesMarker ts us i ∧ ts[i]?.map Token.kind = some .identifier := by
  obtain ⟨token, htoken⟩ : ∃ token, ts[i]? = some token := ⟨_, List.getElem?_eq_getElem hi⟩
  rw [getElem?_windowNodes_append hi, windowNodes_getElem?, htoken] at h
  by_cases hreach : ReachesMarker ts us i
  · refine ⟨hreach, ?_⟩
    rw [htoken]
    refine congrArg some (not_not.1 fun hkind => h ?_)
    rw [Option.map_some, Option.map_some, if_pos hreach, defining_windowNode hkind]
  · simp [hreach] at h

theorem ReachesMarker.unique {i j : Nat} (hi : ReachesMarker ts us i)
    (hj : ReachesMarker ts us j) (hki : ts[i]?.map Token.kind = some .identifier)
    (hkj : ts[j]?.map Token.kind = some .identifier) : i = j := by
  -- where blanks stand last, the last token is no name
  have hlast {k : Nat} (hk : k + 1 = ts.length) (hkind : ts[k]?.map Token.kind = some .identifier) :
      ts.getLast?.map Token.kind ≠ some .whitespace := by
    rw [List.getLast?_eq_getElem?, ← hk, Nat.add_sub_cancel, hkind]
    decide
  rcases hi with ⟨hi, -⟩ | ⟨hi, hblank, -⟩
  · rcases hj with ⟨hj, -⟩ | ⟨hj, hblank, -⟩
    · omega
    · exact absurd hblank (hlast hi hki)
  · rcases hj with ⟨hj, -⟩ | ⟨hj, -⟩
    · exact absurd hblank (hlast hj hkj)
    · omega

end window

theorem defining_of_defined? {n : Node} {name : Text} (h : n.defined? = some name) :
    n.defining = n := by
  cases n with
  | definition category name => rfl
  | _ => cases h

theorem lexemes_append_of_stop {a b : Text}
    (h : a.byteLength = 0 ∨ ∃ x ∈ lexSpans (a ++ b), x.stop = a.byteLength) :
    lexemes (a ++ b) = lexemes a ++ lexemes b := by
  rcases h with h | ⟨x, hx, hstop⟩
  · cases a with
    | nil => rw [lexemes_nil]; rfl
    | cons c a =>
      have hc := c.utf8Size_pos
      rw [Text.byteLength_cons] at h
      omega
  · exact lexemes_append_of_isBoundary ⟨x, hx, Or.inr hstop⟩

/-- Texts joined between tokens have the nodes of the first and then those of the second, except
that a name at the end of the first may come to stand before a marker: the last node, when a marker
begins the second text or stands there behind blanks, and the last but one, when blanks end the
first text and a marker begins the second. A reference then becomes a definition of the same name.
No more than one node changes, and no definition does. -/
theorem parse_append {a b : Text} (document : Text)
    (h : a.byteLength = 0 ∨ ∃ x ∈ lexSpans (a ++ b), x.stop = a.byteLength) :
    parse (a ++ b) document =
        ((parse a document).mapIdx fun i node =>
          if ReachesMarker (lex a) (lex b) i then node.defining else node) ++ parse b document ∧
      (∀ i j : Nat, i < (parse a document).length → j < (parse a document).length →
        (parse (a ++ b) document)[i]? ≠ (parse a document)[i]? →
        (parse (a ++ b) document)[j]? ≠ (parse a document)[j]? → i = j) ∧
      ∀ (i : Nat) (node : Node) (name : Text), (parse a document)[i]? = some node →
        node.defined? = some name → (parse (a ++ b) document)[i]? = some node := by
  have hlex : lex (a ++ b) = lex a ++ lex b := by
    rw [lex, lexemes_append_of_stop h, List.map_append]
    rfl
  simp only [parse_eq, hlex, length_windowNodes]
  refine ⟨windowNodes_append document (lex a) (lex b), fun i j hi hj hchangei hchangej => ?_,
    fun i node name hi hname => ?_⟩
  · obtain ⟨hreachi, hkindi⟩ := reachesMarker_of_changed hi hchangei
    obtain ⟨hreachj, hkindj⟩ := reachesMarker_of_changed hj hchangej
    exact hreachi.unique hreachj hkindi hkindj
  · have hlt := (List.getElem?_eq_some_iff.1 hi).1
    rw [length_windowNodes] at hlt
    rw [getElem?_windowNodes_append hlt, hi, Option.map_some, defining_of_defined? hname, ite_self]

/-- the second of two names is defined by what comes after the blanks behind it -/
theorem parse_append_marker :
    let a := "Old Item ".toList
    let b := "::= $$x".toList
    (∃ x ∈ lexSpans (a ++ b), x.stop = Text.byteLength a) ∧
      parse (a ++ b) [] =
        ((parse a []).mapIdx fun i node =>
          if ReachesMarker (lex a) (lex b) i then node.defining else node) ++ parse b [] ∧
      ReachesMarker (lex a) (lex b) 2 := by
  have hstop : ∃ x ∈ lexSpans ("Old Item ".toList ++ "::= $$x".toList),
      x.stop = Text.byteLength "Old Item ".toList := by decide +kernel
  exact ⟨hstop, (parse_append [] (Or.inr hstop)).1, by decide +kernel⟩

theorem take_parse_append (s t document : Text) :
    (parse (s ++ t) document).take ((lex s).length - 4) =
      (parse s document).take ((lex s).length - 4) := by
  rw [parse_eq, parse_eq]
  by_cases hn : (lex s).length ≤ 4
  · rw [Nat.sub_eq_zero_of_le hn, List.take_zero, List.take_zero]
  · refine take_windowNodes_congr ?_
    rw [show (lex s).length - 4 + 2 = (lex s).length - 2 by omega]
    exact take_lex_append s t

/-- Text after a text leaves all of its spanned tokens but the last two and all of its nodes but the
last four as they are. Neither can be said of one more: two colons become a marker, and with that
the node of a name before them becomes a definition. -/
theorem tail_of_append :
    (∀ s t : Text,
      (lexSpans (s ++ t)).take ((lex s).length - 2) = (lexSpans s).take ((lex s).length - 2)) ∧
    (∀ s t document : Text, (parse (s ++ t) document).take ((lex s).length - 4) =
      (parse s document).take ((lex s).length - 4)) ∧
    (¬ ∀ s t : Text,
      (lexSpans (s ++ t)).take ((lex s).length - 1) = (lexSpans s).take ((lex s).length - 1)) ∧
    ∀ document : Text, ¬ ∀ s t : Text, (parse (s ++ t) document).take ((lex s).length - 3) =
      (parse s document).take ((lex s).length - 3) := by
  refine ⟨take_lexSpans_append, take_parse_append, fun h => ?_, fun document h => ?_⟩
  · have hcolons := h "::".toList "=".toList
    revert hcolons
    decide +kernel
  · have hcolons : lex "A ::".toList =
        [⟨.identifier, ['A']⟩, ⟨.whitespace, [' ']⟩, .other ':', .other ':'] := by decide +kernel
    have hmarker : lex ("A ::".toList ++ "=".toList) =
        [⟨.identifier, ['A']⟩, ⟨.whitespace, [' ']⟩, ⟨.definition, definitionMarker⟩] := by
      decide +kernel
    have hname := h "A ::".toList "=".toList
    rw [parse_eq, parse_eq, hcolons, hmarker] at hname
    obtain ⟨hnode, -⟩ := List.cons.inj hname
    have hdefined := (windowNode_identifier document ['A'] (some ⟨.whitespace, [' ']⟩)
      (some ⟨.definition, definitionMarker⟩)).1.2 ⟨by decide, rfl⟩
    have hahead := (windowNode_identifier document ['A'] (some ⟨.whitespace, [' ']⟩)
      (some (.other ':'))).1.1 (hnode ▸ hdefined)
    exact absurd hahead.2 (by decide)

end Stanza
