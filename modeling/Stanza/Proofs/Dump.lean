import Stanza.Proofs.Node.Window
import Stanza.Proofs.Text.Quoted
import Stanza.Render

/-! Dumps say what they were made of. Every text in a dump is quoted, so a line ends where its node
or token does, and what is quoted cannot be mistaken for the words of a line. -/

namespace Stanza

/-- a node made of any texts in one of the four ways that there are -/
inductive Node.Made : Node → Prop
  | text (content : Text) : Made (.text content)
  | literal (content : Text) : Made (.literal content)
  | definition (name : Text) : Made (.ruleDefinition name)
  | reference (name document : Text) : Made (.ruleReference name document)

theorem made_windowNode (document : Text) (token : Token) (second third : Option Token) :
    (windowNode document token second third).Made := by
  unfold windowNode
  split
  · exact .literal token.text
  · split
    · split
      · exact .definition token.text
      · exact .reference token.text document
    · exact .text token.text
  · exact .text token.text

theorem made_parse {t document : Text} {n : Node} (h : n ∈ parse t document) : n.Made := by
  obtain ⟨token, -, second, third, rfl⟩ := exists_of_mem_parse h
  exact made_windowNode document token second third

def IsLine (l : Text) : Prop := l ≠ [] ∧ Text.Unbroken l

theorem isLine_quoted {label : Text} (h : Text.Unbroken label) (t : Text) :
    IsLine (label ++ t.quote) :=
  ⟨by simp [Text.quote], Text.unbroken_append.2 ⟨h, Text.unbroken_quote t⟩⟩

theorem Node.Made.isLine_dump {n : Node} (h : n.Made) : IsLine n.dump := by
  cases h with
  | text content => exact isLine_quoted (by decide) content
  | literal content => exact isLine_quoted (by decide) content
  | definition name =>
    have hlabel : Text.Unbroken "DefinitionMarker syntaxes ".toList := by decide
    exact isLine_quoted hlabel name
  | reference name document =>
    have hwords : Text.Unbroken "CrossReference spec:ref".toList := by decide
    have hat : Text.Unbroken " @ ".toList := by decide
    have hname : Text.Unbroken (' ' :: name.quote) :=
      Text.unbroken_cons.2 ⟨by decide, Text.unbroken_quote name⟩
    have hlabel := Text.unbroken_append.2 ⟨Text.unbroken_append.2 ⟨hwords, hname⟩, hname⟩
    exact isLine_quoted (Text.unbroken_append.2 ⟨hlabel, hat⟩) document

theorem Token.isLine_dump (t : Token) : IsLine t.dump := by
  have hlabel : Text.Unbroken (t.kind.name ++ [' ']) := by
    cases t.kind <;> decide
  have hline := isLine_quoted hlabel t.text
  rwa [List.append_assoc] at hline

def Node.initial : Node → Char
  | .text _ => 'T'
  | .literal _ => 'L'
  | .definition _ _ => 'D'
  | .reference _ => 'C'

theorem Node.head?_dump (n : Node) : n.dump.head? = some n.initial := by
  cases n <;> rfl

theorem Node.dump_ruleReference (name document : Text) :
    (ruleReference name document).dump =
      "CrossReference ".toList ++ ruleDomain ++ ':' :: ruleRole ++
        ' ' :: (name.quote ++ ' ' :: (name.quote ++ (" @ ".toList ++ document.quote))) := by
  have h : (ruleReference name document).dump = "CrossReference ".toList ++ ruleDomain ++
      ':' :: ruleRole ++ ' ' :: name.quote ++ ' ' :: name.quote ++ " @ ".toList ++
        document.quote := rfl
  rw [h, List.append_assoc, List.append_assoc, List.append_assoc, List.cons_append,
    List.cons_append]

/-- A node that was made is told from any other by its line. -/
theorem Node.Made.dump_inj {m n : Node} (hm : m.Made) (hn : n.Made) (h : m.dump = n.dump) :
    m = n := by
  have hinitial : m.initial = n.initial := by
    have hhead := congrArg List.head? h
    rw [head?_dump, head?_dump] at hhead
    exact Option.some.inj hhead
  cases hm with
  | text content =>
    cases hn with
    | text content' => rw [Text.quote_inj.1 (List.append_cancel_left h)]
    | _ => simp [initial, ruleDefinition, ruleReference] at hinitial
  | literal content =>
    cases hn with
    | literal content' => rw [Text.quote_inj.1 (List.append_cancel_left h)]
    | _ => simp [initial, ruleDefinition, ruleReference] at hinitial
  | definition name =>
    cases hn with
    | definition name' =>
      have hname := (List.cons.inj (List.append_cancel_left h)).2
      rw [Text.quote_inj.1 hname]
    | _ => simp [initial, ruleDefinition, ruleReference] at hinitial
  | reference name document =>
    cases hn with
    | reference name' document' =>
      rw [dump_ruleReference, dump_ruleReference] at h
      have hname := (List.cons.inj (List.append_cancel_left h)).2
      obtain ⟨rfl, hrest⟩ := Text.quote_append_inj hname
      have hat := (Text.quote_append_inj (List.cons.inj hrest).2).2
      rw [Text.quote_inj.1 (List.append_cancel_left hat)]
    | _ => simp [initial, ruleDefinition, ruleReference] at hinitial

theorem Kind.head?_name_inj {k k' : Kind} (h : k.name.head? = k'.name.head?) : k = k' := by
  revert h
  cases k <;> cases k' <;> decide

theorem Token.dump_inj {s t : Token} (h : s.dump = t.dump) : s = t := by
  have hhead (t : Token) : t.dump.head? = t.kind.name.head? := by
    rw [dump]
    cases t.kind <;> rfl
  have hkind : s.kind = t.kind :=
    Kind.head?_name_inj ((hhead s).symm.trans ((congrArg List.head? h).trans (hhead t)))
  rw [dump, dump, hkind] at h
  have htext : s.text = t.text := Text.quote_inj.1 (List.cons.inj (List.append_cancel_left h)).2
  cases s
  cases t
  simp_all

theorem eq_of_map_eq_map {α β : Type} {f : α → β} {P : α → Prop}
    (hf : ∀ {a b : α}, P a → P b → f a = f b → a = b) {xs ys : List α} (hxs : ∀ x ∈ xs, P x)
    (hys : ∀ y ∈ ys, P y) (h : xs.map f = ys.map f) : xs = ys := by
  induction xs generalizing ys with
  | nil => exact (List.map_eq_nil_iff.1 h.symm).symm
  | cons x xs ih =>
    cases ys with
    | nil => cases h
    | cons y ys =>
      obtain ⟨hx, hxs⟩ := List.forall_mem_cons.1 hxs
      obtain ⟨hy, hys⟩ := List.forall_mem_cons.1 hys
      obtain ⟨hfirst, hrest⟩ := List.cons.inj h
      rw [hf hx hy hfirst, ih hxs hys hrest]

/-- The lines of joined lines, also where a text is only cut at line feeds. -/
theorem splitOn_joinLines {ls : List Text} (h : ∀ l ∈ ls, IsLine l) (hne : ls ≠ []) :
    (Text.joinLines ls).splitOn '\n' = ls :=
  List.splitOn_intercalate '\n' (fun l hl hmem => ((h l hl).2 '\n' hmem).1 rfl) hne

theorem isLine_of_mem_map_dump {ns : List Node} (h : ∀ n ∈ ns, n.Made) :
    ∀ l ∈ ns.map Node.dump, IsLine l := by
  intro l hl
  obtain ⟨n, hn, rfl⟩ := List.mem_map.1 hl
  exact (h n hn).isLine_dump

theorem isLine_of_mem_map_dump_token (ts : List Token) : ∀ l ∈ ts.map Token.dump, IsLine l := by
  intro l hl
  obtain ⟨t, -, rfl⟩ := List.mem_map.1 hl
  exact t.isLine_dump

theorem dumpNodes_inj {ms ns : List Node} (hms : ∀ m ∈ ms, m.Made) (hns : ∀ n ∈ ns, n.Made) :
    dumpNodes ms = dumpNodes ns ↔ ms = ns := by
  refine ⟨fun h => ?_, congrArg dumpNodes⟩
  have hlines := congrArg Text.lines h
  rw [dumpNodes, dumpNodes, Text.lines_joinLines (isLine_of_mem_map_dump hms),
    Text.lines_joinLines (isLine_of_mem_map_dump hns)] at hlines
  exact eq_of_map_eq_map Node.Made.dump_inj hms hns hlines

theorem dumpTokens_inj {ss ts : List Token} : dumpTokens ss = dumpTokens ts ↔ ss = ts := by
  refine ⟨fun h => ?_, congrArg dumpTokens⟩
  have hlines := congrArg Text.lines h
  rw [dumpTokens, dumpTokens, Text.lines_joinLines (isLine_of_mem_map_dump_token ss),
    Text.lines_joinLines (isLine_of_mem_map_dump_token ts)] at hlines
  exact (List.map_inj_right fun _ _ => Token.dump_inj).1 hlines

/-- Dumps are unambiguous. Nodes made of any texts, those of a parsed stanza among them, have the
same dump only if they are the same, and so have the tokens of two texts; cut at its line feeds, a
dump gives one line for each node or token, in order. -/
theorem dumps_unambiguous :
    (∀ ms ns : List Node, (∀ m ∈ ms, m.Made) → (∀ n ∈ ns, n.Made) →
        (dumpNodes ms = dumpNodes ns ↔ ms = ns)) ∧
      (∀ ns : List Node, (∀ n ∈ ns, n.Made) → ns ≠ [] →
        (dumpNodes ns).splitOn '\n' = ns.map Node.dump) ∧
      (∀ (t document : Text), ∀ n ∈ parse t document, n.Made) ∧
      (∀ s t : Text, renderTokens s .text = renderTokens t .text ↔ lex s = lex t) ∧
      ∀ t : Text, ∃ out, renderTokens t .text = .ok out ∧
        Text.lines out = (lex t).map Token.dump ∧
        (lex t ≠ [] → out.splitOn '\n' = (lex t).map Token.dump) := by
  refine ⟨fun ms ns hms hns => dumpNodes_inj hms hns, fun ns hns hne => ?_,
    fun t document n => made_parse, fun s t => ?_, fun t => ?_⟩
  · exact splitOn_joinLines (isLine_of_mem_map_dump hns) (by simpa using hne)
  · rw [renderTokens, renderTokens, Except.ok.injEq, dumpTokens_inj]
  · have hlines := isLine_of_mem_map_dump_token (lex t)
    exact ⟨_, rfl, Text.lines_joinLines hlines,
      fun hne => splitOn_joinLines hlines (by simpa using hne)⟩

/-- a text that is written like two lines of a dump is one line, and no two nodes -/
theorem dumps_unambiguous_line_feed :
    let one : List Node := [.text "a\"\nText \"b".toList]
    let two : List Node := [.text ['a'], .text ['b']]
    (∀ n ∈ one, n.Made) ∧ (∀ n ∈ two, n.Made) ∧ one ≠ [] ∧ dumpNodes one ≠ dumpNodes two ∧
      (dumpNodes one).splitOn '\n' = one.map Node.dump := by
  intro one two
  have hone : ∀ n ∈ one, n.Made := by
    intro n hn
    obtain rfl := List.mem_singleton.1 hn
    exact .text _
  have htwo : ∀ n ∈ two, n.Made := by
    intro n hn
    obtain rfl | hn := List.mem_cons.1 hn
    · exact .text _
    · obtain rfl := List.mem_singleton.1 hn
      exact .text _
  have hne : one ≠ [] := by simp [one]
  obtain ⟨hinj, hlines, -⟩ := dumps_unambiguous
  exact ⟨hone, htwo, hne, fun h => absurd ((hinj one two hone htwo).1 h) (by simp [one, two]),
    hlines one hone hne⟩

end Stanza
