import Stanza.Proofs.Markup.Entity
import Stanza.Proofs.Text.Run

/-! HTML read as a tree. A tag reaches from `<` to the next `>`, whatever stands between them, and
its attributes stand in double quotes. A tree of characters and elements is read again from what it
is written as, since nothing that is escaped can be taken for a part of a tag. -/

namespace Stanza.Markup

inductive Tree where
  | char (c : Char)
  | element (tag : Text) (attributes : List (Text × Text)) (content : List Tree)

/-- a piece of markup: a decoded character, or a tag -/
inductive Mark where
  | char (c : Char)
  | opening (tag : Text) (attributes : List (Text × Text))
  | closing (tag : Text)
  deriving DecidableEq

def isNameChar (c : Char) : Bool := c.isAlphanum || c = '-'

def attribute? : Text → Option ((Text × Text) × Text)
  | ' ' :: t =>
    match t.dropWhile isNameChar with
    | '=' :: '"' :: rest =>
      match rest.dropWhile (· ≠ '"') with
      | _ :: after =>
        some ((t.takeWhile isNameChar, decode (rest.takeWhile (· ≠ '"'))), after)
      | [] => none
    | _ => none
  | _ => none

theorem length_attribute?_lt {t after : Text} {a : Text × Text}
    (h : attribute? t = some (a, after)) : after.length < t.length := by
  unfold attribute? at h
  split at h
  · next t =>
    split at h
    · next rest hname =>
      split at h
      · next d after' hvalue =>
        obtain ⟨-, rfl⟩ := Prod.mk.inj (Option.some.inj h)
        have hle := (List.dropWhile_suffix (l := t) isNameChar).length_le
        have hle' := (List.dropWhile_suffix (l := rest) (· ≠ '"')).length_le
        rw [hname] at hle
        rw [hvalue] at hle'
        simp only [List.length_cons] at hle hle' ⊢
        omega
      · cases h
    · cases h
  · cases h

def attributes? (t : Text) : Option (List (Text × Text)) :=
  if t.isEmpty then some []
  else
    match h : attribute? t with
    | some (a, after) =>
      have := length_attribute?_lt h
      (attributes? after).map (a :: ·)
    | none => none
termination_by t.length

def tag? : Text → Option Mark
  | '/' :: name => some (.closing name)
  | t => (attributes? (t.dropWhile isNameChar)).map (.opening (t.takeWhile isNameChar))

def marks? : Text → Option (List Mark)
  | [] => some []
  | c :: t =>
    if c = '<' then
      match h : t.dropWhile (· ≠ '>'), tag? (t.takeWhile (· ≠ '>')) with
      | _ :: after, some m =>
        have : after.length < t.length := by
          have hle := (List.dropWhile_suffix (l := t) (· ≠ '>')).length_le
          rw [h, List.length_cons] at hle
          exact hle
        (marks? after).map (m :: ·)
      | _, _ => none
    else if c = '>' then none
    else
      have := length_character_le c t
      (marks? (character c t).2).map (.char (character c t).1 :: ·)
termination_by t => t.length
decreasing_by
  · simp only [List.length_cons]; omega
  · simp only [List.length_cons]; omega

/-- The trees read so far. An element that is still open waits with what stands before it. -/
structure Draft where
  outer : List (Text × List (Text × Text) × List Tree)
  content : List Tree

/-- Reads on by a piece. Only the innermost open element can be closed. -/
def Draft.add (d : Draft) : Mark → Option Draft
  | .char c => some ⟨d.outer, d.content ++ [.char c]⟩
  | .opening tag attributes => some ⟨(tag, attributes, d.content) :: d.outer, []⟩
  | .closing tag =>
    match d.outer with
    | [] => none
    | (opened, attributes, before) :: outer =>
      if opened = tag then some ⟨outer, before ++ [.element tag attributes d.content]⟩ else none

def read? (t : Text) : Option (List Tree) :=
  match marks? t with
  | some marks =>
    match marks.foldlM Draft.add ⟨[], []⟩ with
    | some ⟨[], content⟩ => some content
    | _ => none
  | none => none

theorem trees_induction {P : List Tree → Prop} (nil : P [])
    (char : ∀ c ts, P ts → P (.char c :: ts))
    (element : ∀ tag attributes content ts, P content → P ts →
      P (.element tag attributes content :: ts)) : ∀ ts, P ts
  | [] => nil
  | .char c :: ts => char c ts (trees_induction nil char element ts)
  | .element tag attributes content :: ts =>
    element tag attributes content ts (trees_induction nil char element content)
      (trees_induction nil char element ts)

def write : List Tree → Text
  | [] => []
  | .char c :: ts => textChar c ++ write ts
  | .element tag attributes content :: ts =>
    element tag (attributes.flatMap fun a => attr a.1 (escapeValue a.2)) (write content) ++ write ts

def text : List Tree → Text
  | [] => []
  | .char c :: ts => c :: text ts
  | .element _ _ content :: ts => text content ++ text ts

def marks : List Tree → List Mark
  | [] => []
  | .char c :: ts => .char c :: marks ts
  | .element tag attributes content :: ts =>
    .opening tag attributes :: (marks content ++ .closing tag :: marks ts)

def IsName (n : Text) : Prop := n ≠ [] ∧ ∀ c ∈ n, isNameChar c = true

instance (n : Text) : Decidable (IsName n) :=
  decidable_of_iff (n ≠ [] ∧ n.all isNameChar = true) (by simp [IsName])

/-- all tags and attributes of the trees have names -/
def Named : List Tree → Prop
  | [] => True
  | .char _ :: ts => Named ts
  | .element tag attributes content :: ts =>
    (IsName tag ∧ ∀ a ∈ attributes, IsName a.1) ∧ Named content ∧ Named ts

theorem IsName.not_mem {n : Text} (h : IsName n) {c : Char} (hc : isNameChar c = false) :
    c ∉ n := by
  intro hmem
  rw [h.2 c hmem] at hc
  cases hc

theorem takeWhile_until {d : Char} {t : Text} (h : d ∉ t) (r : Text) :
    (t ++ d :: r).takeWhile (· ≠ d) = t := by
  apply takeWhile_run
  · intro c hc
    exact decide_eq_true fun heq => h (heq ▸ hc)
  · rintro c ⟨rfl⟩
    simp

theorem dropWhile_until {d : Char} {t : Text} (h : d ∉ t) (r : Text) :
    (t ++ d :: r).dropWhile (· ≠ d) = d :: r := by
  apply dropWhile_run
  · intro c hc
    exact decide_eq_true fun heq => h (heq ▸ hc)
  · rintro c ⟨rfl⟩
    simp

/-- An attribute is read up to the next quote, for none stands in its escaped value. -/
theorem attribute?_attr {name : Text} (h : IsName name) (value r : Text) :
    attribute? (attr name (escapeValue value) ++ r) = some ((name, value), r) := by
  have hattr : attr name (escapeValue value) ++ r =
      ' ' :: (name ++ ('=' :: '"' :: (escapeValue value ++ '"' :: r))) := by
    simp [attr]
  have hname : EndsRun isNameChar ('=' :: '"' :: (escapeValue value ++ '"' :: r)) := by
    rintro c ⟨rfl⟩
    decide
  have hquote := (not_mem_escapeValue value).1
  rw [hattr, attribute?]
  simp only [takeWhile_run h.2 hname, dropWhile_run h.2 hname, takeWhile_until hquote,
    dropWhile_until hquote, decode_escapeValue]

theorem attributes?_write {attributes : List (Text × Text)} (h : ∀ a ∈ attributes, IsName a.1) :
    attributes? (attributes.flatMap fun a => attr a.1 (escapeValue a.2)) = some attributes := by
  induction attributes with
  | nil => rw [attributes?]; rfl
  | cons a attributes ih =>
    obtain ⟨ha, h⟩ := List.forall_mem_cons.1 h
    have hread := attribute?_attr ha a.2
      (attributes.flatMap fun a => attr a.1 (escapeValue a.2))
    rw [List.flatMap_cons, attributes?, if_neg (by simp [attr])]
    split
    · next b after hb =>
      rw [hread] at hb
      cases hb
      rw [ih h]
      rfl
    · next hb =>
      rw [hread] at hb
      cases hb

theorem tag?_opening {tag : Text} {attributes : List (Text × Text)} (htag : IsName tag)
    (h : ∀ a ∈ attributes, IsName a.1) :
    tag? (tag ++ attributes.flatMap fun a => attr a.1 (escapeValue a.2)) =
      some (.opening tag attributes) := by
  have hends : EndsRun isNameChar (attributes.flatMap fun a => attr a.1 (escapeValue a.2)) := by
    cases attributes with
    | nil => simp [EndsRun]
    | cons a attributes =>
      rintro c ⟨rfl⟩
      decide
  unfold tag?
  split
  · next name hslash =>
    obtain ⟨c, tag, rfl⟩ := List.exists_cons_of_ne_nil htag.1
    obtain rfl : c = '/' := (List.cons.inj hslash).1
    exact absurd List.mem_cons_self (htag.not_mem (by decide))
  · rw [takeWhile_run htag.2 hends, dropWhile_run htag.2 hends, attributes?_write h]
    rfl

theorem marks?_nil : marks? [] = some [] := by rw [marks?]

theorem marks?_tag {inside : Text} {m : Mark} (hinside : '>' ∉ inside)
    (hm : tag? inside = some m) (r : Text) :
    marks? ('<' :: (inside ++ '>' :: r)) = (marks? r).map (m :: ·) := by
  rw [marks?, if_pos rfl]
  split
  · next after m' hafter hm' =>
    rw [dropWhile_until hinside] at hafter
    rw [takeWhile_until hinside, hm] at hm'
    cases hafter
    cases hm'
    rfl
  · next hnot =>
    refine absurd ?_ (hnot '>' r m (dropWhile_until hinside r))
    rw [takeWhile_until hinside, hm]

theorem marks?_char {c : Char} {w : Text} (h : Encodes c w) (r : Text) :
    marks? (w ++ r) = (marks? r).map (.char c :: ·) := by
  obtain ⟨hlt, hgt⟩ := h.plain
  obtain ⟨d, e, rfl, hread⟩ := h.reads
  have hopen : d ≠ '<' := fun heq => hlt (heq ▸ List.mem_cons_self)
  have hclose : d ≠ '>' := fun heq => hgt (heq ▸ List.mem_cons_self)
  rw [List.cons_append, marks?, if_neg hopen, if_neg hclose, hread]

/-- Nothing between the brackets of an opening tag ends it. -/
theorem not_mem_opening {tag : Text} {attributes : List (Text × Text)} (htag : IsName tag)
    (h : ∀ a ∈ attributes, IsName a.1) :
    '>' ∉ tag ++ attributes.flatMap fun a => attr a.1 (escapeValue a.2) := by
  intro hmem
  rcases List.mem_append.1 hmem with hmem | hmem
  · exact htag.not_mem (by decide) hmem
  · obtain ⟨a, ha, hmem⟩ := List.mem_flatMap.1 hmem
    have hname : '>' ∉ a.1 := (h a ha).not_mem (by decide)
    have hvalue := (not_mem_escapeValue a.2).2.2
    simp [attr, hname, hvalue] at hmem

theorem not_mem_closing {tag : Text} (htag : IsName tag) : '>' ∉ '/' :: tag := by
  have hname : '>' ∉ tag := htag.not_mem (by decide)
  simp [hname]

theorem element_append (tag attributes content r : Text) :
    element tag attributes content ++ r =
      '<' :: ((tag ++ attributes) ++ '>' :: (content ++ '<' :: (('/' :: tag) ++ '>' :: r))) := by
  simp [element]

theorem marks?_write {ts : List Tree} (h : Named ts) (r : Text) :
    marks? (write ts ++ r) = (marks? r).map (marks ts ++ ·) := by
  induction ts using trees_induction generalizing r with
  | nil => simp [write, marks]
  | char c ts ih =>
    rw [Named] at h
    rw [write, List.append_assoc, marks?_char (encodes_textChar c), ih h, Option.map_map,
      marks]
    rfl
  | element tag attributes content ts hcontent hts =>
    rw [Named] at h
    obtain ⟨⟨htag, hattributes⟩, hc, ht⟩ := h
    rw [write, List.append_assoc, element_append,
      marks?_tag (not_mem_opening htag hattributes) (tag?_opening htag hattributes),
      hcontent hc, marks?_tag (not_mem_closing htag) rfl, hts ht]
    simp [marks, Option.map_map, Function.comp_def]

/-- Reading adds the trees to those that were read before them. -/
theorem foldlM_add_marks (ts : List Tree) (d : Draft) :
    (marks ts).foldlM Draft.add d = some ⟨d.outer, d.content ++ ts⟩ := by
  induction ts using trees_induction generalizing d with
  | nil => simp [marks]
  | char c ts ih => simp [marks, Draft.add, ih]
  | element tag attributes content ts hcontent hts =>
    simp [marks, Draft.add, hcontent, hts]

/-- Trees are read from what they are written as. -/
theorem read?_write_trees {ts : List Tree} (h : Named ts) : read? (write ts) = some ts := by
  have hmarks := marks?_write h []
  rw [List.append_nil, marks?_nil, Option.map_some, List.append_nil] at hmarks
  rw [read?, hmarks]
  simp [foldlM_add_marks]

/-- The text without anything from a `<` to the next `>`. -/
def withoutTags : Text → Text
  | [] => []
  | c :: t =>
    if c = '<' then withoutTags ((t.dropWhile (· ≠ '>')).drop 1) else c :: withoutTags t
termination_by t => t.length
decreasing_by
  · have hle := (List.dropWhile_suffix (l := t) (· ≠ '>')).length_le
    simp only [List.length_drop, List.length_cons]
    omega
  · simp only [List.length_cons]
    omega

theorem withoutTags_tag {inside : Text} (hinside : '>' ∉ inside) (r : Text) :
    withoutTags ('<' :: (inside ++ '>' :: r)) = withoutTags r := by
  rw [withoutTags, if_pos rfl, dropWhile_until hinside]
  rfl

theorem withoutTags_append {w : Text} (h : '<' ∉ w) (r : Text) :
    withoutTags (w ++ r) = w ++ withoutTags r := by
  induction w with
  | nil => rfl
  | cons c w ih =>
    rw [List.mem_cons, not_or] at h
    rw [List.cons_append, withoutTags, if_neg (Ne.symm h.1), ih h.2, List.cons_append]

theorem withoutTags_write {ts : List Tree} (h : Named ts) (r : Text) :
    withoutTags (write ts ++ r) = escapeText (text ts) ++ withoutTags r := by
  induction ts using trees_induction generalizing r with
  | nil => simp [write, text, escapeText]
  | char c ts ih =>
    rw [Named] at h
    have hc : '<' ∉ textChar c := (encodes_textChar c).plain.1
    have hts := ih h r
    rw [escapeText] at hts ⊢
    rw [write, List.append_assoc, withoutTags_append hc, hts, text, List.flatMap_cons,
      List.append_assoc]
  | element tag attributes content ts hcontent hts =>
    rw [Named] at h
    obtain ⟨⟨htag, hattributes⟩, hc, ht⟩ := h
    rw [write, List.append_assoc, element_append,
      withoutTags_tag (not_mem_opening htag hattributes), hcontent hc,
      withoutTags_tag (not_mem_closing htag), hts ht, text, escapeText, escapeText, escapeText,
      List.flatMap_append, List.append_assoc]

/-- Without its tags and with its entities decoded, what is written of trees is their text. -/
theorem decode_withoutTags_write {ts : List Tree} (h : Named ts) :
    decode (withoutTags (write ts)) = text ts := by
  have hwrite := withoutTags_write h []
  rw [List.append_nil, show withoutTags [] = [] by rw [withoutTags], List.append_nil] at hwrite
  rw [hwrite, decode_escapeText]

end Stanza.Markup
