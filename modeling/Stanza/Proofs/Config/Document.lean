import Stanza.Config.Basic
import Stanza.Proofs.Toml.Quotes

/-! The document of a configuration, written and read again. A document of lines that each set a
text under a key is read as just those entries, in any order. -/

namespace Stanza

namespace Toml

/-- a key that needs no quotes -/
def IsBareKey (k : Text) : Prop := k ≠ [] ∧ ∀ c ∈ k, isKeyChar c = true

instance (k : Text) : Decidable (IsBareKey k) :=
  decidable_of_iff (k ≠ [] ∧ k.all isKeyChar = true) (by simp [IsBareKey])

theorem isKeyChar_ne {c d : Char} (h : isKeyChar c = true) (hd : isKeyChar d = false) : c ≠ d := by
  rintro rfl
  rw [h] at hd
  cases hd

theorem IsBareKey.exists_cons {k : Text} (h : IsBareKey k) :
    ∃ c k', k = c :: k' ∧ isKeyChar c = true := by
  obtain ⟨c, k, rfl⟩ := List.exists_cons_of_ne_nil h.1
  exact ⟨c, k, rfl, h.2 c List.mem_cons_self⟩

theorem dropSpaces_cons {c : Char} (h : c ≠ ' ' ∧ c ≠ '\t') (t : Text) :
    dropSpaces (c :: t) = c :: t := by
  simp [dropSpaces, h]

theorem IsBareKey.append_ne {k : Text} (h : IsBareKey k) {c : Char} (hc : isKeyChar c = false)
    (s t : Text) : k ++ s ≠ c :: t := by
  obtain ⟨d, k, rfl, hd⟩ := h.exists_cons
  intro heq
  exact isKeyChar_ne hd hc (List.cons.inj heq).1

theorem IsBareKey.dropSpaces_append {k : Text} (h : IsBareKey k) (r : Text) :
    dropSpaces (k ++ r) = k ++ r := by
  obtain ⟨c, k, rfl, hc⟩ := h.exists_cons
  exact dropSpaces_cons ⟨isKeyChar_ne hc (by decide), isKeyChar_ne hc (by decide)⟩ _

theorem IsBareKey.key?_append {k : Text} (h : IsBareKey k) (r : Text) :
    key? (k ++ ' ' :: r) = some (k, ' ' :: r) := by
  have hspace : ¬ isKeyChar ' ' = true := by decide
  have htake : (k ++ ' ' :: r).takeWhile isKeyChar = k := by
    rw [List.takeWhile_append_of_pos h.2, List.takeWhile_cons_of_neg hspace, List.append_nil]
  have hdrop : (k ++ ' ' :: r).dropWhile isKeyChar = ' ' :: r := by
    rw [List.dropWhile_append_of_pos h.2, List.dropWhile_cons_of_neg hspace]
  have hempty : k.isEmpty = false := by simpa using h.1
  unfold key?
  split
  · next ht => exact absurd ht (h.append_ne (by decide) _ _)
  · next ht => exact absurd ht (h.append_ne (by decide) _ _)
  · simp only [htake, hdrop, hempty]
    rfl

theorem IsBareKey.dottedKey?_append {k : Text} (h : IsBareKey k) (r : Text) :
    dottedKey? (k ++ (" = ".toList ++ r)) = some (⟨[], k⟩, '=' :: ' ' :: r) := by
  have hkey : key? (k ++ (" = ".toList ++ r)) = some (k, " = ".toList ++ r) := h.key?_append _
  have hmore (n : Nat) : moreKeys? n (" = ".toList ++ r) = some ([], " = ".toList ++ r) := by
    cases n <;> rfl
  unfold dottedKey?
  rw [h.dropSpaces_append, hkey]
  simp only [hmore]
  rfl

/-- A string is written between quotes, which tell it from any other value. -/
theorem exists_quote (t : Text) :
    ∃ q s, (q = '"' ∨ q = '\'') ∧ ∀ r, writeString t ++ r = q :: (s ++ r) := by
  unfold writeString
  cases Form.ofText t with
  | basic => exact ⟨_, _, Or.inl rfl, fun r => rfl⟩
  | literal => exact ⟨_, _, Or.inr rfl, fun r => rfl⟩
  | multilineBasic => exact ⟨_, _, Or.inl rfl, fun r => rfl⟩
  | multilineLiteral => exact ⟨_, _, Or.inr rfl, fun r => rfl⟩

theorem dropSpaces_writeString (t r : Text) :
    dropSpaces (' ' :: (writeString t ++ r)) = writeString t ++ r := by
  obtain ⟨q, s, hq, hs⟩ := exists_quote t
  have hspace : dropSpaces (' ' :: (q :: (s ++ r))) = dropSpaces (q :: (s ++ r)) := rfl
  rw [hs, hspace]
  rcases hq with rfl | rfl <;> rfl

theorem value?_writeString (fuel depth : Nat) (t : Text) {r : Text} (hbasic : r.head? ≠ some '"')
    (hliteral : r.head? ≠ some '\'') :
    value? (fuel + 1) depth (writeString t ++ r) = some (.string t, r) := by
  have hread := string?_writeString t hbasic hliteral
  obtain ⟨q, s, hq, hs⟩ := exists_quote t
  rw [hs] at hread ⊢
  rcases hq with rfl | rfl
  · rw [value?, hread]
    rfl
  · rw [value?, hread]
    rfl

end Toml

namespace Config

open Toml

theorem statement?_line {k : Text} (hk : IsBareKey k) (v r : Text) :
    statement? (line k v ++ r) = some (.entry ⟨[], k⟩ (.string v), '\n' :: r) := by
  have hline : line k v ++ r = k ++ (" = ".toList ++ (writeString v ++ '\n' :: r)) := by
    simp [line]
  rw [hline]
  unfold statement?
  split
  · next hs => exact absurd hs (hk.append_ne (by decide) _ _)
  · next hs => exact absurd hs (hk.append_ne (by decide) _ _)
  · rw [hk.dottedKey?_append]
    simp only [dropSpaces_writeString]
    rw [value?_writeString _ _ _ (by simp) (by simp)]
    rfl

def document (entries : List (Text × Text)) : Text := entries.flatMap fun e => line e.1 e.2

def assigned (entries : List (Text × Text)) : List Statement :=
  entries.map fun e => .entry ⟨[], e.1⟩ (.string e.2)

theorem statements?_line {k : Text} (hk : IsBareKey k) (v r : Text) (n : Nat) :
    statements? (n + 1) (line k v ++ r) =
      (statements? n r).map (.entry ⟨[], k⟩ (.string v) :: ·) := by
  have hstatement := statement?_line hk v r
  have hspaces : dropSpaces (line k v ++ r) = line k v ++ r := by
    simpa [line] using hk.dropSpaces_append _
  obtain ⟨c, k, rfl, hc⟩ := hk.exists_cons
  have hline : line (c :: k) v ++ r = c :: (line k v ++ r) := rfl
  have hfirst : c ∉ ['#', '\n', '\r'] := by
    rintro hmem
    simp only [List.mem_cons, List.not_mem_nil, or_false] at hmem
    rcases hmem with rfl | rfl | rfl <;> exact absurd hc (by decide)
  rw [statements?, hspaces, hline]
  rw [hline] at hstatement
  simp only [if_neg hfirst, hstatement]
  rfl

theorem statements?_document {entries : List (Text × Text)}
    (h : ∀ e ∈ entries, IsBareKey e.1) {n : Nat} (hn : entries.length ≤ n) :
    statements? n (document entries) = some (assigned entries) := by
  induction entries generalizing n with
  | nil => cases n <;> rfl
  | cons e entries ih =>
    obtain ⟨n, rfl⟩ := Nat.exists_eq_add_of_le' hn
    obtain ⟨he, h⟩ := List.forall_mem_cons.1 h
    rw [document, List.flatMap_cons, List.length_cons, ← Nat.add_assoc, statements?_line he,
      ← document, ih h (Nat.le_add_left _ _)]
    rfl

def leaves (entries : List (Text × Text)) : Children :=
  entries.map fun e => (e.1, .leaf (.string e.2))

theorem lookup_leaves {k : Text} {entries : List (Text × Text)} (h : k ∉ entries.map Prod.fst) :
    (leaves entries).lookup k = none := by
  rw [List.lookup_eq_none_iff]
  intro x hx
  obtain ⟨e, he, rfl⟩ := List.mem_map.1 hx
  have hne : k ≠ e.1 := fun hk => h (hk ▸ List.mem_map_of_mem he)
  simpa using hne

theorem put_leaves {k : Text} {tree : Tree} {entries : List (Text × Text)}
    (h : k ∉ entries.map Prod.fst) : Tree.put k tree (leaves entries) = leaves entries ++ [(k, tree)] := by
  induction entries with
  | nil => rfl
  | cons e entries ih =>
    rw [List.map_cons, List.mem_cons, not_or] at h
    have hrest := ih h.2
    simp only [leaves] at hrest
    simp [leaves, Tree.put, Ne.symm h.1, hrest]

/-- An entry under a key that is not there yet comes after those that are. -/
theorem add_entry {k : Text} (v : Text) {entries : List (Text × Text)}
    (h : k ∉ entries.map Prod.fst) :
    Building.add ⟨[], leaves entries⟩ (.entry ⟨[], k⟩ (.string v)) =
      some ⟨[], leaves (entries ++ [(k, v)])⟩ := by
  have hleaf : Tree.addLeaf [] k (.string v) (leaves entries) =
      some (leaves (entries ++ [(k, v)])) := by
    have happend : leaves (entries ++ [(k, v)]) = leaves entries ++ [(k, .leaf (.string v))] :=
      List.map_append
    simp [Tree.addLeaf, Tree.within, lookup_leaves h, put_leaves h, happend]
  simp [Building.add, Tree.within, hleaf]

theorem foldlM_add (done : List (Text × Text)) {entries : List (Text × Text)}
    (h : ((done ++ entries).map Prod.fst).Nodup) :
    (assigned entries).foldlM Building.add ⟨[], leaves done⟩ =
      some ⟨[], leaves (done ++ entries)⟩ := by
  induction entries generalizing done with
  | nil => simp [assigned]
  | cons e entries ih =>
    have hfresh : e.1 ∉ done.map Prod.fst := by
      rw [List.map_append, List.map_cons, List.nodup_append] at h
      exact fun he => h.2.2 _ he _ List.mem_cons_self rfl
    rw [List.append_cons] at h ⊢
    rw [assigned, List.map_cons, List.foldlM_cons, add_entry e.2 hfresh]
    exact ih _ h

theorem entries_leaves (entries : List (Text × Text)) :
    Tree.entries (leaves entries) = entries.map fun e => (e.1, .string e.2) := by
  induction entries with
  | nil => rfl
  | cons e entries ih =>
    simp only [leaves] at ih
    simp [leaves, Tree.entries, Tree.entry, Tree.value, ih]

theorem length_le_document (entries : List (Text × Text)) :
    entries.length ≤ (document entries).length := by
  induction entries with
  | nil => exact Nat.le_refl _
  | cons e entries ih =>
    have hline : 0 < (line e.1 e.2).length := by
      simp only [line, List.length_append, List.length_cons]
      omega
    rw [document, List.flatMap_cons, List.length_append, List.length_cons, ← document]
    omega

/-- A document of lines with different keys is read as the entries that it was written for. -/
theorem read?_document {entries : List (Text × Text)} (hkeys : ∀ e ∈ entries, IsBareKey e.1)
    (hnodup : (entries.map Prod.fst).Nodup) :
    Toml.read? (document entries) = some (entries.map fun e => (e.1, .string e.2)) := by
  have hmark : dropMark (document entries) = document entries := by
    cases entries with
    | nil => rfl
    | cons e entries =>
      obtain ⟨c, k, hk, hc⟩ := (hkeys e List.mem_cons_self).exists_cons
      have hne : c ≠ '\uFEFF' := isKeyChar_ne hc (by decide)
      simp [document, line, hk, dropMark, hne]
  have hlines := Nat.le_succ_of_le (length_le_document entries)
  have hfold : (assigned entries).foldlM Building.add ⟨[], []⟩ = some ⟨[], leaves entries⟩ :=
    foldlM_add [] hnodup
  rw [Toml.read?, hmark, statements?_document hkeys hlines]
  simp only [hfold, Option.map_some]
  exact congrArg some (entries_leaves entries)

/-- What is read from the document of some entries is what those entries set. -/
theorem read?_eq_ofEntries? {entries : List (Text × Text)}
    (hkeys : ∀ e ∈ entries, IsBareKey e.1) (hnodup : (entries.map Prod.fst).Nodup) :
    read? (document entries) = ofEntries? (entries.map fun e => (e.1, .string e.2)) := by
  rw [read?, read?_document hkeys hnodup]
  rfl

theorem read?_line {k : Text} (hk : IsBareKey k) (v : Text) :
    read? (line k v) = ofEntries? [(k, .string v)] := by
  have hread : read? (document [(k, v)]) = ofEntries? [(k, .string v)] :=
    read?_eq_ofEntries? (by simp [hk]) (by simp)
  simpa [document] using hread

theorem read?_two_lines {k l : Text} (hk : IsBareKey k) (hl : IsBareKey l) (hne : k ≠ l)
    (v w : Text) :
    read? (line k v ++ line l w) = ofEntries? [(k, .string v), (l, .string w)] := by
  have hread : read? (document [(k, v), (l, w)]) = ofEntries? [(k, .string v), (l, .string w)] :=
    read?_eq_ofEntries? (by simp [hk, hl]) (by simp [hne])
  simpa [document] using hread

theorem isBareKey_documentKey : IsBareKey documentKey := by decide

theorem isBareKey_formatKey : IsBareKey formatKey := by decide

theorem documentKey_ne_formatKey : documentKey ≠ formatKey := by decide

/-- What is written of a configuration is its document and no other. -/
theorem read?_whole (c : Config) : read? c.write = some c := by
  obtain ⟨name, format⟩ := c
  rw [write, read?_two_lines isBareKey_documentKey isBareKey_formatKey documentKey_ne_formatKey]
  cases format <;> rfl

/-- A configuration is read again from what is written of it, whatever its document name holds. The
order of the two entries does not matter, and an entry that is missing leaves its default. -/
theorem read?_write (c : Config) :
    read? c.write = some c ∧
      read? (line formatKey c.format.name ++ line documentKey c.documentName) = some c ∧
      read? (line documentKey c.documentName) = some ⟨c.documentName, .text⟩ ∧
      read? (line formatKey c.format.name) = some ⟨"index".toList, c.format⟩ := by
  refine ⟨read?_whole c, ?_, ?_, ?_⟩
  · obtain ⟨name, format⟩ := c
    rw [read?_two_lines isBareKey_formatKey isBareKey_documentKey documentKey_ne_formatKey.symm]
    cases format <;> rfl
  · rw [read?_line isBareKey_documentKey]
    rfl
  · rw [read?_line isBareKey_formatKey]
    cases c.format <;> rfl

example : write ⟨"a\"b".toList, .json⟩ =
    "document_name = 'a\"b'\nformat = \"json\"\n".toList := by decide

end Config

end Stanza
