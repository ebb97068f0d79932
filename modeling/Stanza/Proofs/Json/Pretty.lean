import Stanza.Proofs.Json.Reader
import Stanza.Proofs.Text.Quoted

/-! The indented form of a value is read as that value, whatever follows it. The lines and their
spaces are blanks between the parts, and each character of a string is written so that it is read
back alone. -/

namespace Stanza

namespace Json

open Toml

theorem induction {P : Json → Prop} (bool : ∀ b, P (.bool b)) (string : ∀ t, P (.string t))
    (array : ∀ items, (∀ j ∈ items, P j) → P (.array items))
    (object : ∀ fields, (∀ f ∈ fields, P f.2) → P (.object fields)) : ∀ j, P j
  | .bool b => bool b
  | .string t => string t
  | .array items => array items fun j _ => induction bool string array object j
  | .object fields => object fields fun f _ => induction bool string array object f.2
termination_by j => sizeOf j
decreasing_by
  · have := List.sizeOf_lt_of_mem ‹_›
    rw [Json.array.sizeOf_spec]
    omega
  · have := List.sizeOf_lt_of_mem ‹_›
    have : sizeOf f = 1 + sizeOf f.1 + sizeOf f.2 := rfl
    rw [Json.object.sizeOf_spec]
    omega

mutual

def datum : Json → Datum
  | .bool b => .bool b
  | .string t => .string t
  | .array items => .array (itemData items)
  | .object fields => .object (fieldData fields)

def itemData : List Json → List Datum
  | [] => []
  | item :: items => item.datum :: itemData items

def fieldData : List (Text × Json) → List (Text × Datum)
  | [] => []
  | field :: fields => (field.1, field.2.datum) :: fieldData fields

end

theorem itemData_eq_map (items : List Json) : itemData items = items.map datum := by
  induction items with
  | nil => rfl
  | cons item items ih => rw [itemData, ih, List.map_cons]

theorem fieldData_eq_map (fields : List (Text × Json)) :
    fieldData fields = fields.map fun field => (field.1, field.2.datum) := by
  induction fields with
  | nil => rfl
  | cons field fields ih => rw [fieldData, ih, List.map_cons]

/-! ## Strings -/

theorem characters?_escape {t rest : Text} {c : Char} (h : Datum.escape? t = some (c, rest)) :
    Datum.characters? ('\\' :: t) =
      (Datum.characters? rest).map fun r => (c :: r.1, r.2) := by
  rw [Datum.characters?, if_neg (by decide), if_pos rfl]
  split
  · next hread =>
    obtain ⟨rfl, rfl⟩ := Prod.mk.inj (Option.some.inj (h.symm.trans hread))
    rfl
  · next hread => cases h.symm.trans hread

/-- The code of a control character is read as its number. -/
theorem unit?_hexPair (t : Text) : ∀ n < 0x20, Datum.unit? ('0' :: '0' :: hexPair n ++ t) =
    some (n, t) := by
  have hcode : ∀ n < 0x20, numberOf 16 ('0' :: '0' :: hexPair n) = n ∧
      ('0' :: '0' :: hexPair n).all isHexDigit = true := by decide
  intro n hn
  obtain ⟨hnumber, hdigits⟩ := hcode n hn
  exact (if_pos ⟨rfl, hdigits⟩).trans (congrArg (fun m => some (m, t)) hnumber)

theorem escape?_hexPair {c : Char} (hc : c.toNat < 0x20) (t : Text) :
    Datum.escape? ('u' :: '0' :: '0' :: hexPair c.toNat ++ t) = some (c, t) := by
  have hvalid : c.toNat.isValidChar := c.valid
  rw [List.cons_append, Datum.escape?, if_pos rfl, Datum.codePoint?]
  simp only [unit?_hexPair t _ hc, if_pos hvalid, Char.ofNat_toNat]

/-- What stands for a character is read as that character. -/
theorem characters?_escapeChar (c : Char) (t : Text) : Datum.characters? (escapeChar c ++ t) =
    (Datum.characters? t).map fun r => (c :: r.1, r.2) := by
  unfold escapeChar
  split
  · next h => subst h; exact characters?_escape rfl
  next hquote =>
  split
  · next h => subst h; exact characters?_escape rfl
  next hslash =>
  split
  · next h => subst h; exact characters?_escape rfl
  split
  · next h => subst h; exact characters?_escape rfl
  split
  · next h => subst h; exact characters?_escape rfl
  split
  · next h => subst h; exact characters?_escape rfl
  split
  · next h => subst h; exact characters?_escape rfl
  split
  · next hcontrol => exact characters?_escape (escape?_hexPair hcontrol t)
  · next hcontrol =>
    rw [List.singleton_append, Datum.characters?, if_neg hquote, if_neg hslash, if_neg hcontrol]

theorem characters?_flatMap_escapeChar (t rest : Text) :
    Datum.characters? (t.flatMap escapeChar ++ '"' :: rest) = some (t, rest) := by
  induction t with
  | nil => rw [List.flatMap_nil, List.nil_append, Datum.characters?, if_pos rfl]
  | cons c t ih => rw [List.flatMap_cons, List.append_assoc, characters?_escapeChar, ih]; rfl

theorem quoteString_append (t rest : Text) :
    quoteString t ++ rest = '"' :: (t.flatMap escapeChar ++ '"' :: rest) := by
  rw [quoteString, List.cons_append, List.cons_append, List.append_assoc]
  rfl

/-! ## Lines -/

@[simp] theorem dropBlanks_newline (level : Nat) (t : Text) :
    Datum.dropBlanks (newline level ++ t) = Datum.dropBlanks t := by
  have hspaces (n : Nat) : Datum.dropBlanks (List.replicate n ' ' ++ t) = Datum.dropBlanks t := by
    induction n with
    | zero => rfl
    | succ n ih => exact ih
  exact hspaces (2 * level)

theorem value?_congr {s t : Text} (h : Datum.dropBlanks s = Datum.dropBlanks t) (depth : Nat) :
    Datum.value? depth s = Datum.value? depth t := by
  cases depth with
  | zero => rfl
  | succ depth => rw [Datum.value?, Datum.value?, h]

def moreLines (level : Nat) (parts : List Text) : Text :=
  parts.flatMap fun part => ',' :: newline level ++ part

/-- what stands behind an opening bracket if there is a line for each part -/
def onLines (closing : Char) (level : Nat) : List Text → Text
  | [] => [closing]
  | part :: parts =>
    newline (level + 1) ++ (part ++ (moreLines (level + 1) parts ++ (newline level ++ [closing])))

theorem indentedItems_eq (level : Nat) (items : List Json) :
    indentedItems level items = moreLines level (items.map (indented level)) := by
  induction items with
  | nil => rfl
  | cons item items ih => rw [indentedItems, ih]; rfl

theorem indentedFields_eq (level : Nat) (fields : List (Text × Json)) :
    indentedFields level fields = moreLines level (fields.map (indentedField level)) := by
  induction fields with
  | nil => rfl
  | cons field fields ih => rw [indentedFields, ih]; rfl

theorem indented_array (level : Nat) (items : List Json) :
    (array items).indented level = '[' :: onLines ']' level (items.map (indented (level + 1))) := by
  cases items with
  | nil => rfl
  | cons item items =>
    simp only [indented, indentedItems_eq, List.map_cons, onLines, List.cons_append,
      List.append_assoc]

theorem indented_object (level : Nat) (fields : List (Text × Json)) :
    (object fields).indented level =
      '{' :: onLines '}' level (fields.map (indentedField (level + 1))) := by
  cases fields with
  | nil => rfl
  | cons field fields =>
    simp only [indented, indentedFields_eq, List.map_cons, onLines, List.cons_append,
      List.append_assoc]

theorem length_le_moreLines {level : Nat} {part : Text} {parts : List Text} (h : part ∈ parts) :
    part.length ≤ (moreLines level parts).length := by
  have hline : (',' :: newline level ++ part).Sublist (moreLines level parts) :=
    List.sublist_flatten_of_mem (List.mem_map_of_mem h)
  have hlength := hline.length_le
  rw [List.length_append] at hlength
  exact Nat.le_of_add_left_le hlength

theorem length_lt_onLines {closing : Char} {level : Nat} {part : Text} {parts : List Text}
    (h : part ∈ parts) : part.length < (onLines closing level parts).length := by
  cases parts with
  | nil => cases h
  | cons first parts =>
    simp only [onLines, List.length_append, List.length_singleton]
    rcases List.mem_cons.1 h with rfl | h
    · omega
    · have hpart : part.length ≤ (moreLines (level + 1) parts).length := length_le_moreLines h
      omega

/-! ## Sequences -/

section

variable {α β : Type} {item? : Text → Option (α × Text)} {write : β → Text} {value : β → α}

/-- Items are read back, one after the other, if each is read back whatever follows it. -/
theorem items?_lines {closing : Char} (hclosing : closing ≠ ',') {level : Nat} {close rest : Text}
    (hclose : Datum.dropBlanks close = closing :: rest) {xs : List β} (x : β) (fuel : Nat)
    (hread : ∀ y ∈ x :: xs, ∀ t, item? (newline level ++ (write y ++ t)) = some (value y, t))
    (hfuel : (moreLines level (xs.map write)).length < fuel) :
    Datum.items? item? closing fuel
        (newline level ++ (write x ++ (moreLines level (xs.map write) ++ close))) =
      some ((x :: xs).map value, rest) := by
  induction xs generalizing x fuel with
  | nil =>
    obtain ⟨fuel, rfl⟩ : ∃ m, fuel = m + 1 := ⟨fuel - 1, by omega⟩
    rw [Datum.items?, hread x List.mem_cons_self]
    simp only [moreLines, List.map_nil, List.flatMap_nil, List.nil_append, hclose,
      if_neg hclosing, if_true]
    rfl
  | cons next xs ih =>
    obtain ⟨fuel, rfl⟩ : ∃ m, fuel = m + 1 := ⟨fuel - 1, by omega⟩
    have hmore (close : Text) : moreLines level ((next :: xs).map write) ++ close =
        ',' :: (newline level ++ (write next ++ (moreLines level (xs.map write) ++ close))) := by
      simp only [moreLines, List.map_cons, List.flatMap_cons, List.cons_append, List.append_assoc]
    have hlength := congrArg List.length (hmore [])
    simp only [List.append_nil, List.length_cons, List.length_append] at hlength
    have hcomma (t : Text) : Datum.dropBlanks (',' :: t) = ',' :: t := rfl
    have hrest := ih next fuel (fun y hy => hread y (List.mem_cons_of_mem x hy)) (by omega)
    rw [Datum.items?, hread x List.mem_cons_self]
    simp only [hmore, hcomma, hrest, if_true]
    rfl

/-- Behind its opening bracket a sequence is read back, if it can be told from an empty one. -/
theorem sequence?_onLines {closing : Char} (hclosing : closing ≠ ',')
    (hblank : Datum.isBlank closing = false) (level : Nat) {xs : List β}
    (hread : ∀ x ∈ xs, ∀ t, item? (newline (level + 1) ++ (write x ++ t)) = some (value x, t))
    (hfirst : ∀ x ∈ xs, ∀ t, ∃ c u, Datum.dropBlanks (write x ++ t) = c :: u ∧ c ≠ closing)
    (rest : Text) :
    Datum.sequence? item? closing (onLines closing level (xs.map write) ++ rest) =
      some (xs.map value, rest) := by
  have hend (t : Text) : Datum.dropBlanks (closing :: t) = closing :: t :=
    List.dropWhile_cons_of_neg (ne_true_of_eq_false hblank)
  cases xs with
  | nil =>
    rw [Datum.sequence?, List.map_nil, onLines, List.singleton_append, hend]
    exact if_pos rfl
  | cons x xs =>
    have htext : onLines closing level ((x :: xs).map write) ++ rest =
        newline (level + 1) ++ (write x ++ (moreLines (level + 1) (xs.map write) ++
          (newline level ++ closing :: rest))) := by
      simp only [onLines, List.map_cons, List.append_assoc, List.singleton_append]
    have hclose : Datum.dropBlanks (newline level ++ closing :: rest) = closing :: rest :=
      (dropBlanks_newline level _).trans (hend rest)
    obtain ⟨c, u, hdrop, hc⟩ := hfirst x List.mem_cons_self
      (moreLines (level + 1) (xs.map write) ++ (newline level ++ closing :: rest))
    rw [htext, Datum.sequence?, dropBlanks_newline, hdrop]
    refine (if_neg hc).trans (items?_lines hclosing hclose x _ hread ?_)
    simp only [List.length_append, List.length_cons]
    omega

end

/-! ## Values -/

/-- The value is read from its indented form at every level, as deep as it is long. -/
def ReadsBack (j : Json) : Prop :=
  ∀ level depth rest, (j.indented level).length ≤ depth →
    Datum.value? depth (j.indented level ++ rest) = some (j.datum, rest)

/-- The first character of a value is no blank, and it does not end an array. -/
theorem exists_indented_eq_cons (level : Nat) (j : Json) :
    ∃ c t, j.indented level = c :: t ∧ Datum.isBlank c = false ∧ c ≠ ']' := by
  cases j with
  | bool b => cases b <;> exact ⟨_, _, rfl, by decide, by decide⟩
  | string t => exact ⟨_, _, rfl, by decide, by decide⟩
  | array items => exact ⟨_, _, indented_array level items, by decide, by decide⟩
  | object fields => exact ⟨_, _, indented_object level fields, by decide, by decide⟩

/-- No value is written as nothing, so there is always some depth to read it with. -/
theorem ReadsBack.of_succ {j : Json}
    (hread : ∀ level depth rest, (j.indented level).length ≤ depth + 1 →
      Datum.value? (depth + 1) (j.indented level ++ rest) = some (j.datum, rest)) :
    ReadsBack j := by
  intro level depth rest hdepth
  cases depth with
  | zero =>
    obtain ⟨c, t, hcons, -⟩ := exists_indented_eq_cons level j
    rw [hcons, List.length_cons] at hdepth
    omega
  | succ depth => exact hread level depth rest hdepth

theorem readsBack_array {items : List Json} (hread : ∀ j ∈ items, ReadsBack j) :
    ReadsBack (.array items) := by
  refine .of_succ fun level depth rest hdepth => ?_
  have hopen (t : Text) : Datum.dropBlanks ('[' :: t) = '[' :: t := rfl
  rw [indented_array, List.length_cons] at hdepth
  rw [indented_array, List.cons_append, Datum.value?, hopen]
  have hitems : Datum.sequence? (Datum.value? depth) ']'
      (onLines ']' level (items.map (indented (level + 1))) ++ rest) =
        some (items.map datum, rest) := by
    refine sequence?_onLines (by decide) (by decide) level (fun j hj t => ?_)
      (fun j hj t => ?_) rest
    · have hlength : (j.indented (level + 1)).length <
          (onLines ']' level (items.map (indented (level + 1)))).length :=
        length_lt_onLines (List.mem_map_of_mem hj)
      rw [value?_congr (dropBlanks_newline _ _)]
      exact hread j hj (level + 1) depth t (by omega)
    · obtain ⟨c, u, hcons, hblank, hc⟩ := exists_indented_eq_cons (level + 1) j
      refine ⟨c, u ++ t, ?_, hc⟩
      rw [hcons]
      exact List.dropWhile_cons_of_neg (ne_true_of_eq_false hblank)
  simp only [hitems, datum, itemData_eq_map]
  rfl

theorem dropBlanks_indentedField (level : Nat) (field : Text × Json) (t : Text) :
    Datum.dropBlanks (indentedField level field ++ t) =
      '"' :: (field.1.flatMap escapeChar ++
        '"' :: ':' :: ' ' :: (field.2.indented level ++ t)) := by
  rw [indentedField, List.append_assoc, List.append_assoc, quoteString_append]
  rfl

theorem field?_indentedField {field : Text × Json} (hread : ReadsBack field.2) {level depth : Nat}
    (hdepth : (indentedField level field).length ≤ depth) (t : Text) :
    Datum.field? (Datum.value? depth) (newline level ++ (indentedField level field ++ t)) =
      some ((field.1, field.2.datum), t) := by
  have hcolon (t : Text) : Datum.dropBlanks (':' :: t) = ':' :: t := rfl
  rw [indentedField, List.length_append] at hdepth
  have hspace (t : Text) : Datum.dropBlanks (' ' :: t) = Datum.dropBlanks t := rfl
  have hvalue : Datum.value? depth (' ' :: (field.2.indented level ++ t)) =
      some (field.2.datum, t) := by
    rw [value?_congr (hspace _)]
    exact hread level depth t (Nat.le_of_add_left_le hdepth)
  rw [Datum.field?, dropBlanks_newline, dropBlanks_indentedField]
  simp only [characters?_flatMap_escapeChar, hcolon, hvalue]
  rfl

theorem readsBack_object {fields : List (Text × Json)} (hread : ∀ f ∈ fields, ReadsBack f.2) :
    ReadsBack (.object fields) := by
  refine .of_succ fun level depth rest hdepth => ?_
  have hopen (t : Text) : Datum.dropBlanks ('{' :: t) = '{' :: t := rfl
  rw [indented_object, List.length_cons] at hdepth
  rw [indented_object, List.cons_append, Datum.value?, hopen]
  have hfields : Datum.sequence? (Datum.field? (Datum.value? depth)) '}'
      (onLines '}' level (fields.map (indentedField (level + 1))) ++ rest) =
        some (fields.map fun f => (f.1, f.2.datum), rest) := by
    refine sequence?_onLines (by decide) (by decide) level (fun f hf t => ?_)
      (fun f hf t => ?_) rest
    · have hlength : (indentedField (level + 1) f).length <
          (onLines '}' level (fields.map (indentedField (level + 1)))).length :=
        length_lt_onLines (List.mem_map_of_mem hf)
      exact field?_indentedField (hread f hf) (by omega) t
    · exact ⟨_, _, dropBlanks_indentedField (level + 1) f t, by decide⟩
  simp only [hfields, datum, fieldData_eq_map]
  rfl

theorem readsBack (j : Json) : ReadsBack j := by
  induction j using induction with
  | bool b => cases b <;> exact .of_succ fun _ _ _ _ => rfl
  | string t =>
    refine .of_succ fun level depth rest _ => ?_
    have hopen (t : Text) : Datum.dropBlanks ('"' :: t) = '"' :: t := rfl
    rw [indented, quoteString_append, Datum.value?, hopen]
    simp only [characters?_flatMap_escapeChar]
    rfl
  | array items ih => exact readsBack_array ih
  | object fields ih => exact readsBack_object ih

/-- A text that is nothing but the indented form of a value is read as the value. -/
theorem read?_pretty (j : Json) : Datum.read? j.pretty = some j.datum := by
  have hread : Datum.value? (j.pretty.length + 1) j.pretty = some (j.datum, []) := by
    have hback := readsBack j 0 (j.pretty.length + 1) [] (Nat.le_succ _)
    rwa [List.append_nil] at hback
  rw [Datum.read?, hread]
  rfl

end Json

end Stanza
