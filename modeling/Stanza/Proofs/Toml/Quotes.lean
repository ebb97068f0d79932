import Mathlib.Data.List.Infix
import Stanza.Toml.Quotes
import Stanza.Toml.Writer

/-! Strings written and read again. Each form of string has characters that it holds as they are;
the others it escapes, and reading undoes every escape. Three quotes close a string over many
lines, so what stands between them may hold one or two in a row, also at its end, but never
three. -/

namespace Stanza.Toml

/-- behind a backslash `e` is read as `c`, whatever comes after it -/
def Escapes (c : Char) (e : Text) : Prop :=
  ∀ r, escape? (e ++ r) = some (c, r) ∧ continuation? (e ++ r) = none

theorem escapes_letter {d c : Char} (h : escapes.lookup d = some c)
    (hd : d ≠ ' ' ∧ d ≠ '\t' ∧ d ≠ '\n' ∧ d ≠ '\r') : Escapes c [d] := by
  intro r
  constructor
  · simp [escape?, h]
  · simp [continuation?, dropSpaces, newline?, hd]

theorem codePoint?_append {digits : Text} {c : Char} (hall : digits.all isHexDigit = true)
    (hnumber : numberOf 16 digits = c.toNat) (r : Text) :
    codePoint? digits.length (digits ++ r) = some (c, r) := by
  have hvalid : c.toNat.isValidChar := c.valid
  simp only [codePoint?, List.take_left, List.drop_left, hnumber, hall, hvalid, and_self, if_true]
  rw [Char.ofNat_toNat]

theorem hexPair_number {n : Nat} (h : n < 128) :
    numberOf 16 (['0', '0'] ++ upperHexPair n) = n ∧
      (['0', '0'] ++ upperHexPair n).all isHexDigit = true := by
  revert n
  decide

theorem escapes_code {c : Char} (h : c.toNat < 128) :
    Escapes c (['u', '0', '0'] ++ upperHexPair c.toNat) := by
  intro r
  obtain ⟨hnumber, hall⟩ := hexPair_number h
  constructor
  · exact codePoint?_append hall hnumber r
  · simp [continuation?, dropSpaces, newline?]

theorem isControl_lt {c : Char} (h : isControl c = true) : c.toNat < 128 := by
  simp only [isControl, Bool.or_eq_true, Bool.and_eq_true, decide_eq_true_iff] at h
  omega

/-- A character of a basic string stands for itself, or an escape stands for it. -/
theorem basicChar_cases (c : Char) :
    (basicChar c = [c] ∧ c ≠ '\\' ∧ isControl c = false) ∨
      ∃ e, basicChar c = '\\' :: e ∧ Escapes c e := by
  unfold basicChar
  split
  · next h => subst h; exact Or.inr ⟨_, rfl, escapes_letter rfl (by decide)⟩
  split
  · next h => subst h; exact Or.inr ⟨_, rfl, escapes_letter rfl (by decide)⟩
  split
  · next h => subst h; exact Or.inr ⟨_, rfl, escapes_letter rfl (by decide)⟩
  split
  · next h => subst h; exact Or.inr ⟨_, rfl, escapes_letter rfl (by decide)⟩
  split
  · next h => subst h; exact Or.inr ⟨_, rfl, escapes_letter rfl (by decide)⟩
  split
  · next h => exact Or.inr ⟨_, rfl, escapes_code (isControl_lt h)⟩
  · next hslash _ _ _ _ hcontrol => exact Or.inl ⟨rfl, hslash, by simpa using hcontrol⟩

/-! ## One line -/

theorem basic?_quote (r : Text) : basic? ('"' :: r) = some ([], r) := by
  rw [basic?]
  simp

theorem basic?_escape {c : Char} {e : Text} (h : Escapes c e) (t : Text) :
    basic? ('\\' :: (e ++ t)) = (basic? t).map (prepend c) := by
  rw [basic?, if_neg (by decide), if_pos rfl]
  split
  · next d rest hread =>
    rw [(h t).1] at hread
    cases hread
    rfl
  · next hread =>
    rw [(h t).1] at hread
    cases hread

theorem basic?_plain {c : Char} (t : Text) (hquote : c ≠ '"') (hslash : c ≠ '\\')
    (hcontrol : isControl c = false) : basic? (c :: t) = (basic? t).map (prepend c) := by
  rw [basic?]
  simp [hquote, hslash, hcontrol]

theorem basic?_inlineChar (c : Char) (t : Text) :
    basic? (inlineChar c ++ t) = (basic? t).map (prepend c) := by
  unfold inlineChar
  split
  · next h => subst h; exact basic?_escape (escapes_letter rfl (by decide)) t
  split
  · next h => subst h; exact basic?_escape (escapes_letter rfl (by decide)) t
  next hquote _ =>
  rcases basicChar_cases c with ⟨hself, hslash, hcontrol⟩ | ⟨e, he, hescape⟩
  · rw [hself]
    exact basic?_plain t hquote hslash hcontrol
  · rw [he]
    exact basic?_escape hescape t

theorem basic?_write (t r : Text) : basic? (t.flatMap inlineChar ++ '"' :: r) = some (t, r) := by
  induction t with
  | nil => exact basic?_quote r
  | cons c t ih =>
    rw [List.flatMap_cons, List.append_assoc, basic?_inlineChar, ih]
    rfl

theorem literal?_write {t : Text} (h : ∀ c ∈ t, c ≠ '\'' ∧ isControl c = false) (r : Text) :
    literal? (t ++ '\'' :: r) = some (t, r) := by
  induction t with
  | nil => simp [literal?]
  | cons c t ih =>
    obtain ⟨⟨hquote, hcontrol⟩, ht⟩ := List.forall_mem_cons.1 h
    simp [literal?, hquote, hcontrol, ih ht, prepend]

/-! ## Many lines -/

def tripled (q : Char) : Text := [q, q, q]

theorem closing?_eq_none {q : Char} {t : Text} (h : ¬ tripled q <+: t) :
    closing? q t = none := by
  simpa [closing?, tripled] using h

/-- Up to two quotes before the three that close a string belong to it. -/
theorem closing?_replicate {q : Char} {k : Nat} (hk : k ≤ 2) {r : Text} (hr : r.head? ≠ some q) :
    closing? q (List.replicate k q ++ (tripled q ++ r)) = some (List.replicate k q, r) := by
  have hrun : r.takeWhile (· = q) = [] := by
    cases r with
    | nil => rfl
    | cons c r => exact List.takeWhile_cons_of_neg (by simpa using hr)
  obtain rfl | rfl | rfl : k = 0 ∨ k = 1 ∨ k = 2 := by omega
  · simp [closing?, tripled, hrun]
  · simp [closing?, tripled, hrun]
  · simp [closing?, tripled, hrun]

/-- Where three quotes begin with a run of at most two, nothing but the end follows the run. -/
theorem eq_nil_of_tripled {q : Char} {k : Nat} (hk : k ≤ 2) {v s : Text} (hv : v.head? ≠ some q)
    (h : tripled q <+: List.replicate k q ++ (v ++ s)) : v = [] := by
  cases v with
  | nil => rfl
  | cons c v =>
    refine absurd ?_ hv
    obtain rfl | rfl | rfl : k = 0 ∨ k = 1 ∨ k = 2 := by omega
    · obtain ⟨rfl, -⟩ := List.cons_prefix_cons.1 h
      rfl
    · obtain ⟨rfl, -⟩ := List.cons_prefix_cons.1 (List.cons_prefix_cons.1 h).2
      rfl
    · obtain ⟨rfl, -⟩ :=
        List.cons_prefix_cons.1 (List.cons_prefix_cons.1 (List.cons_prefix_cons.1 h).2).2
      rfl

theorem hasTriple_iff (q : Char) (t : Text) : hasTriple q t = true ↔ tripled q <:+: t := by
  fun_induction hasTriple q t with
  | case1 d e f t ih =>
    have hhead : (d = q ∧ e = q ∧ f = q) ↔ tripled q <+: d :: e :: f :: t := by
      simp [tripled, eq_comm]
    rw [List.infix_cons_iff, ← ih, ← hhead]
    simp [and_assoc]
  | case2 t ht =>
    refine ⟨fun h => (nomatch h), fun h => ?_⟩
    have hlength := h.length_le
    match t, ht with
    | [], _ => simp [tripled] at hlength
    | [_], _ => simp [tripled] at hlength
    | [_, _], _ => simp [tripled] at hlength
    | d :: e :: f :: t, ht => exact absurd rfl (ht d e f t)

/-- the characters that a string over many lines holds as they are, but for its quote -/
def StandsInLines (c : Char) : Prop := isControl c = false ∨ c = '\n'

theorem StandsInLines.ne_return {c : Char} (h : StandsInLines c) : c ≠ '\r' := by
  rintro rfl
  exact absurd h (by unfold StandsInLines; decide)

theorem StandsInLines.allowed {c : Char} (h : StandsInLines c) :
    ¬ (isControl c && c != '\n') = true := by
  rcases h with h | rfl
  · simp [h]
  · decide

theorem multilineBasic?_plain {c : Char} {t : Text} (hclose : closing? '"' (c :: t) = none)
    (hslash : c ≠ '\\') (hc : StandsInLines c) :
    multilineBasic? (c :: t) = (multilineBasic? t).map (prepend c) := by
  rw [multilineBasic?]
  · simp only [hclose]
    rw [if_neg hslash, if_neg hc.allowed]
  · intro rest hreturn
    exact absurd hreturn hc.ne_return

theorem multilineBasic?_escape {c : Char} {e : Text} (h : Escapes c e) (t : Text) :
    multilineBasic? ('\\' :: (e ++ t)) = (multilineBasic? t).map (prepend c) := by
  have hclose : closing? '"' ('\\' :: (e ++ t)) = none :=
    closing?_eq_none (by simp [tripled])
  rw [multilineBasic?]
  · simp only [hclose]
    rw [if_pos trivial]
    split
    · next hread =>
      rw [(h t).2] at hread
      cases hread
    · split
      · next hread =>
        rw [(h t).1] at hread
        cases hread
        rfl
      · next hread =>
        rw [(h t).1] at hread
        cases hread
  · simp

theorem multilineBasic?_basicChar {c : Char} (hquote : c ≠ '"') (t : Text) :
    multilineBasic? (basicChar c ++ t) = (multilineBasic? t).map (prepend c) := by
  rcases basicChar_cases c with ⟨hself, hslash, hcontrol⟩ | ⟨e, he, hescape⟩
  · rw [hself]
    exact multilineBasic?_plain (closing?_eq_none (by simp [tripled, hquote.symm])) hslash
      (Or.inl hcontrol)
  · rw [he]
    exact multilineBasic?_escape hescape t

theorem multilineBasic?_of_closing {s : Text} {found : Text × Text}
    (h : closing? '"' s = some found) : multilineBasic? s = some found := by
  rw [multilineBasic?.eq_def, h]

/-- the first character of what stands for a character that is no quote -/
theorem head?_basicChar {c : Char} (hquote : c ≠ '"') (t : Text) :
    (basicChar c ++ t).head? ≠ some '"' := by
  rcases basicChar_cases c with ⟨hself, -⟩ | ⟨e, he, -⟩
  · simpa [hself] using hquote
  · simp [he]

/-- how a body begins after `quotes` quotes -/
theorem multilineBody_cons (quotes : Nat) (c : Char) (t : Text) :
    (c = '"' ∧ quotes = 2 ∧ multilineBody quotes (c :: t) = '\\' :: (['"'] ++ multilineBody 0 t)) ∨
      (c = '"' ∧ quotes ≠ 2 ∧
        multilineBody quotes (c :: t) = '"' :: multilineBody (quotes + 1) t) ∨
      (c = '\n' ∧ multilineBody quotes (c :: t) = '\n' :: multilineBody 0 t) ∨
      (c ≠ '"' ∧ multilineBody quotes (c :: t) = basicChar c ++ multilineBody 0 t) := by
  by_cases hquote : c = '"'
  · by_cases htwo : quotes = 2
    · exact Or.inl ⟨hquote, htwo, by simp [multilineBody, hquote, htwo]⟩
    · exact Or.inr (Or.inl ⟨hquote, htwo, by simp [multilineBody, hquote, htwo]⟩)
  · by_cases hfeed : c = '\n'
    · exact Or.inr (Or.inr (Or.inl ⟨hfeed, by simp [multilineBody, hfeed]⟩))
    · exact Or.inr (Or.inr (Or.inr ⟨hquote, by simp [multilineBody, hquote, hfeed]⟩))

/-- After `quotes` quotes a body goes on with so many that there are two in a row at most. -/
theorem multilineBody_run {quotes : Nat} (h : quotes ≤ 2) (t : Text) :
    ∃ k v, k + quotes ≤ 2 ∧ multilineBody quotes t = List.replicate k '"' ++ v ∧
      v.head? ≠ some '"' ∧ (v = [] → t = List.replicate k '"') := by
  induction t generalizing quotes with
  | nil => exact ⟨0, [], by omega, rfl, by simp, fun _ => rfl⟩
  | cons c t ih =>
    rcases multilineBody_cons quotes c t with ⟨-, -, hb⟩ | ⟨rfl, hq, hb⟩ | ⟨-, hb⟩ | ⟨hc, hb⟩
    · exact ⟨0, _, by omega, hb, by simp, by simp⟩
    · have hnext : quotes + 1 ≤ 2 := by omega
      obtain ⟨k, v, hk, hbody, hv, hnil⟩ := ih hnext
      refine ⟨k + 1, v, by omega, by rw [hb, hbody]; rfl, hv, fun h => ?_⟩
      rw [hnil h]
      rfl
    · exact ⟨0, _, by omega, hb, by simp, by simp⟩
    · refine ⟨0, _, by omega, hb, head?_basicChar hc _, fun h => ?_⟩
      rcases basicChar_cases c with ⟨hself, -⟩ | ⟨e, he, -⟩
      · simp [hself] at h
      · simp [he] at h

theorem multilineBasic?_body {quotes : Nat} (h : quotes ≤ 2) (t : Text) {r : Text}
    (hr : r.head? ≠ some '"') :
    multilineBasic? (multilineBody quotes t ++ (tripled '"' ++ r)) = some (t, r) := by
  induction t generalizing quotes with
  | nil => exact multilineBasic?_of_closing (closing?_replicate (k := 0) (by omega) hr)
  | cons c t ih =>
    obtain ⟨k, v, hk, hbody, hv, hnil⟩ := multilineBody_run h (c :: t)
    by_cases hend : v = []
    · -- nothing is left but quotes, which are read together with those that close the string
      subst hend
      rw [hbody, hnil rfl, List.append_nil]
      exact multilineBasic?_of_closing (closing?_replicate (by omega) hr)
    have hclose : closing? '"' (multilineBody quotes (c :: t) ++ (tripled '"' ++ r)) = none := by
      refine closing?_eq_none fun hp => hend ?_
      rw [hbody, List.append_assoc] at hp
      exact eq_nil_of_tripled (by omega) hv hp
    rcases multilineBody_cons quotes c t with ⟨rfl, -, hb⟩ | ⟨rfl, hq, hb⟩ | ⟨rfl, hb⟩ | ⟨hc, hb⟩
    · have hescape : Escapes '"' ['"'] := escapes_letter rfl (by decide)
      rw [hb, List.cons_append, List.append_assoc, multilineBasic?_escape hescape,
        ih (Nat.zero_le 2)]
      rfl
    · rw [hb, List.cons_append] at hclose ⊢
      rw [multilineBasic?_plain hclose (by decide) (Or.inl (by decide)), ih (by omega)]
      rfl
    · rw [hb, List.cons_append] at hclose ⊢
      rw [multilineBasic?_plain hclose (by decide) (Or.inr rfl), ih (Nat.zero_le 2)]
      rfl
    · rw [hb, List.append_assoc, multilineBasic?_basicChar hc, ih (Nat.zero_le 2)]
      rfl

theorem multilineLiteral?_of_closing {s : Text} {found : Text × Text}
    (h : closing? '\'' s = some found) : multilineLiteral? s = some found := by
  rw [multilineLiteral?.eq_def, h]

theorem multilineLiteral?_plain {c : Char} {t : Text} (hclose : closing? '\'' (c :: t) = none)
    (hc : StandsInLines c) :
    multilineLiteral? (c :: t) = (multilineLiteral? t).map (prepend c) := by
  rw [multilineLiteral?]
  · simp only [hclose]
    rw [if_neg hc.allowed]
  · intro rest hreturn
    exact absurd hreturn hc.ne_return

/-- A text begins with a run of a quote, which is short if the quote is nowhere tripled. -/
theorem exists_run {q : Char} {t : Text} (h : ¬ tripled q <:+: t) :
    ∃ k v, k ≤ 2 ∧ t = List.replicate k q ++ v ∧ v.head? ≠ some q := by
  obtain ⟨k, hrun⟩ : ∃ k, t.takeWhile (· = q) = List.replicate k q := by
    refine ⟨_, List.eq_replicate_iff.2 ⟨rfl, fun c hc => ?_⟩⟩
    simpa using List.all_eq_true.1 List.all_takeWhile c hc
  have hsplit : t = List.replicate k q ++ t.dropWhile (· = q) := by
    rw [← hrun, List.takeWhile_append_dropWhile]
  refine ⟨k, _, ?_, hsplit, fun hhead => ?_⟩
  · by_contra hlong
    obtain ⟨k, rfl⟩ : ∃ j, k = j + 3 := ⟨k - 3, by omega⟩
    exact h ⟨[], List.replicate k q ++ t.dropWhile (· = q), hsplit.symm⟩
  · have hnot := List.head?_dropWhile_not (fun c => decide (c = q)) t
    rw [hhead] at hnot
    simp at hnot

theorem multilineLiteral?_write {t : Text} (h : ∀ c ∈ t, StandsInLines c)
    (htriple : ¬ tripled '\'' <:+: t) {r : Text} (hr : r.head? ≠ some '\'') :
    multilineLiteral? (t ++ (tripled '\'' ++ r)) = some (t, r) := by
  induction t with
  | nil => exact multilineLiteral?_of_closing (closing?_replicate (k := 0) (by omega) hr)
  | cons c t ih =>
    obtain ⟨hc, ht⟩ := List.forall_mem_cons.1 h
    obtain ⟨k, v, hk, hrun, hv⟩ := exists_run htriple
    by_cases hend : v = []
    · subst hend
      rw [hrun, List.append_nil]
      exact multilineLiteral?_of_closing (closing?_replicate hk hr)
    have hclose : closing? '\'' (c :: t ++ (tripled '\'' ++ r)) = none := by
      refine closing?_eq_none fun hp => hend ?_
      rw [hrun, List.append_assoc] at hp
      exact eq_nil_of_tripled hk hv hp
    rw [List.cons_append] at hclose ⊢
    rw [multilineLiteral?_plain hclose hc,
      ih ht fun hin => htriple (hin.trans (List.suffix_cons c t).isInfix)]
    rfl

/-! ## All forms -/

def StartsLine (t : Text) : Prop := ∀ c ∈ t.head?, c ≠ '\n' ∧ c ≠ '\r'

theorem dropNewline_leading {t w : Text} (h : '\n' ∉ t → StartsLine w) :
    dropNewline (leadingNewline t ++ w) = w := by
  unfold leadingNewline
  split
  · rfl
  · next hfeed =>
    have hnone : newline? w = none := by
      cases w with
      | nil => rfl
      | cons c w => simp [newline?, h hfeed c rfl]
    rw [List.nil_append, dropNewline, hnone, Option.getD_none]

theorem startsLine_multilineBody {t : Text} (h : '\n' ∉ t) (r : Text) :
    StartsLine (multilineBody 0 t ++ (tripled '"' ++ r)) := by
  cases t with
  | nil => simp [StartsLine, multilineBody, tripled]
  | cons c t =>
    rcases multilineBody_cons 0 c t with ⟨-, hq, -⟩ | ⟨-, -, hb⟩ | ⟨rfl, -⟩ | ⟨-, hb⟩
    · cases hq
    · simp [StartsLine, hb]
    · simp at h
    · rcases basicChar_cases c with ⟨hself, -, hcontrol⟩ | ⟨e, he, -⟩
      · have hfeed : c ≠ '\n' := fun hc => h (hc ▸ List.mem_cons_self)
        simp [StartsLine, hb, hself, hfeed, StandsInLines.ne_return (Or.inl hcontrol)]
      · simp [StartsLine, hb, he]

theorem startsLine_literal {t : Text} (hfeed : '\n' ∉ t) (h : ∀ c ∈ t, StandsInLines c)
    (r : Text) : StartsLine (t ++ (tripled '\'' ++ r)) := by
  cases t with
  | nil => simp [StartsLine, tripled]
  | cons c t =>
    rintro d ⟨rfl⟩
    exact ⟨fun hc => hfeed (hc ▸ List.mem_cons_self), (h c List.mem_cons_self).ne_return⟩

def Form.Holds (t : Text) : Form → Prop
  | basic => True
  | literal => ∀ c ∈ t, c ≠ '\'' ∧ isControl c = false
  | multilineBasic => True
  | multilineLiteral => (∀ c ∈ t, StandsInLines c) ∧ ¬ tripled '\'' <:+: t

/-- The form chosen for a text can hold it. -/
theorem holds_ofText (t : Text) : (Form.ofText t).Holds t := by
  have hstands (h : ¬ (t.any fun c => isControl c && c != '\n') = true) :
      ∀ c ∈ t, StandsInLines c := by
    simpa [StandsInLines, Classical.or_iff_not_imp_left] using h
  dsimp only [Form.ofText]
  split
  · split <;> trivial
  next hescape =>
  split
  · trivial
  split
  · next hquote =>
    intro c hc
    have hplain : c ≠ '\'' ∧ c ≠ '\n' := by
      simp only [Bool.not_eq_true', List.any_eq_false] at hquote
      simpa using hquote c hc
    exact ⟨hplain.1, (hstands hescape c hc).resolve_right hplain.2⟩
  split
  · trivial
  split
  · next htriple =>
    refine ⟨hstands hescape, ?_⟩
    rw [← hasTriple_iff]
    simpa using htriple
  split <;> trivial

theorem string?_of_single {q : Char} {t : Text} (h : ¬ [q, q] <+: t) :
    (q = '"' → string? (q :: t) = basic? t) ∧ (q = '\'' → string? (q :: t) = literal? t) := by
  constructor
  · rintro rfl
    rw [string?]
    rintro rest rfl
    exact h ⟨rest, rfl⟩
  · rintro rfl
    rw [string?]
    rintro rest rfl
    exact h ⟨rest, rfl⟩

/-- A string on one line is not taken for one over many lines: its quote is not tripled. -/
theorem not_doubled {q : Char} {body r : Text} (hbody : body.head? ≠ some q)
    (hr : r.head? ≠ some q) : ¬ [q, q] <+: body ++ q :: r := by
  intro hp
  cases body with
  | nil =>
    obtain ⟨s, rfl⟩ : [q] <+: r := (List.cons_prefix_cons.1 hp).2
    exact hr rfl
  | cons c body =>
    obtain ⟨rfl, -⟩ := List.cons_prefix_cons.1 hp
    exact hbody rfl

theorem head?_inlineChars (t : Text) : (t.flatMap inlineChar).head? ≠ some '"' := by
  cases t with
  | nil => simp
  | cons c t =>
    rw [List.flatMap_cons, inlineChar]
    split
    · simp
    split
    · simp
    · next hquote _ => exact head?_basicChar hquote _

theorem string?_write {form : Form} {t r : Text} (h : form.Holds t) (hbasic : r.head? ≠ some '"')
    (hliteral : r.head? ≠ some '\'') : string? (form.write t ++ r) = some (t, r) := by
  cases form with
  | basic =>
    have hwrite : Form.write t .basic ++ r = '"' :: (t.flatMap inlineChar ++ '"' :: r) := by
      simp [Form.write]
    have hsingle := not_doubled (head?_inlineChars t) hbasic
    rw [hwrite, (string?_of_single hsingle).1 rfl, basic?_write]
  | literal =>
    have hwrite : Form.write t .literal ++ r = '\'' :: (t ++ '\'' :: r) := by
      simp [Form.write]
    have hhead : t.head? ≠ some '\'' := fun hc => (h _ (List.mem_of_head? hc)).1 rfl
    have hsingle := not_doubled hhead hliteral
    rw [hwrite, (string?_of_single hsingle).2 rfl, literal?_write h]
  | multilineBasic =>
    have hwrite : Form.write t .multilineBasic ++ r =
        tripled '"' ++ (leadingNewline t ++ (multilineBody 0 t ++ (tripled '"' ++ r))) := by
      simp [Form.write, tripled]
    rw [hwrite]
    refine (congrArg multilineBasic? (dropNewline_leading fun hfeed => ?_)).trans
      (multilineBasic?_body (Nat.zero_le 2) t hbasic)
    exact startsLine_multilineBody hfeed r
  | multilineLiteral =>
    have hwrite : Form.write t .multilineLiteral ++ r =
        tripled '\'' ++ (leadingNewline t ++ (t ++ (tripled '\'' ++ r))) := by
      simp [Form.write, tripled]
    rw [hwrite]
    refine (congrArg multilineLiteral? (dropNewline_leading fun hfeed => ?_)).trans
      (multilineLiteral?_write h.1 h.2 hliteral)
    exact startsLine_literal hfeed h.1 r

/-- A string is read as the text that it was written for, unless a quote stands right behind it. -/
theorem string?_writeString (t : Text) {r : Text} (hbasic : r.head? ≠ some '"')
    (hliteral : r.head? ≠ some '\'') : string? (writeString t ++ r) = some (t, r) :=
  string?_write (holds_ofText t) hbasic hliteral

end Stanza.Toml
