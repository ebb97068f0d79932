import Stanza.Proofs.Text.Newline
import Stanza.Text.Quoted
import Stanza.Toml.Digit

/-! The quoted form read back. What stands for a character shows where it ends, and it never begins
with a quote, so the closing quote is the first one that does not stand behind a backslash. Two
quoted texts with anything behind them are equal only if the texts are, and what is behind them. -/

namespace Stanza.Text

open Toml

theorem hexDigit?_digitChar : ∀ d < 16, hexDigit? (Nat.digitChar d) = some d := by decide

theorem numberOf_concat {base d : Nat} {c : Char} (h : hexDigit? c = some d) (ds : Text) :
    numberOf base (ds ++ [c]) = base * numberOf base ds + d := by
  rw [numberOf, List.foldl_append, List.foldl_cons, List.foldl_nil, h]
  rfl

/-- Hexadecimal digits write the number that they were made of. -/
theorem numberOf_toDigits (n : Nat) : numberOf 16 (Nat.toDigits 16 n) = n := by
  induction n using Nat.strongRecOn with
  | ind n ih =>
    rw [Nat.toDigits_eq_if (by decide)]
    split
    · next h => exact (numberOf_concat (hexDigit?_digitChar n h) []).trans (by simp [numberOf])
    · rw [numberOf_concat (hexDigit?_digitChar _ (Nat.mod_lt n (by decide))), ih _ (by omega)]
      omega

theorem isHexDigit_of_mem_toDigits {n : Nat} {c : Char} (h : c ∈ Nat.toDigits 16 n) :
    isHexDigit c = true := by
  have hdigit {d : Nat} (hd : d < 16) : isHexDigit (Nat.digitChar d) = true := by
    rw [isHexDigit, hexDigit?_digitChar d hd]
    rfl
  induction n using Nat.strongRecOn with
  | ind n ih =>
    rw [Nat.toDigits_eq_if (by decide)] at h
    split at h
    · next hn =>
      obtain rfl := List.mem_singleton.1 h
      exact hdigit hn
    · rcases List.mem_append.1 h with h | h
      · exact ih (n / 16) (by omega) h
      · obtain rfl := List.mem_singleton.1 h
        exact hdigit (Nat.mod_lt n (by decide))

def unescape? : Text → Option (Char × Text)
  | '0' :: t => some ('\x00', t)
  | 't' :: t => some ('\t', t)
  | 'r' :: t => some ('\r', t)
  | 'n' :: t => some ('\n', t)
  | '"' :: t => some ('"', t)
  | '\\' :: t => some ('\\', t)
  | 'u' :: '{' :: t =>
    match t.dropWhile isHexDigit with
    | '}' :: rest => some (Char.ofNat (numberOf 16 (t.takeWhile isHexDigit)), rest)
    | _ => none
  | _ => none

def unquoteChar? : Text → Option (Char × Text)
  | [] => none
  | c :: t => if c = '"' then none else if c = '\\' then unescape? t else some (c, t)

theorem unescape?_codeEscape (c : Char) (t : Text) :
    unquoteChar? (codeEscape c ++ t) = some (c, t) := by
  have hdigits := fun d => isHexDigit_of_mem_toDigits (n := c.toNat) (c := d)
  have hbrace : isHexDigit '}' = false := by decide
  simp [codeEscape, unquoteChar?, unescape?, List.takeWhile_append_of_pos hdigits,
    List.dropWhile_append_of_pos hdigits, hbrace, numberOf_toDigits]

theorem unquoteChar?_quoteChar (c : Char) (t : Text) :
    unquoteChar? (quoteChar c ++ t) = some (c, t) := by
  unfold quoteChar
  split
  · next h => subst h; rfl
  split
  · next h => subst h; rfl
  split
  · next h => subst h; rfl
  split
  · next h => subst h; rfl
  split
  · next h => subst h; rfl
  split
  · next h => subst h; rfl
  split
  · exact unescape?_codeEscape c t
  · next hquote hslash _ => simp [unquoteChar?, hquote, hslash]

theorem length_unescape?_lt {t rest : Text} {c : Char} (h : unescape? t = some (c, rest)) :
    rest.length < t.length := by
  unfold unescape? at h
  split at h
  · cases h; simp
  · cases h; simp
  · cases h; simp
  · cases h; simp
  · cases h; simp
  · cases h; simp
  · next t =>
    split at h
    · next after hafter =>
      cases h
      have hle := (List.dropWhile_suffix (l := t) isHexDigit).length_le
      rw [hafter] at hle
      simp only [List.length_cons] at hle ⊢
      omega
    · cases h
  · cases h

theorem length_unquoteChar?_lt {t rest : Text} {c : Char} (h : unquoteChar? t = some (c, rest)) :
    rest.length < t.length := by
  cases t with
  | nil => cases h
  | cons d t =>
    by_cases hquote : d = '"'
    · simp [unquoteChar?, hquote] at h
    by_cases hslash : d = '\\'
    · simp only [unquoteChar?, hslash, if_true] at h
      exact Nat.lt_succ_of_lt (length_unescape?_lt h)
    · simp only [unquoteChar?, hquote, hslash, if_false] at h
      cases h
      exact Nat.lt_succ_self _

def unquoteChars? : Text → Option (Text × Text)
  | '"' :: rest => some ([], rest)
  | t =>
    match h : unquoteChar? t with
    | some (c, rest) =>
      have := length_unquoteChar?_lt h
      (unquoteChars? rest).map fun read => (c :: read.1, read.2)
    | none => none
termination_by t => t.length

/-- A quoted text that begins a text, and what follows it. -/
def unquote? : Text → Option (Text × Text)
  | '"' :: t => unquoteChars? t
  | _ => none

theorem unquoteChars?_cons (c : Char) (t : Text) :
    unquoteChars? (quoteChar c ++ t) = (unquoteChars? t).map fun read => (c :: read.1, read.2) := by
  have hchar := unquoteChar?_quoteChar c t
  rw [unquoteChars?]
  · split
    · next c' rest hsome =>
      rw [hchar] at hsome
      cases hsome
      rfl
    · next hnone =>
      rw [hchar] at hnone
      cases hnone
  · intro rest hquote
    rw [hquote] at hchar
    cases hchar

theorem unquoteChars?_flatMap (t u : Text) :
    unquoteChars? (t.flatMap quoteChar ++ '"' :: u) = some (t, u) := by
  induction t with
  | nil => rw [List.flatMap_nil, List.nil_append, unquoteChars?]
  | cons c t ih =>
    rw [List.flatMap_cons, List.append_assoc, unquoteChars?_cons, ih]
    rfl

/-- A quoted text is read back, whatever stands behind it. -/
theorem unquote?_quote_append (t u : Text) : unquote? (t.quote ++ u) = some (t, u) := by
  have hquote : t.quote ++ u = '"' :: (t.flatMap quoteChar ++ '"' :: u) := by simp [quote]
  rw [hquote]
  exact unquoteChars?_flatMap t u

/-- Quoted texts end where they end, whatever stands behind them. -/
theorem quote_append_inj {s t u v : Text} (h : s.quote ++ u = t.quote ++ v) : s = t ∧ u = v := by
  have hread := congrArg unquote? h
  rw [unquote?_quote_append, unquote?_quote_append] at hread
  exact Prod.mk.inj (Option.some.inj hread)

theorem quote_inj {s t : Text} : s.quote = t.quote ↔ s = t := by
  refine ⟨fun h => ?_, congrArg quote⟩
  have happend : s.quote ++ [] = t.quote ++ [] := by rw [h]
  exact (quote_append_inj happend).1

theorem unbroken_codeEscape (c : Char) : Unbroken (codeEscape c) := by
  have hdigits : Unbroken (Nat.toDigits 16 c.toNat) := by
    intro d hd
    have hhex := isHexDigit_of_mem_toDigits hd
    constructor
    · rintro rfl
      exact absurd hhex (by decide)
    · rintro rfl
      exact absurd hhex (by decide)
  exact unbroken_append.2 ⟨unbroken_append.2 ⟨by decide, hdigits⟩, by decide⟩

theorem unbroken_quoteChar (c : Char) : Unbroken (quoteChar c) := by
  unfold quoteChar
  split
  · decide
  split
  · decide
  split
  · decide
  next hreturn =>
  split
  · decide
  next hfeed =>
  split
  · decide
  split
  · decide
  split
  · exact unbroken_codeEscape c
  · exact unbroken_cons.2 ⟨⟨hfeed, hreturn⟩, by decide⟩

/-- A quoted text stands on one line. -/
theorem unbroken_quote (t : Text) : Unbroken t.quote := by
  refine unbroken_append.2 ⟨unbroken_cons.2 ⟨by decide, ?_⟩, by decide⟩
  intro c hc
  obtain ⟨d, -, hd⟩ := List.mem_flatMap.1 hc
  exact unbroken_quoteChar d c hd

end Stanza.Text
