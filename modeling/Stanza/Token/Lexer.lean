import Stanza.Text.Blank
import Stanza.Token.Lexeme

/-! Cutting the source of a stanza into tokens. At each place the longest of these is taken: a
literal, the definition marker, a run of letters, a run of blanks, or one character. Nothing is
skipped: the sources of the lexemes make up the text again. -/

namespace Stanza

def cutAtDelimiter : Text → Text × Option Text
  | [] => ([], none)
  | '$' :: '$' :: rest => ([], some rest)
  | c :: rest =>
    let (body, after) := cutAtDelimiter rest
    (c :: body, after)

/-- The literal that goes on with `rest` after its opening delimiter, and what follows it. -/
def Lexeme.literalIn (rest : Text) : Lexeme × Text :=
  match cutAtDelimiter rest with
  | (body, some after) => (.literal body true, after)
  | (body, none) => (.literal body false, [])

def Lexeme.first (c : Char) (rest : Text) : Lexeme × Text :=
  if Text.isLetter c then
    (.letters (c :: rest.takeWhile Text.isLetter), rest.dropWhile Text.isLetter)
  else if Text.isBlank c then
    (.blanks (c :: rest.takeWhile Text.isBlank), rest.dropWhile Text.isBlank)
  else
    match c, rest with
    | '$', '$' :: rest => literalIn rest
    | ':', ':' :: '=' :: rest => (.marker, rest)
    | c, rest => (.single c, rest)

theorem cutAtDelimiter_append {t body after : Text} (h : cutAtDelimiter t = (body, some after)) :
    body ++ delimiter ++ after = t := by
  fun_induction cutAtDelimiter t generalizing body after with
  | case1 => simp at h
  | case2 rest => simp only [Prod.mk.injEq, Option.some.injEq] at h; simp [← h.1, ← h.2, delimiter]
  | case3 c rest _ b a hba ih =>
    simp only [Prod.mk.injEq] at h
    obtain ⟨rfl, rfl⟩ := h
    simp [ih hba]

theorem cutAtDelimiter_eq {t body : Text} (h : cutAtDelimiter t = (body, none)) : body = t := by
  fun_induction cutAtDelimiter t generalizing body with
  | case1 => simpa using h.symm
  | case2 rest => simp at h
  | case3 c rest _ b a hba ih =>
    simp only [Prod.mk.injEq] at h
    obtain ⟨rfl, rfl⟩ := h
    rw [ih hba]

theorem Lexeme.literalIn_append (rest : Text) :
    (literalIn rest).1.source ++ (literalIn rest).2 = delimiter ++ rest := by
  unfold literalIn
  split
  · next body after h => simp [source, ← cutAtDelimiter_append h]
  · next body h => simp [source, cutAtDelimiter_eq h]

/-- The first lexeme is the beginning of the text. -/
theorem Lexeme.first_append (c : Char) (rest : Text) :
    (first c rest).1.source ++ (first c rest).2 = c :: rest := by
  unfold first
  split
  · simp [source, List.takeWhile_append_dropWhile]
  split
  · simp [source, List.takeWhile_append_dropWhile]
  split
  · exact literalIn_append _
  · rfl
  · rfl

theorem Lexeme.length_literalIn_le (rest : Text) : (literalIn rest).2.length ≤ rest.length := by
  unfold literalIn
  split
  · next body after h =>
    have := congrArg List.length (cutAtDelimiter_append h)
    simp only [List.length_append] at this
    simp only
    omega
  · simp

theorem Lexeme.length_first_le (c : Char) (rest : Text) :
    (first c rest).2.length ≤ rest.length := by
  unfold first
  split
  · exact (List.dropWhile_suffix _).length_le
  split
  · exact (List.dropWhile_suffix _).length_le
  split
  · exact Nat.le_succ_of_le (length_literalIn_le _)
  · simp only [List.length_cons]; omega
  · exact Nat.le_refl _

def lexemes : Text → List Lexeme
  | [] => []
  | c :: rest => (Lexeme.first c rest).1 :: lexemes (Lexeme.first c rest).2
termination_by t => t.length
decreasing_by exact Nat.lt_succ_of_le (Lexeme.length_first_le c rest)

def lex (t : Text) : List Token := (lexemes t).map Lexeme.token

def lexSpans (t : Text) : List Spanned := Lexeme.spans 0 (lexemes t)

structure Lexer where
  /-- The number of bytes taken. -/
  position : Nat
  remaining : Text
  deriving DecidableEq

namespace Lexer

def ofText (t : Text) : Lexer := ⟨0, t⟩

/-- Takes the next token with its span; at the end there is none, and the lexer stays. -/
def nextSpanned (l : Lexer) : Option Spanned × Lexer :=
  match l.remaining with
  | [] => (none, l)
  | c :: rest =>
    let taken := Lexeme.first c rest
    let stop := l.position + taken.1.source.byteLength
    (some ⟨taken.1.token, l.position, stop⟩, ⟨stop, taken.2⟩)

def next (l : Lexer) : Option Token × Lexer :=
  let taken := l.nextSpanned
  (taken.1.map Spanned.token, taken.2)

def drain (l : Lexer) : List Token × Lexer :=
  (lex l.remaining, ⟨l.position + l.remaining.byteLength, []⟩)

theorem next_eq_none {l l' : Lexer} (h : l.next = (none, l')) : l' = l ∧ l.remaining = [] := by
  unfold next nextSpanned at h
  cases hr : l.remaining with
  | nil => rw [hr] at h; exact ⟨(congrArg Prod.snd h).symm, rfl⟩
  | cons c rest => rw [hr] at h; simp at h

theorem length_next_lt {l l' : Lexer} {t : Token} (h : l.next = (some t, l')) :
    l'.remaining.length < l.remaining.length := by
  unfold next nextSpanned at h
  cases hr : l.remaining with
  | nil => rw [hr] at h; simp at h
  | cons c rest =>
    rw [hr] at h
    obtain rfl : ⟨_, (Lexeme.first c rest).2⟩ = l' := congrArg Prod.snd h
    exact Nat.lt_succ_of_le (Lexeme.length_first_le c rest)

end Lexer

end Stanza
