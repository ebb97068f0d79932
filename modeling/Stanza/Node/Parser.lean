import Stanza.Log.Basic
import Stanza.Lookahead
import Stanza.Name
import Stanza.Node.Basic
import Stanza.Text.Quoted
import Stanza.Token.Lexer

/-! Making nodes out of tokens, one node for each. A name followed by the definition marker, with
at most one token of blanks between, is a definition; any other name is a reference. The marker
and the blanks are only looked at, so they become text of their own later. -/

namespace Stanza

instance : Source Lexer Token where
  pull := Lexer.next

/-- A node, and the record that tells of it when it is a definition or a reference. -/
structure Classified where
  node : Node
  record : Option Log.Record
  deriving DecidableEq

namespace Classified

def target : Text := "spec_syntax::parser".toList

def silent (n : Node) : Classified := ⟨n, none⟩

def definition (name : Text) : Classified :=
  ⟨.ruleDefinition name, some ⟨.trace, target, "definition of syntax ".toList ++ name.quote⟩⟩

def reference (name document : Text) : Classified :=
  ⟨.ruleReference name document, some ⟨.trace, target, "reference to syntax ".toList ++ name.quote⟩⟩

end Classified

/-- Whether the tokens ahead are the definition marker, or blanks and then the marker. -/
def Lookahead.definitionAhead {σ : Type} [Source σ Token] (b : Lookahead σ Token) :
    Bool × Lookahead σ Token :=
  let blank := b.peekIs 0 .whitespace
  blank.2.peekIs (if blank.1 then 1 else 0) .definition

structure Parser where
  tokens : Lookahead Lexer Token
  /-- The document that references are said to stand in. -/
  document : Text
  deriving DecidableEq

namespace Parser

def ofText (t document : Text) : Parser := ⟨.ofSource (.ofText t), document⟩

/-- The number of tokens looked at but not taken. -/
def buffered (p : Parser) : Nat := p.tokens.buffered

def classify (token : Token) (p : Parser) : Classified × Parser :=
  match token.kind with
  | .literal => (.silent (.literal token.text), p)
  | .identifier =>
    if isName token.text then
      let ahead := p.tokens.definitionAhead
      (if ahead.1 then .definition token.text else .reference token.text p.document,
        ⟨ahead.2, p.document⟩)
    else (.silent (.text token.text), p)
  | _ => (.silent (.text token.text), p)

def next (p : Parser) : Option Classified × Parser :=
  let taken := p.tokens.next
  match taken.1 with
  | none => (none, ⟨taken.2, p.document⟩)
  | some token =>
    let made := classify token ⟨taken.2, p.document⟩
    (some made.1, made.2)

/-- The tokens that wait and the characters that are left to read bound the nodes to come. -/
def bound (b : Lookahead Lexer Token) : Nat := b.queue.length + b.source.remaining.length

theorem bound_fill_le (n : Nat) (b : Lookahead Lexer Token) : bound (b.fill n) ≤ bound b := by
  induction n generalizing b with
  | zero => exact Nat.le_refl _
  | succ n ih =>
    unfold Lookahead.fill
    split
    · next s h =>
      obtain ⟨rfl, -⟩ := Lexer.next_eq_none h
      exact Nat.le_refl _
    · next a s h =>
      have hs := Lexer.length_next_lt h
      have := ih ⟨b.queue ++ [a], s⟩
      simp only [bound, List.length_append, List.length_singleton] at this ⊢
      omega

theorem bound_peekIs_le (n : Nat) (k : Kind) (b : Lookahead Lexer Token) :
    bound (b.peekIs n k).2 ≤ bound b :=
  bound_fill_le _ b

theorem bound_definitionAhead_le (b : Lookahead Lexer Token) :
    bound b.definitionAhead.2 ≤ bound b :=
  Nat.le_trans (bound_peekIs_le _ .definition _) (bound_peekIs_le 0 .whitespace b)

theorem bound_classify_le (token : Token) (p : Parser) :
    bound (classify token p).2.tokens ≤ bound p.tokens := by
  unfold classify
  split
  · exact Nat.le_refl _
  · split
    · exact bound_definitionAhead_le p.tokens
    · exact Nat.le_refl _
  · exact Nat.le_refl _

theorem bound_take_lt {b b' : Lookahead Lexer Token} {token : Token}
    (h : b.next = (some token, b')) : bound b' < bound b := by
  unfold Lookahead.next at h
  cases hq : b.queue with
  | cons a queue =>
    rw [hq] at h
    obtain rfl : ⟨queue, b.source⟩ = b' := congrArg Prod.snd h
    simp only [bound, hq, List.length_cons]
    omega
  | nil =>
    rw [hq] at h
    obtain rfl : ⟨[], (b.source.next).2⟩ = b' := congrArg Prod.snd h
    have hn : b.source.next = (some token, b.source.next.2) := by
      rw [← show b.source.next.1 = some token from congrArg Prod.fst h]
    have := Lexer.length_next_lt hn
    simp only [bound, hq, List.length_nil]
    omega

theorem bound_next_lt {p p' : Parser} {c : Classified} (h : p.next = (some c, p')) :
    bound p'.tokens < bound p.tokens := by
  unfold next at h
  cases ht : p.tokens.next.1 with
  | none => simp [ht] at h
  | some token =>
    simp only [ht] at h
    obtain rfl : (classify token ⟨p.tokens.next.2, p.document⟩).2 = p' := congrArg Prod.snd h
    have taken : p.tokens.next = (some token, p.tokens.next.2) := by rw [← ht]
    exact Nat.lt_of_le_of_lt (bound_classify_le _ _) (bound_take_lt taken)

def drain (p : Parser) : List Classified × Parser :=
  match h : p.next with
  | (none, p') => ([], p')
  | (some c, p') =>
    have := bound_next_lt h
    let rest := drain p'
    (c :: rest.1, rest.2)
termination_by bound p.tokens

end Parser

def classifyAll (t document : Text) : List Classified := (Parser.ofText t document).drain.1

def parse (t document : Text) : List Node := (classifyAll t document).map Classified.node

end Stanza
