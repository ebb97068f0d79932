import Stanza.Proofs.Lookahead.Cursor
import Stanza.Proofs.Node.Window

/-! How far the parser reads ahead. Only a name makes it look, at the next token, and past that one
when it is of blanks. What waits afterwards is used up by the next pulls, so the number of waiting
tokens is known from the few tokens around the position, whatever was looked at before. -/

namespace Stanza

def nameAt (ts : List Token) (i : Nat) : Bool :=
  ts[i]?.any fun token => token.kind = .identifier && isName token.text

def blankAt (ts : List Token) (i : Nat) : Bool :=
  ts[i]?.any fun token => token.kind = .whitespace

/-- the number of tokens that wait after `k` tokens have been taken -/
def waiting (ts : List Token) : Nat → Nat
  | 0 => 0
  | k + 1 =>
    let remaining := ts.length - (k + 1)
    if nameAt ts k then
      if blankAt ts (k + 1) then min 2 remaining else min 1 remaining
    else if 1 ≤ k ∧ nameAt ts (k - 1) ∧ blankAt ts k then min 1 remaining
    else 0

theorem nameAt_drop (ts : List Token) (k i : Nat) : nameAt (ts.drop k) i = nameAt ts (k + i) := by
  rw [nameAt, List.getElem?_drop, nameAt]

theorem blankAt_drop (ts : List Token) (k i : Nat) :
    blankAt (ts.drop k) i = blankAt ts (k + i) := by
  rw [blankAt, List.getElem?_drop, blankAt]

theorem not_blankAt_of_nameAt {ts : List Token} {i : Nat} (h : nameAt ts i = true) :
    blankAt ts i = false := by
  unfold nameAt at h
  unfold blankAt
  cases hi : ts[i]? with
  | none => rfl
  | some token =>
    have hkind : token.kind = .identifier := by
      simp only [hi, Option.any_some, Bool.and_eq_true, decide_eq_true_eq] at h
      exact h.1
    simp [hkind]

theorem waiting_le_two (ts : List Token) (k : Nat) : waiting ts k ≤ 2 := by
  fun_cases waiting ts k <;> omega

/-- Two tokens wait only before a token of blanks. -/
theorem waiting_le_one {ts : List Token} {k : Nat} (h : blankAt ts k = false) :
    waiting ts k ≤ 1 := by
  fun_cases waiting ts k with
  | case2 k _ _ hblank => rw [h] at hblank; cases hblank
  | _ => omega

theorem waiting_eq_zero {ts : List Token} {k : Nat} (h : ts.length ≤ k) : waiting ts k = 0 := by
  fun_cases waiting ts k <;> omega

/-- One more token taken: a token that waited is used up, and a name makes others wait. -/
theorem waiting_succ (ts : List Token) (k : Nat) :
    waiting ts (k + 1) =
      if nameAt ts k then
        max (waiting ts k - 1) (min (if blankAt ts (k + 1) then 2 else 1) (ts.length - (k + 1)))
      else waiting ts k - 1 := by
  by_cases hname : nameAt ts k = true
  · have hone := waiting_le_one (not_blankAt_of_nameAt hname)
    rw [waiting, if_pos hname, if_pos hname]
    split <;> omega
  · rw [waiting, if_neg hname, if_neg hname]
    cases k with
    | zero => simp [waiting]
    | succ k =>
      -- the name before this token is the only one whose blanks may still wait
      rw [Nat.add_sub_cancel, waiting]
      cases hbefore : nameAt ts k with
      | true =>
        cases hblank : blankAt ts (k + 1) with
        | true => simp only [if_true, and_self, Nat.le_add_left]; omega
        | false => simp only [Bool.false_eq_true, and_false, if_false, if_true]; omega
      | false => simp; split <;> omega

namespace Lookahead

variable {σ : Type} [Source σ Token]

theorem Holds.buffered_peekIs {b : Lookahead σ Token} {items : List Token} (h : b.Holds items)
    (n : Nat) (k : Kind) :
    (b.peekIs n k).2.buffered = max b.buffered (min (n + 1) items.length) :=
  h.buffered_peek n

/-- Asking for a definition looks at one token, and at two when the first is of blanks. -/
theorem Holds.buffered_definitionAhead {b : Lookahead σ Token} {items : List Token}
    (h : b.Holds items) :
    b.definitionAhead.2.buffered =
      max b.buffered (min (if blankAt items 0 then 2 else 1) items.length) := by
  obtain ⟨hblank, hholds⟩ := h.peekIs_eq 0 .whitespace
  have hfirst := h.buffered_peekIs 0 .whitespace
  have hsecond : b.definitionAhead.2.buffered = _ := hholds.buffered_peekIs _ .definition
  have htest : (b.peekIs 0 .whitespace).1 = blankAt items 0 := by
    rw [hblank, blankAt]
    cases items[0]? <;> rfl
  rw [hsecond, hfirst, htest]
  split <;> omega

end Lookahead

namespace Parser

variable {p : Parser} {items : List Token}

theorem buffered_classify (h : p.tokens.Holds items) (token : Token) :
    (classify token p).2.buffered =
      if nameAt (token :: items) 0 then
        max p.buffered (min (if blankAt items 0 then 2 else 1) items.length)
      else p.buffered := by
  obtain ⟨kind, text⟩ := token
  cases kind with
  | identifier =>
    by_cases hname : isName text = true
    · have hat : nameAt (⟨.identifier, text⟩ :: items) 0 = true := by simp [nameAt, hname]
      simp only [classify, if_pos hname, if_pos hat]
      exact h.buffered_definitionAhead
    · simp [classify, nameAt, hname]
  | _ => rfl

/-- A pull uses up a waiting token, and the lookahead for a name makes others wait. -/
theorem buffered_next (h : p.tokens.Holds items) :
    p.next.2.buffered =
      if nameAt items 0 then
        max (p.buffered - 1) (min (if blankAt items 1 then 2 else 1) (items.length - 1))
      else p.buffered - 1 := by
  obtain ⟨htaken, hholds⟩ := h.next_eq
  have hrest : p.tokens.next.2.buffered = p.buffered - 1 := Lookahead.buffered_next p.tokens
  cases items with
  | nil =>
    rw [next_of_none htaken]
    exact hrest
  | cons token items =>
    have hafter : Parser.buffered ⟨p.tokens.next.2, p.document⟩ = p.buffered - 1 := hrest
    rw [next_of_some htaken, buffered_classify hholds token, hafter]
    rfl

theorem after_succ (p : Parser) (k : Nat) : p.after (k + 1) = (p.after k).next.2 := by
  induction k generalizing p with
  | zero => rfl
  | succ k ih => exact ih p.next.2

/-- From a parser in which nothing waits, what waits after some pulls is the closed form. -/
theorem buffered_after (h : p.tokens.Holds items) (hempty : p.buffered = 0) (k : Nat) :
    (p.after k).buffered = waiting items k := by
  induction k with
  | zero => exact hempty
  | succ k ih =>
    rw [after_succ, buffered_next (after_eq h k).1, ih, waiting_succ, nameAt_drop, blankAt_drop,
      List.length_drop, Nat.add_zero, Nat.sub_sub]

end Parser

/-- How many tokens wait in the parser after `k` pulls. A pull answers a node as long as tokens are
left; those that wait are the next ones, and the lexer has read no further. There are never more
than two, and none at the start and from the last token on. -/
theorem waiting_after_pulls (t document : Text) :
    (∀ k : Nat, ((Parser.ofText t document).after k).next.1.isSome ↔ k < (lex t).length) ∧
      (∀ k : Nat,
        ((Parser.ofText t document).after k).buffered = waiting (lex t) k ∧
          ((Parser.ofText t document).after k).tokens.queue =
            ((lex t).drop k).take (waiting (lex t) k) ∧
          lex ((Parser.ofText t document).after k).tokens.source.remaining =
            (lex t).drop (k + waiting (lex t) k) ∧
          waiting (lex t) k ≤ 2) ∧
      (Parser.ofText t document).buffered = 0 ∧
      ∀ more : Nat, ((Parser.ofText t document).after ((lex t).length + more)).buffered = 0 := by
  have hstart := Parser.holds_ofText t document
  have hbuffered := Parser.buffered_after hstart rfl
  refine ⟨fun k => ?_, fun k => ?_, rfl, fun more => ?_⟩
  · obtain ⟨hnode, -⟩ := Parser.next_eq (Parser.after_eq hstart k).1
    have hsome := congrArg Option.isSome hnode
    rw [Option.isSome_map, Option.isSome_map, List.head?_drop] at hsome
    simp [hsome]
  · obtain ⟨rest, hrest, hitems⟩ := (Parser.after_eq hstart k).1
    have hlength : ((Parser.ofText t document).after k).tokens.queue.length = waiting (lex t) k :=
      hbuffered k
    refine ⟨hbuffered k, ?_, ?_, waiting_le_two (lex t) k⟩
    · rw [hitems, ← hlength, List.take_left]
    · rw [← List.drop_drop, hitems, ← hlength, List.drop_left]
      exact (Lexer.delivers _).unique hrest
  · rw [hbuffered, waiting_eq_zero (Nat.le_add_right _ _)]

end Stanza
