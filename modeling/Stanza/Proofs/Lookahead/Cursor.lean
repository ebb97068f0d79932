import Stanza.Proofs.Lookahead

/-! A look-ahead that is called again and again. Over a source that gives a list of tokens and then
nothing, it cannot be told from the list itself, read from a position on, with a count of the
tokens that have been pulled early. No answer depends on that count, so looking changes nothing. -/

namespace Stanza

namespace Lookahead

inductive Call where
  | next
  | peek (n : Nat)
  | peekKind (n : Nat)
  | peekIs (n : Nat) (k : Kind)
  deriving DecidableEq

inductive Answer where
  | token (t : Option Token)
  | kind (k : Option Kind)
  | test (b : Bool)
  deriving DecidableEq

def Call.apply {σ : Type} [Source σ Token] (b : Lookahead σ Token) :
    Call → Answer × Lookahead σ Token
  | next => (.token b.next.1, b.next.2)
  | peek n => (.token (b.peek n).1, (b.peek n).2)
  | peekKind n => (.kind (b.peekKind n).1, (b.peekKind n).2)
  | peekIs n k => (.test (b.peekIs n k).1, (b.peekIs n k).2)

/-- what is seen of calls one after the other: each answer, and how many items wait after it -/
def trace {σ : Type} [Source σ Token] (b : Lookahead σ Token) : List Call → List (Answer × Nat)
  | [] => []
  | call :: calls => ((call.apply b).1, (call.apply b).2.buffered) :: (call.apply b).2.trace calls

end Lookahead

/-- A list that is read from a position on. The items pulled are the next ones, looked at early. -/
structure Cursor (α : Type) where
  items : List α
  position : Nat
  pulled : Nat

namespace Cursor

variable {α : Type}

def ofList (items : List α) : Cursor α := ⟨items, 0, 0⟩

def remaining (c : Cursor α) : Nat := c.items.length - c.position

def advance (c : Cursor α) : Cursor α :=
  ⟨c.items, min (c.position + 1) c.items.length, c.pulled - 1⟩

def look (n : Nat) (c : Cursor α) : Cursor α :=
  ⟨c.items, c.position, max c.pulled (min (n + 1) c.remaining)⟩

def ahead? (n : Nat) (c : Cursor α) : Option α := c.items[c.position + n]?

def answer (c : Cursor Token) : Lookahead.Call → Lookahead.Answer
  | .next => .token (c.ahead? 0)
  | .peek n => .token (c.ahead? n)
  | .peekKind n => .kind ((c.ahead? n).map Token.kind)
  | .peekIs n k => .test ((c.ahead? n).any fun t => t.kind = k)

def after (c : Cursor Token) : Lookahead.Call → Cursor Token
  | .next => c.advance
  | .peek n => c.look n
  | .peekKind n => c.look n
  | .peekIs n _ => c.look n

def trace (c : Cursor Token) : List Lookahead.Call → List (Lookahead.Answer × Nat)
  | [] => []
  | call :: calls => (c.answer call, (c.after call).pulled) :: (c.after call).trace calls

/-- Moving past an item takes the first of those ahead. -/
theorem drop_advance (c : Cursor α) :
    c.advance.items.drop c.advance.position = (c.items.drop c.position).tail := by
  rw [List.tail_drop]
  rcases Nat.le_total (c.position + 1) c.items.length with h | h
  · rw [advance, Nat.min_eq_left h]
  · rw [advance, Nat.min_eq_right h, List.drop_length, List.drop_eq_nil_of_le h]

end Cursor

namespace Lookahead

/-- the look-ahead stands where the cursor does, and as many items wait in it -/
structure Follows {σ α : Type} [Source σ α] (b : Lookahead σ α) (c : Cursor α) : Prop where
  holds : b.Holds (c.items.drop c.position)
  buffered : b.buffered = c.pulled

section

variable {σ α : Type} [Source σ α] {b : Lookahead σ α} {c : Cursor α}

theorem buffered_next (b : Lookahead σ α) : b.next.2.buffered = b.buffered - 1 := by
  obtain ⟨queue, source⟩ := b
  cases queue <;> rfl

/-- A look makes items wait up to the one asked for, or all of them, and never fewer than before. -/
theorem Holds.buffered_peek {items : List α} (h : b.Holds items) (n : Nat) :
    (b.peek n).2.buffered = max b.buffered (min (n + 1) items.length) := by
  have hlength := (h.fill_eq (n + 1 - b.queue.length)).2
  obtain ⟨rest, -, rfl⟩ := h
  rw [List.length_append] at hlength ⊢
  simp only [buffered, peek, hlength]
  omega

theorem follows_ofSource {s : σ} {items : List α} (h : Source.Delivers s items) :
    (ofSource s : Lookahead σ α).Follows (.ofList items) :=
  ⟨holds_ofSource h, rfl⟩

theorem Follows.next_eq (h : b.Follows c) :
    b.next.1 = c.ahead? 0 ∧ b.next.2.Follows c.advance := by
  obtain ⟨htoken, hholds⟩ := h.holds.next_eq
  refine ⟨htoken.trans ?_, ?_, ?_⟩
  · rw [List.head?_drop]
    rfl
  · rw [c.drop_advance]
    exact hholds
  · rw [buffered_next, h.buffered]
    rfl

theorem Follows.peek_eq (h : b.Follows c) (n : Nat) :
    (b.peek n).1 = c.ahead? n ∧ (b.peek n).2.Follows (c.look n) := by
  obtain ⟨htoken, hholds⟩ := h.holds.peek_eq n
  refine ⟨htoken.trans List.getElem?_drop, hholds, ?_⟩
  rw [h.holds.buffered_peek, h.buffered, List.length_drop]
  rfl

end

variable {σ : Type} [Source σ Token]

/-- One call: the answer of the cursor, and the look-ahead follows the cursor after it. -/
theorem Follows.apply_eq {b : Lookahead σ Token} {c : Cursor Token} (h : b.Follows c)
    (call : Call) : (call.apply b).1 = c.answer call ∧ (call.apply b).2.Follows (c.after call) := by
  cases call with
  | next => exact ⟨congrArg Answer.token h.next_eq.1, h.next_eq.2⟩
  | peek n => exact ⟨congrArg Answer.token (h.peek_eq n).1, (h.peek_eq n).2⟩
  | peekKind n =>
    have hkind : (b.peekKind n).1 = (c.ahead? n).map Token.kind :=
      congrArg (Option.map Token.kind) (h.peek_eq n).1
    exact ⟨congrArg Answer.kind hkind, (h.peek_eq n).2⟩
  | peekIs n k =>
    refine ⟨?_, (h.peek_eq n).2⟩
    have htest : (b.peekIs n k).1 = (c.ahead? n).any fun t => t.kind = k := by
      rw [← (h.peek_eq n).1]
      simp only [peekIs, peekKind]
      cases (b.peek n).1 <;> rfl
    exact congrArg Answer.test htest

theorem Follows.trace_eq {b : Lookahead σ Token} {c : Cursor Token} (h : b.Follows c)
    (calls : List Call) : b.trace calls = c.trace calls := by
  induction calls generalizing b c with
  | nil => rfl
  | cons call calls ih =>
    obtain ⟨hanswer, hafter⟩ := h.apply_eq call
    rw [trace, Cursor.trace, hanswer, hafter.buffered, ih hafter]

end Lookahead

def marked {α : Type} (xs : List (α × Bool)) : List α := (xs.filter Prod.snd).map Prod.fst

namespace Cursor

def SameAs (c d : Cursor Token) : Prop := c.items = d.items ∧ c.position = d.position

theorem SameAs.answer_eq {c d : Cursor Token} (h : c.SameAs d) (call : Lookahead.Call) :
    c.answer call = d.answer call := by
  obtain ⟨items, position, pulled⟩ := c
  obtain ⟨rfl, rfl⟩ := h
  cases call <;> rfl

theorem SameAs.after {c d : Cursor Token} (h : c.SameAs d) (call : Lookahead.Call) :
    (c.after call).SameAs (d.after call) := by
  obtain ⟨items, position, pulled⟩ := c
  obtain ⟨rfl, rfl⟩ := h
  cases call <;> exact ⟨rfl, rfl⟩

theorem sameAs_after (c : Cursor Token) {call : Lookahead.Call} (h : call ≠ .next) :
    (c.after call).SameAs c := by
  cases call with
  | next => exact absurd rfl h
  | _ => exact ⟨rfl, rfl⟩

/-- Looks can be taken out of a run: the answers of the other calls stay. -/
theorem SameAs.answers_marked {c d : Cursor Token} (h : c.SameAs d)
    {run : List (Lookahead.Call × Bool)} (looks : ∀ x ∈ run, x.2 = false → x.1 ≠ .next) :
    marked (((c.trace (run.map Prod.fst)).map Prod.fst).zip (run.map Prod.snd)) =
      (d.trace (marked run)).map Prod.fst := by
  induction run generalizing c d with
  | nil => rfl
  | cons x run ih =>
    obtain ⟨call, keep⟩ := x
    obtain ⟨hx, hrun⟩ := List.forall_mem_cons.1 looks
    cases keep with
    | true =>
      have hrest := ih (h.after call) hrun
      simp only [marked] at hrest
      simp [marked, trace, h.answer_eq call, hrest]
    | false =>
      have hsame : (c.after call).SameAs d :=
        ⟨(c.sameAs_after (hx rfl)).1.trans h.1, (c.sameAs_after (hx rfl)).2.trans h.2⟩
      have hrest := ih hsame hrun
      simp only [marked] at hrest
      simp [marked, trace, hrest]

end Cursor

namespace Source

variable {α : Type}

theorem delivers_list (items : List α) : Delivers (items.map some) items := by
  intro n
  induction items generalizing n with
  | nil =>
    have hafter : after ([] : List (Option α)) n = [] := by
      induction n with
      | zero => rfl
      | succ n ih => exact ih
    rw [List.map_nil, hafter]
    rfl
  | cons a items ih =>
    cases n with
    | zero => rfl
    | succ n => exact ih n

end Source

namespace Lookahead

variable {σ : Type} [Source σ Token]

/-- Over a source that gives a list and then nothing, all that is seen of a look-ahead is what is
seen of a cursor on the list: each answer, and the number of waiting items after each call. So
looks may be put into a run or taken out of it anywhere, and the other calls answer the same. -/
theorem trace_eq_cursor {s : σ} {items : List Token} (h : Source.Delivers s items) :
    (∀ calls : List Call, (ofSource s).trace calls = (Cursor.ofList items).trace calls) ∧
    ∀ run : List (Call × Bool), (∀ x ∈ run, x.2 = false → x.1 ≠ .next) →
      marked ((((ofSource s).trace (run.map Prod.fst)).map Prod.fst).zip (run.map Prod.snd)) =
        ((ofSource s).trace (marked run)).map Prod.fst := by
  have hfollows := follows_ofSource h
  refine ⟨fun calls => hfollows.trace_eq calls, fun run looks => ?_⟩
  rw [hfollows.trace_eq, hfollows.trace_eq]
  exact Cursor.SameAs.answers_marked ⟨rfl, rfl⟩ looks

/-- a look past the end makes all that is left wait, and leaving it out changes no other answer -/
theorem trace_eq_cursor_pair :
    let a : Token := ⟨.identifier, ['A']⟩
    let b : Token := ⟨.definition, definitionMarker⟩
    let s : List (Option Token) := [some a, some b]
    (ofSource s).trace [.peek 4, .next, .peekIs 0 .definition] =
        [(.token none, 2), (.token (some a), 1), (.test true, 1)] ∧
      ((ofSource s).trace [.next, .peekIs 0 .definition]).map Prod.fst =
        [.token (some a), .test true] := by
  intro a b s
  obtain ⟨htrace, hmarked⟩ := trace_eq_cursor (Source.delivers_list [a, b])
  have hrun : (ofSource s).trace [.peek 4, .next, .peekIs 0 .definition] =
      [(.token none, 2), (.token (some a), 1), (.test true, 1)] :=
    (htrace [.peek 4, .next, .peekIs 0 .definition]).trans (by decide)
  have hkept := hmarked [(.peek 4, false), (.next, true), (.peekIs 0 .definition, true)] (by simp)
  refine ⟨hrun, hkept.symm.trans ?_⟩
  have hanswers := congrArg (List.map Prod.fst) hrun
  simp only [List.map_cons, List.map_nil] at hanswers ⊢
  rw [hanswers]
  rfl

end Lookahead

end Stanza
