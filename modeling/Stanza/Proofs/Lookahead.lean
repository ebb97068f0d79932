import Stanza.Lookahead

/-! Looking ahead seen from outside. Over a source that gives a list of items and then nothing,
a look-ahead is the list of the items that are still to come, however many of them wait in the
queue: looking leaves the list alone, and taking removes its first item. -/

namespace Stanza

namespace Source

variable {σ α : Type} [Source σ α]

def after (s : σ) : Nat → σ
  | 0 => s
  | n + 1 => after (pull s).2 n

/-- the source gives these items in order and nothing after them, however often it is asked -/
def Delivers (s : σ) (items : List α) : Prop := ∀ n : Nat, (pull (after s n)).1 = items[n]?

theorem Delivers.pull_eq {s : σ} {items : List α} (h : Delivers s items) :
    (pull s).1 = items.head? ∧ Delivers (pull s).2 items.tail := by
  refine ⟨(h 0).trans List.head?_eq_getElem?.symm, fun n => ?_⟩
  rw [List.getElem?_tail]
  exact h (n + 1)

theorem Delivers.unique {s : σ} {items items' : List α} (h : Delivers s items)
    (h' : Delivers s items') : items = items' :=
  List.ext_getElem? fun n => (h n).symm.trans (h' n)

end Source

namespace Lookahead

variable {σ α : Type} [Source σ α]

/-- The items ahead: those that wait, and then those that the source has still to give. -/
def Holds (b : Lookahead σ α) (items : List α) : Prop :=
  ∃ rest, Source.Delivers b.source rest ∧ items = b.queue ++ rest

theorem holds_ofSource {s : σ} {items : List α} (h : Source.Delivers s items) :
    (ofSource s : Lookahead σ α).Holds items :=
  ⟨items, h, rfl⟩

theorem Holds.next_eq {b : Lookahead σ α} {items : List α} (h : b.Holds items) :
    b.next.1 = items.head? ∧ b.next.2.Holds items.tail := by
  obtain ⟨queue, source⟩ := b
  obtain ⟨rest, hrest, rfl⟩ := h
  cases queue with
  | nil => exact ⟨hrest.pull_eq.1, rest.tail, hrest.pull_eq.2, rfl⟩
  | cons a queue => exact ⟨rfl, rest, hrest, rfl⟩

/-- Filling keeps the items ahead and makes as many of them wait as it can. -/
theorem Holds.fill_eq {b : Lookahead σ α} {items : List α} (h : b.Holds items) (n : Nat) :
    (b.fill n).Holds items ∧ (b.fill n).queue.length = min (b.queue.length + n) items.length := by
  induction n generalizing b with
  | zero =>
    refine ⟨h, ?_⟩
    obtain ⟨rest, -, rfl⟩ := h
    simp [fill]
  | succ n ih =>
    obtain ⟨rest, hrest, rfl⟩ := h
    obtain ⟨hfirst, htail⟩ := hrest.pull_eq
    unfold fill
    split
    · next s hs =>
      rw [hs] at hfirst htail
      obtain rfl : rest = [] := List.head?_eq_none_iff.1 hfirst.symm
      exact ⟨⟨[], htail, rfl⟩, by simp⟩
    · next a s hs =>
      rw [hs] at hfirst htail
      obtain ⟨rest, rfl⟩ := List.head?_eq_some_iff.1 hfirst.symm
      obtain ⟨hholds, hlength⟩ := ih (b := ⟨b.queue ++ [a], s⟩) ⟨rest, htail, by simp⟩
      refine ⟨hholds, ?_⟩
      rw [hlength, List.length_append, List.length_singleton, Nat.add_assoc, Nat.add_comm 1 n]

/-- What waits is the beginning of what is ahead. -/
theorem Holds.queue_getElem? {b : Lookahead σ α} {items : List α} (h : b.Holds items) {n : Nat}
    (hn : n < b.queue.length ∨ items.length ≤ b.queue.length) : b.queue[n]? = items[n]? := by
  obtain ⟨rest, -, rfl⟩ := h
  rcases hn with hn | hn
  · exact (List.getElem?_append_left hn).symm
  · rw [List.length_append] at hn
    obtain rfl : rest = [] := List.length_eq_zero_iff.1 (by omega)
    rw [List.append_nil]

theorem Holds.peek_eq {b : Lookahead σ α} {items : List α} (h : b.Holds items) (n : Nat) :
    (b.peek n).1 = items[n]? ∧ (b.peek n).2.Holds items := by
  obtain ⟨hholds, hlength⟩ := h.fill_eq (n + 1 - b.queue.length)
  exact ⟨hholds.queue_getElem? (by omega), hholds⟩

end Lookahead

namespace Lookahead

variable {σ : Type} [Source σ Token]

theorem Holds.peekIs_eq {b : Lookahead σ Token} {items : List Token} (h : b.Holds items) (n : Nat)
    (k : Kind) :
    (b.peekIs n k).1 = (items[n]?.map Token.kind == some k) ∧ (b.peekIs n k).2.Holds items := by
  obtain ⟨hitem, hholds⟩ := h.peek_eq n
  exact ⟨by rw [← hitem]; rfl, hholds⟩

end Lookahead

end Stanza
