import Stanza.Token.Basic

/-! Looking ahead in a source of items. Items pulled early wait in a queue and are handed out
from its front, so their order never changes and looking takes nothing away. -/

namespace Stanza

/-- A source of items. A pull may answer nothing and a later one answer an item again. -/
class Source (σ : Type) (α : outParam Type) where
  pull : σ → Option α × σ

instance {α : Type} : Source (List (Option α)) α where
  pull
    | [] => (none, [])
    | answer :: answers => (answer, answers)

/-- A source with the items pulled from it but not handed out yet. -/
structure Lookahead (σ α : Type) where
  /-- The waiting items, the next one first. -/
  queue : List α
  source : σ
  deriving DecidableEq

namespace Lookahead

variable {σ α : Type} [Source σ α]

def ofSource (s : σ) : Lookahead σ α := ⟨[], s⟩

def buffered (b : Lookahead σ α) : Nat := b.queue.length

/-- Pulls `n` items into the queue, or fewer when a pull answers nothing. -/
def fill : Nat → Lookahead σ α → Lookahead σ α
  | 0, b => b
  | n + 1, b =>
    match Source.pull b.source with
    | (none, s) => ⟨b.queue, s⟩
    | (some a, s) => fill n ⟨b.queue ++ [a], s⟩

def peek (n : Nat) (b : Lookahead σ α) : Option α × Lookahead σ α :=
  let filled := b.fill (n + 1 - b.queue.length)
  (filled.queue[n]?, filled)

def next (b : Lookahead σ α) : Option α × Lookahead σ α :=
  match b.queue with
  | a :: queue => (some a, ⟨queue, b.source⟩)
  | [] =>
    let pulled := Source.pull b.source
    (pulled.1, ⟨[], pulled.2⟩)

end Lookahead

namespace Lookahead

variable {σ : Type} [Source σ Token]

def peekKind (n : Nat) (b : Lookahead σ Token) : Option Kind × Lookahead σ Token :=
  let seen := b.peek n
  (seen.1.map Token.kind, seen.2)

def peekIs (n : Nat) (k : Kind) (b : Lookahead σ Token) : Bool × Lookahead σ Token :=
  let seen := b.peekKind n
  (seen.1 == some k, seen.2)

end Lookahead

end Stanza
