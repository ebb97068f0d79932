import Stanza.Proofs.Lookahead.Cursor

/-! What a look-ahead draws from its source. The source may answer nothing and go on with more items
later, so what is ahead is no list that is known in advance. Still every item that the source has
answered has been handed out or waits, in the order of the answers, and a call meets a gap of the
source exactly when it finds no token. -/

namespace Stanza

namespace Source

variable {σ α : Type} [Source σ α]

def answers (s : σ) : Nat → List (Option α)
  | 0 => []
  | n + 1 => (pull s).1 :: answers (pull s).2 n

def given (s : σ) (n : Nat) : List α := (answers s n).filterMap id

theorem after_add (s : σ) (m n : Nat) : after s (m + n) = after (after s m) n := by
  induction m generalizing s with
  | zero => rw [Nat.zero_add, after]
  | succ m ih => rw [Nat.succ_add, after, ih, after]

theorem answers_add (s : σ) (m n : Nat) :
    answers s (m + n) = answers s m ++ answers (after s m) n := by
  induction m generalizing s with
  | zero => rw [Nat.zero_add, answers, after, List.nil_append]
  | succ m ih => rw [Nat.succ_add, answers, ih, answers, after, List.cons_append]

theorem given_add (s : σ) (m n : Nat) : given s (m + n) = given s m ++ given (after s m) n := by
  rw [given, answers_add, List.filterMap_append, given, given]

/-- A source that writes down what it answers. -/
structure Recorded (σ α : Type) where
  source : σ
  /-- all answers so far, the first of them first -/
  log : List (Option α)

instance : Source (Recorded σ α) α where
  pull r := ((pull r.source).1, ⟨(pull r.source).2, r.log ++ [(pull r.source).1]⟩)

theorem Recorded.log_after (r : Recorded σ α) (n : Nat) :
    (after r n).log = r.log ++ answers r n := by
  induction n generalizing r with
  | zero => rw [after, answers, List.append_nil]
  | succ n ih =>
    rw [after, ih, answers, ← List.singleton_append, ← List.append_assoc]
    rfl

end Source

namespace Lookahead

section

variable {σ α : Type} [Source σ α]

/-- `b'` is what `b` becomes when it hands out `out` while its source answers `drawn` -/
structure Draws (b : Lookahead σ α) (out : List α) (drawn : List (Option α))
    (b' : Lookahead σ α) : Prop where
  answered : drawn = Source.answers b.source drawn.length
  source : b'.source = Source.after b.source drawn.length
  kept : b.queue ++ drawn.filterMap id = out ++ b'.queue

theorem Draws.refl (b : Lookahead σ α) : b.Draws [] [] b :=
  ⟨rfl, rfl, List.append_nil _⟩

theorem Draws.trans {b b' b'' : Lookahead σ α} {out out' : List α} {drawn drawn' : List (Option α)}
    (h : b.Draws out drawn b') (h' : b'.Draws out' drawn' b'') :
    b.Draws (out ++ out') (drawn ++ drawn') b'' := by
  refine ⟨?_, ?_, ?_⟩
  · rw [List.length_append, Source.answers_add, ← h.source, ← h.answered, ← h'.answered]
  · rw [List.length_append, Source.after_add, ← h.source, h'.source]
  · rw [List.filterMap_append, ← List.append_assoc, h.kept, List.append_assoc, h'.kept,
      List.append_assoc]

/-- A pull that answers an item makes it wait. -/
theorem draws_some {b : Lookahead σ α} {a : α} {s : σ} (h : Source.pull b.source = (some a, s)) :
    b.Draws [] [some a] ⟨b.queue ++ [a], s⟩ := by
  refine ⟨?_, ?_, rfl⟩
  · simp [Source.answers, h]
  · simp [Source.after, h]

theorem draws_none {b : Lookahead σ α} {s : σ} (h : Source.pull b.source = (none, s)) :
    b.Draws [] [none] ⟨b.queue, s⟩ := by
  refine ⟨?_, ?_, List.append_nil _⟩
  · simp [Source.answers, h]
  · simp [Source.after, h]

/-- Filling draws nothing but items, unless it stops short at a gap. -/
theorem fill_draws (n : Nat) (b : Lookahead σ α) :
    ∃ drawn, b.Draws [] drawn (b.fill n) ∧
      drawn.countP Option.isNone =
        if (b.fill n).queue.length < b.queue.length + n then 1 else 0 := by
  induction n generalizing b with
  | zero => exact ⟨[], .refl b, by simp [fill]⟩
  | succ n ih =>
    unfold fill
    split
    · next s hs => exact ⟨[none], draws_none hs, by simp⟩
    · next a s hs =>
      obtain ⟨drawn, hdraws, hcount⟩ := ih ⟨b.queue ++ [a], s⟩
      refine ⟨some a :: drawn, (draws_some hs).trans hdraws, ?_⟩
      rw [List.countP_cons_of_neg (by simp), hcount, List.length_append, List.length_singleton,
        Nat.add_assoc, Nat.add_comm 1 n]

/-- the number of gaps met by a call that finds `x` -/
def gaps {β : Type} (x : Option β) : Nat := if x.isNone then 1 else 0

theorem peek_draws (n : Nat) (b : Lookahead σ α) :
    ∃ drawn, b.Draws [] drawn (b.peek n).2 ∧ drawn.countP Option.isNone = gaps (b.peek n).1 := by
  obtain ⟨drawn, hdraws, hcount⟩ := fill_draws (n + 1 - b.queue.length) b
  refine ⟨drawn, hdraws, hcount.trans ?_⟩
  have hlonger := congrArg List.length hdraws.kept
  simp only [List.length_append, List.length_nil] at hlonger
  have hfound : (b.peek n).1.isNone ↔ (b.fill (n + 1 - b.queue.length)).queue.length ≤ n := by
    rw [Option.isNone_iff_eq_none]
    exact List.getElem?_eq_none_iff
  rw [gaps]
  simp only [hfound]
  split <;> split <;> omega

theorem next_draws (b : Lookahead σ α) :
    ∃ drawn, b.Draws b.next.1.toList drawn b.next.2 ∧
      drawn.countP Option.isNone = gaps b.next.1 := by
  obtain ⟨queue, source⟩ := b
  cases queue with
  | cons a queue => exact ⟨[], ⟨rfl, rfl, List.append_nil _⟩, rfl⟩
  | nil =>
    refine ⟨[(Source.pull source).1], ⟨rfl, rfl, ?_⟩, ?_⟩
    · cases h : (Source.pull source).1 <;> simp [next, h]
    · cases h : (Source.pull source).1 <;> simp [next, gaps, h]

theorem Draws.log_eq {b b' : Lookahead (Source.Recorded σ α) α} {out : List α}
    {drawn : List (Option α)} (h : b.Draws out drawn b') :
    b'.source.log = b.source.log ++ drawn := by
  rw [h.source, Source.Recorded.log_after, ← h.answered]

def withoutLog (b : Lookahead (Source.Recorded σ α) α) : Lookahead σ α := ⟨b.queue, b.source.source⟩

theorem withoutLog_fill (n : Nat) (b : Lookahead (Source.Recorded σ α) α) :
    (b.fill n).withoutLog = b.withoutLog.fill n := by
  induction n generalizing b with
  | zero => rfl
  | succ n ih =>
    cases h : Source.pull b.source.source with
    | mk answer s =>
      cases answer with
      | none => simp [fill, Source.pull, withoutLog, h]
      | some a =>
        have hrest := ih ⟨b.queue ++ [a], s, b.source.log ++ [some a]⟩
        simpa [fill, Source.pull, withoutLog, h] using hrest

theorem withoutLog_next (b : Lookahead (Source.Recorded σ α) α) :
    b.withoutLog.next = (b.next.1, b.next.2.withoutLog) := by
  obtain ⟨queue, source⟩ := b
  cases queue <;> rfl

theorem withoutLog_peek (n : Nat) (b : Lookahead (Source.Recorded σ α) α) :
    b.withoutLog.peek n = ((b.peek n).1, (b.peek n).2.withoutLog) := by
  have hfill := withoutLog_fill (n + 1 - b.queue.length) b
  have hqueue := congrArg queue hfill
  exact Prod.ext (congrArg (·[n]?) hqueue.symm) hfill.symm

end

variable {σ : Type} [Source σ Token]

def recording (s : σ) : Lookahead (Source.Recorded σ Token) Token := ofSource ⟨s, []⟩

/-- what an answer tells of the number of gaps that were met for it -/
def Answer.Tells (nones : Nat) : Answer → Prop
  | token t => nones = if t.isNone then 1 else 0
  | kind k => nones = if k.isNone then 1 else 0
  | test holds => if holds then nones = 0 else nones ≤ 1

def after (b : Lookahead σ Token) : List Call → Lookahead σ Token
  | [] => b
  | call :: calls => (call.apply b).2.after calls

/-- what the calls of `next` among some calls answer -/
def handed (b : Lookahead σ Token) : List Call → List (Option Token)
  | [] => []
  | .next :: calls => b.next.1 :: b.next.2.handed calls
  | call :: calls => (call.apply b).2.handed calls

theorem Call.apply_withoutLog (b : Lookahead (Source.Recorded σ Token) Token) (call : Call) :
    call.apply b.withoutLog = ((call.apply b).1, (call.apply b).2.withoutLog) := by
  cases call <;>
    simp [apply, withoutLog_next, withoutLog_peek, Lookahead.peekKind, Lookahead.peekIs]

/-- Writing down the answers of the source changes nothing that is seen of a look-ahead. -/
theorem trace_withoutLog (b : Lookahead (Source.Recorded σ Token) Token) (calls : List Call) :
    b.withoutLog.trace calls = b.trace calls := by
  induction calls generalizing b with
  | nil => rfl
  | cons call calls ih =>
    rw [trace, call.apply_withoutLog, ih, trace]
    rfl

theorem Call.apply_draws (b : Lookahead σ Token) (call : Call) :
    ∃ drawn, b.Draws ((b.handed [call]).filterMap id) drawn (call.apply b).2 ∧
      (call.apply b).1.Tells (drawn.countP Option.isNone) := by
  cases call with
  | next =>
    obtain ⟨drawn, hdraws, hcount⟩ := b.next_draws
    refine ⟨drawn, ?_, hcount⟩
    have hout : (b.handed [.next]).filterMap id = b.next.1.toList := by
      cases h : b.next.1 <;> simp [handed, h]
    rw [hout]
    exact hdraws
  | peek n =>
    obtain ⟨drawn, hdraws, hcount⟩ := b.peek_draws n
    exact ⟨drawn, hdraws, hcount⟩
  | peekKind n =>
    obtain ⟨drawn, hdraws, hcount⟩ := b.peek_draws n
    refine ⟨drawn, hdraws, hcount.trans ?_⟩
    rw [gaps, Lookahead.peekKind, Option.isNone_map]
  | peekIs n k =>
    obtain ⟨drawn, hdraws, hcount⟩ := b.peek_draws n
    refine ⟨drawn, hdraws, ?_⟩
    cases h : (b.peek n).1 with
    | none =>
      have htest : (b.peekIs n k).1 = false := by simp [Lookahead.peekIs, Lookahead.peekKind, h]
      rw [h] at hcount
      simp [apply, htest, Answer.Tells, hcount, gaps]
    | some t =>
      have hzero : drawn.countP Option.isNone = 0 := by rw [hcount, h]; rfl
      rw [hzero]
      simp [Answer.Tells, apply]

theorem handed_cons (b : Lookahead σ Token) (call : Call) (calls : List Call) :
    b.handed (call :: calls) = b.handed [call] ++ (call.apply b).2.handed calls := by
  cases call <;> rfl

/-- Any calls: the items answered by the source are those handed out and those that wait. -/
theorem after_draws (b : Lookahead σ Token) (calls : List Call) :
    ∃ drawn, b.Draws ((b.handed calls).filterMap id) drawn (b.after calls) := by
  induction calls generalizing b with
  | nil => exact ⟨[], .refl b⟩
  | cons call calls ih =>
    obtain ⟨first, hfirst, -⟩ := call.apply_draws b
    obtain ⟨drawn, hdrawn⟩ := ih (call.apply b).2
    refine ⟨first ++ drawn, ?_⟩
    rw [handed_cons, List.filterMap_append]
    exact hfirst.trans hdrawn

/-- A look leaves what waits in its place. -/
theorem Call.queue_of_ne_next (b : Lookahead σ Token) {call : Call} (h : call ≠ .next) :
    b.handed [call] = [] ∧ b.queue <+: (call.apply b).2.queue := by
  have hnone : b.handed [call] = [] := by
    cases call with
    | next => exact absurd rfl h
    | _ => rfl
  obtain ⟨drawn, hdraws, -⟩ := call.apply_draws b
  have hkept := hdraws.kept
  rw [hnone, List.filterMap_nil, List.nil_append] at hkept
  exact ⟨hnone, _, hkept⟩

theorem handed_eq_nil (b : Lookahead σ Token) {calls : List Call} (h : .next ∉ calls) :
    b.handed calls = [] := by
  induction calls generalizing b with
  | nil => rfl
  | cons call calls ih =>
    rw [List.mem_cons, not_or] at h
    rw [handed_cons, (Call.queue_of_ne_next b (Ne.symm h.1)).1, ih _ h.2, List.append_nil]

/-- An item that waits is handed out in its turn, whatever is looked at before. -/
theorem handed_of_waiting {b : Lookahead σ Token} {n : Nat} {t : Token}
    (h : b.queue[n]? = some t) {calls : List Call} (hcalls : calls.count .next = n + 1) :
    ∃ items : List Token, items.length = n ∧ b.handed calls = (items ++ [t]).map some := by
  induction calls generalizing b n with
  | nil => simp at hcalls
  | cons call calls ih =>
    by_cases hcall : call = .next
    · subst hcall
      rw [List.count_cons_self] at hcalls
      obtain ⟨_ | ⟨a, queue⟩, source⟩ := b
      · simp at h
      cases n with
      | zero =>
        obtain rfl : a = t := by simpa using h
        have hrest := handed_eq_nil ⟨queue, source⟩ (List.count_eq_zero.1 (Nat.succ.inj hcalls))
        exact ⟨[], rfl, congrArg (some a :: ·) hrest⟩
      | succ n =>
        obtain ⟨items, hlength, hitems⟩ := ih (b := ⟨queue, source⟩) h (Nat.succ.inj hcalls)
        exact ⟨a :: items, congrArg (· + 1) hlength, congrArg (some a :: ·) hitems⟩
    · -- a look only lets more items wait behind those that wait already
      obtain ⟨hnone, hqueue⟩ := Call.queue_of_ne_next b hcall
      rw [List.count_cons_of_ne hcall] at hcalls
      obtain ⟨new, hnew⟩ := hqueue
      have hstill : (call.apply b).2.queue[n]? = some t := by
        rw [← hnew, List.getElem?_append_left (List.getElem?_eq_some_iff.1 h).1, h]
      obtain ⟨items, hlength, hitems⟩ := ih hstill hcalls
      exact ⟨items, hlength, by rw [handed_cons, hnone, hitems, List.nil_append]⟩

/-- What is drawn from a source, whatever gaps it has. After any calls the items handed out, those
that wait and those that the source has still to give are the items of the source in their order.
A call that answers a token or a kind has met no gap of the source, and one that answers none has
met one: this is what is read in a record of the source, and writing it changes no answer. An item
that was seen `n` places ahead is the last of the next `n + 1` that are handed out. -/
theorem draws_in_order (s : σ) (calls : List Call) :
    let b := (ofSource s).after calls
    let r := (recording s).after calls
    (∃ pulls, b.source = Source.after s pulls ∧
        ∀ more, Source.given s (pulls + more) =
          ((ofSource s).handed calls).filterMap id ++ b.queue ++ Source.given b.source more) ∧
      ((recording s).trace calls = (ofSource s).trace calls ∧
        ∀ call : Call, ∃ drawn, (call.apply r).2.source.log = r.source.log ++ drawn ∧
          (call.apply r).1.Tells (drawn.countP Option.isNone)) ∧
      ∀ (n : Nat) (t : Token), (b.peek n).1 = some t →
        ∀ later : List Call, later.count .next = n + 1 →
          ∃ items : List Token, items.length = n ∧
            (b.peek n).2.handed later = (items ++ [t]).map some := by
  intro b r
  refine ⟨?_, ⟨(trace_withoutLog _ calls).symm, fun call => ?_⟩, fun n t hseen later hlater => ?_⟩
  · obtain ⟨drawn, hdraws⟩ := (ofSource s).after_draws calls
    have hsource : b.source = Source.after s drawn.length := hdraws.source
    have hgiven : Source.given s drawn.length = drawn.filterMap id :=
      congrArg (List.filterMap id) hdraws.answered.symm
    refine ⟨drawn.length, hsource, fun more => ?_⟩
    rw [Source.given_add, hgiven, ← hsource]
    exact congrArg (· ++ Source.given b.source more) hdraws.kept
  · obtain ⟨drawn, hdraws, htells⟩ := call.apply_draws r
    exact ⟨drawn, hdraws.log_eq, htells⟩
  · exact handed_of_waiting hseen hlater

/-- a token behind a gap is seen at the second try, and comes out after the one before the gap -/
theorem draws_in_order_gap :
    let a : Token := ⟨.identifier, ['A']⟩
    let b : Token := ⟨.definition, definitionMarker⟩
    let s : List (Option Token) := [some a, none, some b]
    ((ofSource s).after [.peek 1]).queue = [a] ∧
      (((ofSource s).after [.peek 1]).peek 1).1 = some b ∧
      [Call.next, .peek 7, .next].count .next = 2 ∧
      ∃ items : List Token, items.length = 1 ∧
        (((ofSource s).after [.peek 1]).peek 1).2.handed [.next, .peek 7, .next] =
          (items ++ [b]).map some := by
  intro a b s
  have hseen : (((ofSource s).after [.peek 1]).peek 1).1 = some b := by decide
  have hcount : [Call.next, .peek 7, .next].count .next = 2 := by decide
  obtain ⟨-, -, hturn⟩ := draws_in_order s [.peek 1]
  exact ⟨by decide, hseen, hcount, hturn 1 b hseen _ hcount⟩

end Lookahead

end Stanza
