import Stanza.Text.Basic

/-! Runs of characters of one sort. A run is taken whole where what is behind it does not go on with
it, and nothing of that sort that begins where it begins is longer. -/

namespace Stanza

/-- a run of `p` ends where `r` begins -/
def EndsRun (p : Char → Bool) (r : Text) : Prop := ∀ c ∈ r.head?, p c = false

theorem endsRun_dropWhile (p : Char → Bool) (t : Text) : EndsRun p (t.dropWhile p) := by
  intro c hc
  have h := List.head?_dropWhile_not p t
  rw [Option.mem_def.1 hc] at h
  exact h

theorem takeWhile_eq_nil {p : Char → Bool} {r : Text} (hr : EndsRun p r) : r.takeWhile p = [] := by
  cases r with
  | nil => rfl
  | cons c r => exact List.takeWhile_cons_of_neg (by simpa using hr c rfl)

theorem dropWhile_eq_self {p : Char → Bool} {r : Text} (hr : EndsRun p r) : r.dropWhile p = r := by
  cases r with
  | nil => rfl
  | cons c r => exact List.dropWhile_cons_of_neg (by simpa using hr c rfl)

theorem takeWhile_run {p : Char → Bool} {run r : Text} (h : ∀ c ∈ run, p c = true)
    (hr : EndsRun p r) : (run ++ r).takeWhile p = run := by
  rw [List.takeWhile_append_of_pos h, takeWhile_eq_nil hr, List.append_nil]

theorem dropWhile_run {p : Char → Bool} {run r : Text} (h : ∀ c ∈ run, p c = true)
    (hr : EndsRun p r) : (run ++ r).dropWhile p = r := by
  rw [List.dropWhile_append_of_pos h, dropWhile_eq_self hr]

/-- a maximal run of `p` before `r`, except that there may be more of it on its left -/
def IsRun (p : Char → Bool) (run r : Text) : Prop :=
  run ≠ [] ∧ (∀ c ∈ run, p c = true) ∧ EndsRun p r

theorem isRun_takeWhile {p : Char → Bool} {c : Char} (hc : p c = true) (rest : Text) :
    IsRun p (c :: rest.takeWhile p) (rest.dropWhile p) := by
  refine ⟨List.cons_ne_nil _ _, ?_, endsRun_dropWhile p rest⟩
  intro d hd
  rcases List.mem_cons.1 hd with rfl | hd
  · exact hc
  · exact List.all_eq_true.1 List.all_takeWhile d hd

theorem EndsRun.append {p : Char → Bool} {r : Text} (h : EndsRun p r) (hr : r ≠ []) (b : Text) :
    EndsRun p (r ++ b) := by
  cases r with
  | nil => exact absurd rfl hr
  | cons c r => exact h

theorem EndsRun.shorten {p : Char → Bool} {r b : Text} (h : EndsRun p (r ++ b)) :
    EndsRun p r := by
  cases r with
  | nil => simp [EndsRun]
  | cons c r => exact h

/-- no part of a text that begins a run reaches past the run -/
theorem IsRun.prefix_of_prefix {p : Char → Bool} {run r m : Text} (h : IsRun p run r)
    (hm : ∀ c ∈ m, p c = true) (hp : m <+: run ++ r) : m <+: run := by
  rcases List.prefix_or_prefix_of_prefix hp (List.prefix_append run r) with h' | ⟨x, rfl⟩
  · exact h'
  · cases x with
    | nil => simp
    | cons c x =>
      obtain ⟨y, rfl⟩ := (List.prefix_append_right_inj run).1 hp
      have hc := h.2.2 c rfl
      rw [hm c (by simp)] at hc
      cases hc

theorem IsRun.longest {p : Char → Bool} {run r m : Text} (h : IsRun p run r)
    (hm : ∀ c ∈ m, p c = true) (hp : m <+: run ++ r) : m.length < run.length ∨ m = run := by
  have hle := h.prefix_of_prefix hm hp
  rcases Nat.lt_or_eq_of_le hle.length_le with hlt | heq
  · exact Or.inl hlt
  · exact Or.inr (hle.eq_of_length heq)

end Stanza
