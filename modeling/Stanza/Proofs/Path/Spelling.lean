import Mathlib.Data.List.Basic
import Stanza.Path.Expansion
import Stanza.Proofs.Text.Run

/-! Paths spelled piece by piece. The scanner finds the pieces again wherever they stand: braces
end at the first closing one, a default begins at the first `:-`, and a bare name ends where no
more of it can follow. So a path is expanded by replacing each of its pieces, and what a variable
holds is never looked at again. -/

namespace Stanza.Expansion

def isVariableChar (c : Char) : Bool := c.isAlphanum || c = '_'

/-- a name of a variable: ASCII letters, digits and underscores -/
structure Variable where
  name : Text
  ne_nil : name ≠ []
  plain : ∀ c ∈ name, isVariableChar c = true

inductive Piece where
  | plain (t : Text) (h : '$' ∉ t)
  | dollar
  | braced (v : Variable)
  | defaulted (v : Variable) (fallback : Text) (h : '}' ∉ fallback)
  | bare (v : Variable)

namespace Piece

def spelling : Piece → Text
  | plain t _ => t
  | dollar => ['$', '$']
  | braced v => ['$', '{'] ++ v.name ++ ['}']
  | defaulted v fallback _ => ['$', '{'] ++ v.name ++ [':', '-'] ++ fallback ++ ['}']
  | bare v => '$' :: v.name

def needed? : Piece → Option Variable
  | braced v | bare v => some v
  | plain _ _ | dollar | defaulted _ _ _ => none

/-- the variable that has to be set is not -/
def Unset (env : Environment) (p : Piece) : Prop := ∃ v ∈ p.needed?, env.get? v.name = none

instance (env : Environment) (p : Piece) : Decidable (p.Unset env) :=
  decidable_of_iff (p.needed?.any fun v => (env.get? v.name).isNone) (by simp [Unset, Option.any_eq_true])

def replacement (env : Environment) : Piece → Text
  | plain t _ => t
  | dollar => ['$']
  | braced v | bare v => (env.get? v.name).getD []
  | defaulted v fallback _ => (env.get? v.name).getD fallback

def parts : Piece → List Part
  | plain t _ => t.map .char
  | dollar => [.char '$']
  | braced v | bare v => [.named v.name none]
  | defaulted v fallback _ => [.named v.name (some fallback)]

end Piece

def spelling (ps : List Piece) : Text := ps.flatMap Piece.spelling

/-- No bare name runs on into what follows it. -/
def Apart : List Piece → Prop
  | [] => True
  | .bare _ :: ps => EndsRun isNameChar (spelling ps) ∧ Apart ps
  | _ :: ps => Apart ps

def doubled (path : Text) : Text := path.flatMap fun c => if c = '$' then ['$', '$'] else [c]

theorem toNat_lt_of_isVariableChar {c : Char} (h : isVariableChar c = true) : c.toNat < 128 := by
  have hclasses : (((c.isUpper || c.isLower) || c.isDigit) || decide (c = '_')) = true := h
  simp only [Bool.or_eq_true, decide_eq_true_eq] at hclasses
  rcases hclasses with ((hupper | hlower) | hdigit) | rfl
  · have hle : c.toNat ≤ 'Z'.toNat := (of_decide_eq_true hupper).2
    exact Nat.lt_of_le_of_lt hle (by decide)
  · have hle : c.toNat ≤ 'z'.toNat := of_decide_eq_true (Bool.and_eq_true_iff.1 hlower).2
    exact Nat.lt_of_le_of_lt hle (by decide)
  · have hle : c.toNat ≤ '9'.toNat := of_decide_eq_true (Bool.and_eq_true_iff.1 hdigit).2
    exact Nat.lt_of_le_of_lt hle (by decide)
  · decide

theorem isNameChar_of_isVariableChar {c : Char} (h : isVariableChar c = true) :
    isNameChar c = true := by
  have hascii : ∀ n < 128, isVariableChar (Char.ofNat n) = true → isNameChar (Char.ofNat n) = true := by
    decide +kernel
  have hself := hascii c.toNat (toNat_lt_of_isVariableChar h)
  rw [Char.ofNat_toNat] at hself
  exact hself h

theorem Variable.not_mem (v : Variable) {c : Char} (hc : isVariableChar c = false) :
    c ∉ v.name := by
  intro hmem
  rw [v.plain c hmem] at hc
  cases hc

theorem Variable.isNameChar (v : Variable) : ∀ c ∈ v.name, isNameChar c = true :=
  fun c hc => isNameChar_of_isVariableChar (v.plain c hc)

theorem cutAt_append {c : Char} {inside : Text} (h : c ∉ inside) (after : Text) :
    cutAt c (inside ++ c :: after) = some (inside, after) := by
  induction inside with
  | nil => simp [cutAt]
  | cons d inside ih =>
    rw [List.mem_cons, not_or] at h
    rw [List.cons_append, cutAt, if_neg (Ne.symm h.1), ih h.2]
    rfl

theorem cutAtDefault_cons {c : Char} (h : c ≠ ':') (t : Text) :
    cutAtDefault (c :: t) = (cutAtDefault t).map fun cut => (c :: cut.1, cut.2) := by
  rw [cutAtDefault]
  intro t' heq
  exact absurd heq h

theorem cutAtDefault_eq_none {t : Text} (h : ':' ∉ t) : cutAtDefault t = none := by
  induction t with
  | nil => rfl
  | cons c t ih =>
    rw [List.mem_cons, not_or] at h
    rw [cutAtDefault_cons (Ne.symm h.1), ih h.2]
    rfl

/-- A default begins at the first place where it can, whatever it holds itself. -/
theorem cutAtDefault_append {t : Text} (h : ':' ∉ t) (fallback : Text) :
    cutAtDefault (t ++ ':' :: '-' :: fallback) = some (t, fallback) := by
  induction t with
  | nil => rfl
  | cons c t ih =>
    rw [List.mem_cons, not_or] at h
    rw [List.cons_append, cutAtDefault_cons (Ne.symm h.1), ih h.2]
    rfl

theorem braced_name (v : Variable) : Expansion.braced v.name = .named v.name none := by
  have hcut := cutAtDefault_eq_none (v.not_mem (c := ':') (by decide))
  rw [Expansion.braced, hcut]

theorem braced_default (v : Variable) (fallback : Text) :
    Expansion.braced (v.name ++ ':' :: '-' :: fallback) = .named v.name (some fallback) := by
  have hcut := cutAtDefault_append (v.not_mem (c := ':') (by decide)) fallback
  obtain ⟨c, name, hname⟩ := List.exists_cons_of_ne_nil v.ne_nil
  rw [Expansion.braced, hcut, hname]

theorem parts_nil : parts [] = [] := by rw [parts]

theorem parts_cons {c : Char} (h : c ≠ '$') (t : Text) : parts (c :: t) = .char c :: parts t := by
  rw [parts]
  · intro t' heq
    exact absurd heq h
  · intro t' heq
    exact absurd heq h
  · intro d t' heq
    exact absurd heq h

theorem parts_dollar (t : Text) : parts ('$' :: '$' :: t) = .char '$' :: parts t := by rw [parts]

theorem parts_braces {inside : Text} (h : '}' ∉ inside) (t : Text) :
    parts ('$' :: '{' :: (inside ++ '}' :: t)) = Expansion.braced inside :: parts t := by
  have hcut := cutAt_append h t
  rw [parts]
  split
  · next hnone =>
    rw [hcut] at hnone
    cases hnone
  · next inside' after hsome =>
    rw [hcut] at hsome
    cases hsome
    rfl

theorem parts_name {name t : Text} (hne : name ≠ []) (hname : ∀ c ∈ name, isNameChar c = true)
    (hends : EndsRun isNameChar t) :
    parts ('$' :: (name ++ t)) = .named name none :: parts t := by
  obtain ⟨c, name, rfl⟩ := List.exists_cons_of_ne_nil hne
  obtain ⟨hc, hname⟩ := List.forall_mem_cons.1 hname
  have hdollar : c ≠ '$' := by
    rintro rfl
    exact absurd hc (by decide)
  have hbrace : c ≠ '{' := by
    rintro rfl
    exact absurd hc (by decide)
  rw [List.cons_append, parts, if_pos hc, takeWhile_run hname hends, dropWhile_run hname hends]
  · exact hdollar
  · exact hbrace

/-- The scanner makes its parts of a piece, whatever stands behind it. -/
theorem Piece.parts_spelling_append {p : Piece} {t : Text} (h : ∀ v, p = .bare v → EndsRun isNameChar t) :
    Expansion.parts (p.spelling ++ t) = p.parts ++ Expansion.parts t := by
  cases p with
  | plain s hs =>
    induction s with
    | nil => rfl
    | cons c s ih =>
      rw [List.mem_cons, not_or] at hs
      have hrest := ih hs.2 nofun
      rw [spelling, Piece.parts] at hrest ⊢
      rw [List.cons_append, parts_cons (Ne.symm hs.1), hrest, List.map_cons, List.cons_append]
  | dollar => exact parts_dollar t
  | braced v =>
    have hbraces := parts_braces (v.not_mem (c := '}') (by decide)) t
    rw [braced_name] at hbraces
    simpa [spelling, Piece.parts] using hbraces
  | defaulted v fallback hfallback =>
    have hname : '}' ∉ v.name := v.not_mem (by decide)
    have hinside : '}' ∉ v.name ++ ':' :: '-' :: fallback := by simp [hname, hfallback]
    have hbraces := parts_braces hinside t
    rw [braced_default] at hbraces
    simpa [spelling, Piece.parts] using hbraces
  | bare v => exact parts_name v.ne_nil v.isNameChar (h v rfl)

theorem parts_spelling {ps : List Piece} (h : Apart ps) : parts (spelling ps) = ps.flatMap Piece.parts := by
  induction ps with
  | nil => exact parts_nil
  | cons p ps ih =>
    have hparts (hp : ∀ v, p = .bare v → EndsRun isNameChar (spelling ps)) (hps : Apart ps) :
        parts (spelling (p :: ps)) = (p :: ps).flatMap Piece.parts := by
      rw [List.flatMap_cons, ← ih hps]
      exact p.parts_spelling_append hp
    cases p with
    | bare v => exact hparts (fun _ _ => h.1) h.2
    | _ => exact hparts nofun h

section Replacing

variable (env : Environment)

def replaced (ps : List Part) : Option Text := (ps.mapM (Part.value env)).map List.flatten

theorem replaced_append (ps qs : List Part) :
    replaced env (ps ++ qs) =
      (replaced env ps).bind fun t => (replaced env qs).map fun u => t ++ u := by
  unfold replaced
  rw [List.mapM_append]
  cases ps.mapM (Part.value env) with
  | none => rfl
  | some ts => cases qs.mapM (Part.value env) <;> simp

theorem replaced_chars (t : Text) : replaced env (t.map .char) = some t := by
  induction t with
  | nil => rfl
  | cons c t ih =>
    have hcons := replaced_append env [.char c] (t.map .char)
    rw [ih] at hcons
    simpa [replaced, Part.value] using hcons

theorem replaced_named (name : Text) (fallback : Option Text) :
    replaced env [.named name fallback] = (env.get? name).or fallback := by
  unfold replaced
  rw [List.mapM_cons, List.mapM_nil, Part.value]
  cases (env.get? name).or fallback <;> simp

theorem Piece.replaced_parts (p : Piece) :
    replaced env p.parts = if p.Unset env then none else some (p.replacement env) := by
  have hvariable (v : Variable) : replaced env [.named v.name none] =
      if env.get? v.name = none then none else some ((env.get? v.name).getD []) := by
    rw [replaced_named]
    cases env.get? v.name <;> rfl
  cases p with
  | plain t h => simp [parts, Unset, needed?, replacement, replaced_chars]
  | dollar =>
    have hchar : replaced env [.char '$'] = some ['$'] := replaced_chars env ['$']
    simp [parts, Unset, needed?, replacement, hchar]
  | braced v => simp [parts, Unset, needed?, replacement, hvariable]
  | defaulted v fallback h =>
    rw [parts, replaced_named]
    cases hv : env.get? v.name <;> simp [Unset, needed?, replacement, hv]
  | bare v => simp [parts, Unset, needed?, replacement, hvariable]

theorem replaced_pieces (ps : List Piece) :
    replaced env (ps.flatMap Piece.parts) =
      if ∃ p ∈ ps, p.Unset env then none else some (ps.flatMap (Piece.replacement env)) := by
  induction ps with
  | nil => rfl
  | cons p ps ih =>
    simp only [List.flatMap_cons, replaced_append, p.replaced_parts, ih, List.exists_mem_cons_iff]
    by_cases hp : p.Unset env
    · simp [hp]
    · by_cases hps : ∃ q ∈ ps, q.Unset env
      · simp only [hp, hps, or_true, if_true, if_false, Option.bind_some, Option.map_none]
      · simp only [hp, hps, or_self, if_false, Option.bind_some, Option.map_some]

theorem substitute_spelling {ps : List Piece} (h : Apart ps) :
    substitute env (spelling ps) =
      if ∃ p ∈ ps, p.Unset env then none else some (ps.flatMap (Piece.replacement env)) := by
  rw [← replaced_pieces, ← parts_spelling h]
  rfl

/-- A path that does not begin with a tilde is only substituted: a tilde that stands in front
afterwards came out of a variable. -/
theorem expand_of_head? {path : Text} (h : path.head? ≠ some '~') :
    expand env path = substitute env path := by
  simp [expand, h]

theorem parts_doubled (path : Text) : parts (doubled path) = path.map .char := by
  induction path with
  | nil => exact parts_nil
  | cons c path ih =>
    rw [doubled] at ih ⊢
    rw [List.flatMap_cons]
    split
    · next hc =>
      subst hc
      exact (parts_dollar _).trans (congrArg (_ :: ·) ih)
    · next hc => exact (parts_cons hc _).trans (congrArg (_ :: ·) ih)

theorem head?_doubled (path : Text) : (doubled path).head? = path.head? := by
  cases path with
  | nil => rfl
  | cons c path =>
    rw [doubled, List.flatMap_cons]
    split
    · next hc => exact congrArg some hc.symm
    · rfl

/-- Expanding replaces the pieces of a path one by one. It fails just when a variable that has to be
set is not. Otherwise the plain texts stay, two dollars become one, and a variable gives what it
holds and nothing more, or its default if it is not set. So a path with each dollar written twice
stands for itself. -/
theorem expand_spelling :
    (∀ ps : List Piece, Apart ps → (spelling ps).head? ≠ some '~' →
      (expand env (spelling ps) = none ↔ ∃ p ∈ ps, p.Unset env) ∧
        ((∀ p ∈ ps, ¬ p.Unset env) →
          expand env (spelling ps) = some (ps.flatMap (Piece.replacement env)))) ∧
      ∀ path : Text, path.head? ≠ some '~' → expand env (doubled path) = some path := by
  refine ⟨fun ps hapart htilde => ?_, fun path htilde => ?_⟩
  · rw [expand_of_head? env htilde, substitute_spelling env hapart]
    constructor
    · rw [ite_eq_left_iff]
      exact ⟨fun h => Decidable.of_not_not fun hset => absurd (h hset) nofun, fun h hset => absurd h hset⟩
    · intro hset
      have hnone : ¬ ∃ p ∈ ps, p.Unset env := fun ⟨p, hp, hunset⟩ => hset p hp hunset
      rw [if_neg hnone]
  · have hhead : (doubled path).head? ≠ some '~' := by rwa [head?_doubled]
    have hchars := replaced_chars env path
    rw [← parts_doubled] at hchars
    exact (expand_of_head? env hhead).trans hchars

end Replacing

/-- A value that is written like variables and a home, one that is empty, and a default that is
written like a variable with a default. -/
theorem expand_spelling_values :
    let a : Variable := ⟨"A_1".toList, by decide, List.all_eq_true.1 (by decide)⟩
    let e : Variable := ⟨"E".toList, by decide, List.all_eq_true.1 (by decide)⟩
    let u : Variable := ⟨"U".toList, by decide, List.all_eq_true.1 (by decide)⟩
    let env : Environment := [(a.name, "~/$U$\x7bU\x7d".toList), (e.name, [])]
    let ps : List Piece := [.bare a, .dollar, .plain "\x7bé".toList (by decide),
      .defaulted e ['d'] (by decide), .defaulted u "$A_1:-".toList (by decide), .braced a]
    Apart ps ∧ (spelling ps).head? ≠ some '~' ∧ (∀ p ∈ ps, ¬ p.Unset env) ∧
      spelling ps = "$A_1$$\x7bé$\x7bE:-d\x7d$\x7bU:-$A_1:-\x7d$\x7bA_1\x7d".toList ∧
      expand env (spelling ps) = some "~/$U$\x7bU\x7d$\x7bé$A_1:-~/$U$\x7bU\x7d".toList ∧
      expand env (spelling (.braced u :: ps)) = none ∧
      expand env (doubled "$A_1/$\x7bU\x7d".toList) = some "$A_1/$\x7bU\x7d".toList := by
  intro a e u env ps
  have hapart : Apart ps := ⟨fun c hc => by cases hc; decide, trivial⟩
  have hset : ∀ p ∈ ps, ¬ p.Unset env := by decide
  obtain ⟨hpieces, hdoubled⟩ := expand_spelling env
  have hexpand := (hpieces ps hapart (by decide)).2 hset
  have hunset : ∃ p ∈ Piece.braced u :: ps, p.Unset env :=
    ⟨_, List.mem_cons_self, by decide⟩
  exact ⟨hapart, by decide, hset, by decide, hexpand.trans (by decide),
    (hpieces (.braced u :: ps) hapart (by decide)).1.2 hunset, hdoubled _ (by decide)⟩

end Stanza.Expansion
