import Stanza.Environment
import Stanza.Text.Alphanumeric

/-! Expanding a path that a user wrote: variables by their values, and a leading tilde by the
home directory. The path is cut into parts first and the parts are replaced one by one, so a value
is put in as it is and not expanded again. -/

namespace Stanza.Expansion

/-- A part of a path: a character that stays, or a variable, perhaps with a text to take if it is
not set. -/
inductive Part where
  | char (c : Char)
  | named (name : Text) (fallback : Option Text)
  deriving DecidableEq

def Part.value (env : Environment) : Part → Option Text
  | char c => some [c]
  | named name fallback => (env.get? name).or fallback

def Part.name? : Part → Option Text
  | char _ => none
  | named name _ => some name

/-- The characters of the name of a variable that stands without braces. -/
def isNameChar (c : Char) : Bool := c = '_' || Text.isAlphanumeric c

def cutAt (c : Char) : Text → Option (Text × Text)
  | [] => none
  | d :: t =>
    if d = c then some ([], t) else (cutAt c t).map fun (before, after) => (d :: before, after)

def cutAtDefault : Text → Option (Text × Text)
  | [] => none
  | ':' :: '-' :: t => some ([], t)
  | d :: t => (cutAtDefault t).map fun (before, after) => (d :: before, after)

/-- The variable that stands in braces. A default needs a name before it. -/
def braced (inside : Text) : Part :=
  match cutAtDefault inside with
  | some (c :: name, fallback) => .named (c :: name) (some fallback)
  | _ => .named inside none

theorem length_cutAt_lt {c : Char} {t before after : Text} (h : cutAt c t = some (before, after)) :
    after.length < t.length := by
  induction t generalizing before after with
  | nil => simp [cutAt] at h
  | cons d t ih =>
    unfold cutAt at h
    split at h
    · simp only [Option.some.injEq, Prod.mk.injEq] at h
      simp [← h.2]
    · obtain ⟨⟨b, a⟩, hba, heq⟩ := Option.map_eq_some_iff.1 h
      simp only [Prod.mk.injEq] at heq
      have := ih hba
      simp only [List.length_cons, ← heq.2]
      omega

/-- The parts of a path. Two dollars stand for one. A dollar that begins neither a name nor closed
braces stays. -/
def parts : Text → List Part
  | [] => []
  | '$' :: '$' :: t => .char '$' :: parts t
  | '$' :: '{' :: t =>
    match h : cutAt '}' t with
    | none => .char '$' :: .char '{' :: parts t
    | some (inside, after) =>
      have := length_cutAt_lt h
      braced inside :: parts after
  | '$' :: c :: t =>
    if isNameChar c then
      .named (c :: t.takeWhile isNameChar) none :: parts (t.dropWhile isNameChar)
    else .char '$' :: parts (c :: t)
  | c :: t => .char c :: parts t
termination_by t => t.length
decreasing_by
  · simp only [List.length_cons]; omega
  · simp only [List.length_cons]; omega
  · simp only [List.length_cons]; omega
  · have := (List.dropWhile_suffix (l := t) isNameChar).length_le
    simp only [List.length_cons]
    omega
  · simp only [List.length_cons]; omega
  · simp only [List.length_cons]; omega

def names (path : Text) : List Text := (parts path).filterMap Part.name?

def substitute (env : Environment) (path : Text) : Option Text :=
  ((parts path).mapM (Part.value env)).map List.flatten

/-- The text with a tilde at its beginning replaced, if it stands alone or before a slash. -/
def tilde (env : Environment) (t : Text) : Text :=
  match t, env.home? with
  | ['~'], some home => home
  | '~' :: '/' :: rest, some home => home ++ '/' :: rest
  | t, _ => t

/-- The expanded path; nothing if a variable is not set. A tilde that comes out of a variable
stays. -/
def expand (env : Environment) (path : Text) : Option Text :=
  (substitute env path).map fun t => if path.head? = some '~' then tilde env t else t

end Stanza.Expansion
