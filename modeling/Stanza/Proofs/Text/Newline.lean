import Stanza.Text.Lines

/-! Line endings. Cutting a text into lines and joining these again takes the carriage returns out
of its line endings and the last line ending away. Joining lines that are not empty and hold no part
of a line ending, and cutting again, gives these lines. -/

namespace Stanza.Text

/-- the text with every carriage return and line feed in a row replaced by a line feed -/
def withoutReturns : Text → Text
  | [] => []
  | '\r' :: '\n' :: t => '\n' :: withoutReturns t
  | c :: t => c :: withoutReturns t

/-- the text with every line feed replaced by a carriage return and a line feed -/
def withReturns (t : Text) : Text := t.flatMap fun c => if c = '\n' then ['\r', '\n'] else [c]

theorem withoutReturns_cons {c : Char} {t : Text} (h : c = '\r' → t.head? ≠ some '\n') :
    withoutReturns (c :: t) = c :: withoutReturns t := by
  rw [withoutReturns]
  rintro rest rfl rfl
  exact h rfl rfl

theorem withoutReturns_append {s t : Text} (h : s.getLast? = some '\r' → t.head? ≠ some '\n') :
    withoutReturns (s ++ t) = withoutReturns s ++ withoutReturns t := by
  fun_induction withoutReturns s with
  | case1 => rfl
  | case2 s ih =>
    have hs := ih fun hs => h (by simp [List.getLast?_cons, hs])
    rw [List.cons_append, List.cons_append, withoutReturns, hs, List.cons_append]
  | case3 c s hc ih =>
    have hs := ih fun hs => h (by simp [List.getLast?_cons, hs])
    rw [List.cons_append, withoutReturns_cons, hs, List.cons_append]
    rintro rfl
    cases s with
    | nil => exact h rfl
    | cons d s =>
      rintro ⟨rfl⟩
      exact hc s rfl rfl

theorem withoutReturns_eq_self {t : Text} (h : '\r' ∉ t) : withoutReturns t = t := by
  induction t with
  | nil => rfl
  | cons c t ih =>
    rw [List.mem_cons, not_or] at h
    rw [withoutReturns_cons fun hc => absurd hc.symm h.1, ih h.2]

theorem mem_of_mem_withoutReturns {c : Char} {t : Text} (h : c ∈ withoutReturns t) : c ∈ t := by
  fun_induction withoutReturns t with
  | case1 => exact h
  | case2 t ih =>
    rcases List.mem_cons.1 h with rfl | h
    · simp
    · simp [ih h]
  | case3 d t _ ih =>
    rcases List.mem_cons.1 h with rfl | h
    · simp
    · simp [ih h]

theorem withoutReturns_eq_nil {t : Text} : withoutReturns t = [] ↔ t = [] := by
  fun_cases withoutReturns t <;> simp

theorem getLast?_withoutReturns (t : Text) : (withoutReturns t).getLast? = t.getLast? := by
  fun_induction withoutReturns t with
  | case1 => rfl
  | case2 t ih => simp [List.getLast?_cons, ih]
  | case3 c t _ ih => simp [List.getLast?_cons, ih]

/-- Taking returns out changes the first character only where a line ending begins the text. -/
theorem head?_withoutReturns (t : Text) :
    (withoutReturns t).head? = t.head? ∨
      t.head? = some '\r' ∧ (withoutReturns t).head? = some '\n' := by
  fun_cases withoutReturns t <;> simp

/-- Taking returns out brings no characters together but a line feed and what is before it. -/
theorem prefix_of_prefix_withoutReturns {p t : Text} (hp : '\n' ∉ p)
    (h : p <+: withoutReturns t) : p <+: t := by
  induction p generalizing t with
  | nil => exact List.nil_prefix
  | cons d p ih =>
    rw [List.mem_cons, not_or] at hp
    fun_cases withoutReturns t with
    | case1 => exact h
    | case2 t =>
      rw [withoutReturns, List.cons_prefix_cons] at h
      exact absurd h.1.symm hp.1
    | case3 c t hc =>
      rw [withoutReturns_cons fun hr hn => ?_, List.cons_prefix_cons] at h
      · exact List.cons_prefix_cons.2 ⟨h.1, ih hp.2 h.2⟩
      · obtain ⟨rest, rfl⟩ := List.head?_eq_some_iff.1 hn
        exact hc rest hr rfl

theorem infix_of_infix_withoutReturns {p t : Text} (hp : '\n' ∉ p)
    (h : p <:+: withoutReturns t) : p <:+: t := by
  fun_induction withoutReturns t with
  | case1 => exact h
  | case2 t ih =>
    rcases List.infix_cons_iff.1 h with hpre | hin
    · have hwhole : p <+: withoutReturns ('\r' :: '\n' :: t) := by rwa [withoutReturns]
      exact (prefix_of_prefix_withoutReturns hp hwhole).isInfix
    · exact (ih hin).trans (List.suffix_append ['\r', '\n'] t).isInfix
  | case3 c t hc ih =>
    rcases List.infix_cons_iff.1 h with hpre | hin
    · have hwhole : p <+: withoutReturns (c :: t) := by rwa [withoutReturns]; exact hc
      exact (prefix_of_prefix_withoutReturns hp hwhole).isInfix
    · exact (ih hin).trans (List.suffix_cons c t).isInfix

theorem withoutReturns_withReturns {t : Text} (h : '\r' ∉ t) : withoutReturns (withReturns t) = t := by
  induction t with
  | nil => rfl
  | cons c t ih =>
    rw [List.mem_cons, not_or] at h
    rw [withReturns, List.flatMap_cons, ← withReturns]
    split
    · next hc => rw [hc, List.cons_append, List.cons_append, List.nil_append, withoutReturns, ih h.2]
    · rw [List.singleton_append, withoutReturns_cons fun hr => absurd hr.symm h.1, ih h.2]

theorem getLast?_withReturns (t : Text) : (withReturns t).getLast? = t.getLast? := by
  induction t with
  | nil => rfl
  | cons c t ih =>
    rw [withReturns, List.flatMap_cons, ← withReturns, List.getLast?_append, ih]
    split
    · next hc => cases t <;> simp [List.getLast?_cons, hc]
    · cases t <;> simp [List.getLast?_cons]

def lastNewline (t : Text) : Text := if t.getLast? = some '\n' then ['\n'] else []

theorem lastNewline_cons {c : Char} (h : c ≠ '\n') (t : Text) :
    lastNewline (c :: t) = lastNewline t := by
  cases t <;> simp [lastNewline, h]

theorem lines_eq_nil {t : Text} : lines t = [] ↔ t = [] := by
  fun_cases lines t <;> simp_all

theorem joinLines_nil_cons {ls : List Text} (h : ls ≠ []) :
    joinLines ([] :: ls) = '\n' :: joinLines ls := by
  obtain ⟨l, ls, rfl⟩ := List.exists_cons_of_ne_nil h
  rw [joinLines, List.intercalate_cons_cons]
  rfl

theorem joinLines_cons_cons (c : Char) (l : Text) (ls : List Text) :
    joinLines ((c :: l) :: ls) = c :: joinLines (l :: ls) := by
  cases ls with
  | nil => simp [joinLines]
  | cons m ls => simp [joinLines, List.intercalate_cons_cons]

/-- Joined lines are the text without returns in its line endings, but for a line feed at its end. -/
theorem joinLines_lines (t : Text) : joinLines (lines t) ++ lastNewline t = withoutReturns t := by
  have hfeed {t : Text} (ih : joinLines (lines t) ++ lastNewline t = withoutReturns t) :
      joinLines ([] :: lines t) ++ lastNewline ('\n' :: t) = '\n' :: withoutReturns t := by
    by_cases ht : t = []
    · rw [ht]
      rfl
    · obtain ⟨c, rest, rfl⟩ := List.exists_cons_of_ne_nil ht
      rw [joinLines_nil_cons (mt lines_eq_nil.1 ht), ← ih]
      rfl
  fun_induction lines t with
  | case1 => rfl
  | case2 t ih => rw [hfeed ih, withoutReturns_cons (by simp)]
  | case3 t ih =>
    rw [withoutReturns, ← hfeed ih]
    rfl
  | case4 c t hc hreturn ht ih =>
    obtain rfl := lines_eq_nil.1 ht
    rw [lastNewline_cons hc, withoutReturns_cons (by simp)]
    rfl
  | case5 c t hc hreturn l ls ht ih =>
    rw [lastNewline_cons hc, withoutReturns_cons, joinLines_cons_cons, ← ht, List.cons_append, ih]
    rintro rfl hn
    obtain ⟨rest, rfl⟩ := List.head?_eq_some_iff.1 hn
    exact hreturn rest rfl rfl

def Unbroken (t : Text) : Prop := ∀ c ∈ t, c ≠ '\n' ∧ c ≠ '\r'

instance (t : Text) : Decidable (Unbroken t) :=
  List.decidableBAll (fun c => c ≠ '\n' ∧ c ≠ '\r') t

theorem unbroken_cons {c : Char} {t : Text} :
    Unbroken (c :: t) ↔ (c ≠ '\n' ∧ c ≠ '\r') ∧ Unbroken t :=
  List.forall_mem_cons

theorem unbroken_append {s t : Text} : Unbroken (s ++ t) ↔ Unbroken s ∧ Unbroken t :=
  List.forall_mem_append

theorem lines_cons_plain {c : Char} (h : c ≠ '\n' ∧ c ≠ '\r') {t line : Text} {rest : List Text}
    (ht : lines t = line :: rest) : lines (c :: t) = (c :: line) :: rest := by
  simp [lines, h, ht]

theorem lines_line {l : Text} (hne : l ≠ []) (h : Unbroken l) : lines l = [l] := by
  induction l with
  | nil => exact absurd rfl hne
  | cons c l ih =>
    obtain ⟨hc, hl⟩ := unbroken_cons.1 h
    by_cases hnil : l = []
    · simp [hnil, lines, hc]
    · exact lines_cons_plain hc (ih hnil hl)

theorem lines_line_append {l : Text} (h : Unbroken l) (t : Text) :
    lines (l ++ '\n' :: t) = l :: lines t := by
  induction l with
  | nil => rfl
  | cons c l ih =>
    obtain ⟨hc, hl⟩ := unbroken_cons.1 h
    exact lines_cons_plain hc (ih hl)

/-- Lines that are not empty and end nowhere inside are the lines of what they are joined to. -/
theorem lines_joinLines {ls : List Text} (h : ∀ l ∈ ls, l ≠ [] ∧ Unbroken l) :
    lines (joinLines ls) = ls := by
  induction ls with
  | nil => rfl
  | cons l ls ih =>
    obtain ⟨⟨hne, hl⟩, hls⟩ := List.forall_mem_cons.1 h
    cases ls with
    | nil => simpa [joinLines] using lines_line hne hl
    | cons m ls =>
      have hjoin : joinLines (l :: m :: ls) = l ++ '\n' :: joinLines (m :: ls) := by
        simp [joinLines, List.intercalate_cons_cons]
      rw [hjoin, lines_line_append hl, ih hls]

end Stanza.Text
