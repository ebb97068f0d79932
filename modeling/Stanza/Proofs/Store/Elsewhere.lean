import Stanza.Proofs.Store.Growth

/-! Trees of files that differ at one place. A path has to do with a place if it leads there or
through it. If there is a file at the place in both trees, a path that leads through it fails in
both for the same reason. What is read at any other path is the same in both. -/

namespace Stanza.Store

/-- `s'` is `s` but for what is at one place -/
structure SameBut (l : Location) (s s' : Store) : Prop where
  working : s'.working = s.working
  get? : ∀ m, m ≠ l → s'.get? m = s.get? m

/-- The places that names lead through, as far as they lead. -/
def along (s : Store) (l : Location) : List Text → List Location
  | [] => [l]
  | name :: names =>
    match s.enter l name with
    | .ok m => l :: along s m names
    | .error _ => [l]

def passes (s : Store) (path : Text) : List Location :=
  if (malformed? path).isSome then [] else s.along (s.start path) (names path)

/-- The path has nothing to do with what is at the place: it does not lead to the file that is there
in both trees, or it does not lead through the place in either. -/
def Beside (l : Location) (path : Text) (s s' : Store) : Prop :=
  ((s.file? l).isSome = true ∧ (s'.file? l).isSome = true ∧ s.locate path ≠ .ok l) ∨
    (l ∉ s.passes path ∧ l ∉ s'.passes path)

variable {s s' : Store} {l m : Location} {path : Text}

theorem sameBut_put {e : Entry} (hl : l ≠ []) : SameBut l s (s.put l e) :=
  ⟨rfl, fun m hm => by rw [get?_put s l m e hl, if_neg hm]⟩

theorem SameBut.symm (h : SameBut l s s') : SameBut l s' s :=
  ⟨h.working.symm, fun m hm => (h.get? m hm).symm⟩

theorem SameBut.start (h : SameBut l s s') (path : Text) : s'.start path = s.start path := by
  rw [Store.start, Store.start, h.working]

theorem SameBut.isDirectory (h : SameBut l s s') (hm : m ≠ l) :
    s'.isDirectory m = s.isDirectory m := by
  rw [Store.isDirectory, Store.isDirectory, h.get? m hm]

theorem mem_along (s : Store) (m : Location) (names : List Text) : m ∈ s.along m names := by
  cases names with
  | nil => exact List.mem_singleton_self m
  | cons name names =>
    rw [along]
    split <;> exact List.mem_cons_self

theorem mem_along_cons {s : Store} {m k l : Location} {name : Text} {names : List Text}
    (hstep : s.enter m name = .ok k) (hl : l ∈ s.along k names) : l ∈ s.along m (name :: names) := by
  simp only [along, hstep]
  exact List.mem_cons_of_mem m hl

/-- A step from another place to another place does not look at the one that differs. -/
theorem SameBut.enter_eq (h : SameBut l s s') {name : Text} (hm : m ≠ l)
    (hs : s.enter m name ≠ .ok l) (hs' : s'.enter m name ≠ .ok l) :
    s'.enter m name = s.enter m name := by
  have hdir := h.isDirectory hm
  have hnone {t : Store} (hplace : name :: m = l) (ht : t.isDirectory m = true)
      (hname : IsEntryName name) (hout : t.enter m name ≠ .ok l) :
      (t.get? (name :: m)).isNone = true := by
    cases hget : t.get? (name :: m) with
    | none => rfl
    | some e =>
      rw [← hplace] at hout
      exact absurd (enter_named ht hname (by rw [hget]; rfl)) hout
  have hthere (hd : s.isDirectory m = true) (hname : IsEntryName name) :
      (s'.get? (name :: m)).isNone = (s.get? (name :: m)).isNone := by
    by_cases hplace : name :: m = l
    · rw [hnone hplace hd hname hs, hnone hplace (hdir.trans hd) hname hs']
    · rw [h.get? _ hplace]
  rw [enter, enter, hdir]
  by_cases hd : s.isDirectory m = true
  · by_cases hname : IsEntryName name
    · rw [hthere hd hname]
    · by_cases hhere : name = ['.']
      · simp only [if_pos hhere]
      by_cases hout : name = ['.', '.']
      · simp only [if_pos hout]
      have hlong : nameLimit < name.byteLength :=
        Nat.lt_of_not_le fun hshort => hname ⟨hhere, hout, hshort⟩
      simp only [if_pos hlong]
  · simp only [Bool.not_eq_true] at hd
    simp only [hd, Bool.not_false, if_true]

/-- Names that lead through other places only lead to the same place in both trees. -/
theorem SameBut.foldlM_enter (h : SameBut l s s') {names : List Text} (hm : l ∉ s.along m names)
    (hm' : l ∉ s'.along m names) : names.foldlM s'.enter m = names.foldlM s.enter m := by
  induction names generalizing m with
  | nil => rfl
  | cons name names ih =>
    have hne : m ≠ l := fun heq => hm (heq ▸ mem_along s m _)
    have hs : s.enter m name ≠ .ok l := fun hstep => hm (mem_along_cons hstep (mem_along s l _))
    have hs' : s'.enter m name ≠ .ok l :=
      fun hstep => hm' (mem_along_cons hstep (mem_along s' l _))
    have henter := h.enter_eq hne hs hs'
    rw [List.foldlM_cons, List.foldlM_cons, henter]
    cases hstep : s.enter m name with
    | error e => rfl
    | ok k =>
      exact ih (fun hk => hm (mem_along_cons hstep hk))
        (fun hk => hm' (mem_along_cons (henter.trans hstep) hk))

theorem mem_along_of_foldlM {names : List Text} {k : Location}
    (h : names.foldlM s.enter m = .ok k) : k ∈ s.along m names := by
  induction names generalizing m with
  | nil =>
    obtain rfl : m = k := Except.ok.inj h
    exact mem_along s m []
  | cons name names ih =>
    rw [List.foldlM_cons, bind_eq_ok_iff] at h
    obtain ⟨m', hstep, hrest⟩ := h
    exact mem_along_cons hstep (ih hrest)

theorem locate_congr
    (h : malformed? path = none →
      (names path).foldlM s'.enter (s'.start path) = (names path).foldlM s.enter (s.start path) ∧
        ∀ k, (names path).foldlM s.enter (s.start path) = .ok k →
          s'.isDirectory k = s.isDirectory k) :
    s'.locate path = s.locate path := by
  unfold locate
  cases hmalformed : malformed? path with
  | some e => rfl
  | none =>
    obtain ⟨hfold, hdir⟩ := h hmalformed
    simp only [hfold]
    cases hk : (names path).foldlM s.enter (s.start path) with
    | error e => rfl
    | ok k =>
      simp only [bind, Except.bind, hdir k hk]

theorem reading_congr (hlocate : s'.locate path = s.locate path)
    (hget : ∀ k, s.locate path = .ok k → s'.get? k = s.get? k) :
    s'.reading path = s.reading path := by
  unfold reading readBytes
  rw [hlocate]
  cases hk : s.locate path with
  | error e => rfl
  | ok k => simp only [bind, Except.bind, hget k hk]

theorem SameBut.reading_of_passes (h : SameBut l s s') (hs : l ∉ s.passes path)
    (hs' : l ∉ s'.passes path) : s'.reading path = s.reading path := by
  have hfold (hmalformed : malformed? path = none) :
      l ∉ s.along (s.start path) (names path) ∧ l ∉ s'.along (s.start path) (names path) := by
    rw [passes, hmalformed] at hs hs'
    rw [h.start] at hs'
    exact ⟨hs, hs'⟩
  refine reading_congr (locate_congr fun hmalformed => ?_) ?_
  · obtain ⟨hs, hs'⟩ := hfold hmalformed
    rw [h.start]
    refine ⟨h.foldlM_enter hs hs', fun k hk => h.isDirectory ?_⟩
    rintro rfl
    exact hs (mem_along_of_foldlM hk)
  · intro k hk
    obtain ⟨hmalformed, hk, -⟩ := locate_eq_ok_iff.1 hk
    refine h.get? k ?_
    rintro rfl
    exact (hfold hmalformed).1 (mem_along_of_foldlM hk)

/-- If there is a file in both trees where they differ, a path denotes the same place in both. -/
theorem SameBut.locate_of_files (h : SameBut l s s') (hs : (s.file? l).isSome)
    (hs' : (s'.file? l).isSome) (path : Text) : s'.locate path = s.locate path := by
  have hfile {t : Store} (ht : (t.file? l).isSome) :
      t.isDirectory l = false ∧ (t.get? l).isNone = false := by
    unfold file? at ht
    split at ht
    · next bytes hget => simp [Store.isDirectory, hget]
    · cases ht
  have hdir (m : Location) : s'.isDirectory m = s.isDirectory m := by
    by_cases hm : m = l
    · rw [hm, (hfile hs).1, (hfile hs').1]
    · exact h.isDirectory hm
  have hthere (m : Location) : (s'.get? m).isNone = (s.get? m).isNone := by
    by_cases hm : m = l
    · rw [hm, (hfile hs).2, (hfile hs').2]
    · rw [h.get? m hm]
  have henter : s'.enter = s.enter := by
    funext m name
    simp only [enter, hdir, hthere]
  refine locate_congr fun _ => ⟨?_, fun k _ => hdir k⟩
  rw [henter, h.start]

/-- What is read at a path that has nothing to do with a place is the same whatever is there. -/
theorem SameBut.reading_eq (h : SameBut l s s') (hbeside : Beside l path s s') :
    s'.reading path = s.reading path := by
  rcases hbeside with ⟨hs, hs', hpath⟩ | ⟨hs, hs'⟩
  · refine reading_congr (h.locate_of_files hs hs' path) fun k hk => h.get? k ?_
    rintro rfl
    exact hpath hk
  · exact h.reading_of_passes hs hs'

end Stanza.Store
