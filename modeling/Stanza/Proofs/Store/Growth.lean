import Stanza.Store.Reading

/-! How a tree of files grows. Nothing is ever taken out of it: a directory stays a directory, a device
a device and a file a file, so what a path denotes it denotes for good. Making directories changes no
file. Saving changes no file but the one that it opens, which the path denotes afterwards. It loses
what that file held even if it fails after that, and what it gives to a device is nowhere kept. -/

namespace Stanza.Store

def file? (s : Store) (l : Location) : Option ByteArray :=
  match s.get? l with
  | some (.file bytes) => some bytes
  | _ => none

theorem get?_eq_file {s : Store} {l : Location} {bytes : ByteArray} (h : s.file? l = some bytes) :
    s.get? l = some (.file bytes) := by
  unfold file? at h
  split at h
  · next hget => rw [hget, Option.some.inj h]
  · cases h

/-- all that is in `s` is in `s'`, though a file may have other bytes -/
structure Grows (s s' : Store) : Prop where
  working : s'.working = s.working
  directories : ∀ l, s.get? l = some .directory → s'.get? l = some .directory
  devices : ∀ l, s.get? l = some .device → s'.get? l = some .device
  files : ∀ l, (s.file? l).isSome → (s'.file? l).isSome

theorem Grows.refl (s : Store) : s.Grows s :=
  ⟨rfl, fun _ h => h, fun _ h => h, fun _ h => h⟩

theorem Grows.trans {a b c : Store} (h : a.Grows b) (h' : b.Grows c) : a.Grows c :=
  ⟨h'.working.trans h.working, fun l hl => h'.directories l (h.directories l hl),
    fun l hl => h'.devices l (h.devices l hl), fun l hl => h'.files l (h.files l hl)⟩

theorem Grows.isDirectory {s s' : Store} (h : s.Grows s') {l : Location}
    (hl : s.isDirectory l = true) : s'.isDirectory l = true := by
  simp only [Store.isDirectory, decide_eq_true_eq] at hl ⊢
  exact h.directories l hl

theorem isSome_get?_iff (s : Store) (l : Location) :
    (s.get? l).isSome ↔
      s.get? l = some .directory ∨ s.get? l = some .device ∨ (s.file? l).isSome := by
  unfold file?
  cases s.get? l with
  | none => simp
  | some e => cases e <;> simp

theorem Grows.isSome_get? {s s' : Store} (h : s.Grows s') {l : Location}
    (hl : (s.get? l).isSome) : (s'.get? l).isSome := by
  rw [isSome_get?_iff] at hl ⊢
  exact hl.imp (h.directories l) (Or.imp (h.devices l) (h.files l))

structure IsEntryName (name : Text) : Prop where
  notHere : name ≠ ['.']
  notOutwards : name ≠ ['.', '.']
  short : name.byteLength ≤ nameLimit

theorem enter_named {s : Store} {l : Location} {name : Text} (hl : s.isDirectory l = true)
    (hname : IsEntryName name) (hthere : (s.get? (name :: l)).isSome) :
    s.enter l name = .ok (name :: l) := by
  have hnone : ¬ (s.get? (name :: l)).isNone = true := by
    simpa [← Option.isSome_iff_ne_none] using hthere
  have hlong : ¬ nameLimit < name.byteLength := Nat.not_lt.2 hname.short
  rw [enter, if_neg (by simp [hl]), if_neg hname.notHere, if_neg hname.notOutwards, if_neg hlong,
    if_neg hnone]

/-- All that a step by a name can do. -/
theorem enter_cases {s : Store} {l m : Location} {name : Text} (h : s.enter l name = .ok m) :
    s.isDirectory l = true ∧
      ((name = ['.'] ∧ m = l) ∨ (name = ['.', '.'] ∧ m = l.tail) ∨
        (IsEntryName name ∧ (s.get? (name :: l)).isSome ∧ m = name :: l)) := by
  unfold enter at h
  split at h
  · cases h
  next hdir =>
  refine ⟨by simpa using hdir, ?_⟩
  split at h
  · next hhere => exact Or.inl ⟨hhere, (Except.ok.inj h).symm⟩
  next hhere =>
  split at h
  · next hout => exact Or.inr (Or.inl ⟨hout, (Except.ok.inj h).symm⟩)
  next hout =>
  split at h
  · cases h
  next hlong =>
  split at h
  · cases h
  next hthere =>
  exact Or.inr (Or.inr ⟨⟨hhere, hout, Nat.not_lt.1 hlong⟩,
    by simpa [← Option.isSome_iff_ne_none] using hthere, (Except.ok.inj h).symm⟩)

theorem Grows.enter_eq {s s' : Store} (h : s.Grows s') {l m : Location} {name : Text}
    (hm : s.enter l name = .ok m) : s'.enter l name = .ok m := by
  obtain ⟨hdir, ⟨rfl, rfl⟩ | ⟨rfl, rfl⟩ | ⟨hname, hthere, rfl⟩⟩ := enter_cases hm
  · simp [enter, h.isDirectory hdir]
  · simp [enter, h.isDirectory hdir]
  · exact enter_named (h.isDirectory hdir) hname (h.isSome_get? hthere)

theorem Grows.foldlM_enter {s s' : Store} (h : s.Grows s') {names : List Text} {l m : Location}
    (hm : names.foldlM s.enter l = .ok m) : names.foldlM s'.enter l = .ok m := by
  induction names generalizing l with
  | nil => exact hm
  | cons name names ih =>
    rw [List.foldlM_cons] at hm ⊢
    cases hstep : s.enter l name with
    | error e =>
      rw [hstep] at hm
      cases hm
    | ok k =>
      rw [hstep] at hm
      rw [h.enter_eq hstep]
      exact ih hm

section Except

variable {ε α β : Type} {b : β}

theorem bind_eq_ok_iff {x : Except ε α} {f : α → Except ε β} :
    x >>= f = .ok b ↔ ∃ a, x = .ok a ∧ f a = .ok b := by
  cases x with
  | error e => simp [bind, Except.bind]
  | ok a => simp [bind, Except.bind]

theorem throw_ne_ok (e : ε) : (throw e : Except ε β) ≠ .ok b := nofun

/-- What comes after a check that refuses is reached only where the check does not. -/
theorem unless_eq_ok_iff {c : Prop} [Decidable c] {e : ε} {f : α → Except ε β} {x : Except ε β} :
    (if c then throw e >>= f else x) = .ok b ↔ ¬ c ∧ x = .ok b := by
  by_cases hc : c
  · simp [hc, bind_eq_ok_iff, throw_ne_ok]
  · simp [hc]

end Except

theorem locate_eq_ok_iff {s : Store} {path : Text} {l : Location} :
    s.locate path = .ok l ↔ malformed? path = none ∧
      (names path).foldlM s.enter (s.start path) = .ok l ∧
      (endsWithSlash path = true → s.isDirectory l = true) := by
  unfold locate
  cases hm : malformed? path with
  | some e => simp [bind_eq_ok_iff, throw_ne_ok]
  | none =>
    simp only [bind_eq_ok_iff, unless_eq_ok_iff, true_and]
    constructor
    · rintro ⟨m, hfold, hslash, hpure⟩
      obtain rfl : m = l := Except.ok.inj hpure
      exact ⟨hfold, by simpa using hslash⟩
    · rintro ⟨hfold, hslash⟩
      exact ⟨l, hfold, by simpa using hslash, rfl⟩

/-- A path keeps denoting what it denotes. -/
theorem Grows.locate_eq {s s' : Store} (h : s.Grows s') {path : Text} {l : Location}
    (hl : s.locate path = .ok l) : s'.locate path = .ok l := by
  rw [locate_eq_ok_iff] at hl ⊢
  obtain ⟨hpath, hfold, hslash⟩ := hl
  have hstart : s'.start path = s.start path := by rw [start, start, h.working]
  rw [hstart]
  exact ⟨hpath, h.foldlM_enter hfold, fun hs => h.isDirectory (hslash hs)⟩

theorem vacancy_named {s : Store} {path : Text} {l : Location} {name : Text}
    (h : s.vacancy path = .ok (.named l name)) :
    malformed? path = none ∧ (names path).dropLast.foldlM s.enter (s.start path) = .ok l ∧
      s.isDirectory l = true ∧ (names path).getLast? = some name ∧
      name ≠ ['.'] ∧ name ≠ ['.', '.'] := by
  unfold vacancy at h
  cases hm : malformed? path with
  | some e => simp [hm, bind_eq_ok_iff, throw_ne_ok] at h
  | none =>
    simp only [hm, bind_eq_ok_iff, unless_eq_ok_iff] at h
    obtain ⟨m, hfold, hdir, h⟩ := h
    split at h
    · cases h
    next last hlast =>
    split at h
    · cases h
    next hdots =>
    obtain ⟨rfl, rfl⟩ : m = l ∧ last = name := by simpa using Except.ok.inj h
    rw [not_or] at hdots
    exact ⟨rfl, hfold, by simpa using hdir, hlast, hdots⟩

/-- All that making a directory can do. -/
theorem makeDirectory_cases {s s' : Store} {path : Text} (h : s.makeDirectory path = .ok s') :
    ∃ l, l ≠ [] ∧ s.get? l = none ∧ s' = s.put l .directory := by
  simp only [makeDirectory, bind_eq_ok_iff] at h
  obtain ⟨v, hv, h⟩ := h
  cases v with
  | unnamed => cases h
  | named directory name =>
    simp only [unless_eq_ok_iff] at h
    obtain ⟨-, hthere, h⟩ := h
    exact ⟨name :: directory, List.cons_ne_nil _ _, by simpa using hthere,
      (Except.ok.inj h).symm⟩

theorem opening_cases {s : Store} {path : Text} {l : Location} (h : s.opening path = .ok l) :
    ∃ directory name, s.vacancy path = .ok (.named directory name) ∧
      endsWithSlash path = false ∧ name.byteLength ≤ nameLimit ∧ s.isDirectory l = false ∧
      l = name :: directory := by
  simp only [opening, bind_eq_ok_iff] at h
  obtain ⟨v, hv, h⟩ := h
  cases v with
  | unnamed => cases h
  | named directory name =>
    simp only [unless_eq_ok_iff] at h
    obtain ⟨hslash, hlong, hdir, h⟩ := h
    obtain rfl : name :: directory = l := Except.ok.inj h
    exact ⟨directory, name, hv, by simpa using hslash, Nat.not_lt.1 hlong, by simpa using hdir, rfl⟩

/-- What is opened is what the path denotes as soon as there is something. -/
theorem locate_of_opening {s s' : Store} {path : Text} {l : Location}
    (h : s.opening path = .ok l) (hgrows : s.Grows s') (hthere : (s'.get? l).isSome) :
    s'.locate path = .ok l := by
  obtain ⟨directory, name, hvacancy, hslash, hlong, -, rfl⟩ := opening_cases h
  obtain ⟨hpath, hfold, haround, hlast, hhere, hout⟩ := vacancy_named hvacancy
  have hstart : s'.start path = s.start path := by rw [start, start, hgrows.working]
  obtain ⟨around, hnames⟩ := List.getLast?_eq_some_iff.1 hlast
  rw [hnames, List.dropLast_concat] at hfold
  rw [locate_eq_ok_iff, hstart, hnames, List.foldlM_append, bind_eq_ok_iff]
  refine ⟨hpath, ⟨directory, hgrows.foldlM_enter hfold, ?_⟩, by simp [hslash]⟩
  rw [List.foldlM_cons, enter_named (hgrows.isDirectory haround) ⟨hhere, hout, hlong⟩ hthere]
  rfl

theorem get?_fill (s : Store) {l : Location} (hl : l ≠ []) (bytes : ByteArray) (m : Location) :
    (s.fill l bytes).get? m =
      if m = l ∧ s.get? l ≠ some .device then some (.file bytes) else s.get? m := by
  unfold fill
  by_cases hdevice : s.get? l = some .device
  · simp [hdevice]
  · simp [hdevice, get?_put s l m _ hl]

theorem file?_fill (s : Store) {l : Location} (hl : l ≠ []) (bytes : ByteArray) (m : Location) :
    (s.fill l bytes).file? m =
      if m = l ∧ s.get? l ≠ some .device then some bytes else s.file? m := by
  rw [file?, get?_fill s hl]
  by_cases h : m = l ∧ s.get? l ≠ some .device
  · simp only [if_pos h]
  · simp only [if_neg h, file?]

theorem isSome_get?_fill (s : Store) {l : Location} (hl : l ≠ []) (bytes : ByteArray) :
    ((s.fill l bytes).get? l).isSome := by
  rw [get?_fill s hl]
  by_cases hdevice : s.get? l = some .device <;> simp [hdevice]

theorem grows_fill {s : Store} {l : Location} (hl : l ≠ []) (hdir : s.isDirectory l = false)
    (bytes : ByteArray) : s.Grows (s.fill l bytes) where
  working := by
    unfold fill
    split <;> rfl
  directories := by
    intro m hm
    have hne : m ≠ l := by
      rintro rfl
      simp [Store.isDirectory, hm] at hdir
    rw [get?_fill s hl, if_neg (fun h => hne h.1), hm]
  devices := by
    intro m hm
    have hnot : ¬ (m = l ∧ s.get? l ≠ some .device) := by
      rintro ⟨rfl, h⟩
      exact h hm
    rw [get?_fill s hl, if_neg hnot, hm]
  files := by
    intro m hm
    rw [file?_fill s hl]
    split
    · rfl
    · exact hm

theorem file?_put_directory {s : Store} {l : Location} (hl : l ≠ []) (hnone : s.get? l = none)
    (m : Location) : (s.put l .directory).file? m = s.file? m := by
  rw [file?, file?, get?_put s l m _ hl]
  by_cases hm : m = l
  · rw [if_pos hm, hm, hnone]
  · rw [if_neg hm]

structure AddsDirectories (s s' : Store) : Prop extends Grows s s' where
  same : ∀ l, s'.file? l = s.file? l

theorem AddsDirectories.refl (s : Store) : s.AddsDirectories s := ⟨Grows.refl s, fun _ => rfl⟩

theorem AddsDirectories.trans {a b c : Store} (h : a.AddsDirectories b)
    (h' : b.AddsDirectories c) : a.AddsDirectories c :=
  ⟨h.toGrows.trans h'.toGrows, fun l => (h'.same l).trans (h.same l)⟩

theorem makeDirectory_adds {s s' : Store} {path : Text} (h : s.makeDirectory path = .ok s') :
    s.AddsDirectories s' := by
  obtain ⟨l, hl, hnone, rfl⟩ := makeDirectory_cases h
  have hsame := file?_put_directory hl hnone
  have hkept (m : Location) (e : Entry) (hm : s.get? m = some e) :
      (s.put l .directory).get? m = some e := by
    have hne : m ≠ l := by
      rintro rfl
      simp [hnone] at hm
    rw [get?_put s l m _ hl, if_neg hne, hm]
  exact ⟨⟨rfl, fun m => hkept m _, fun m => hkept m _, fun m hm => by rwa [hsame]⟩, hsame⟩

theorem ensureDirectory_adds {s s' : Store} {path : Text} (h : s.ensureDirectory path = .ok s') :
    s.AddsDirectories s' := by
  unfold ensureDirectory at h
  split at h
  · split at h
    · obtain rfl : s = s' := Except.ok.inj h
      exact .refl s
    · cases h
  · exact makeDirectory_adds h

theorem ensureDirectories_adds (paths : List Text) (s : Store) :
    s.AddsDirectories (ensureDirectories paths s).2 := by
  induction paths generalizing s with
  | nil => exact .refl s
  | cons path around ih =>
    unfold ensureDirectories
    split
    · next s' h => exact ensureDirectory_adds h
    · have haround := ih s
      split
      · next s₁ h =>
        rw [h] at haround
        split
        · next s₂ h₂ => exact haround.trans (ensureDirectory_adds h₂)
        · exact haround
      · exact haround
    · exact .refl s

theorem makeDirectories_adds (s : Store) (path : Text) :
    s.AddsDirectories (s.makeDirectories path).2 := by
  unfold makeDirectories
  split
  · exact .refl s
  · exact ensureDirectories_adds _ s

/-- All that can come of a write. -/
theorem effect_cases (w : Writing) (bytes : ByteArray) :
    w.effect bytes = (.ok (), some bytes) ∨ (∃ e, w.effect bytes = (.error e, none)) ∨
      ∃ n e, w = .cut n e ∧ n < bytes.size ∧
        w.effect bytes = (.error e, some (bytes.extract 0 n)) := by
  cases w with
  | whole => exact Or.inl rfl
  | refused e => exact Or.inr (Or.inl ⟨e, rfl⟩)
  | cut n e =>
    rw [Writing.effect]
    by_cases hsize : bytes.size ≤ n
    · exact Or.inl (if_pos hsize)
    · exact Or.inr (Or.inr ⟨n, e, rfl, Nat.not_le.1 hsize, if_neg hsize⟩)

/-- All that writing can do. -/
theorem writeBytes_cases (s : Store) (path : Text) (bytes : ByteArray) (w : Writing) :
    (∃ e, s.writeBytes path bytes w = (.error e, s) ∧
        ((s.opening path).toOption = none ∨ (w.effect bytes).2 = none)) ∨
      ∃ l left, s.opening path = .ok l ∧ (w.effect bytes).2 = some left ∧
        s.writeBytes path bytes w = ((w.effect bytes).1, s.fill l left) := by
  unfold writeBytes
  cases hopening : s.opening path with
  | error e => exact Or.inl ⟨e, rfl, Or.inl rfl⟩
  | ok l =>
    obtain heffect | ⟨e, heffect⟩ | ⟨n, e, -, -, heffect⟩ := effect_cases w bytes
    · exact Or.inr ⟨l, bytes, rfl, by rw [heffect], by simp only [heffect]⟩
    · exact Or.inl ⟨e, by simp only [heffect], Or.inr (by rw [heffect])⟩
    · exact Or.inr ⟨l, bytes.extract 0 n, rfl, by rw [heffect], by simp only [heffect]⟩

/-- the place that saving to a path opens, if it comes to that -/
def savesAt? (s : Store) (path : Text) : Option Location :=
  match s.makeParents path with
  | (.ok (), s) => (s.opening path).toOption
  | (.error _, _) => none

/-- All that saving can do. If it opens nothing it fails and leaves the files as they are. Otherwise
it ends as the system has it, and leaves what was taken in the file that the path denotes then. -/
theorem save_cases (s : Store) (path : Text) (bytes : ByteArray) (w : Writing) :
    (∃ e, (s.save path bytes w).1 = .error e ∧ s.AddsDirectories (s.save path bytes w).2 ∧
        (s.savesAt? path = none ∨ (w.effect bytes).2 = none)) ∨
      ∃ l left, s.savesAt? path = some l ∧ (w.effect bytes).2 = some left ∧
        (s.save path bytes w).1 = (w.effect bytes).1 ∧
        (s.save path bytes w).2.locate path = .ok l ∧ s.Grows (s.save path bytes w).2 ∧
        (((s.save path bytes w).2.get? l = some .device ∧
            ∀ m, (s.save path bytes w).2.file? m = s.file? m) ∨
          ∀ m, (s.save path bytes w).2.file? m = if m = l then some left else s.file? m) := by
  have hadds : s.AddsDirectories (s.makeParents path).2 := ensureDirectories_adds _ s
  cases hmade : s.makeParents path with
  | mk result s₁ =>
    rw [hmade] at hadds
    cases result with
    | error e =>
      have hsave : s.save path bytes w = (.error e, s₁) := by simp only [save, hmade]
      have hplace : s.savesAt? path = none := by simp only [savesAt?, hmade]
      rw [hsave]
      exact Or.inl ⟨e, rfl, hadds, Or.inl hplace⟩
    | ok =>
      have hsave : s.save path bytes w = s₁.writeBytes path bytes w := by simp only [save, hmade]
      have hplace : s.savesAt? path = (s₁.opening path).toOption := by simp only [savesAt?, hmade]
      rw [hsave, hplace]
      obtain ⟨e, hwrite, hnone⟩ | ⟨l, left, hopening, hleft, hwrite⟩ :=
        s₁.writeBytes_cases path bytes w
      · rw [hwrite]
        exact Or.inl ⟨e, rfl, hadds, hnone⟩
      · obtain ⟨directory, name, -, -, -, hdir, hl⟩ := opening_cases hopening
        have hne : l ≠ [] := by
          rw [hl]
          exact List.cons_ne_nil _ _
        have hgrows := grows_fill hne hdir left
        rw [hwrite, hopening]
        refine Or.inr ⟨l, left, rfl, hleft, rfl,
          locate_of_opening hopening hgrows (isSome_get?_fill s₁ hne left),
          hadds.toGrows.trans hgrows, ?_⟩
        by_cases hdevice : s₁.get? l = some .device
        · refine Or.inl ⟨hgrows.devices l hdevice, fun m => ?_⟩
          rw [file?_fill s₁ hne, if_neg (fun h => h.2 hdevice), hadds.same]
        · refine Or.inr fun m => ?_
          simp only [file?_fill s₁ hne, hadds.same, ne_eq, hdevice, not_false_eq_true, and_true]

end Stanza.Store
