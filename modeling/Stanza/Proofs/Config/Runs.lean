import Stanza.Config.Files
import Stanza.Proofs.Config.Document
import Stanza.Proofs.Store.Growth

/-! The tree of files over a run of steps. What a file holds at the end is what the last step that
opened it left there, by whichever path that step and the reader go. -/

namespace Stanza.Config

deriving instance DecidableEq for Answer

variable {env : Environment} {s : Store}

/-- the path that a step gives bytes to, those bytes and what the system makes of the write -/
def Step.target? (env : Environment) : Step → Option (Text × ByteArray × Writing)
  | write path bytes w => some (path, bytes, w)
  | saveTo path c w => some (path, c.write.toBytes, w)
  | save c w => some (place env, c.write.toBytes, w)
  | makeDirectory _ | read _ | loadFrom _ | load => none

def Step.saved? : Step → Option Config
  | saveTo _ c _ | save c _ => some c
  | write .. | makeDirectory _ | read _ | loadFrom _ | load => none

/-- what a step leaves in the file that it opens -/
def Step.left? (env : Environment) (step : Step) : Option ByteArray := do
  let (_, bytes, w) ← step.target? env
  (w.effect bytes).2

/-- the place that a step opens for writing, whether or not it fails after that -/
def Step.opened? (env : Environment) (s : Store) (step : Step) : Option Location := do
  let (path, _, _) ← step.target? env
  let _ ← step.left? env
  s.savesAt? path

/-- the last step of a run that opens a place for writing, and how it ends -/
def lastOpening? (env : Environment) (l : Location) (s : Store) : List Step → Option (Step × Answer)
  | [] => none
  | step :: steps =>
    let after := step.run env s
    (lastOpening? env l after.2 steps).or
      (if step.opened? env s = some l then some (step, after.1) else none)

theorem Step.run_of_target {step : Step} {path : Text} {bytes : ByteArray} {w : Writing}
    (h : step.target? env = some (path, bytes, w)) (s : Store) :
    step.run env s = (.changed (s.save path bytes w).1, (s.save path bytes w).2) := by
  cases step with
  | write | saveTo | save =>
    obtain ⟨rfl, rfl, rfl⟩ := by simpa only [target?, Option.some.injEq, Prod.mk.injEq] using h
    rfl
  | makeDirectory | read | loadFrom | load => cases h

theorem Step.target?_of_saved {step : Step} {c : Config} (h : step.saved? = some c)
    (env : Environment) : ∃ path w, step.target? env = some (path, c.write.toBytes, w) := by
  cases step with
  | saveTo | save =>
    obtain rfl := Option.some.inj h
    exact ⟨_, _, rfl⟩
  | write | makeDirectory | read | loadFrom | load => cases h

theorem Step.left?_of_target {step : Step} {path : Text} {bytes : ByteArray} {w : Writing}
    (h : step.target? env = some (path, bytes, w)) : step.left? env = (w.effect bytes).2 := by
  rw [left?, h]
  rfl

theorem Step.opened?_of_no_target {step : Step} (h : step.target? env = none) (s : Store) :
    step.opened? env s = none := by
  rw [opened?, h]
  rfl

theorem Step.adds_of_no_target {step : Step} (h : step.target? env = none) (s : Store) :
    s.AddsDirectories (step.run env s).2 := by
  cases step with
  | makeDirectory path => exact Store.makeDirectories_adds s path
  | read | loadFrom | load => exact .refl s
  | write | saveTo | save => cases h

/-- All that a step that gives bytes to a path can do. -/
theorem Step.run_cases {step : Step} {path : Text} {bytes : ByteArray} {w : Writing}
    (h : step.target? env = some (path, bytes, w)) (s : Store) :
    (∃ e, (step.run env s).1 = .changed (.error e) ∧ s.AddsDirectories (step.run env s).2 ∧
        step.opened? env s = none) ∨
      ∃ l left, step.opened? env s = some l ∧ (w.effect bytes).2 = some left ∧
        (step.run env s).1 = .changed (w.effect bytes).1 ∧
        (step.run env s).2.locate path = .ok l ∧ s.Grows (step.run env s).2 ∧
        (((step.run env s).2.get? l = some .device ∧
            ∀ m, (step.run env s).2.file? m = s.file? m) ∨
          ∀ m, (step.run env s).2.file? m = if m = l then some left else s.file? m) := by
  rw [opened?, left?_of_target h, h, run_of_target h]
  obtain ⟨e, he, hadds, hnone⟩ | ⟨l, left, hplace, hleft, hresult, hfiles⟩ :=
    s.save_cases path bytes w
  · refine Or.inl ⟨e, by rw [he], hadds, ?_⟩
    obtain hnone | hnone := hnone
    · simp [hnone]
    · simp [hnone]
  · refine Or.inr ⟨l, left, ?_, hleft, by rw [hresult], hfiles⟩
    simp [hleft, hplace]

theorem Step.run_grows (step : Step) (s : Store) : s.Grows (step.run env s).2 := by
  cases h : step.target? env with
  | none => exact (step.adds_of_no_target h s).toGrows
  | some target =>
    obtain ⟨e, -, hadds, -⟩ | ⟨l, left, -, -, -, -, hgrows, -⟩ := step.run_cases h s
    · exact hadds.toGrows
    · exact hgrows

theorem Step.runAll_grows (env : Environment) (steps : List Step) (s : Store) :
    s.Grows (Step.runAll env s steps).2 := by
  induction steps generalizing s with
  | nil => exact Store.Grows.refl s
  | cons step steps ih => exact (step.run_grows s).trans (ih (step.run env s).2)

/-- What a place that is no device holds after a step. -/
theorem Step.file?_run (step : Step) (s : Store) {l : Location}
    (hl : (step.run env s).2.get? l ≠ some .device) :
    (step.run env s).2.file? l =
      if step.opened? env s = some l then step.left? env else s.file? l := by
  cases h : step.target? env with
  | none => rw [step.opened?_of_no_target h, if_neg nofun, (step.adds_of_no_target h s).same]
  | some target =>
    obtain ⟨e, -, hadds, hnone⟩ | ⟨m, left, hopened, hleft, -, -, -, hfiles⟩ := step.run_cases h s
    · rw [hnone, if_neg nofun, hadds.same]
    · rw [hopened, left?_of_target h, hleft]
      obtain ⟨hdevice, hsame⟩ | hfiles := hfiles
      · have hne : m ≠ l := by
          rintro rfl
          exact hl hdevice
        rw [if_neg (by simpa using hne), hsame]
      · rw [hfiles]
        simp only [Option.some.injEq, eq_comm]

/-- What a place that is no device holds after a run. -/
theorem file?_runAll (env : Environment) (steps : List Step) (s : Store) {l : Location}
    (hl : (Step.runAll env s steps).2.get? l ≠ some .device) :
    (Step.runAll env s steps).2.file? l =
      match lastOpening? env l s steps with
      | some (step, _) => step.left? env
      | none => s.file? l := by
  induction steps generalizing s with
  | nil => rfl
  | cons step steps ih =>
    have hrun : (Step.runAll env s (step :: steps)).2 =
        (Step.runAll env (step.run env s).2 steps).2 := rfl
    -- a device stays one, so the place was none before the last of the steps either
    have hstep : (step.run env s).2.get? l ≠ some .device := fun h =>
      hl ((Step.runAll_grows env steps _).devices l h)
    rw [hrun, ih _ hl, lastOpening?]
    cases lastOpening? env l (step.run env s).2 steps with
    | some later => rfl
    | none =>
      simp only [Option.none_or, step.file?_run s hstep]
      by_cases hopened : step.opened? env s = some l
      · simp only [if_pos hopened]
      · simp only [if_neg hopened]

/-- The last step that opens a place was run on some tree, and opened the place there. -/
theorem lastOpening?_eq_some {l : Location} {steps : List Step} {step : Step} {answer : Answer}
    (h : lastOpening? env l s steps = some (step, answer)) :
    ∃ s', step.opened? env s' = some l ∧ (step.run env s').1 = answer := by
  induction steps generalizing s with
  | nil => cases h
  | cons first steps ih =>
    rw [lastOpening?, Option.or_eq_some_iff] at h
    obtain h | ⟨-, h⟩ := h
    · exact ih h
    · split at h
      · next hopened =>
        obtain ⟨rfl, rfl⟩ := Prod.mk.inj (Option.some.inj h)
        exact ⟨s, hopened, rfl⟩
      · cases h

/-- A step that opens a place and succeeds leaves all its bytes there. -/
theorem Step.left?_of_ok {step : Step} {path : Text} {bytes : ByteArray} {w : Writing}
    (h : step.target? env = some (path, bytes, w)) (hok : (step.run env s).1 = .changed (.ok ())) :
    step.left? env = some bytes := by
  rw [left?_of_target h]
  obtain ⟨e, he, -⟩ | ⟨l, left, -, -, hresult, -⟩ := step.run_cases h s
  · rw [he] at hok
    cases hok
  · obtain heffect | ⟨e, heffect⟩ | ⟨n, e, -, -, heffect⟩ := Store.effect_cases w bytes
    · rw [heffect]
    · simp [hresult, heffect] at hok
    · simp [hresult, heffect] at hok

/-- A step that fails may have cut off the file that it opened, and changes no other. -/
theorem Step.files_of_error {step : Step} {e : FileError}
    (he : (step.run env s).1 = .changed (.error e)) :
    (∀ m, (step.run env s).2.file? m = s.file? m) ∨
      ∃ path bytes n l, step.target? env = some (path, bytes, .cut n e) ∧ n < bytes.size ∧
        step.opened? env s = some l ∧ (step.run env s).2.locate path = .ok l ∧
        ∀ m, (step.run env s).2.file? m =
          if m = l then some (bytes.extract 0 n) else s.file? m := by
  cases htarget : step.target? env with
  | none => exact Or.inl (step.adds_of_no_target htarget s).same
  | some target =>
    obtain ⟨path, bytes, w⟩ := target
    obtain ⟨-, -, hadds, -⟩ | ⟨l, left, hopened, hleft, hresult, hlocate, -, hfiles⟩ :=
      step.run_cases htarget s
    · exact Or.inl hadds.same
    obtain ⟨-, hsame⟩ | hfiles := hfiles
    · exact Or.inl hsame
    rw [he] at hresult
    obtain heffect | ⟨e', heffect⟩ | ⟨n, e', rfl, hn, heffect⟩ := Store.effect_cases w bytes
    · simp [heffect] at hresult
    · simp [heffect] at hleft
    · obtain rfl : e = e' := by simpa [heffect] using hresult
      obtain rfl : bytes.extract 0 n = left := by simpa [heffect] using hleft
      exact Or.inr ⟨path, bytes, n, l, rfl, hn, hopened, hlocate, hfiles⟩

/-- A step that succeeds leaves all its bytes in the file that it opened, and changes no other. -/
theorem Step.files_of_ok {step : Step} {path : Text} {bytes : ByteArray} {w : Writing}
    (htarget : step.target? env = some (path, bytes, w))
    (hok : (step.run env s).1 = .changed (.ok ())) :
    ∃ l, step.opened? env s = some l ∧ (step.run env s).2.locate path = .ok l ∧
      (((step.run env s).2.get? l = some .device ∧
          ∀ m, (step.run env s).2.file? m = s.file? m) ∨
        ∀ m, (step.run env s).2.file? m = if m = l then some bytes else s.file? m) := by
  obtain ⟨e, he, -⟩ | ⟨l, left, hopened, hleft, -, hlocate, -, hfiles⟩ :=
    step.run_cases htarget s
  · rw [hok] at he
    cases he
  · have hall := Step.left?_of_ok htarget hok
    rw [Step.left?_of_target htarget, hleft] at hall
    obtain rfl := Option.some.inj hall
    exact ⟨l, hopened, hlocate, hfiles⟩

theorem reading_of_file {l : Location} {path : Text} {bytes : ByteArray}
    (hl : s.locate path = .ok l) (hfile : s.file? l = some bytes) :
    s.reading path = .ofBytes bytes := by
  have hbytes : s.readBytes path = .ok bytes := by
    rw [Store.readBytes, hl]
    simp only [bind, Except.bind, Store.get?_eq_file hfile]
    rfl
  simp only [Store.reading, hl, hbytes]

theorem loadFrom_of_file {l : Location} {path : Text} {c : Config} (hl : s.locate path = .ok l)
    (hfile : s.file? l = some c.write.toBytes) : loadFrom s path = .ok (some c) := by
  rw [loadFrom, reading_of_file hl hfile, Reading.ofBytes, Text.ofBytes?_toBytes]
  simp only [ofReading, read?_whole]

/-- Files are a store of configurations. A configuration that is saved is loaded by every path to
its file until that file is opened for writing again, and what a path denotes it denotes for good. A
step that fails leaves every file as it is, unless its write is cut off: then the file that the path
denotes holds the beginning of the new bytes, and no other file changes. One that succeeds changes
that file alone, and none if the path denotes a device. No step takes anything away, and looking
changes nothing. -/
theorem runs_keep_configurations (env : Environment) (s : Store) :
    (∀ (steps : List Step) path l step c, (Step.runAll env s steps).2.locate path = .ok l →
      (Step.runAll env s steps).2.get? l ≠ some .device →
      lastOpening? env l s steps = some (step, .changed (.ok ())) → step.saved? = some c →
        loadFrom (Step.runAll env s steps).2 path = .ok (some c)) ∧
    (∀ (steps : List Step) path l, s.locate path = .ok l →
      (Step.runAll env s steps).2.locate path = .ok l) ∧
    (∀ (step : Step) e, (step.run env s).1 = .changed (.error e) →
      (∀ m, (step.run env s).2.file? m = s.file? m) ∨
        ∃ path bytes n l, step.target? env = some (path, bytes, .cut n e) ∧ n < bytes.size ∧
          step.opened? env s = some l ∧ (step.run env s).2.locate path = .ok l ∧
          ∀ m, (step.run env s).2.file? m =
            if m = l then some (bytes.extract 0 n) else s.file? m) ∧
    (∀ (step : Step) path bytes w, step.target? env = some (path, bytes, w) →
      (step.run env s).1 = .changed (.ok ()) →
        ∃ l, step.opened? env s = some l ∧ (step.run env s).2.locate path = .ok l ∧
          (((step.run env s).2.get? l = some .device ∧
              ∀ m, (step.run env s).2.file? m = s.file? m) ∨
            ∀ m, (step.run env s).2.file? m = if m = l then some bytes else s.file? m)) ∧
    (∀ step : Step, s.Grows (step.run env s).2) ∧
    (∀ path, ((Step.read path).run env s).2 = s ∧ ((Step.loadFrom path).run env s).2 = s ∧
      (Step.load.run env s).2 = s) := by
  refine ⟨?_, ?_, ?_, ?_, fun step => step.run_grows s, fun path => ⟨rfl, rfl, rfl⟩⟩
  · intro steps path l step c hl hdevice hlast hsaved
    obtain ⟨p, w, htarget⟩ := Step.target?_of_saved hsaved env
    obtain ⟨s', -, hok⟩ := lastOpening?_eq_some hlast
    have hfile := file?_runAll env steps s hdevice
    simp only [hlast, Step.left?_of_ok htarget hok] at hfile
    exact loadFrom_of_file hl hfile
  · intro steps path l hl
    exact (Step.runAll_grows env steps s).locate_eq hl
  · intro step e he
    exact Step.files_of_error he
  · intro step path bytes w htarget hok
    exact Step.files_of_ok htarget hok

def noSpace : FileError := .other "No space left on device (os error 28)".toList

/-- A run that saves over a file with more in it and over one that was cut off, by a path with a
detour. After that a file stands where a directory is needed, a directory where a file is, and the
system refuses to open the file. -/
def savesOver (c : Config) : List Step :=
  [.write "a/c.toml".toList "# a comment that is longer than what is saved later on, by far".toUTF8,
    .save ⟨"else".toList, .text⟩, .saveTo "./a/c.toml".toList ⟨"half".toList, .text⟩ (.cut 9 noSpace),
    .saveTo "a/../a/c.toml".toList c, .saveTo "a/c.toml/b".toList ⟨"no".toList, .text⟩,
    .write "a".toList "no".toUTF8,
    .saveTo "a/c.toml".toList ⟨"no".toList, .text⟩
      (.refused (.other "Permission denied (os error 13)".toList)),
    .write "b.toml".toList "b".toUTF8, .load]

theorem runs_keep_configurations_detour :
    let env : Environment := [("HOME".toList, "/w".toList)]
    let s := Store.fresh ["w".toList]
    let c : Config := ⟨"it's".toList, .json⟩
    let s' := (Step.runAll env s (savesOver c)).2
    let l : Location := ["c.toml".toList, "a".toList, "w".toList]
    let fails := Step.saveTo "a/../b.toml".toList c (.cut 3 noSpace)
    let succeeds := Step.saveTo "b/../b/c.toml".toList c
    (s'.locate "./a//c.toml".toList = .ok l ∧ s'.get? l ≠ some .device ∧
      lastOpening? env l s (savesOver c) =
        some (.saveTo "a/../a/c.toml".toList c, .changed (.ok ())) ∧
      loadFrom s' "./a//c.toml".toList = .ok (some c)) ∧
    (Step.runAll env s' [fails, succeeds]).2.locate "./a//c.toml".toList = .ok l ∧
    ((fails.run env s').1 = .changed (.error noSpace) ∧
      ((∀ m, (fails.run env s').2.file? m = s'.file? m) ∨
        ∃ path bytes n l, fails.target? env = some (path, bytes, .cut n noSpace) ∧
          n < bytes.size ∧ fails.opened? env s' = some l ∧
          (fails.run env s').2.locate path = .ok l ∧
          ∀ m, (fails.run env s').2.file? m =
            if m = l then some (bytes.extract 0 n) else s'.file? m)) ∧
    ((succeeds.run env s').1 = .changed (.ok ()) ∧
      ∃ m, succeeds.opened? env s' = some m ∧
        (succeeds.run env s').2.locate "b/../b/c.toml".toList = .ok m ∧
        (((succeeds.run env s').2.get? m = some .device ∧
            ∀ n, (succeeds.run env s').2.file? n = s'.file? n) ∨
          ∀ n, (succeeds.run env s').2.file? n =
            if n = m then some c.write.toBytes else s'.file? n)) := by
  intro env s c s' l fails succeeds
  have hl : s'.locate "./a//c.toml".toList = .ok l := by decide +kernel
  have hdevice : s'.get? l ≠ some .device := by decide +kernel
  have hlast : lastOpening? env l s (savesOver c) =
      some (.saveTo "a/../a/c.toml".toList c, .changed (.ok ())) := by decide +kernel
  have hfails : (fails.run env s').1 = .changed (.error noSpace) := by decide +kernel
  have hsucceeds : (succeeds.run env s').1 = .changed (.ok ()) := by decide +kernel
  have hloaded := (runs_keep_configurations env s).1 _ _ _ _ _ hl hdevice hlast rfl
  obtain ⟨-, hstays, hfailed, hsucceeded, -⟩ := runs_keep_configurations env s'
  exact ⟨⟨hl, hdevice, hlast, hloaded⟩, hstays _ _ _ hl, ⟨hfails, hfailed _ _ hfails⟩, hsucceeds,
    hsucceeded _ _ _ _ rfl hsucceeds⟩

/-- What is saved to a device is not loaded again, and a save that fails may lose what the file held,
such as the configuration that was saved there before. -/
theorem configurations_lost :
    ¬ (∀ env working (steps : List Step) path c w,
        let s := (Step.runAll env (Store.fresh working) steps).2
        let saving := (Step.saveTo path c w).run env s
        saving.1 = .changed (.ok ()) → loadFrom saving.2 path = .ok (some c)) ∧
      ¬ (∀ env working (steps : List Step) path c w c' w' e,
        let s := (Step.runAll env (Store.fresh working) steps).2
        let saving := (Step.saveTo path c w).run env s
        let failing := (Step.saveTo path c' w').run env saving.2
        saving.1 = .changed (.ok ()) → loadFrom saving.2 path = .ok (some c) →
          failing.1 = .changed (.error e) → loadFrom failing.2 path = .ok (some c)) ∧
      ¬ (∀ env working (steps : List Step) step e,
        let s := (Step.runAll env (Store.fresh working) steps).2
        let failing := Step.run env s step
        failing.1 = .changed (.error e) → ∀ m, failing.2.file? m = s.file? m) := by
  let c : Config := ⟨"chapters/items".toList, .json⟩
  refine ⟨fun h => ?_, fun h => ?_, fun h => ?_⟩
  · have hloaded := h [] [] [] "/dev/null".toList c .whole (by decide +kernel)
    exact absurd hloaded (by decide +kernel)
  · have hloaded := h [] [] [] "c.toml".toList c .whole c (.cut 0 noSpace) noSpace
      (by decide +kernel) (by decide +kernel) (by decide +kernel)
    exact absurd hloaded (by decide +kernel)
  · have hkept := h [] [] [.saveTo "c.toml".toList c]
      (.saveTo "c.toml".toList c (.cut 0 noSpace)) noSpace (by decide +kernel) ["c.toml".toList]
    exact absurd hkept (by decide +kernel)

end Stanza.Config
