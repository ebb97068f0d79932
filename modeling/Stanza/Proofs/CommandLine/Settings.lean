import Mathlib.Data.List.Basic
import Stanza.CommandLine.Run
import Stanza.Proofs.Store.Elsewhere

/-! What a configuration decides. A run takes two values from it and nothing else, and those only
where its arguments give none, so arguments that give both values do the same under any
configuration. A configuration that cannot be used decides all by itself. -/

namespace Stanza.CommandLine

/-- the arguments with the values of a configuration where they give none -/
def Arguments.settled (c : Config) (a : Arguments) : Arguments :=
  { a with
    document := some (a.document.getD c.documentName)
    format := some (a.format.getD c.format) }

/-- what a run shows apart from its log: the exit status, the output and the error -/
def Outcome.result (o : Outcome) : Nat × Text × Option Text := (o.exit, o.stdout, o.error)

variable {env : Environment} {a : Arguments} {c c' : Config} {e : Failure} {found stdin : Reading}
  {look look' : Text → Reading}

theorem configFrom_eq_ok_iff :
    a.configFrom env found = .ok c ↔
      (∃ t, found = .text t ∧ Config.read? t = some c) ∨
        (∃ cause, found = .missing cause) ∧ a.config = none ∧ c = Config.default := by
  cases found with
  | missing cause =>
    cases hconfig : a.config <;> simp [Arguments.configFrom, Config.ofReading, hconfig, eq_comm]
  | unreadable cause => simp [Arguments.configFrom, Config.ofReading]
  | text t => cases hread : Config.read? t <;> simp [Arguments.configFrom, Config.ofReading, hread]

theorem configFrom_eq_error_iff :
    a.configFrom env found = .error e ↔
      (∃ cause, found = .unreadable cause ∧ e = .config (.unreadable (a.configPath env) cause)) ∨
      (∃ t, found = .text t ∧ Config.read? t = none ∧
        e = .config (.malformed (a.configPath env))) ∨
      (∃ cause, found = .missing cause) ∧ a.config ≠ none ∧
        e = .configMissing (a.configPath env) := by
  cases found with
  | missing cause =>
    cases hconfig : a.config <;> simp [Arguments.configFrom, Config.ofReading, hconfig, eq_comm]
  | unreadable cause => simp [Arguments.configFrom, Config.ofReading, eq_comm]
  | text t =>
    cases hread : Config.read? t <;>
      simp [Arguments.configFrom, Config.ofReading, hread, eq_comm]

/-- Where a configuration comes from is decided by one argument. -/
theorem configFrom_congr {a' : Arguments} (h : a'.config = a.config) (env : Environment)
    (found : Reading) :
    a'.configPath env = a.configPath env ∧ a'.configFrom env found = a.configFrom env found := by
  have hpath : a'.configPath env = a.configPath env := by
    rw [Arguments.configPath, Arguments.configPath, h]
  exact ⟨hpath, by rw [Arguments.configFrom, Arguments.configFrom, hpath, h]⟩

theorem input_congr (h : ∀ path, a.file = some path → look' path = look path) :
    a.input stdin look' = a.input stdin look := by
  unfold Arguments.input
  cases hfile : a.file with
  | none => rfl
  | some path => simp only [h path hfile]

/-- A run under one configuration does what it does under another when its arguments give the
values of the first. -/
theorem perform_settled (hc : a.configFrom env (look (a.configPath env)) = .ok c)
    (hc' : a.configFrom env (look' (a.configPath env)) = .ok c')
    (hinput : ∀ path, a.file = some path → look' path = look path) :
    perform env (a.settled c) stdin look' = perform env a stdin look := by
  have hconfig : (a.settled c).configFrom env (look' ((a.settled c).configPath env)) = .ok c' := hc'
  have hread : (a.settled c).input stdin look' = a.input stdin look := input_congr hinput
  unfold perform
  simp only [hconfig, hc, hread]
  rfl

theorem outcome_settled (hc : a.configFrom env (look (a.configPath env)) = .ok c)
    (hc' : a.configFrom env (look' (a.configPath env)) = .ok c')
    (hinput : ∀ path, a.file = some path → look' path = look path) :
    (Request.run (a.settled c)).outcome env stdin look' =
      (Request.run a).outcome env stdin look := by
  have hfilter : logFilter env (a.settled c) = logFilter env a := rfl
  simp only [Request.outcome, perform_settled hc hc' hinput, hfilter]

theorem result_of_configFrom (h : a.configFrom env (look (a.configPath env)) = .error e) :
    ((Request.run a).outcome env stdin look).result =
      (1, [], some ("Error: ".toList ++ e.message)) := by
  have hperform : (perform env a stdin look).1 = .error e := by
    unfold perform
    simp only [h]
  simp only [Request.outcome, hperform, Outcome.result]

/-- A configuration that is loaded reaches a run by its two values only. With both of them among the
arguments, the run is the same under any configuration that is loaded from the same place, and under
none if none has to be there. What is read must have nothing to do with that place. A configuration
that is not loaded decides the result, whatever else the arguments say and whatever there is to
read. -/
theorem configuration_by_values (env : Environment) (a : Arguments) :
    (∀ (l : Location) (s s' : Store) (stdin : Reading) (c c' : Config), Store.SameBut l s s' →
      (∀ path, a.file = some path → Store.Beside l path s s') →
      a.configFrom env (s.reading (a.configPath env)) = .ok c →
      a.configFrom env (s'.reading (a.configPath env)) = .ok c' →
        (Request.run (a.settled c)).outcome env stdin s'.reading =
          (Request.run a).outcome env stdin s.reading) ∧
    (∀ (found : Reading) (e : Failure), a.configFrom env found = .error e →
      ∀ (a' : Arguments) (stdin : Reading) (look : Text → Reading), a'.config = a.config →
        look (a.configPath env) = found →
          ((Request.run a').outcome env stdin look).result =
            (1, [], some ("Error: ".toList ++ e.message))) ∧
    (∀ (found : Reading) (c : Config), a.configFrom env found = .ok c ↔
      (∃ t, found = .text t ∧ Config.read? t = some c) ∨
        (∃ cause, found = .missing cause) ∧ a.config = none ∧ c = Config.default) ∧
    ∀ (found : Reading) (e : Failure), a.configFrom env found = .error e ↔
      (∃ cause, found = .unreadable cause ∧ e = .config (.unreadable (a.configPath env) cause)) ∨
      (∃ t, found = .text t ∧ Config.read? t = none ∧
        e = .config (.malformed (a.configPath env))) ∨
      (∃ cause, found = .missing cause) ∧ a.config ≠ none ∧
        e = .configMissing (a.configPath env) := by
  refine ⟨?_, ?_, fun _ _ => configFrom_eq_ok_iff, fun _ _ => configFrom_eq_error_iff⟩
  · intro l s s' stdin c c' hs hfile hc hc'
    exact outcome_settled hc hc' fun path hpath => hs.reading_eq (hfile path hpath)
  · intro found e he a' stdin look hconfig hlook
    obtain ⟨hpath, hfrom⟩ := configFrom_congr hconfig env found
    refine result_of_configFrom ?_
    rw [hpath, hlook, hfrom, he]

def furnished : Store :=
  ⟨["w".toList],
    Store.directoriesTo ["spec-syntax".toList, ".config".toList, "home".toList, "w".toList]⟩

def keptAt : Location :=
  ["config.toml".toList, "spec-syntax".toList, ".config".toList, "home".toList, "w".toList]

/-- a format from a file or from the arguments, and a file that is no configuration -/
theorem configuration_by_values_html :
    let env : Environment := [("HOME".toList, "home".toList)]
    let s' := furnished.put ["s".toList, "w".toList] (.file "Item ::= $$a$$".toUTF8)
    let s := s'.put keptAt (.file "format = 'html'".toUTF8)
    let a : Arguments := ⟨some "s".toList, false, none, some "d".toList, none, false⟩
    let found := Reading.text "format = 1".toList
    (Request.run { a with format := some .html }).outcome env (.text []) s'.reading =
        (Request.run a).outcome env (.text []) s.reading ∧
      ((Request.run { a with tokens := true }).outcome env (.text []) fun _ => found).result =
        (1, [], some
          "Error: Failed to parse config file at home/.config/spec-syntax/config.toml".toList) := by
  intro env s' s a found
  obtain ⟨hloaded, hfailed, hok, herror⟩ := configuration_by_values env a
  have hs : Store.SameBut keptAt s s' := (Store.sameBut_put (by decide)).symm
  have hfile (path : Text) (hpath : a.file = some path) : Store.Beside keptAt path s s' := by
    obtain rfl : "s".toList = path := Option.some.inj hpath
    exact Or.inr (by decide +kernel)
  have hfound : s.reading (a.configPath env) = .text "format = 'html'".toList := by decide +kernel
  have hmissing : s'.reading (a.configPath env) = .missing .notFound := by decide +kernel
  have hc := (hok _ ⟨"index".toList, .html⟩).2 (Or.inl ⟨_, hfound, by decide +kernel⟩)
  have hc' := (hok _ Config.default).2 (Or.inr ⟨⟨_, hmissing⟩, rfl, rfl⟩)
  have he := (herror found _).2 (Or.inr (Or.inl ⟨_, rfl, by decide +kernel, rfl⟩))
  have hresult := hfailed found _ he { a with tokens := true } (.text []) (fun _ => found) rfl rfl
  exact ⟨hloaded keptAt s s' _ _ _ hs hfile hc hc', hresult.trans (by decide +kernel)⟩

/-- It is not enough that what is read is another file. A path that goes on behind the place of the
configuration denotes nothing, but for one reason if a file is there and for another if none is. -/
theorem path_behind_configuration :
    ¬ ∀ (env : Environment) (a : Arguments) (l : Location) (s s' : Store) (stdin : Reading)
      (c c' : Config), Store.SameBut l s s' → s.locate (a.configPath env) = .ok l →
        (∀ path, a.file = some path → s.locate path ≠ .ok l ∧ s'.locate path ≠ .ok l) →
        a.configFrom env (s.reading (a.configPath env)) = .ok c →
        a.configFrom env (s'.reading (a.configPath env)) = .ok c' →
          ((Request.run (a.settled c)).outcome env stdin s'.reading).result =
            ((Request.run a).outcome env stdin s.reading).result := by
  intro h
  let env : Environment := [("HOME".toList, "home".toList)]
  let s := furnished.put keptAt (.file "".toUTF8)
  let path := "home/.config/spec-syntax/config.toml/x".toList
  let a : Arguments := ⟨some path, false, none, none, none, false⟩
  have hs : Store.SameBut keptAt s furnished := (Store.sameBut_put (by decide)).symm
  have hplace : s.locate (a.configPath env) = .ok keptAt := by decide +kernel
  have hother : s.locate path ≠ .ok keptAt ∧ furnished.locate path ≠ .ok keptAt := by
    decide +kernel
  have hfile (p : Text) (hp : a.file = some p) :
      s.locate p ≠ .ok keptAt ∧ furnished.locate p ≠ .ok keptAt := by
    obtain rfl : path = p := Option.some.inj hp
    exact hother
  have hfound : s.reading (a.configPath env) = .text [] := by decide +kernel
  have hmissing : furnished.reading (a.configPath env) = .missing .notFound := by decide +kernel
  have hc : a.configFrom env (s.reading (a.configPath env)) = .ok Config.default :=
    configFrom_eq_ok_iff.2 (Or.inl ⟨[], hfound, by decide +kernel⟩)
  have hc' : a.configFrom env (furnished.reading (a.configPath env)) = .ok Config.default :=
    configFrom_eq_ok_iff.2 (Or.inr ⟨⟨_, hmissing⟩, rfl, rfl⟩)
  exact absurd (h env a keptAt s furnished (.text []) _ _ hs hplace hfile hc hc')
    (by decide +kernel)

end Stanza.CommandLine
