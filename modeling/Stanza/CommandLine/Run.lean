import Stanza.CommandLine.Arguments
import Stanza.CommandLine.Help
import Stanza.Config.Files
import Stanza.Log.Filter
import Stanza.Render

/-! A run of the command line, from its arguments to what it prints. What the arguments say wins
over the configuration. Files are looked at through a function, so that a run is the same whether
they are real or not. -/

namespace Stanza.CommandLine

inductive Failure where
  | config (cause : ConfigError)
  /-- The configuration that was named is not there. -/
  | configMissing (path : Text)
  | fileUnreadable (path : Text) (cause : FileError)
  | stdinUnreadable (cause : FileError)
  | render (cause : RenderError)
  deriving DecidableEq

/-- The wording of the complaint, with the causes behind it. What is wrong in a configuration that is
malformed is left out, as it is in `ConfigError.message`. -/
def Failure.message : Failure → Text
  | .config (.unreadable path cause) =>
    (ConfigError.unreadable path cause).message ++ ": ".toList ++ cause.message
  | .config (.malformed path) => (ConfigError.malformed path).message
  | .configMissing path => "config file ".toList ++ path ++ " does not exist".toList
  | .fileUnreadable path cause =>
    "failed to read ".toList ++ path ++ ": ".toList ++ cause.message
  | .stdinUnreadable cause => "failed to read stdin: ".toList ++ cause.message
  | .render cause => cause.message

/-- The path of the configuration. A path that cannot be expanded is taken as it is. -/
def Arguments.configPath (env : Environment) (a : Arguments) : Text :=
  match a.config with
  | some path => (Expansion.expand env path).getD path
  | none => Config.place env

/-- The configuration, given what was found at its path. Only one that was named has to be
there. -/
def Arguments.configFrom (env : Environment) (a : Arguments) (found : Reading) :
    Except Failure Config :=
  match Config.ofReading (a.configPath env) found with
  | .error e => .error (.config e)
  | .ok (some c) => .ok c
  | .ok none =>
    if a.config.isSome then .error (.configMissing (a.configPath env)) else .ok Config.default

def Arguments.input (a : Arguments) (stdin : Reading) (look : Text → Reading) :
    Except Failure Text :=
  match a.file with
  | some path => (look path).text?.mapError (.fileUnreadable path)
  | none => stdin.text?.mapError .stdinUnreadable

def target : Text := "spec_syntax".toList

def present (a : Arguments) (document : Text) (format : Format) (t : Text) :
    Except Failure Text × List Log.Record :=
  if a.tokens then
    match renderTokens t format with
    | .ok out => (.ok out, [])
    | .error e => (.error (.render e), [])
  else
    let made := Block.parse (Text.joinLines (Text.lines t)) document
    (.ok (made.1.render format),
      made.2 ++
        [⟨.info, target,
          Text.ofNat made.1.definitions.length ++ " definitions, ".toList ++
            Text.ofNat made.1.references.length ++ " references".toList⟩])

def perform (env : Environment) (a : Arguments) (stdin : Reading) (look : Text → Reading) :
    Except Failure Text × List Log.Record :=
  let place := a.configPath env
  let placed : Log.Record := ⟨.debug, target, "Config path: ".toList ++ place⟩
  match a.configFrom env (look place) with
  | .error e => (.error e, [placed])
  | .ok config =>
    let format := a.format.getD config.format
    let document := a.document.getD config.documentName
    match a.input stdin look with
    | .error e => (.error e, [placed])
    | .ok t =>
      let started : Log.Record :=
        ⟨.debug, target,
          "read ".toList ++ Text.ofNat t.byteLength ++ " bytes, rendering as ".toList ++
            format.name ++ " for document ".toList ++ document.quote⟩
      let presented := present a document format t
      (presented.1, placed :: started :: presented.2)

structure Outcome where
  exit : Nat
  stdout : Text
  /-- Complaints about the log filter. -/
  warnings : List Text
  log : List Log.Record
  error : Option Text
  deriving DecidableEq

def Outcome.stderr (o : Outcome) : List Log.Line :=
  (o.warnings.map (· ++ ['\n'])).foldr Log.Line.ofText <|
    o.log.foldr Log.Record.lines <| (o.error.toList.map (· ++ ['\n'])).foldr Log.Line.ofText []

def filterVariable : Text := "RUST_LOG".toList

def Arguments.variableNames (a : Arguments) : List Text :=
  Environment.homeVariable :: filterVariable :: Expansion.names (a.config.getD [])

/-- The variables that a run may look at which ends with its command line. -/
def styleVariableNames : List Text := [Terminal.plainVariable, Terminal.colorVariable]

def logFilter (env : Environment) (a : Arguments) : Log.Filter × List Text :=
  let preset := Log.Filter.atMost (if a.verbose then .debug else .warn)
  match env.get? filterVariable with
  | some written =>
    let extended := preset.extend written
    (extended.1, extended.2.map fun wrong =>
      "warning: ".toList ++ wrong ++ ", ignoring it".toList)
  | none => (preset, [])

def Request.outcome (env : Environment) (stdin : Reading) (look : Text → Reading) :
    Request → Outcome
  | .help => ⟨0, helpText.printed (Terminal.isColored env), [], [], none⟩
  | .version => ⟨0, versionText.printed (Terminal.isColored env), [], [], none⟩
  | .run a =>
    let filter := logFilter env a
    let done := perform env a stdin look
    let log := done.2.filter filter.1.passes
    match done.1 with
    | .ok out => ⟨0, out ++ ['\n'], filter.2, log, none⟩
    | .error e => ⟨1, [], filter.2, log, some ("Error: ".toList ++ e.message)⟩

def UsageError.complaint (e : UsageError) : Terminal.Styled :=
  (.failure, "error:".toList) :: (.normal, [' ']) :: e.message

def run (env : Environment) (arguments : List Text) (stdin : Reading) (look : Text → Reading) :
    Outcome :=
  match request arguments with
  | .ok r => r.outcome env stdin look
  | .error e => ⟨2, [], [], [], some (e.complaint.printed (Terminal.isColored env))⟩

end Stanza.CommandLine
