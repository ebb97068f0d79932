import Stanza.Config.Basic
import Stanza.Path.Expansion
import Stanza.Store.Reading

/-! The configuration as a file: where it is kept, how it is loaded and saved, and runs of such
steps. A file that is not there is no error; a file that cannot be read or understood is. -/

namespace Stanza

inductive ConfigError where
  | unreadable (path : Text) (cause : FileError)
  | malformed (path : Text)
  deriving DecidableEq

/-- Behind a text that is malformed the reader of the format adds what is wrong with it, in its own
words. They are left out. -/
def ConfigError.message : ConfigError → Text
  | .unreadable path cause =>
    "Failed to read config file at ".toList ++ path ++ ": ".toList ++ cause.message
  | .malformed path => "Failed to parse config file at ".toList ++ path

namespace Config

def place (env : Environment) : Text :=
  Expansion.tilde env "~/.config/spec-syntax".toList ++ "/config.toml".toList

def ofReading (path : Text) : Reading → Except ConfigError (Option Config)
  | .missing _ => .ok none
  | .unreadable cause => .error (.unreadable path cause)
  | .text t =>
    match read? t with
    | some c => .ok (some c)
    | none => .error (.malformed path)

def loadFrom (s : Store) (path : Text) : Except ConfigError (Option Config) :=
  ofReading path (s.reading path)

def saveTo (s : Store) (path : Text) (c : Config) (w : Writing := .whole) :
    Except FileError Unit × Store :=
  s.save path c.write.toBytes w

/-- A step of a run. One that writes comes with what the system makes of its write. -/
inductive Step where
  | write (path : Text) (bytes : ByteArray) (w : Writing := .whole)
  | makeDirectory (path : Text)
  | read (path : Text)
  | loadFrom (path : Text)
  | load
  | saveTo (path : Text) (c : Config) (w : Writing := .whole)
  | save (c : Config) (w : Writing := .whole)
  deriving DecidableEq

inductive Answer where
  | changed (result : Except FileError Unit)
  | content (t : Option Text)
  | loaded (result : Except ConfigError (Option Config))

def Step.run (env : Environment) (s : Store) : Step → Answer × Store
  | write path bytes w =>
    let after := s.save path bytes w
    (.changed after.1, after.2)
  | makeDirectory path =>
    let after := s.makeDirectories path
    (.changed after.1, after.2)
  | read path => (.content (s.readText path).toOption, s)
  | loadFrom path => (.loaded (Config.loadFrom s path), s)
  | load => (.loaded (Config.loadFrom s (place env)), s)
  | saveTo path c w =>
    let after := Config.saveTo s path c w
    (.changed after.1, after.2)
  | save c w =>
    let after := Config.saveTo s (place env) c w
    (.changed after.1, after.2)

def Step.runAll (env : Environment) (s : Store) : List Step → List Answer × Store
  | [] => ([], s)
  | step :: steps =>
    let first := step.run env s
    let others := runAll env first.2 steps
    (first.1 :: others.1, others.2)

end Config

end Stanza
