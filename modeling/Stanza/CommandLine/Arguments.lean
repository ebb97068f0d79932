import Stanza.Format
import Stanza.Terminal.Style

/-! The arguments of the command line. They are taken from left to right. A value given to an
option is looked at only when the next option or file comes, or at the end, so a word that is no
option at all is complained of first. Arguments are texts, paths among them: one that is not UTF-8 is
outside of the model. -/

namespace Stanza.CommandLine

structure Arguments where
  file : Option Text
  tokens : Bool
  format : Option Format
  document : Option Text
  config : Option Text
  verbose : Bool
  deriving DecidableEq

def Arguments.empty : Arguments := ⟨none, false, none, none, none, false⟩

inductive Request where
  | help
  | version
  | run (a : Arguments)
  deriving DecidableEq

inductive Slot where
  | file
  | format
  | document
  | config
  deriving DecidableEq

inductive Flag where
  | tokens
  | verbose
  | help
  | version
  deriving DecidableEq

/-- An option is known by a long name, and some by a letter as well. -/
inductive Choice where
  | slot (s : Slot)
  | flag (f : Flag)

def Slot.display : Slot → Text
  | .file => "[FILE]".toList
  | .format => "--format <FORMAT>".toList
  | .document => "--document <DOCUMENT>".toList
  | .config => "--config <CONFIG>".toList

def Flag.display : Flag → Text
  | .tokens => "--tokens".toList
  | .verbose => "--verbose".toList
  | .help => "--help".toList
  | .version => "--version".toList

def longNames : List (Text × Choice) :=
  [("tokens".toList, .flag .tokens), ("format".toList, .slot .format),
   ("document".toList, .slot .document), ("config".toList, .slot .config),
   ("verbose".toList, .flag .verbose), ("help".toList, .flag .help),
   ("version".toList, .flag .version)]

def letters : List (Char × Choice) :=
  [('f', .slot .format), ('d', .slot .document), ('v', .flag .verbose), ('h', .flag .help),
   ('V', .flag .version)]

inductive UsageError where
  | invalidFormat (value : Text) (cause : UnknownFormat)
  | missingValue (s : Slot)
  | repeatedSlot (s : Slot)
  | repeatedFlag (f : Flag)
  | unexpectedArgument (argument : Text)
  | unexpectedValue (value : Text) (f : Flag)
  deriving DecidableEq

def UsageError.message : UsageError → Terminal.Styled
  | .invalidFormat value cause =>
    [(.normal, "invalid value '".toList), (.invalid, value), (.normal, "' for '".toList),
     (.literal, Slot.format.display), (.normal, "': ".toList ++ cause.message)]
  | .missingValue s =>
    [(.normal, "a value is required for '".toList), (.invalid, s.display),
     (.normal, "' but none was supplied".toList)]
  | .repeatedSlot s =>
    [(.normal, "the argument '".toList), (.invalid, s.display),
     (.normal, "' cannot be used multiple times".toList)]
  | .repeatedFlag f =>
    [(.normal, "the argument '".toList), (.invalid, f.display),
     (.normal, "' cannot be used multiple times".toList)]
  | .unexpectedArgument argument =>
    [(.normal, "unexpected argument '".toList), (.invalid, argument), (.normal, "' found".toList)]
  | .unexpectedValue value f =>
    [(.normal, "unexpected value '".toList), (.invalid, value), (.normal, "' for '".toList),
     (.literal, f.display), (.normal, "' found; no more were expected".toList)]

def Arguments.holds (a : Arguments) : Slot → Bool
  | .file => a.file.isSome
  | .format => a.format.isSome
  | .document => a.document.isSome
  | .config => a.config.isSome

/-- Puts a value into a slot. Only a document name may be empty. -/
def Arguments.fill (a : Arguments) (s : Slot) (value : Text) : Except UsageError Arguments :=
  if a.holds s then .error (.repeatedSlot s)
  else
    match s with
    | .format =>
      match Format.ofText value with
      | .ok f => .ok { a with format := f }
      | .error e => .error (.invalidFormat value e)
    | .document => .ok { a with document := value }
    | .file => if value.isEmpty then .error (.missingValue .file) else .ok { a with file := value }
    | .config =>
      if value.isEmpty then .error (.missingValue .config) else .ok { a with config := value }

structure Progress where
  arguments : Arguments
  /-- A slot that was named, with its value if that has come. -/
  pending : Option (Slot × Option Text)
  /-- A file has been named. -/
  filed : Bool
  /-- Two dashes have come: what follows is no option. -/
  trailing : Bool

def Progress.start : Progress := ⟨.empty, none, false, false⟩

/-- What an argument leads to: more to come, or a request that nothing can change any more. -/
inductive Advance where
  | more (p : Progress)
  | done (r : Request)

namespace Progress

def settle (p : Progress) : Except UsageError Progress :=
  match p.pending with
  | none => .ok p
  | some (s, none) => .error (.missingValue s)
  | some (s, some value) =>
    match p.arguments.fill s value with
    | .ok a => .ok { p with arguments := a, pending := none }
    | .error e => .error e

def await (p : Progress) (s : Slot) : Except UsageError Advance :=
  match p.settle with
  | .ok p => .ok (.more { p with pending := some (s, none) })
  | .error e => .error e

def assign (p : Progress) (s : Slot) (value : Text) : Except UsageError Advance :=
  match p.settle with
  | .error e => .error e
  | .ok p =>
    match p.arguments.fill s value with
    | .ok a => .ok (.more { p with arguments := a })
    | .error e => .error e

def raise (p : Progress) (f : Flag) : Except UsageError Advance :=
  match p.settle with
  | .error e => .error e
  | .ok p =>
    match f with
    | .tokens =>
      if p.arguments.tokens then .error (.repeatedFlag .tokens)
      else .ok (.more { p with arguments.tokens := true })
    | .verbose =>
      if p.arguments.verbose then .error (.repeatedFlag .verbose)
      else .ok (.more { p with arguments.verbose := true })
    | .help => .ok (.done .help)
    | .version => .ok (.done .version)

def positional (p : Progress) (value : Text) : Except UsageError Advance :=
  if p.filed then .error (.unexpectedArgument value)
  else
    match p.settle with
    | .ok p => .ok (.more { p with pending := some (.file, some value), filed := true })
    | .error e => .error e

/-- Takes a word that is no option. -/
def plain (p : Progress) (value : Text) : Except UsageError Advance :=
  match p.pending with
  | some (s, none) => .ok (.more { p with pending := some (s, some value) })
  | _ => p.positional value

def long (p : Progress) (word : Text) : Except UsageError Advance :=
  let name := word.takeWhile (· != '=')
  match longNames.lookup name, word.dropWhile (· != '=') with
  | none, _ => .error (.unexpectedArgument ('-' :: '-' :: name))
  | some (.flag f), [] => p.raise f
  | some (.flag f), _ :: value => .error (.unexpectedValue value f)
  | some (.slot s), [] => p.await s
  | some (.slot s), _ :: value => p.assign s value

/-- Takes the letters that follow one dash. What follows the letter of a slot is its value, with
an equals sign between or without. -/
def short (p : Progress) : Text → Except UsageError Advance
  | [] => .ok (.more p)
  | c :: rest =>
    match letters.lookup c, rest with
    | none, _ => .error (.unexpectedArgument ['-', c])
    | some (.slot s), [] => p.await s
    | some (.slot s), '=' :: value => p.assign s value
    | some (.slot s), value => p.assign s value
    | some (.flag f), rest =>
      match p.raise f with
      | .ok (.more p) => p.short rest
      | result => result

/-- Takes an argument. One dash alone is a word like any other. -/
def step (p : Progress) (argument : Text) : Except UsageError Advance :=
  if p.trailing then p.positional argument
  else
    match argument with
    | ['-', '-'] => .ok (.more { p with trailing := true })
    | '-' :: '-' :: word => p.long word
    | '-' :: c :: word => p.short (c :: word)
    | word => p.plain word

def steps (p : Progress) : List Text → Except UsageError Request
  | [] =>
    match p.settle with
    | .ok p => .ok (.run p.arguments)
    | .error e => .error e
  | argument :: rest =>
    match p.step argument with
    | .ok (.more p) => p.steps rest
    | .ok (.done r) => .ok r
    | .error e => .error e

end Progress

def request (arguments : List Text) : Except UsageError Request := Progress.start.steps arguments

end Stanza.CommandLine
