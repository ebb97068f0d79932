import Stanza.Log.Basic
import Stanza.Pattern.Reader

/-! Filters on log records. A filter is a list of directives, each of which sets the limit for the
targets that begin with its name; the longest name counts. They are written with commas between:
`warn,parser=trace` lets through warnings, and all of what `parser` says. -/

namespace Stanza.Log

/-- The gravest records pass first; with no limit at all none passes. -/
abbrev Limit := Option Level

def Limit.admits (limit : Limit) (level : Level) : Bool :=
  match limit with
  | some most => level.rank ≤ most.rank
  | none => false

def limits : List (Text × Limit) :=
  [("off".toList, none), ("error".toList, some .error), ("warn".toList, some .warn),
   ("info".toList, some .info), ("debug".toList, some .debug), ("trace".toList, some .trace)]

def limit? (name : Text) : Option Limit := limits.lookup name.lowercase

structure Directive where
  name : Option Text
  limit : Limit
  deriving DecidableEq

/-- A filter: directives of different names, and a pattern that a message has to contain. -/
structure Filter where
  directives : List Directive
  wanted : Option Pattern
  deriving DecidableEq

namespace Filter

def atMost (level : Level) : Filter := ⟨[⟨none, some level⟩], none⟩

/-- Adds a directive, in the place of the one with the same name if there is one. -/
def set (d : Directive) : List Directive → List Directive
  | [] => [d]
  | e :: ds => if e.name = d.name then d :: ds else e :: set d ds

def nameLength (d : Directive) : Nat := (d.name.getD []).byteLength

def concerns (d : Directive) (target : Text) : Bool := (d.name.getD []).isPrefixOf target

/-- The directive that counts for a target: the longest name, and of equals the last. -/
def directiveFor (ds : List Directive) (target : Text) : Option Directive :=
  (ds.filter (concerns · target)).foldl
    (fun best d =>
      match best with
      | some b => if nameLength b ≤ nameLength d then some d else some b
      | none => some d)
    none

def passes (f : Filter) (r : Record) : Bool :=
  (match directiveFor f.directives r.target with
    | some d => d.limit.admits r.level
    | none => false) &&
  (match f.wanted with
    | some pattern => pattern.isIn r.message
    | none => true)

/-- The directive that a part between commas writes: a limit, a name, or both with an equals sign
between. A name alone lets everything through. -/
def directive? (part : Text) : Except Text Directive :=
  match Text.splitAt '=' part with
  | [word] =>
    match limit? word with
    | some l => .ok ⟨none, l⟩
    | none => .ok ⟨some word, some .trace⟩
  | [name, word] =>
    let word := Text.trim Text.isWhiteSpace word
    if word.isEmpty then .ok ⟨some name, some .trace⟩
    else
      match limit? word with
      | some l => .ok ⟨some name, l⟩
      | none => .error word
  | _ => .error part

def complaint (part : Text) (reason : String) : Text :=
  "invalid logging spec '".toList ++ part ++ ['\''] ++ reason.toList

def addParts (ds : List Directive) : List Text → List Directive × List Text
  | [] => (ds, [])
  | part :: parts =>
    let part := Text.trim Text.isWhiteSpace part
    if part.isEmpty then addParts ds parts
    else
      match directive? part with
      | .ok d => addParts (set d ds) parts
      | .error wrong =>
        let rest := addParts ds parts
        (rest.1, complaint wrong "" :: rest.2)

def patternComplaint (e : PatternError) : Text := "invalid regex filter - ".toList ++ e.message

/-- The filter changed by a written one, and what is wrong with that. A slash divides the
directives from a pattern that messages have to contain. -/
def extend (f : Filter) (written : Text) : Filter × List Text :=
  match Text.splitAt '/' written with
  | [parts] =>
    let read := addParts f.directives (Text.splitAt ',' parts)
    (⟨read.1, f.wanted⟩, read.2)
  | [parts, wanted] =>
    let read := addParts f.directives (Text.splitAt ',' parts)
    match Pattern.read wanted with
    | .ok p => (⟨read.1, some p⟩, read.2)
    | .error e => (⟨read.1, f.wanted⟩, read.2 ++ [patternComplaint e])
  | _ => (f, [complaint written " (too many '/'s)"])

end Filter

end Stanza.Log
