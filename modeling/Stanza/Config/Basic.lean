import Stanza.Format
import Stanza.Toml.Reader
import Stanza.Toml.Writer

/-! The configuration: what a user sets once and for all. It is kept as a document of two entries,
either of which may be missing; other entries are no concern of it. -/

namespace Stanza

structure Config where
  documentName : Text
  format : Format
  deriving DecidableEq

def defaultDocumentName : Text := "index".toList

namespace Config

def default : Config := ⟨defaultDocumentName, .text⟩

def documentKey : Text := "document_name".toList

def formatKey : Text := "format".toList

/-- A format is its name, or a table with its name as the only key and nothing under it. -/
def formatOf? : Toml.Value → Option Format
  | .string t => Format.named? t
  | .table [(name, .table [])] => Format.named? name
  | .table [(name, .array [])] => Format.named? name
  | _ => none

def ofEntries? (entries : Toml.Entries) : Option Config := do
  let documentName ←
    match entries.lookup documentKey with
    | none => some default.documentName
    | some (.string t) => some t
    | some _ => none
  let format ←
    match entries.lookup formatKey with
    | none => some default.format
    | some v => formatOf? v
  some ⟨documentName, format⟩

/-- The configuration that a document sets; nothing if the text is no document or sets a value
that does not fit. -/
def read? (t : Text) : Option Config := (Toml.read? t).bind ofEntries?

def line (key value : Text) : Text := key ++ " = ".toList ++ Toml.writeString value ++ ['\n']

def write (c : Config) : Text := line documentKey c.documentName ++ line formatKey c.format.name

end Config

end Stanza
