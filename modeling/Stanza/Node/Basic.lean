import Stanza.Text.Basic

/-! Inline nodes: what a stanza becomes for a renderer. A node is a plain value; an index or a
renderer decides what to do with it. -/

namespace Stanza

def ruleCategory : Text := "syntaxes".toList

def ruleDomain : Text := "spec".toList

def ruleRole : Text := "ref".toList

/-- A reference to a name, resolved later against all that is registered. -/
structure Reference where
  target : Text
  /-- The text shown. -/
  display : Text
  domain : Text
  role : Text
  /-- The document the reference stands in. -/
  document : Text
  /-- The text shown was chosen by the author. -/
  explicit : Bool
  /-- A target that does not exist is reported. -/
  warn : Bool
  deriving DecidableEq

def Reference.toRule (name document : Text) : Reference where
  target := name
  display := name
  domain := ruleDomain
  role := ruleRole
  document := document
  explicit := false
  warn := false

inductive Node where
  | text (content : Text)
  /-- The body of a literal, shown with emphasis. -/
  | literal (content : Text)
  /-- A name where it is defined. -/
  | definition (category name : Text)
  /-- A name where it is used. -/
  | reference (r : Reference)
  deriving DecidableEq

namespace Node

def ruleDefinition (name : Text) : Node := .definition ruleCategory name

def ruleReference (name document : Text) : Node := .reference (.toRule name document)

def visible : Node → Text
  | text content => content
  | literal content => content
  | definition _ name => name
  | reference r => r.display

def defined? : Node → Option Text
  | definition _ name => some name
  | _ => none

def reference? : Node → Option Reference
  | reference r => some r
  | _ => none

end Node

end Stanza
