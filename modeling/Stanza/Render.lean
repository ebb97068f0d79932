import Stanza.Block
import Stanza.Dump
import Stanza.Format
import Stanza.Json
import Stanza.Markup

/-! Tokens and blocks in each of the formats. -/

namespace Stanza

open Markup

inductive RenderError where
  | tokensAsHtml
  deriving DecidableEq

def RenderError.message : RenderError → Text
  | .tokensAsHtml => "tokens cannot be rendered as html".toList

def Token.json (t : Token) : Json :=
  .object [("kind".toList, .string t.kind.name), ("text".toList, .string t.text)]

def Reference.json (r : Reference) : Json :=
  .object [
    ("target".toList, .string r.target),
    ("display_text".toList, .string r.display),
    ("domain".toList, .string r.domain),
    ("reftype".toList, .string r.role),
    ("ref_doc".toList, .string r.document),
    ("explicit".toList, .bool r.explicit),
    ("warn".toList, .bool r.warn)]

/-- A node as an object with one field, named for what the node is. -/
def Node.json : Node → Json
  | .text content => .object [("Text".toList, .string content)]
  | .literal content => .object [("LiteralEmphasis".toList, .string content)]
  | .definition category name =>
    .object [("DefinitionMarker".toList,
      .object [("category".toList, .string category), ("name".toList, .string name)])]
  | .reference r => .object [("CrossReference".toList, r.json)]

def Block.json (b : Block) : Json :=
  .object [
    ("classes".toList, .array (b.classes.map .string)),
    ("children".toList, .array (b.children.map Node.json))]

def literalClass : Text := "spec-syntax-literal".toList

/-- The name of the place where a name of a category is defined. -/
def anchor (category name : Text) : Text := category ++ '-' :: name

/-- A node in HTML. A reference leads to the place where a rule of its name is defined. -/
def Node.html : Node → Text
  | .text content => escapeText content
  | .literal content =>
    element "strong".toList (attr "class".toList literalClass) (escapeText content)
  | .definition category name =>
    element "dfn".toList (attr "id".toList (escapeValue (anchor category name)))
      (escapeText name)
  | .reference r =>
    element "a".toList
      (attr "class".toList (r.domain ++ '-' :: r.role) ++
        attr "href".toList ('#' :: escapeValue (anchor ruleCategory r.target)) ++
        attr "data-refdoc".toList (escapeValue r.document))
      (escapeText r.display)

def Block.html (b : Block) : Text :=
  element "pre".toList
    (attr "class".toList (escapeValue (List.intercalate [' '] b.classes)))
    (b.children.flatMap Node.html)

def Block.render (b : Block) : Format → Text
  | .text => dumpNodes b.children
  | .json => b.json.pretty
  | .html => b.html

def renderTokens (t : Text) : Format → Except RenderError Text
  | .text => .ok (dumpTokens (lex t))
  | .json => .ok (Json.array ((lex t).map Token.json)).pretty
  | .html => .error .tokensAsHtml

end Stanza
