import Stanza.Node.Parser
import Stanza.Text.Lines

/-! The block of a stanza: its nodes under the class that a renderer gives them. -/

namespace Stanza

def blockClass : Text := "spec-syntax".toList

/-- Nodes in order, and the classes of what encloses them. -/
structure Block where
  classes : List Text
  children : List Node
  deriving DecidableEq

namespace Block

def target : Text := "spec_syntax::block".toList

def parse (t document : Text) : Block × List Log.Record :=
  let nodes := classifyAll t document
  (⟨[blockClass], nodes.map Classified.node⟩,
    nodes.filterMap Classified.record ++
      [⟨.debug, target,
        "parsed syntax block from ".toList ++ document.quote ++ " into ".toList ++
          Text.ofNat nodes.length ++ " nodes".toList⟩])

def ofText (t document : Text) : Block := (parse t document).1

def ofLines (ls : List Text) (document : Text) : Block := ofText (Text.joinLines ls) document

def definitions (b : Block) : List Text := b.children.filterMap Node.defined?

def references (b : Block) : List Reference := b.children.filterMap Node.reference?

def text (b : Block) : Text := b.children.flatMap Node.visible

end Block

end Stanza
