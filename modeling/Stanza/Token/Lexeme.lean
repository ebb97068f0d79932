import Stanza.Token.Basic

/-! A lexeme is a piece of source with the reading that the lexer gives it. It holds what its
token forgets: whether a literal is closed. -/

namespace Stanza

inductive Lexeme where
  /-- A literal with its body; only the last of a text may lack the closing delimiter. -/
  | literal (body : Text) (closed : Bool)
  | marker
  | letters (run : Text)
  | blanks (run : Text)
  /-- Any other character. -/
  | single (c : Char)
  deriving DecidableEq

namespace Lexeme

def source : Lexeme → Text
  | literal body true => delimiter ++ body ++ delimiter
  | literal body false => delimiter ++ body
  | marker => definitionMarker
  | letters run => run
  | blanks run => run
  | single c => [c]

def token : Lexeme → Token
  | literal body _ => ⟨.literal, body⟩
  | marker => ⟨.definition, definitionMarker⟩
  | letters run => ⟨.identifier, run⟩
  | blanks run => ⟨.whitespace, run⟩
  | single c => ⟨.other, [c]⟩

/-- The tokens of consecutive lexemes with their spans, the first of which begins at `start`. -/
def spans (start : Nat) : List Lexeme → List Spanned
  | [] => []
  | l :: ls =>
    let stop := start + l.source.byteLength
    ⟨l.token, start, stop⟩ :: spans stop ls

end Lexeme

end Stanza
