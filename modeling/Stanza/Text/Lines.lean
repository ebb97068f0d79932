import Stanza.Text.Basic

/-! The lines of a text, and a text from its lines. A line ends at a line feed, with a carriage
return just before it counted to the ending; a carriage return elsewhere belongs to its line. -/

namespace Stanza.Text

/-- The lines of a text without their endings. A text that ends with a line feed has no empty
last line. -/
def lines : Text → List Text
  | [] => []
  | '\n' :: t => [] :: lines t
  | '\r' :: '\n' :: t => [] :: lines t
  | c :: t =>
    match lines t with
    | [] => [[c]]
    | line :: rest => (c :: line) :: rest

def joinLines (ls : List Text) : Text := List.intercalate ['\n'] ls

end Stanza.Text
