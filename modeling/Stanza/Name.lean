import Stanza.Text.Basic
import Stanza.Text.Uppercase

/-! The naming rule of grammars: a rule has a name in camel case, an uppercase character and then
one that is not (`Item`, `SomeRule`). Words of prose (`item`) and acronyms (`AB`) are no names. -/

namespace Stanza

/-- Whether a word follows the naming rule. Only its first two characters matter, and the empty
word passes. -/
def isName : Text → Bool
  | [] => true
  | [c] => Text.isUppercase c
  | c :: d :: _ => Text.isUppercase c && !Text.isUppercase d

end Stanza
