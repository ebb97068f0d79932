import Stanza.Text.Basic

/-! The variables that a program is started with. A program is handed them as entries, each a name,
an equals sign and a value in one text, and looks for a name by comparing beginnings. -/

namespace Stanza

/-- Names and values; of two entries that fit a name the first counts. -/
abbrev Environment := List (Text × Text)

namespace Environment

/-- The value in an entry that begins with a name and an equals sign. A name with an equals sign in
it reaches into the value of a shorter name. -/
def valueIn? (name : Text) (entry : Text × Text) : Option Text :=
  (name ++ ['=']).isPrefixOf? (entry.1 ++ '=' :: entry.2)

/-- The value of a variable. No variable has the empty name. -/
def get? (env : Environment) (name : Text) : Option Text :=
  if name.isEmpty then none else env.findSome? (valueIn? name)

def homeVariable : Text := "HOME".toList

/-- Where the variable is unset or empty, the database of users would be asked for the home directory.
That database is no part of the model. -/
def home? (env : Environment) : Option Text := env.get? homeVariable

end Environment

end Stanza
