import Stanza.Environment
import Stanza.Terminal.Plain

/-! Texts with parts that a terminal sets off. Whether they are set off at all is for the environment
to say; where they are not, nothing in the text may steer the terminal. -/

namespace Stanza.Terminal

inductive Style where
  | normal
  | heading
  | failure
  /-- What is to be written as it stands. -/
  | literal
  | invalid
  deriving DecidableEq

abbrev Styled := List (Style × Text)

namespace Style

def reset : Text := "\x1B[0m".toList

def codes : Style → Text
  | normal => []
  | heading => "\x1B[1m\x1B[4m".toList
  | failure => "\x1B[1m\x1B[31m".toList
  | literal => "\x1B[1m".toList
  | invalid => "\x1B[33m".toList

def wrap (s : Style) (t : Text) : Text := if s = normal then t else s.codes ++ t ++ reset

end Style

def Styled.printed (colored : Bool) (t : Styled) : Text :=
  t.flatMap fun part => if colored then part.1.wrap part.2 else plain part.2

/-- The variable that keeps texts from being set off. -/
def plainVariable : Text := "NO_COLOR".toList

/-- The variable that sets texts off where no terminal is. -/
def colorVariable : Text := "CLICOLOR_FORCE".toList

/-- Whether the environment wants texts to be set off. An empty variable says nothing. -/
def isColored (env : Environment) : Bool :=
  ((env.get? plainVariable).getD []).isEmpty && !((env.get? colorVariable).getD []).isEmpty

end Stanza.Terminal
