import Stanza.Terminal.Plain

/-! Log records: what a computation has to say beside its result, in order. -/

namespace Stanza.Log

inductive Level where
  | error
  | warn
  | info
  | debug
  | trace
  deriving DecidableEq

/-- The place of a level: a record passes a limit when its place is not beyond that of the limit. -/
def Level.rank : Level → Nat
  | .error => 1
  | .warn => 2
  | .info => 3
  | .debug => 4
  | .trace => 5

def Level.name : Level → Text
  | .error => "ERROR".toList
  | .warn => "WARN".toList
  | .info => "INFO".toList
  | .debug => "DEBUG".toList
  | .trace => "TRACE".toList

/-- One record; the target says which part of the program speaks. -/
structure Record where
  level : Level
  target : Text
  message : Text
  deriving DecidableEq

/-- A line of what a program reports while it runs: a record, or a text that stands for itself. -/
inductive Line where
  | record (r : Record)
  | text (t : Text)
  deriving DecidableEq

def levelWidth : Nat := 5

namespace Line

def written : Line → Text
  | record r =>
    '[' :: r.level.name ++ List.replicate (levelWidth - r.level.name.length) ' ' ++ [' '] ++
      r.target ++ "] ".toList ++ r.message
  | text t => t

def append : Line → Text → Line
  | record r, t => record { r with message := r.message ++ t }
  | text s, t => text (s ++ t)

/-- Puts a line in front of others, and below it the pieces that follow. The last of them all does
not end there: the first of the others goes on with it. -/
def continued (line : Line) : List Text → List Line → List Line
  | piece :: pieces, others => line :: continued (text piece) pieces others
  | [], others =>
    if line = text [] then others
    else
      match others with
      | next :: others => line.append next.written :: others
      | [] => [line]

def ofText (t : Text) (others : List Line) : List Line :=
  match Text.splitAt '\n' t with
  | piece :: pieces => continued (text piece) pieces others
  | [] => others

end Line

def indent : Text := "    ".toList

def Record.shown (r : Record) : Text :=
  Terminal.plain (List.intercalate ('\n' :: indent) (Text.splitAt '\n' r.message) ++ ['\n'])

/-- Puts the lines of a record in front of others. A message that breaks off in a sequence for the
terminal may take the end of its last line with it. -/
def Record.lines (r : Record) (others : List Line) : List Line :=
  match Text.splitAt '\n' r.shown with
  | piece :: pieces => Line.continued (.record { r with message := piece }) pieces others
  | [] => others

end Stanza.Log
