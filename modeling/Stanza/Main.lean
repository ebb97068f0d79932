import Stanza.CommandLine.Run

/-! The program. It gives a run what the run may look at, and prints what comes of it. The files
are looked at in the order of the run, and the standard input only where it is the stanza. -/

namespace Stanza

/-- The cause that the system gives a number. Some of its calls answer the number with a minus
sign. -/
def FileError.ofCode (code : UInt32) (description : String) : FileError :=
  let number := if code < 0x80000000 then code else 0 - code
  match number with
  | 2 => .notFound
  | 17 => .exists
  | 20 => .notDirectory
  | 21 => .isDirectory
  | 36 => .nameTooLong
  | n =>
    .other
      (description.capitalize.toList ++ " (os error ".toList ++ Text.ofNat n.toNat ++ [')'])

def FileError.ofSystem : IO.Error → FileError
  | .noFileOrDirectory _ code description => ofCode code description
  | .inappropriateType _ code description => ofCode code description
  | .invalidArgument _ code description => ofCode code description
  | .permissionDenied _ code description => ofCode code description
  | .resourceExhausted _ code description => ofCode code description
  | .otherError code description => ofCode code description
  | e => .other (toString e).toList

namespace CommandLine

def look (path : Text) : IO Reading := do
  let name := String.ofList path
  let found ← try discard (IO.FS.realPath name); pure true catch _ => pure false
  try return .ofBytes (← IO.FS.readBinFile name)
  catch e =>
    let cause := FileError.ofSystem e
    return if found then .unreadable cause else .missing cause

def lookAtStdin : IO Reading := do
  try return .ofBytes (← (← IO.getStdin).readBinToEnd)
  catch e => return .unreadable (.ofSystem e)

def environment (names : List Text) : IO Environment :=
  names.filterMapM fun name => do
    return (← IO.getEnv (String.ofList name)).map fun value => (name, value.toList)

def outcome (arguments : List Text) : IO Outcome := do
  match request arguments with
  | .ok (.run a) =>
    let env ← environment a.variableNames
    let place := a.configPath env
    let config ← look place
    let (stdin, file) ←
      match a.configFrom env config, a.file with
      | .ok _, none => pure (← lookAtStdin, config)
      | .ok _, some path => pure (.text [], ← look path)
      | .error _, _ => pure (.text [], config)
    return run env arguments stdin fun path => if path = place then config else file
  | _ => return run (← environment styleVariableNames) arguments (.text []) fun _ => .text []

end CommandLine

end Stanza

def main (arguments : List String) : IO UInt32 := do
  let done ← Stanza.CommandLine.outcome (arguments.map String.toList)
  let stderr ← IO.getStderr
  for line in done.stderr do
    stderr.putStrLn (String.ofList line.written)
  let stdout ← IO.getStdout
  stdout.putStr (String.ofList done.stdout)
  stdout.flush
  return done.exit.toUInt32
