import Stanza.Terminal.Style

/-! What the command line says about itself. -/

namespace Stanza.CommandLine

open Terminal (Styled)

def programName : Text := "spec-syntax".toList

def versionText : Styled := [(.normal, programName ++ " 0.1.0\n".toList)]

def optionWidth : Nat := 29

def optionLine (letter : Option Char) (name value purpose : String) : Styled :=
  let head : Styled :=
    (match letter with
      | some c => [(.normal, "  ".toList), (.literal, ['-', c]), (.normal, ", ".toList)]
      | none => [(.normal, "      ".toList)]) ++
      [(.literal, "--".toList ++ name.toList), (.normal, value.toList)]
  let width := (head.flatMap Prod.snd).length
  head ++ [(.normal, List.replicate (optionWidth - width) ' ' ++ purpose.toList ++ ['\n'])]

def helpText : Styled :=
  [(.normal, "Command-line driver dumping the tokens and nodes of syntax stanzas\n\n".toList),
   (.heading, "Usage:".toList), (.normal, [' ']), (.literal, programName),
   (.normal, " [OPTIONS] [FILE]\n\n".toList),
   (.heading, "Arguments:".toList),
   (.normal, "\n  [FILE]  Stanza file to read; stdin when omitted\n\n".toList),
   (.heading, "Options:".toList), (.normal, ['\n'])] ++
  optionLine none "tokens" "" "Print lexer tokens instead of parsed nodes" ++
  optionLine (some 'f') "format" " <FORMAT>" "Output format: text, json or html" ++
  optionLine (some 'd') "document" " <DOCUMENT>" "Document name attached to cross references" ++
  optionLine none "config" " <CONFIG>"
    "Config file to use instead of ~/.config/spec-syntax/config.toml" ++
  optionLine (some 'v') "verbose" "" "Enable debug logging" ++
  optionLine (some 'h') "help" "" "Print help" ++
  optionLine (some 'V') "version" "" "Print version"

end Stanza.CommandLine
