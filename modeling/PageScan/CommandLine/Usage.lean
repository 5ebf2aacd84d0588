import PageScan.CommandLine.Arguments
import PageScan.Text.Styled
import PageScan.Version

/-!
# Usage

What the program says about its own arguments: the help text, the version, and what was wrong with a
call that it refuses.
-/

namespace PageScan.CommandLine

open Text

/-- What a subcommand is for. -/
def Subcommand.purpose : Subcommand → String
  | .lex => "Tokenize a JavaScript file"
  | .classify => "Classify the resource attribute of an HTML element"
  | .rules => "List the configured custom attribute rules"

/-- The operands and switches of a subcommand. -/
def Subcommand.operands : Subcommand → String
  | .lex => " <FILE> [-s|--summary]"
  | .classify => " <TAG> [NAME=VALUE]... [--tainted <NAME>]..."
  | .rules => ""

/-- What a switch is for. -/
def Switch.purpose : Switch → String
  | .verbose => "Enable debug logging"
  | .config => "Path to the configuration file [env: INFLIGHT_CONFIG]"
  | .summary => "Print per-kind token counts instead of every token"
  | .tainted => "Mark an attribute as having failed to decode"
  | .help => "Print help"
  | .version => "Print version"

/-- A switch as it is written. -/
def Switch.usage (s : Switch) : String :=
  let short :=
    match s.short? with
    | some c => "-" ++ c.toString ++ ", "
    | none => ""
  let value := if s.takesValue then " <VALUE>" else ""
  short ++ "--" ++ s.long ++ value

/-- The line on how the program is called. -/
def usageLine : String := "Usage: " ++ programName ++ " [OPTIONS] [COMMAND]\n"

/-- The help text. -/
def helpText : String :=
  let commands := Subcommand.all.map fun s =>
    "  " ++ s.name ++ s.operands ++ "\n        " ++ s.purpose ++ "\n"
  let options := (switches none).map fun s => "  " ++ s.usage ++ "\n        " ++ s.purpose ++ "\n"
  usageLine ++ "\nCommands (a shell for want of one):\n" ++ String.join commands ++
    "\nOptions:\n" ++ String.join options

/-- The name of a scope: that of the program, with that of the subcommand behind a hyphen. -/
def scopeName : Scope → String
  | none => programName
  | some s => programName ++ "-" ++ s.name

/-- What was wrong with a refused call; nothing when the caller wished for something else. -/
def Refusal.fault? : Refusal → Option String
  | unknownArgument => some "an argument is not known"
  | argumentConflict => some "an argument cannot be given twice"
  | invalidValue => some "a value is missing or not valid"
  | tooManyValues => some "an argument takes no value"
  | missingArgument => some "an argument is missing"
  | invalidSubcommand => some "a command is not known"
  | helpAsked => none
  | versionAsked _ => none

/-- What the program says to a refused call. -/
def Refusal.notice : Refusal → Styled
  | helpAsked => .plain helpText
  | versionAsked scope => .plain (scopeName scope ++ " " ++ version ++ "\n")
  | _ => []

/-- What the program complains about in a refused call. -/
def Refusal.complaint (r : Refusal) : Styled :=
  match r.fault? with
  | some fault => .plain ("error: " ++ fault ++ "\n\n" ++ usageLine)
  | none => []

end PageScan.CommandLine
