import PageScan.CommandLine.Attribute
import PageScan.File
import PageScan.Settings
import PageScan.Text.Styled

/-!
# Failures

What can end the program with a report, and the report's words.
-/

namespace PageScan

/-- A failure that ends the program. -/
inductive Failure where
  /-- a file that cannot be read -/
  | unreadableFile (path : String) (fault : ReadFault)
  /-- a settings file that can be read but not understood -/
  | invalidSettings (path : String) (fault : SettingsFault)
  /-- an argument that is no attribute -/
  | invalidAttribute (fault : CommandLine.InvalidAttribute)
  /-- a script with a malformed token -/
  | malformedScript (path : String) (offset : Nat)
  /-- a line of the shell that cannot be read -/
  | unreadableLine (fault : ReadFault)
  /-- a line of the shell with a backspace that would cut a character in two -/
  | cutCharacter
  deriving DecidableEq, Repr

namespace Failure

/-- The text that reports a failure, without what is wrong inside a settings file. -/
def heading : Failure → String
  | unreadableFile path fault => "cannot read '" ++ path ++ "': " ++ fault.message
  | invalidSettings path _ => "invalid configuration in '" ++ path ++ "':"
  | invalidAttribute fault => fault.message
  | malformedScript path offset =>
    "malformed javascript in '" ++ path ++ "' at byte " ++ toString offset
  | unreadableLine fault => "readline error: " ++ fault.message
  | cutCharacter => "a backspace cuts a character in two"

/-- **The text that reports a failure.** -/
def message : Failure → String
  | invalidSettings path fault => (invalidSettings path fault).heading ++ " " ++ fault.message
  | f => f.heading

/-- The number that the program ends with. A line that has no text breaks the program off. -/
def exitCode : Failure → Nat
  | cutCharacter => 101
  | _ => 1

end Failure

/-- A report line for the reader: the word "Error" and what went wrong. -/
def errorLine (text : Text.Styled) : Text.Styled :=
  [⟨"Error", [.red, .bold]⟩, ⟨": ", []⟩] ++ text

end PageScan
