import PageScan.Html.Rule
import PageScan.Toml.Document

/-!
# Settings

Settings are kept in a TOML document with two parts: the table `log` with the `level` at which the
program reports, and the list `url_valued_attribute` of custom rules. Both may be missing; anything
else at the top is refused. Inside `log` and inside a rule other keys are passed over.

A table with known keys may also be written as an array of its values in their order: `log` as an
array of one level, a rule as an array of element, attribute and category. Surplus items are passed
over there. A date or time where a table is wanted counts as a table without known keys.
-/

namespace PageScan

open Toml Html

/-- What the program can be set to. -/
structure Settings where
  logLevel : String := "warn"
  rules : RuleSet := []
  deriving DecidableEq, Repr

/-- What is wrong with a settings document. -/
inductive SettingsFault where
  | notToml
  | unknownKey (key : String)
  | badLog
  | badRules
  deriving DecidableEq, Repr

/-- The text that reports a fault. -/
def SettingsFault.message : SettingsFault → String
  | notToml => "not a TOML document"
  | unknownKey key => "unknown field '" ++ key ++ "'"
  | badLog => "'log' does not give a level"
  | badRules => "'url_valued_attribute' is not a list of rules"

namespace Settings

/-- The key of the log settings. -/
def logKey : String := "log"

/-- The key of the custom rules. -/
def rulesKey : String := "url_valued_attribute"

/-- The entries of a value that stands for a table with known keys. -/
def fields? : Value → Option Entries
  | .table _ entries => some entries
  | .dateTime _ => some []
  | _ => none

/-- The level without settings. -/
def defaultLevel : String := ({} : Settings).logLevel

/-- The level that the log settings give. -/
def logLevel? : Value → Option String
  | .array [] => some defaultLevel
  | .array (level :: _) => level.string?
  | v => do
    match (← fields? v).get? "level" with
    | none => some defaultLevel
    | some level => level.string?

/-- A rule by its three values. -/
def ruleOfValues? (elementName attributeName category : Value) : Option Rule := do
  return ⟨← elementName.string?, ← attributeName.string?, ← Category.ofName? (← category.string?)⟩

/-- The rule that a value stands for. -/
def rule? : Value → Option Rule
  | .array (elementName :: attributeName :: category :: _) =>
    ruleOfValues? elementName attributeName category
  | v => do
    let entries ← fields? v
    ruleOfValues? (← entries.get? "element") (← entries.get? "attribute")
      (← entries.get? "category")

/-- The rules that a value stands for. -/
def rules? : Value → Option RuleSet
  | .array items => items.mapM rule?
  | .tables elements => elements.mapM fun entries => rule? (.table .header entries)
  | _ => none

/-- Takes one entry of the document into the settings. -/
def take (s : Settings) (entry : String × Value) : Except SettingsFault Settings :=
  if entry.1 = logKey then
    match logLevel? entry.2 with
    | some level => .ok { s with logLevel := level }
    | none => .error .badLog
  else if entry.1 = rulesKey then
    match rules? entry.2 with
    | some rs => .ok { s with rules := rs }
    | none => .error .badRules
  else .error (.unknownKey entry.1)

/-- **Reading settings.** -/
def parse (cs : List Char) : Except SettingsFault Settings :=
  match Toml.parse cs with
  | some entries => entries.foldlM take {}
  | none => .error .notToml

end Settings

end PageScan
