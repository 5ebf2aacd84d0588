import PageScan.Html.Element
import PageScan.Text.Blank

/-!
# Attributes on the command line

An attribute is given as `NAME` or `NAME=VALUE`. Blanks around the name are dropped; the name must
not be empty and must hold no blank. The value is taken as it is, less one pair of equal quotes
around it, so every value can be given: `NAME="VALUE"` stands for `VALUE` whatever that holds.

`elementOfArguments` builds an element from such arguments. Attributes whose name is in the list of
tainted names become tainted.
-/

namespace PageScan.CommandLine

open Text Html

/-- One attribute as it is given on the command line. -/
structure AttributeArgument where
  name : String
  value? : Option String
  deriving DecidableEq, Repr

/-- An argument that names no attribute. -/
structure InvalidAttribute where
  argument : String
  deriving DecidableEq, Repr

/-- The text that reports the argument. -/
def InvalidAttribute.message (e : InvalidAttribute) : String :=
  "invalid attribute '" ++ e.argument ++ "': expected NAME or NAME=VALUE"

/-- Takes one pair of the given quote off a text, if it stands in one. -/
def unquoteBy? (quote : Char) : List Char → Option (List Char)
  | [] => none
  | c :: cs => if c = quote ∧ cs.getLast? = some quote then some cs.dropLast else none

/-- Takes one pair of equal quotes off a text. -/
def unquote (cs : List Char) : List Char :=
  ((unquoteBy? '"' cs).or (unquoteBy? '\'' cs)).getD cs

/-- Whether a name can stand as the name of an attribute. -/
def isAttributeName (name : List Char) : Bool := !name.isEmpty && !name.any isBlank

/-- The name part of an argument: what is before its first equals sign, less the blanks around. -/
def namePart (cs : List Char) : List Char := trim (cs.takeWhile (· != '='))

/-- The value part of an argument: what is behind its first equals sign. -/
def valuePart? (cs : List Char) : Option (List Char) := (cs.dropWhile (· != '=')).tail?

/-- **Reading an attribute argument.** -/
def AttributeArgument.parse (arg : String) : Except InvalidAttribute AttributeArgument :=
  let name := namePart arg.toList
  if isAttributeName name then
    .ok ⟨String.ofList name, (valuePart? arg.toList).map (String.ofList ∘ unquote)⟩
  else .error ⟨arg⟩

/-- The attribute that an argument stands for. -/
def AttributeArgument.toAttribute (a : AttributeArgument) (tainted : List String) : Attribute :=
  if tainted.any (sameName · a.name) then ⟨a.name, .tainted (a.value?.getD "")⟩
  else
    match a.value? with
    | some value => .plain a.name value
    | none => ⟨a.name, .absent⟩

/-- **An element from the command line.** The first argument that names no attribute is reported. -/
def elementOfArguments (tag : String) (args tainted : List String) :
    Except InvalidAttribute Element := do
  let attributes ← args.mapM fun arg => do
    return (← AttributeArgument.parse arg).toAttribute tainted
  return ⟨tag, attributes⟩

end PageScan.CommandLine
