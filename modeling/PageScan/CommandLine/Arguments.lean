/-!
# Command line arguments

The program is called with one of three subcommands or with none, in which case it is a shell:

* `lex FILE` (or `tokenize`), with `-s`/`--summary`;
* `classify TAG [NAME=VALUE]...` (or `scan`), with `--tainted NAME` as often as needed;
* `rules`.

`-v`/`--verbose` and `-c`/`--config PATH` may be given before and behind the subcommand.

Words are read from left to right in a `Scope`: that of the program up to the subcommand, then that
of the subcommand. A value that stands in a word of its own is kept aside (`Reading.pending`) and
settled when the next switch or operand comes, or at the end of its scope; what is wrong with it is
reported then. A subcommand is therefore read to its end before a value in front of it is settled.
-/

namespace PageScan.CommandLine

/-- The subcommands. -/
inductive Subcommand where
  | lex
  | classify
  | rules
  deriving DecidableEq, Repr

namespace Subcommand

/-- Every subcommand. -/
def all : List Subcommand := [lex, classify, rules]

/-- The name of a subcommand. -/
def name : Subcommand → String
  | lex => "lex"
  | classify => "classify"
  | rules => "rules"

/-- Another name for a subcommand. -/
def alias? : Subcommand → Option String
  | lex => some "tokenize"
  | classify => some "scan"
  | rules => none

/-- The subcommand that a word names. -/
def ofWord? (word : String) : Option Subcommand :=
  all.find? fun s => s.name == word || s.alias? == some word

end Subcommand

/-- Why a call is not carried out. The last two are wishes of the caller, the others mistakes. -/
inductive Refusal where
  | unknownArgument
  | argumentConflict
  | invalidValue
  | tooManyValues
  | missingArgument
  | invalidSubcommand
  | helpAsked
  | versionAsked (scope : Option Subcommand)
  deriving DecidableEq, Repr

/-- Words that begin with a hyphen. -/
inductive Switch where
  | verbose
  | config
  | summary
  | tainted
  | help
  | version
  deriving DecidableEq, Repr

namespace Switch

/-- The name behind two hyphens. -/
def long : Switch → String
  | verbose => "verbose"
  | config => "config"
  | summary => "summary"
  | tainted => "tainted"
  | help => "help"
  | version => "version"

/-- The letter behind one hyphen. -/
def short? : Switch → Option Char
  | verbose => some 'v'
  | config => some 'c'
  | summary => some 's'
  | tainted => none
  | help => some 'h'
  | version => some 'V'

/-- Whether a switch comes with a value. -/
def takesValue : Switch → Bool
  | config | tainted => true
  | _ => false

end Switch

/-- The program itself, or one of its subcommands. -/
abbrev Scope := Option Subcommand

/-- The switches of a scope. -/
def switches : Scope → List Switch
  | some .lex => [.verbose, .config, .summary, .help, .version]
  | some .classify => [.verbose, .config, .tainted, .help, .version]
  | _ => [.verbose, .config, .help, .version]

/-- What was given in one scope. -/
structure Given where
  verbose : Bool := false
  config : Option String := none
  summary : Bool := false
  tainted : List String := []
  operands : List String := []
  deriving DecidableEq, Repr

/-- A value that is kept aside. -/
inductive Pending where
  /-- a switch whose value is to come -/
  | awaited (s : Switch)
  /-- a switch and its value -/
  | value (s : Switch) (text : String)
  /-- an operand -/
  | operand (text : String)
  deriving DecidableEq, Repr

/-- How far the words of a scope are read. -/
structure Reading where
  given : Given := {}
  pending : Option Pending := none
  /-- whether `--` came, behind which all words are operands -/
  onlyOperands : Bool := false
  deriving DecidableEq, Repr

/-- The number of operands that a scope takes; none when it takes any number. -/
def maxOperands : Scope → Option Nat
  | some .lex => some 1
  | some .classify => none
  | _ => some 0

namespace Given

/-- Takes a switch without a value. -/
def flag (g : Given) (scope : Scope) : Switch → Except Refusal Given
  | .verbose => if g.verbose then .error .argumentConflict else .ok { g with verbose := true }
  | .summary => if g.summary then .error .argumentConflict else .ok { g with summary := true }
  | .help => .error .helpAsked
  | .version => .error (.versionAsked scope)
  | .config | .tainted => .error .invalidValue

/-- Takes a switch with its value. A path must not be empty. -/
def option (g : Given) (s : Switch) (text : String) : Except Refusal Given :=
  match s with
  | .config =>
    if g.config.isSome then .error .argumentConflict
    else if text.isEmpty then .error .invalidValue
    else .ok { g with config := some text }
  | .tainted => .ok { g with tainted := g.tainted ++ [text] }
  | _ => .error .tooManyValues

/-- Takes an operand. The operand of `lex` is a path and must not be empty. -/
def operand (g : Given) (scope : Scope) (text : String) : Except Refusal Given :=
  if scope = some .lex ∧ text.isEmpty then .error .invalidValue
  else .ok { g with operands := g.operands ++ [text] }

end Given

namespace Reading

/-- Takes what was kept aside. -/
def settle (r : Reading) (scope : Scope) : Except Refusal Reading :=
  match r.pending with
  | none => .ok r
  | some (.awaited _) => .error .invalidValue
  | some (.value s text) => do return { r with given := ← r.given.option s text, pending := none }
  | some (.operand text) => do
    return { r with given := ← r.given.operand scope text, pending := none }

/-- Whether the next word is the value of a switch. -/
def isAwaiting (r : Reading) : Bool :=
  match r.pending with
  | some (.awaited _) => true
  | _ => false

/-- A switch whose value is to come. -/
def await (r : Reading) (scope : Scope) (s : Switch) : Except Refusal Reading := do
  return { ← r.settle scope with pending := some (.awaited s) }

/-- A switch without a value. -/
def flag (r : Reading) (scope : Scope) (s : Switch) : Except Refusal Reading := do
  let r ← r.settle scope
  return { r with given := ← r.given.flag scope s }

/-- A switch with its value in the same word. -/
def attached (r : Reading) (scope : Scope) (s : Switch) (text : List Char) :
    Except Refusal Reading := do
  let r ← r.settle scope
  return { r with given := ← r.given.option s (String.ofList text) }

/-- A word that begins with two hyphens, from behind them. -/
def longSwitch (r : Reading) (scope : Scope) (word : List Char) : Except Refusal Reading :=
  let value? := (word.dropWhile (· != '=')).tail?
  match (switches scope).find? (·.long.toList == word.takeWhile (· != '=')) with
  | none => .error .unknownArgument
  | some s =>
    match s.takesValue, value? with
    | true, some text => r.attached scope s text
    | true, none => r.await scope s
    | false, some _ => .error .tooManyValues
    | false, none => r.flag scope s

/-- A word that begins with one hyphen, from behind it: letters of switches, up to one that takes
the rest of the word, less an equals sign, as its value. -/
def shortSwitches (scope : Scope) : List Char → Reading → Except Refusal Reading
  | [], r => .ok r
  | c :: cs, r =>
    match (switches scope).find? (·.short? == some c) with
    | none => .error .unknownArgument
    | some s =>
      if s.takesValue then
        match cs with
        | [] => r.await scope s
        | '=' :: text => r.attached scope s text
        | text => r.attached scope s text
      else do shortSwitches scope cs (← r.flag scope s)

/-- A word that is no switch. -/
def operand (r : Reading) (scope : Scope) (word : String) : Except Refusal Reading :=
  let count := r.given.operands.length +
    match r.pending with
    | some (.operand _) => 1
    | _ => 0
  if (maxOperands scope).all (count < ·) then do
    return { ← r.settle scope with pending := some (.operand word) }
  else if scope.isSome then .error .unknownArgument
  else if r.onlyOperands ∧ (word = "help" ∨ (Subcommand.ofWord? word).isSome) then
    .error .unknownArgument
  else .error .invalidSubcommand

/-- **One word** that names no subcommand. -/
def word (r : Reading) (scope : Scope) (w : String) : Except Refusal Reading :=
  if r.onlyOperands then r.operand scope w
  else
    match w.toList with
    | ['-', '-'] => .ok { r with onlyOperands := true }
    | '-' :: '-' :: cs => r.longSwitch scope cs
    | '-' :: c :: cs => shortSwitches scope (c :: cs) r
    | _ =>
      match r.pending with
      | some (.awaited s) => .ok { r with pending := some (.value s w) }
      | _ => r.operand scope w

end Reading

/-- The path from the environment, for a scope in which none was given. It must not be empty
either. -/
def Given.withEnvironment (g : Given) (path? : Option String) : Except Refusal Given :=
  if g.config.isNone ∧ path? = some "" then .error .invalidValue else .ok g

/-- Finishes a scope: settles what is kept aside and looks for what is missing. -/
def Reading.finish (r : Reading) (scope : Scope) (path? : Option String) :
    Except Refusal Given := do
  let r ← r.settle scope
  let g ← r.given.withEnvironment path?
  if scope.isSome ∧ scope ≠ some .rules ∧ g.operands.isEmpty then throw .missingArgument
  return g

/-- What the program is to do. -/
inductive Task where
  | lex (file : String) (summary : Bool)
  | classify (tag : String) (attributes tainted : List String)
  | rules
  | shell
  deriving DecidableEq, Repr

/-- A call of the program. -/
structure Call where
  verbose : Bool
  config : Option String
  task : Task
  deriving DecidableEq, Repr

/-- What a subcommand is to do with what was given for it. -/
def Given.task (g : Given) : Subcommand → Task
  | .lex => .lex (g.operands.headD "") g.summary
  | .classify => .classify (g.operands.headD "") g.operands.tail g.tainted
  | .rules => .rules

/-- Reads the words of a subcommand. -/
def readSubcommand (s : Subcommand) (path? : Option String) (words : List String) :
    Except Refusal Given := do
  (← words.foldlM (fun r w => r.word (some s) w) ({} : Reading)).finish (some s) path?

/-- Looks for help on the words behind `help`. -/
def refuseHelp : List String → Refusal
  | [] => .helpAsked
  | [w] =>
    if w = "help" ∨ (Subcommand.ofWord? w).isSome then .helpAsked else .invalidSubcommand
  | _ => .invalidSubcommand

/-- Reads the words of the program from some point on. -/
def readWords (path? : Option String) : List String → Reading → Except Refusal Call
  | [], r => do
    let g ← r.finish none path?
    return ⟨g.verbose, g.config.or path?, .shell⟩
  | w :: ws, r =>
    if r.onlyOperands ∨ r.isAwaiting then do readWords path? ws (← r.word none w)
    else if w = "help" then .error (refuseHelp ws)
    else
      match Subcommand.ofWord? w with
      | some s => do
        let inner ← readSubcommand s path? ws
        let outer ← r.finish none path?
        return ⟨outer.verbose || inner.verbose, (inner.config.or outer.config).or path?,
          inner.task s⟩
      | none => do readWords path? ws (← r.word none w)

/-- **Reading the arguments,** with the settings path from the environment. -/
def Call.parse (path? : Option String) (args : List String) : Except Refusal Call :=
  readWords path? args {}

end PageScan.CommandLine
