import PageScan.CommandLine.Usage
import PageScan.LogFilter
import PageScan.Shell.Session

/-!
# The program

`Program.run` is the whole program as a function of its arguments, its environment, its standard
input and the files it can read: arguments are read, settings are loaded, warnings are picked out,
and the task is done. It works in any monad that the files are in, so it runs on a real file system
as well as on a list of files.
-/

namespace PageScan

open Text Script Html CommandLine

/-- The environment variables of the program, by name. -/
abbrev Environment := String → Option String

/-- How the program ends. -/
inductive Ending where
  | finished
  | failed (f : Failure)
  | refused (r : Refusal)
  deriving DecidableEq, Repr

namespace Ending

/-- The number that the program ends with. -/
def exitCode : Ending → Nat
  | finished => 0
  | failed f => f.exitCode
  | refused .helpAsked => 0
  | refused (.versionAsked _) => 0
  | refused _ => 2

end Ending

/-- What the reader is told when the program ends. -/
def Ending.notice : Ending → Styled
  | .refused r => r.notice
  | _ => []

/-- What the reader is told went wrong. -/
def Ending.complaint : Ending → Styled
  | .finished => []
  | .failed f => errorLine [⟨f.message ++ "\n", []⟩]
  | .refused r => r.complaint

/-- What a run of the program comes to. -/
structure Outcome where
  output : Styled := []
  complaints : Styled := []
  /-- rules that the log warns about -/
  warnings : List Rule := []
  ending : Ending := .finished

namespace Program

/-! ### Settings -/

/-- The name of the settings file. -/
def settingsFile : String := "inflight.toml"

/-- The warning about a rule, as filters look at it. -/
def ruleReport : LogFilter.Report :=
  ⟨.warn, "inflight::config", ["message", "element", "attribute", "category"]⟩

/-- A path inside a directory. -/
def inDirectory (directory name : String) : String :=
  if directory.toList.getLast? = some '/' then directory ++ name else directory ++ "/" ++ name

/-- The directory of a user's settings: the one that the environment names by its whole path, or
`.config` in the home directory. -/
def settingsDirectory? (env : Environment) : Option String :=
  match (env "XDG_CONFIG_HOME").filter (·.toList.head? = some '/') with
  | some directory => some directory
  | none => ((env "HOME").filter (!·.isEmpty)).map (inDirectory · ".config")

/-- The path of a user's settings. -/
def userSettings? (env : Environment) : Option String :=
  (settingsDirectory? env).map fun directory =>
    inDirectory (inDirectory directory programName) settingsFile

variable {m : Type → Type} [Monad m]

/-- Reads a settings file. -/
def readSettings (files : Files m) (path : String) : m (Except Failure Settings) := do
  match ← files.read path with
  | .error fault => return .error (.unreadableFile path fault)
  | .ok bytes =>
    match decode? bytes with
    | none => return .error (.unreadableFile path .notUtf8)
    | some cs =>
      match Settings.parse cs with
      | .ok s => return .ok s
      | .error fault => return .error (.invalidSettings path fault)

/-- **Loading settings:** from the given file, or else from the user's if there is one, or else
none. -/
def loadSettings (files : Files m) (env : Environment) (explicit? : Option String) :
    m (Except Failure Settings) := do
  match explicit?, userSettings? env with
  | some path, _ => readSettings files path
  | none, some path => if ← files.isFile path then readSettings files path else return .ok {}
  | none, none => return .ok {}

/-- The filters to try in turn: that of the environment, then the one for a verbose run or that of
the settings. -/
def logFilters (env : Environment) (verbose : Bool) (settings : Except Failure Settings) :
    List String :=
  let level :=
    if verbose then "debug"
    else
      match settings with
      | .ok s => s.logLevel
      | .error _ => Settings.defaultLevel
  (env "RUST_LOG").toList ++ [level]

/-- The rules to warn about, if the log shows warnings. -/
def warnings (env : Environment) (verbose : Bool) (settings : Settings) : List Rule :=
  let filter := LogFilter.inForce (logFilters env verbose (.ok settings))
  if LogFilter.shows filter ruleReport then settings.rules.unmatchable else []

/-- The line of the log that warns about a rule. -/
def warningLine (r : Rule) : String :=
  "WARN " ++ ruleReport.target ++ ": custom attribute rule can never match element=" ++
    r.elementName ++ " attribute=" ++ r.attributeName ++ " category=" ++ r.category.spelling

/-! ### Tasks -/

/-- Lists the tokens of a file, or counts them by kind. -/
def lexFile (files : Files m) (path : String) (summary : Bool) : m Outcome := do
  match ← files.read path with
  | .error fault => return { ending := .failed (.unreadableFile path fault) }
  | .ok script =>
    let t := tokenize script
    let output : Styled :=
      if summary then
        t.summary.flatMap fun (kind, n) =>
          [⟨padLeft 16 kind, [.cyan]⟩, ⟨" " ++ toString n ++ "\n", []⟩]
      else t.tokens.map fun t => ⟨t.line ++ "\n", []⟩
    let ending :=
      match t.errorOffset? with
      | some offset => .failed (.malformedScript path offset)
      | none => .finished
    return { output, ending }

/-- Says what resource an element refers to. -/
def classifyElement (rules : RuleSet) (tag : String) (attributes tainted : List String) :
    Outcome :=
  match elementOfArguments tag attributes tainted with
  | .error fault => { ending := .failed (.invalidAttribute fault) }
  | .ok e => { output := describe (e.classify (some rules)).slot? ++ [⟨"\n", []⟩] }

/-- Whether the shell asks for lines even though nobody types them: it does on terminals that it
cannot take over. -/
def asksForLines (env : Environment) : Bool :=
  (env "TERM").any fun name => ["dumb", "cons25", "emacs"].any (sameName name)

/-- What the shell says whenever it waits for a text. -/
def promptOf (env : Environment) : Styled := if asksForLines env then Shell.prompt else []

/-- Runs the shell on the lines of the standard input. -/
def runShell (files : Files m) (rules : RuleSet) (prompt : Styled) (input : List UInt8) :
    m Outcome := do
  let r ← Shell.Session.run files rules prompt {} (Shell.linesOf input)
  let ending :=
    match r.failure? with
    | some f => .failed f
    | none => .finished
  return { output := Shell.banner ++ prompt ++ r.output, complaints := r.complaints, ending }

/-- Does a task. -/
def perform (files : Files m) (env : Environment) (rules : RuleSet) (input : List UInt8) :
    Task → m Outcome
  | .lex file summary => lexFile files file summary
  | .classify tag attributes tainted => return classifyElement rules tag attributes tainted
  | .rules => return { output := rulesText rules }
  | .shell => runShell files rules (promptOf env) input

/-! ### Runs -/

/-- What is known before a task is begun. -/
structure Ready where
  task : Task
  settings : Settings
  /-- rules that the log warns about -/
  warnings : List Rule

/-- Reads the arguments and loads the settings. -/
def prepare (files : Files m) (env : Environment) (args : List String) :
    m (Except Ending Ready) := do
  match Call.parse (env "INFLIGHT_CONFIG") args with
  | .error r => return .error (.refused r)
  | .ok call =>
    match ← loadSettings files env call.config with
    | .error f => return .error (.failed f)
    | .ok settings => return .ok ⟨call.task, settings, warnings env call.verbose settings⟩

/-- **The program.** -/
def run (files : Files m) (env : Environment) (args : List String) (input : List UInt8) :
    m Outcome := do
  match ← prepare files env args with
  | .error ending => return { output := ending.notice, ending }
  | .ok ready =>
    let outcome ← perform files env ready.settings.rules input ready.task
    return { outcome with warnings := ready.warnings }

end Program

end PageScan
