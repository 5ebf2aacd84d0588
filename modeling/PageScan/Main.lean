import PageScan.Program

/-!
# The executable

The outer layer: it hands arguments, environment, files and standard input to the program and writes
what the program answers. A shell is served line by line, so that it can be used by hand.
-/

namespace PageScan.Executable

open Text

/-- The environment variables that the program looks at. -/
def variableNames : List String :=
  ["INFLIGHT_CONFIG", "RUST_LOG", "XDG_CONFIG_HOME", "HOME", "TERM"]

/-- The environment of the process. -/
def environment : IO Environment := do
  let values ← variableNames.mapM fun name => return (name, ← IO.getEnv name)
  return fun name => (values.lookup name).join

/-- The fault that a failed read stands for. -/
def readFault : IO.Error → ReadFault
  | .noFileOrDirectory _ _ _ => .missing
  | .inappropriateType _ code _ =>
    if code = 21 ∨ code = -21 then .isDirectory else .notDirectory
  | .invalidArgument _ code _ =>
    if code = 36 ∨ code = -36 then .nameTooLong else .other "Invalid argument (os error 22)"
  | .permissionDenied _ _ _ => .other "Permission denied (os error 13)"
  | fault => .other fault.toString

/-- Reads a file. -/
def readFile (path : String) : IO (Except ReadFault (List UInt8)) := do
  if path.contains '\x00' then return .error .nulInPath
  try
    return .ok (← IO.FS.readBinFile path).toList
  catch e => return .error (readFault e)

/-- The files of the system. What can be read is taken for a regular file, and so is what is there
but may not be read. -/
def files : Files IO where
  read := readFile
  isFile path := do
    match ← readFile path with
    | .ok _ | .error (.other _) => return true
    | .error _ => return false

/-- Writes a text. -/
def write (stream : IO.FS.Stream) (text : Styled) : IO Unit := do
  stream.putStr text.render
  stream.flush

/-- Writes a line of the log for each rule to warn about. -/
def logWarnings (stream : IO.FS.Stream) (rules : List Html.Rule) : IO Unit := do
  for rule in rules do
    stream.putStrLn (Program.warningLine rule)
  stream.flush

/-- Reads the rest of a line with its line end, behind what was read of it. -/
partial def readLine (stream : IO.FS.Stream) (soFar : List UInt8) : IO (List UInt8) := do
  match (← stream.read 1).toList with
  | [] => return soFar.reverse
  | b :: _ =>
    if b = Script.lineFeed then return (b :: soFar).reverse
    else readLine stream (b :: soFar)

/-- Serves a shell to its end. -/
partial def serve (rules : Html.RuleSet) (prompt : Styled) (input output errors : IO.FS.Stream)
    (session : Shell.Session) : IO Ending := do
  let line ← readLine input []
  if line.isEmpty then
    write output Shell.Session.farewell
    return .finished
  match ← session.feed files rules line with
  | .more session => serve rules prompt input output errors session
  | .failed f => return .failed f
  | .replied reply =>
    write output reply.output
    write errors reply.complaint
    if reply.ends then return .finished
    write output prompt
    serve rules prompt input output errors {}

/-- Does what the program is called for, and says how it ended. -/
def perform (env : Environment) (ready : Program.Ready) (input output errors : IO.FS.Stream) :
    IO Ending := do
  match ready.task with
  | .shell =>
    let prompt := if ← input.isTty then Shell.prompt else Program.promptOf env
    write output (Shell.banner ++ prompt)
    serve ready.settings.rules prompt input output errors {}
  | task =>
    let outcome ← Program.perform files env ready.settings.rules [] task
    write output outcome.output
    write errors outcome.complaints
    return outcome.ending

/-- Runs the program. -/
def run (args : List String) : IO Ending := do
  let input ← IO.getStdin
  let output ← IO.getStdout
  let errors ← IO.getStderr
  let env ← environment
  let ending ←
    match ← Program.prepare files env args with
    | .error ending => pure ending
    | .ok ready =>
      logWarnings errors ready.warnings
      perform env ready input output errors
  write output ending.notice
  write errors ending.complaint
  return ending

end PageScan.Executable

/-- Runs the program on the arguments of the process. -/
def main (args : List String) : IO UInt32 := do
  return (← PageScan.Executable.run args).exitCode.toUInt32
