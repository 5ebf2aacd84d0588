import PageScan.Failure
import PageScan.Html.Listing
import PageScan.Shell.Command
import PageScan.Shell.Highlight
import PageScan.Text.Backspace
import PageScan.Version

/-!
# Shell sessions

A session reads lines, does what a command says and answers any other text with its tokens in
colour and their number. Backspaces in a line are carried out first. A text that then stops inside
a block comment is not complete: it goes on with the next line, line ends included, until the
comment is closed; the backspaces of that line may reach back into the lines before. A line that is
not UTF-8 ends the session.

Lines come in one by one with their line ends (`Session.feed`), so a session can be run on a list of
lines (`Session.run`) as well as on a terminal. What a line comes to behind the text before it is a
parameter (`Session.feedBy`); a session that reads no keys goes by `readLine`.
-/

namespace PageScan.Shell

open Text Script Html

/-! ### Answers -/

/-- What the shell says when it starts. -/
def banner : Styled :=
  [⟨"\n  ", []⟩, ⟨programName, [.brightCyan, .bold]⟩, ⟨" ", []⟩, ⟨"v", [.dimmed]⟩,
    ⟨version, [.brightYellow]⟩, ⟨"\n  ", []⟩, ⟨"JavaScript tokenizer shell", [.dimmed]⟩,
    ⟨"\n  ", []⟩, ⟨"Type", [.dimmed]⟩, ⟨" ", []⟩, ⟨".help", [.cyan]⟩, ⟨" ", []⟩,
    ⟨"for available commands", [.dimmed]⟩, ⟨"\n\n", []⟩]

/-- What the shell says on a terminal when it waits for a text. -/
def prompt : Styled := [⟨programName ++ ">", [.brightGreen, .bold]⟩, ⟨" ", []⟩]

/-- The line on one command in the help text. -/
def helpLine (c : Command) : Styled :=
  [⟨"  ", []⟩, ⟨padRight 16 c.usage, [.cyan]⟩, ⟨" ", []⟩, ⟨c.summary, [.dimmed]⟩, ⟨"\n", []⟩]

/-- The help text. -/
def helpText : Styled :=
  [⟨"\n", []⟩, ⟨"REPL Commands:", [.white, .bold]⟩, ⟨"\n\n", []⟩] ++ Command.all.flatMap helpLine ++
    [⟨"\n", []⟩, ⟨"Anything else is tokenized and echoed back.", [.dimmed]⟩, ⟨"\n\n", []⟩]

/-- The line on the program's version. -/
def versionLine : Styled :=
  [⟨programName, [.brightCyan, .bold]⟩, ⟨" ", []⟩, ⟨version, [.yellow]⟩, ⟨"\n", []⟩]

/-- What clears the terminal. -/
def clearScreen : Styled := [⟨"\x1b[2J\x1b[H", []⟩]

/-- The tokens of a script in colour, and a line on their number and on a malformed one. -/
def tokensText (script : List UInt8) : Styled :=
  let t := tokenize script
  let counts := toString t.tokens.length ++ " tokens, " ++ toString t.significant.length ++
    " significant"
  let fault :=
    match t.errorOffset? with
    | some offset => [⟨", ", []⟩, ⟨"malformed token at byte " ++ toString offset, [.red]⟩]
    | none => []
  t.painted ++ [⟨"\n", []⟩, ⟨counts, [.dimmed]⟩] ++ fault ++ [⟨"\n", []⟩]

/-- The complaint about a `.load` without a file. -/
def missingFile : Styled :=
  errorLine [⟨".load", [.cyan]⟩, ⟨" ", []⟩, ⟨"requires a file path", [.dimmed]⟩, ⟨"\n", []⟩]

/-! ### Sessions -/

/-- What the shell says to a line: to the reader, as a complaint, and whether it goes on. -/
structure Reply where
  output : Styled := []
  complaint : Styled := []
  ends : Bool := false

/-- Does what a command says. -/
def execute {m : Type → Type} [Monad m] (files : Files m) (rules : RuleSet) :
    Command → Option String → m Reply
  | .help, _ => return { output := helpText }
  | .exit, _ => return { ends := true }
  | .clear, _ => return { output := clearScreen }
  | .version, _ => return { output := versionLine }
  | .rules, _ => return { output := rulesText rules }
  | .load, none => return { complaint := missingFile }
  | .load, some path => do
    match ← files.read path with
    | .ok script => return { output := tokensText script }
    | .error fault =>
      let message := (Failure.unreadableFile path fault).message ++ "\n"
      return { complaint := errorLine [⟨message, []⟩] }

/-- **The reply to a complete text.** -/
def reply {m : Type → Type} [Monad m] (files : Files m) (rules : RuleSet) (text : String) :
    m Reply :=
  if (trim text.toList).isEmpty then return {}
  else
    match Command.parse text with
    | some (c, arg) => execute files rules c arg
    | none => return { output := tokensText (bytes text) }

/-- Takes the line end off a line; the line end, too. -/
def cutLineEnd (line : List Char) : List Char × List Char :=
  match line.reverse with
  | '\n' :: '\r' :: before => (before.reverse, ['\r', '\n'])
  | '\n' :: before => (before.reverse, ['\n'])
  | _ => (line, [])

/-- What was typed: a text, and the line end behind it. -/
structure Entry where
  text : String
  lineEnd : List Char
  deriving DecidableEq, Repr

/-- Reads a line behind the text that is kept; its backspaces reach back into that text. -/
def readLine (kept : List Char) (line : List UInt8) : Except Failure Entry :=
  match decode? line with
  | none => .error (.unreadableLine .notUtf8)
  | some cs =>
    let (shown, lineEnd) := cutLineEnd (kept ++ cs)
    match typed? shown with
    | none => .error .cutCharacter
    | some text => .ok ⟨String.ofList text, lineEnd⟩

/-- A session between two lines: the text that is not complete yet. -/
structure Session where
  kept : List Char := []

/-- What a line comes to. -/
inductive Fed where
  /-- the text is not complete -/
  | more (s : Session)
  /-- the reply to the complete text -/
  | replied (r : Reply)
  /-- the line cannot be read -/
  | failed (f : Failure)

namespace Session

/-- Takes one line with its line end, where `read` is how lines are read. -/
def feedBy {m : Type → Type} [Monad m] (read : List Char → List UInt8 → Except Failure Entry)
    (files : Files m) (rules : RuleSet) (s : Session) (line : List UInt8) : m Fed :=
  match read s.kept line with
  | .error f => return .failed f
  | .ok entry =>
    match validate entry.text with
    | .incomplete => return .more ⟨entry.text.toList ++ entry.lineEnd⟩
    | .valid => do return .replied (← reply files rules entry.text)

/-- **Takes one line** with its line end. -/
def feed {m : Type → Type} [Monad m] (files : Files m) (rules : RuleSet) (s : Session)
    (line : List UInt8) : m Fed :=
  s.feedBy readLine files rules line

/-- What a session comes to: all output, all complaints, and the failure that ended it, if any. -/
structure Record where
  output : Styled := []
  complaints : Styled := []
  failure? : Option Failure := none

/-- The record of a session that goes on behind a reply. -/
def Record.after (r : Reply) (prompt : Styled) (rest : Record) : Record :=
  ⟨r.output ++ prompt ++ rest.output, r.complaint ++ rest.complaints, rest.failure?⟩

/-- What the shell says when there are no more lines. -/
def farewell : Styled := [⟨"^D", [.dimmed]⟩, ⟨"\n", []⟩]

/-- **A whole session** from behind its first prompt. A text that is not complete when the lines
end is lost. -/
def run {m : Type → Type} [Monad m] (files : Files m) (rules : RuleSet) (prompt : Styled) :
    Session → List (List UInt8) → m Record
  | _, [] => return { output := farewell }
  | s, line :: lines => do
    match ← s.feed files rules line with
    | .more s => run files rules prompt s lines
    | .failed f => return { failure? := some f }
    | .replied r =>
      if r.ends then return { output := r.output, complaints := r.complaint }
      else return Record.after r prompt (← run files rules prompt {} lines)

end Session

/-- The lines of a byte sequence with their line ends. -/
def linesOf : List UInt8 → List (List UInt8)
  | [] => []
  | b :: bs =>
    if b = lineFeed then [b] :: linesOf bs
    else
      match linesOf bs with
      | l :: ls => (b :: l) :: ls
      | [] => [[b]]

end PageScan.Shell
