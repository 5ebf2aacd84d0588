import PageScan.Text.Blank

/-!
# Commands of the shell

A shell line is a command when, blanks around it aside, it begins with a dot and a word behind the
dot names a command. Names are taken without regard to ASCII case, and each command has more than
one. What follows the word, blanks around it aside, is the argument; a line whose word names no
command is no command at all and is read as a script.
-/

namespace PageScan.Shell

open Text

/-- What the shell can be told to do. -/
inductive Command where
  | help
  | exit
  | clear
  | version
  | load
  | rules
  deriving DecidableEq, Repr

namespace Command

/-- Every command. -/
def all : List Command := [help, exit, clear, version, load, rules]

/-- The words that name a command. -/
def aliases : Command → List String
  | help => ["help", "h", "?"]
  | exit => ["exit", "quit", "q"]
  | clear => ["clear", "cls"]
  | version => ["version", "v"]
  | load => ["load", "l"]
  | rules => ["rules", "r"]

/-- How a command is written, for the reader. -/
def usage : Command → String
  | help => ".help"
  | exit => ".exit"
  | clear => ".clear"
  | version => ".version"
  | load => ".load <file>"
  | rules => ".rules"

/-- What a command does, for the reader. -/
def summary : Command → String
  | help => "Show this help message"
  | exit => "Exit the REPL"
  | clear => "Clear the screen"
  | version => "Show version information"
  | load => "Tokenize a JavaScript file"
  | rules => "List custom attribute rules"

/-- The command that a word names. -/
def ofWord? (word : List Char) : Option Command :=
  all.find? fun c => c.aliases.any fun name => name.toList == word.map Char.toLower

/-- The argument behind the word of a command. -/
def argument? (behind : Option (List Char)) : Option String :=
  ((behind.map trim).filter (!·.isEmpty)).map String.ofList

/-- **Reading a command** and its argument off a line. -/
def parse (line : String) : Option (Command × Option String) :=
  match trim line.toList with
  | '.' :: rest => (ofWord? (firstWord rest).1).map (·, argument? (firstWord rest).2)
  | _ => none

end Command

end PageScan.Shell
